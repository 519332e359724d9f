import KernelJob.FileTree

/-! # Names in a path

A name without a slash that is neither empty nor one of the two names made of dots stands for itself
in a path. A path extended by such a name leads one step further.

* **`Path.IsPlain`** — a name that stands for itself.
* **`Path.child_of_isPlain`** — the names of a path that was extended by one.
* **`Path.IsLastName`** — the last name of a text, after which come only slashes and single dots.
* **`Path.getLast?_names_ofText`** — it is the last name of the path that the text names. -/

namespace KernelJob

/-- A text that does not hold the separator is one piece. -/
theorem Text.splitOn_of_notMem {sep : CodePoint} {t : Text} (h : sep ∉ t) :
    Text.splitOn sep t = [t] := by
  induction t with
  | nil => rfl
  | cons c t ih =>
    have hc : c ≠ sep := fun hc => h (hc ▸ List.mem_cons_self)
    have ht : sep ∉ t := fun ht => h (List.mem_cons_of_mem c ht)
    rw [Text.splitOn, if_neg hc, ih ht]

/-- A text with a separator in it has the pieces before it and those after it. -/
theorem Text.splitOn_append_cons (sep : CodePoint) (t u : Text) :
    Text.splitOn sep (t ++ sep :: u) = Text.splitOn sep t ++ Text.splitOn sep u := by
  induction t with
  | nil =>
    rw [List.nil_append, splitOn.eq_2, if_pos rfl]
    rfl
  | cons c t ih =>
    rw [List.cons_append, splitOn, splitOn, ih]
    split
    · rfl
    · obtain ⟨piece, pieces, ht⟩ := List.exists_cons_of_ne_nil (splitOn_ne_nil sep t)
      rw [ht]
      rfl

namespace Path

/-- **A plain name** stands for itself in a path. -/
structure IsPlain (name : Text) : Prop where
  ne_nil : name ≠ []
  ne_dot : name ≠ "."
  ne_up : name ≠ up
  notMem : slash ∉ name

variable {name : Text}

/-- A plain name is a relative path of one name. -/
theorem ofText_of_isPlain (h : IsPlain name) : ofText name = ⟨.relative, [name]⟩ := by
  have hroot : rootOf name = .relative := by
    cases name with
    | nil => rfl
    | cons c cs =>
      have hc : c ≠ slash := fun hc => h.notMem (hc ▸ List.mem_cons_self)
      rw [rootOf.eq_def]
      exact if_neg hc
  have hname : isName name = true := by
    simp [isName, h.ne_nil, h.ne_dot]
  rw [ofText, hroot, Text.splitOn_of_notMem h.notMem, List.filter_cons_of_pos hname,
    List.filter_nil]

/-- **A path that was extended by a plain name** has one name more. -/
theorem child_of_isPlain (h : IsPlain name) (p : Path) :
    p.child name = ⟨p.root, p.names ++ [name]⟩ := by
  rw [child, ofText_of_isPlain h]
  rfl

/-- Its last name is the plain name. -/
theorem name_child (h : IsPlain name) (p : Path) : (p.child name).name = name := by
  rw [child_of_isPlain h, Path.name]
  simp

/-- Without it, it is the path that was extended. -/
theorem parent_child (h : IsPlain name) (p : Path) : (p.child name).parent = p := by
  rw [child_of_isPlain h, parent]
  simp

/-- Different plain names extend a path to different paths. -/
theorem child_inj {a b : Text} (ha : IsPlain a) (hb : IsPlain b) {p : Path}
    (h : p.child a = p.child b) : a = b := by
  rw [← name_child ha p, h, name_child hb p]

/-! ## The last name -/

/-- **What may follow the last name of a path**: slashes, and single dots between them. -/
inductive Trailing : Text → Prop
  /-- Nothing more follows. -/
  | nil : Trailing []
  /-- A slash. -/
  | slash {t : Text} (rest : Trailing t) : Trailing (slash :: t)
  /-- A slash and a single dot, up to the next slash or the end. -/
  | dot {t : Text} (rest : Trailing t) : Trailing (Path.slash :: '.' :: t)

theorem Trailing.append {t u : Text} (ht : Trailing t) (hu : Trailing u) : Trailing (t ++ u) := by
  induction ht with
  | nil => exact hu
  | slash _ ih => exact .slash ih
  | dot _ ih => exact .dot ih

/-- **The last name of a text** that stands for a path: a name between slashes, or at the start,
after which no other name comes. -/
structure IsLastName (t name : Text) : Prop where
  ne_nil : name ≠ []
  ne_dot : name ≠ "."
  notMem : slash ∉ name
  spells : ∃ before after, t = before ++ name ++ after ∧
    (before = [] ∨ ∃ start, before = start ++ [slash]) ∧ Trailing after

/-- The names on both sides of a slash are those of the whole. -/
theorem names_ofText_append_slash (t u : Text) :
    (ofText (t ++ slash :: u)).names = (ofText t).names ++ (ofText u).names := by
  simp only [ofText, Text.splitOn_append_cons, List.filter_append]

/-- A text without a slash has itself as its only name, if it is one. -/
theorem names_ofText_of_notMem {t : Text} (h : slash ∉ t) :
    (ofText t).names = [t].filter isName := by
  rw [ofText, Text.splitOn_of_notMem h]

/-- What follows the last name adds no name. -/
theorem names_ofText_append_trailing (t : Text) {after : Text} (h : Trailing after) :
    (ofText (t ++ after)).names = (ofText t).names := by
  induction h generalizing t with
  | nil => rw [List.append_nil]
  | @slash u _ ih =>
    have hu : (ofText u).names = [] := ih []
    rw [names_ofText_append_slash, hu, List.append_nil]
  | @dot u _ ih =>
    have hu : (ofText ('.' :: u)).names = [] := ih ("." : Text)
    rw [names_ofText_append_slash, hu, List.append_nil]

/-- A text with a separator has a last one. -/
theorem exists_eq_append_cons_notMem {sep : CodePoint} {t : Text} (h : sep ∈ t) :
    ∃ u v, t = u ++ sep :: v ∧ sep ∉ v := by
  obtain ⟨v, u, hreverse, hv⟩ := List.eq_append_cons_of_mem (List.mem_reverse.mpr h)
  refine ⟨u.reverse, v.reverse, ?_, fun hmem => hv (List.mem_reverse.mp hmem)⟩
  rw [← List.reverse_reverse t, hreverse]
  simp

/-- A path that is named by a text with a last name ends with it. -/
theorem IsLastName.getLast? {t : Text} (h : IsLastName t name) :
    (ofText t).names.getLast? = some name := by
  obtain ⟨before, after, rfl, hbefore, hafter⟩ := h.spells
  have hname : (ofText name).names = [name] := by
    rw [names_ofText_of_notMem h.notMem]
    exact List.filter_cons_of_pos (by simp [isName, h.ne_nil, h.ne_dot])
  rw [names_ofText_append_trailing _ hafter]
  rcases hbefore with rfl | ⟨start, rfl⟩
  · rw [List.nil_append, hname, List.getLast?_singleton]
  · rw [List.append_assoc, List.singleton_append, names_ofText_append_slash, hname,
      List.getLast?_concat]

/-- More of what may follow a last name may follow it. -/
theorem IsLastName.append {t u : Text} (h : IsLastName t name) (hu : Trailing u) :
    IsLastName (t ++ u) name := by
  obtain ⟨before, after, rfl, hbefore, hafter⟩ := h.spells
  exact ⟨h.ne_nil, h.ne_dot, h.notMem, before, after ++ u, by simp, hbefore, hafter.append hu⟩

/-- A text without a slash has itself as its last name, if its path ends with a name. -/
theorem isLastName_of_notMem {t : Text} (ht : slash ∉ t)
    (h : (ofText t).names.getLast? = some name) : t = name ∧ IsLastName t name := by
  rw [names_ofText_of_notMem ht] at h
  by_cases hname : isName t = true
  · rw [List.filter_cons_of_pos hname, List.filter_nil, List.getLast?_singleton,
      Option.some.injEq] at h
    subst h
    rw [isName, Bool.and_eq_true, bne_iff_ne, bne_iff_ne] at hname
    exact ⟨rfl, hname.1, hname.2, ht, [], [], by simp, .inl rfl, .nil⟩
  · rw [List.filter_cons_of_neg hname] at h
    cases h

/-- A text without a slash that is no name is empty or a single dot. -/
theorem trailing_of_names_eq_nil {t : Text} (ht : slash ∉ t) (h : (ofText t).names = []) :
    Trailing (slash :: t) := by
  rw [names_ofText_of_notMem ht, List.filter_eq_nil_iff] at h
  have hname := h t (List.mem_singleton_self t)
  by_cases hnil : t = []
  · exact hnil ▸ .slash .nil
  · have hdot : t = ("." : Text) := by simpa [isName, hnil] using hname
    exact hdot ▸ .dot .nil

/-- A text whose path ends with a name has it as its last name. -/
theorem isLastName_of_getLast? {t : Text} (h : (ofText t).names.getLast? = some name) :
    IsLastName t name := by
  -- the text is taken apart at its last slash, as long as no name comes after that
  induction hn : t.length using Nat.strongRecOn generalizing t with
  | ind n ih =>
  by_cases hslash : slash ∈ t
  · obtain ⟨u, v, rfl, hv⟩ := exists_eq_append_cons_notMem hslash
    rw [names_ofText_append_slash, List.getLast?_append] at h
    cases hnames : (ofText v).names.getLast? with
    | some last =>
      rw [hnames, Option.some_or] at h
      obtain ⟨rfl, hname⟩ := isLastName_of_notMem hv (hnames.trans h)
      exact ⟨hname.ne_nil, hname.ne_dot, hname.notMem, u ++ [slash], [], by simp, .inr ⟨u, rfl⟩,
        .nil⟩
    | none =>
      rw [hnames, Option.none_or] at h
      have hu : IsLastName u name := ih u.length (by rw [← hn]; simp) h rfl
      exact hu.append (trailing_of_names_eq_nil hv (List.getLast?_eq_none_iff.mp hnames))
  · exact (isLastName_of_notMem hslash h).2

/-- **The last name of a path** that a text names is the last name of the text. -/
theorem getLast?_names_ofText {t : Text} :
    (ofText t).names.getLast? = some name ↔ IsLastName t name :=
  ⟨isLastName_of_getLast?, IsLastName.getLast?⟩

/-- **Seen from a directory, a path keeps its last name**, unless it is empty. -/
theorem name_under {p : Path} (hp : p ≠ ⟨.relative, []⟩) (dir : Path) :
    (p.under dir).name = p.name := by
  obtain ⟨root, names⟩ := p
  rw [under]
  split
  · rfl
  · rename_i habsolute
    -- a relative path that is not empty has a name of its own
    have hroot : root = .relative := by simpa [isAbsolute] using habsolute
    have hnames : names ≠ [] := fun hnil => hp (by rw [hroot, hnil])
    have hlast : names.getLast? = some (names.getLast hnames) := List.getLast?_eq_some_getLast hnames
    rw [name, name, List.getLast?_append, hlast, Option.some_or]

/-- The last name of a path that a text names, if there is one. -/
theorem name_ofText_eq_iff {t : Text} (hname : name ≠ []) :
    (ofText t).name = name ↔ IsLastName t name := by
  rw [← getLast?_names_ofText, Path.name]
  cases (ofText t).names.getLast? with
  | none => simp [hname.symm]
  | some last => simp

end Path

end KernelJob
