import KernelJob.Proofs.Settings.Sources
import KernelJob.Proofs.Text.Case

/-! # Variables of single settings

A variable whose name is made of the prefix of the program, a section and the key of a leaf sets
that leaf: of all variables, only this one is put at the key, and no other key is taken for it. The
names are compared in lower case, and a name that is cut at double underscores is put together
again from its keys, so two variables are put at the same key only if they are the same.

* **`Environment.join_keysOf`** — a name is put together from its keys.
* **`Environment.get?_nested`** — what the nested variables of a field say of a key.
* **`Leaf.inVariables?_of_nested`** — the variable of a leaf sets the leaf. -/

namespace KernelJob

namespace Environment

/-! ## Names and their keys -/

/-- A name has keys. -/
theorem keysOf_ne_nil (t : Text) : keysOf t ≠ [] := by
  fun_induction keysOf t <;> simp

/-- **A name is put together from its keys.** -/
theorem join_keysOf (t : Text) : Text.join separator (keysOf t) = t := by
  fun_induction keysOf t with
  | case1 | case2 => rfl
  | case3 c d cs h ih =>
    -- the underscores stand between the empty key and the others
    obtain ⟨key, keys, hkeys⟩ := List.exists_cons_of_ne_nil (keysOf_ne_nil cs)
    have hc : CodePoint.ofNat 95 = c := CodePoint.ext h.1.symm
    have hd : CodePoint.ofNat 95 = d := CodePoint.ext h.2.symm
    rw [hkeys] at ih ⊢
    rw [Text.join_cons_cons, ih, ← hc, ← hd]
    rfl
  | case4 c d cs _ hnil _ => exact absurd hnil (keysOf_ne_nil (d :: cs))
  | case5 c d cs _ key keys hkeys ih =>
    rw [hkeys] at ih
    rw [← ih]
    cases keys <;> rfl

/-- What is in a key is in the name. -/
theorem mem_of_mem_keysOf {t key : Text} (h : key ∈ keysOf t) : ∀ c ∈ key, c ∈ t := by
  fun_induction keysOf t generalizing key with
  | case1 =>
    rw [List.mem_singleton.mp h]
    exact fun c hc => hc
  | case2 c =>
    rw [List.mem_singleton.mp h]
    exact fun c hc => hc
  | case3 c d cs _ ih =>
    rcases List.mem_cons.mp h with rfl | h
    · exact nofun
    · exact fun e he => List.mem_cons_of_mem c (List.mem_cons_of_mem d (ih h e he))
  | case4 c d cs _ hnil _ => exact absurd hnil (keysOf_ne_nil (d :: cs))
  | case5 c d cs _ key' keys hkeys ih =>
    rw [hkeys] at ih
    rcases List.mem_cons.mp h with rfl | h
    · intro e he
      rcases List.mem_cons.mp he with rfl | he
      · exact List.mem_cons_self
      · exact List.mem_cons_of_mem c (ih List.mem_cons_self e he)
    · exact fun e he => List.mem_cons_of_mem c (ih (List.mem_cons_of_mem key' h) e he)

/-! ## Putting texts at keys -/

variable {fields : Fields} {key value : Text}

/-- A key that holds a text is changed only by what is put at the key itself. -/
theorem get?_place_of_ne {t : Text} {keys : List Text} (hkeys : keys ≠ [key])
    (h : fields.get? key = some (.text t)) :
    (place value keys fields).get? key = some (.text t) := by
  match keys, hkeys with
  | [], _ => exact h
  | [k], hk =>
    have hne : k ≠ key := fun heq => hk (by rw [heq])
    rw [place, Fields.get?_set, if_neg hne, h]
  | k :: k' :: ks, _ =>
    rw [place.eq_def]
    dsimp only
    by_cases hk : k = key
    · rw [hk, h]
      exact h
    · cases hget : fields.get? k with
      | none =>
        dsimp only
        rw [Fields.get?_set, if_neg hk, h]
      | some v =>
        cases v <;> dsimp only <;> first | exact h | rw [Fields.get?_set, if_neg hk, h]

/-- Putting a text at a path leaves the fields as they are or sets the first key of the path. -/
theorem place_cases (value : Text) (keys : List Text) (fields : Fields) :
    place value keys fields = fields ∨
      ∃ k ∈ keys, ∃ v, place value keys fields = fields.set k v := by
  match keys with
  | [] => exact Or.inl rfl
  | [k] => exact Or.inr ⟨k, List.mem_cons_self, _, rfl⟩
  | k :: k' :: ks =>
    rw [place.eq_def]
    dsimp only
    split
    · exact Or.inr ⟨k, List.mem_cons_self, _, rfl⟩
    · exact Or.inr ⟨k, List.mem_cons_self, _, rfl⟩
    · exact Or.inl rfl

/-- Only the first key of a path is added. -/
theorem key_of_mem_place {keys : List Text} {f : Text × Json} (h : f ∈ place value keys fields) :
    f.1 ∈ keys ∨ f.1 ∈ fields.map Prod.fst := by
  rcases place_cases value keys fields with hplace | ⟨k, hk, v, hplace⟩
  · rw [hplace] at h
    exact Or.inr (List.mem_map_of_mem h)
  · rw [hplace] at h
    rcases Fields.mem_set h with rfl | h
    · exact Or.inl hk
    · exact Or.inr (List.mem_map_of_mem h)

/-- No key is put twice. -/
theorem nodup_place (h : (fields.map Prod.fst).Nodup) (value : Text) (keys : List Text) :
    ((place value keys fields).map Prod.fst).Nodup := by
  rcases place_cases value keys fields with hplace | ⟨k, -, v, hplace⟩
  · rw [hplace]
    exact h
  · rw [hplace]
    exact Fields.nodup_set h k v

/-! ## The variables of a field -/

/-- One variable is put among the nested variables of a field, if its name begins as theirs do. -/
def nest (start : Text) (fields : Fields) (v : Text × Text) : Fields :=
  if start.isPrefixOf v.1 then place v.2 (keysOf (v.1.drop start.length)) fields else fields

/-- The nested variables of a field are put one after the other. -/
theorem nested_eq (env : Environment) (field : Text) :
    env.nested field = env.foldl (nest (nameStart ++ field ++ separator)) [] := rfl

variable {start : Text}

/-- A variable of another name leaves a text at its key. -/
theorem get?_nest_of_ne (hkey : keysOf key = [key]) {v : Text × Text} (hv : v.1 ≠ start ++ key)
    {t : Text} (h : fields.get? key = some (.text t)) :
    (nest start fields v).get? key = some (.text t) := by
  rw [nest]
  split
  · rename_i hstart
    obtain ⟨r, hr⟩ := List.isPrefixOf_iff_prefix.mp hstart
    refine get?_place_of_ne (fun hkeys => hv ?_) h
    rw [← hr, List.drop_left, ← hkey] at hkeys
    rw [← hr, ← join_keysOf r, hkeys, join_keysOf]
  · exact h

/-- So do several of them. -/
theorem get?_foldl_nest_of_ne (hkey : keysOf key = [key]) {env : Environment}
    (henv : ∀ v ∈ env, v.1 ≠ start ++ key) {t : Text} (h : fields.get? key = some (.text t)) :
    (env.foldl (nest start) fields).get? key = some (.text t) := by
  induction env generalizing fields with
  | nil => exact h
  | cons v env ih =>
    rw [List.forall_mem_cons] at henv
    exact ih henv.2 (get?_nest_of_ne hkey henv.1 h)

/-- **The variable that is named for a key is put there**, if no other one has its name. -/
theorem get?_foldl_nest (hkey : keysOf key = [key]) {env : Environment} {t : Text}
    (hnames : (env.map Prod.fst).Nodup) (h : (start ++ key, t) ∈ env) (fields : Fields) :
    (env.foldl (nest start) fields).get? key = some (.text t) := by
  induction env generalizing fields with
  | nil => exact nomatch h
  | cons v env ih =>
    rw [List.map_cons, List.nodup_cons] at hnames
    rw [List.foldl_cons]
    rcases List.mem_cons.mp h with rfl | h
    · -- none of the variables after this one has its name
      have hothers : ∀ w ∈ env, w.1 ≠ start ++ key := by
        intro w hw heq
        exact hnames.1 (List.mem_map.mpr ⟨w, hw, heq⟩)
      have hstart : start.isPrefixOf (start ++ key) = true :=
        List.isPrefixOf_iff_prefix.mpr (List.prefix_append start key)
      refine get?_foldl_nest_of_ne hkey hothers ?_
      rw [nest, if_pos hstart, List.drop_left, hkey, place, Fields.get?_set, if_pos rfl]
    · exact ih hnames.2 h _

/-- No key is put twice among the nested variables. -/
theorem nodup_nested (env : Environment) (field : Text) :
    ((env.nested field).map Prod.fst).Nodup := by
  have hfold (fields : Fields) (h : (fields.map Prod.fst).Nodup) :
      ((env.foldl (nest (nameStart ++ field ++ separator)) fields).map Prod.fst).Nodup := by
    induction env generalizing fields with
    | nil => exact h
    | cons v env ih =>
      refine ih _ ?_
      rw [nest]
      split
      · exact nodup_place h _ _
      · exact h
  exact hfold [] List.nodup_nil

/-- What is in a key of the nested variables is in the name of one. -/
theorem exists_of_mem_nested {env : Environment} {field : Text} {f : Text × Json}
    (h : f ∈ env.nested field) : ∃ v ∈ env, ∀ c ∈ f.1, c ∈ v.1 := by
  have hfold (fields : Fields)
      (hf : f ∈ env.foldl (nest (nameStart ++ field ++ separator)) fields) :
      f.1 ∈ fields.map Prod.fst ∨ ∃ v ∈ env, ∀ c ∈ f.1, c ∈ v.1 := by
    clear h
    induction env generalizing fields with
    | nil => exact Or.inl (List.mem_map_of_mem hf)
    | cons v env ih =>
      rcases ih _ hf with hkey | ⟨w, hw, hin⟩
      · obtain ⟨g, hg, hgf⟩ := List.mem_map.mp hkey
        rw [nest] at hg
        split at hg
        · rcases key_of_mem_place hg with hkeys | hkeys
          · refine Or.inr ⟨v, List.mem_cons_self, fun c hc => ?_⟩
            exact List.mem_of_mem_drop (mem_of_mem_keysOf hkeys c (hgf ▸ hc))
          · exact Or.inl (hgf ▸ hkeys)
        · exact Or.inl (List.mem_map.mpr ⟨g, hg, hgf⟩)
      · exact Or.inr ⟨w, List.mem_cons_of_mem v hw, hin⟩
  exact (hfold [] h).resolve_left nofun

/-! ## Variables in lower case -/

/-- The names after one was set. -/
theorem mem_set {env : Environment} {name value : Text} {v : Text × Text}
    (h : v ∈ env.set name value) : v = (name, value) ∨ v ∈ env := by
  induction env with
  | nil => exact Or.inl (List.mem_singleton.mp h)
  | cons w env ih =>
    rw [set] at h
    split at h
    · rename_i hw
      rcases List.mem_cons.mp h with rfl | h
      · exact Or.inl (by rw [hw])
      · exact Or.inr (List.mem_cons_of_mem w h)
    · rcases List.mem_cons.mp h with rfl | h
      · exact Or.inr List.mem_cons_self
      · exact (ih h).imp_right (List.mem_cons_of_mem w)

/-- No name is set twice. -/
theorem nodup_set {env : Environment} (h : (env.map Prod.fst).Nodup) (name value : Text) :
    ((env.set name value).map Prod.fst).Nodup := by
  induction env with
  | nil => exact List.nodup_singleton name
  | cons v env ih =>
    rw [List.map_cons, List.nodup_cons] at h
    rw [set]
    split
    · rw [List.map_cons, List.nodup_cons]
      exact h
    · rename_i hv
      rw [List.map_cons, List.nodup_cons]
      refine ⟨fun hmem => ?_, ih h.2⟩
      obtain ⟨w, hw, heq⟩ := List.mem_map.mp hmem
      rcases mem_set hw with rfl | hw
      · exact hv heq.symm
      · exact h.1 (List.mem_map.mpr ⟨w, hw, heq⟩)

/-- The variables in lower case have distinct names, and these are in lower case. -/
theorem lowered_names (env : Environment) :
    (env.lowered.map Prod.fst).Nodup ∧ ∀ v ∈ env.lowered, ∀ c ∈ v.1, c.IsLower := by
  have hfold (before : Environment) (hnodup : (before.map Prod.fst).Nodup)
      (hlower : ∀ v ∈ before, ∀ c ∈ v.1, c.IsLower) :
      ((env.foldl (fun e v => e.set v.1.lower v.2) before).map Prod.fst).Nodup ∧
        ∀ v ∈ env.foldl (fun e v => e.set v.1.lower v.2) before, ∀ c ∈ v.1, c.IsLower := by
    induction env generalizing before with
    | nil => exact ⟨hnodup, hlower⟩
    | cons v env ih =>
      refine ih _ (nodup_set hnodup _ _) fun w hw c hc => ?_
      rcases mem_set hw with rfl | hw
      · obtain ⟨d, -, hd⟩ := List.mem_flatMap.mp hc
        exact CodePoint.isLower_of_mem_lower hd
      · exact hlower w hw c hc
  exact hfold [] List.nodup_nil nofun

/-- The variable of a name is among them. -/
theorem mem_of_get? {env : Environment} {name t : Text} (h : env.get? name = some t) :
    (name, t) ∈ env := by
  induction env with
  | nil => exact nomatch h
  | cons v env ih =>
    rw [get?, List.lookup_cons] at h
    split at h
    · rename_i hname
      rw [beq_iff_eq.mp hname, ← Option.some.inj h]
      exact List.mem_cons_self
    · exact List.mem_cons_of_mem v (ih h)

/-- **What the nested variables say of a key**: the text of the variable that is named for it. -/
theorem get?_nested {env : Environment} {field t : Text} (hkey : keysOf key = [key])
    (h : lastNamed? (nameStart ++ field ++ separator ++ key) env = some t) :
    (env.lowered.nested field).get? key = some (.text t) := by
  rw [← get?_lowered] at h
  rw [nested_eq]
  exact get?_foldl_nest hkey env.lowered_names.1 (mem_of_get? h) []

end Environment

/-! ## Leaves -/

/-- Where keys are names in lower case, a name is read as it is. -/
theorem lastNamed?_eq_get? {fields : Fields} (hnodup : (fields.map Prod.fst).Nodup) {name : Text}
    (hname : name.lower = name) (hkeys : ∀ f ∈ fields, f.1.lower = name → f.1 = name) :
    lastNamed? name fields = fields.get? name := by
  induction fields with
  | nil => rfl
  | cons f fs ih =>
    rw [List.map_cons, List.nodup_cons] at hnodup
    rw [List.forall_mem_cons] at hkeys
    have hsplit : lastNamed? name (f :: fs) =
        (lastNamed? name fs).or (if f.1.lower = name then some f.2 else none) := by
      rw [lastNamed?, lastNamed?, firstNamed?, firstNamed?, List.reverse_cons,
        List.find?_append, Option.map_or]
      by_cases h : f.1.lower = name <;> simp [h]
    rw [hsplit, ih hnodup.2 hkeys.2, Fields.get?_cons]
    by_cases h : f.1 = name
    · -- no other field has this key
      have hrest : Fields.get? name fs = none := Fields.get?_of_notMem (h ▸ hnodup.1)
      rw [hrest, if_pos (by rw [h, hname]), if_pos h, Option.none_or]
    · rw [if_neg fun hlower => h (hkeys.1 hlower), if_neg h, Option.or_none]

/-- The variables set a leaf of a section within what they say of the section. -/
theorem Leaf.inVariables?_eq {l : Leaf} {section_ : Text} (hl : l.section? = some section_)
    (env : Environment) :
    l.inVariables? env =
      (env.given? section_).bind fun v => v.fields?.bind (lastNamed? l.name) := by
  cases l with
  | servers | defaultKernel => exact nomatch hl
  | workspace | artifactDirectory | reportFile | logLevel | console =>
    obtain rfl := Option.some.inj hl
    rfl

/-- **The variable of a leaf sets the leaf**, in any letter case of its name, if there is no
variable for the section as a whole. -/
theorem Leaf.inVariables?_of_nested {l : Leaf} {section_ t : Text} {env : Environment}
    (hl : l.section? = some section_)
    (hwhole : lastNamed? (Environment.nameStart ++ section_) env = none)
    (hvar : lastNamed? (Environment.nameStart ++ section_ ++ Environment.separator ++ l.name)
      env = some t) :
    l.inVariables? env = some (.text t) := by
  have hkey : Environment.keysOf l.name = [l.name] := by cases l <;> rfl
  have hname : l.name.lower = l.name ∧ ∀ c ∈ l.name, c.val < 128 := by cases l <;> decide
  have hnested := Environment.get?_nested hkey hvar
  have hne : env.lowered.nested section_ ≠ [] := by
    intro hnil
    rw [hnil, Fields.get?_nil] at hnested
    cases hnested
  have hgiven : env.given? section_ = some (.object (env.lowered.nested section_)) := by
    obtain ⟨f, fs, hfields⟩ := List.exists_cons_of_ne_nil hne
    rw [Environment.given?, Environment.compound?, Environment.get?_lowered, hwhole]
    dsimp only
    rw [hfields]
  have hkeys : ∀ f ∈ env.lowered.nested section_, f.1.lower = l.name → f.1 = l.name := by
    intro f hf
    obtain ⟨v, hv, hin⟩ := Environment.exists_of_mem_nested hf
    exact Text.eq_of_lower_eq (fun c hc => env.lowered_names.2 v hv c (hin c hc)) hname.2
  have hread := lastNamed?_eq_get? (env.lowered.nodup_nested section_) hname.1 hkeys
  rw [Leaf.inVariables?_eq hl env, hgiven]
  exact hread.trans hnested

end KernelJob
