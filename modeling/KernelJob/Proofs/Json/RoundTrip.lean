import KernelJob.Json.Printer
import KernelJob.Proofs.Json.Fields
import KernelJob.Proofs.Json.Reader
import KernelJob.Proofs.Numeral

/-! # Reading what was written

The indented text of a value is read back as that value. Left out are floats, dates and times, and
whole numbers of more digits than are read; and an object has no key twice, since of two fields with
one key only the last is read.

What may follow a value in the text of a larger one is a comma or a new line. The fuel that the
reader needs for a value is at most the length of its text, which grows with each level by the
brackets and the new lines around the values inside.

* **`Plain`** — the values that are read back.
* **`Ends`** — a text that may follow a value.
* **`ReadsBack`** — a value is read back wherever its text stands.
* **`Plain.readsBack`** — every plain value is.
* **`read_indented`** — a document of a plain value is read as the value. -/

namespace KernelJob

namespace Json

/-! ## Values that are read back -/

/-- A value that is read back: its whole numbers have no more digits than are read, its objects
have no key twice, and there is no float, no date and no time in it. -/
inductive Plain : Json → Prop
  | null : Plain .null
  | bool (b : Bool) : Plain (.bool b)
  | int {n : Int} (h : n.natAbs < 10 ^ digitLimit) : Plain (.int n)
  | text (t : Text) : Plain (.text t)
  | list {items : List Json} (h : ∀ v ∈ items, Plain v) : Plain (.list items)
  | object {fields : Fields} (hkeys : (fields.map Prod.fst).Nodup)
      (h : ∀ f ∈ fields, Plain f.2) : Plain (.object fields)

/-- A text that may follow a value: it is empty or begins with a comma or a new line. -/
def Ends (rest : Text) : Prop := ∀ c ∈ rest.head?, c.val = 44 ∨ c.val = 10

/-- What may follow a value is no digit. -/
theorem Ends.isDigit_eq_false {rest : Text} (h : Ends rest) :
    ∀ c ∈ rest.head?, c.isDigit = false := by
  intro c hc
  simp only [CodePoint.isDigit, Bool.and_eq_false_iff, decide_eq_false_iff_not]
  have := h c hc
  omega

/-- A value is read back wherever its text stands, with a unit of fuel for each of its code
points. -/
def ReadsBack (v : Json) : Prop :=
  ∀ (level fuel : Nat) (rest : Text), (indented level v).length ≤ fuel + 1 → Ends rest →
    value (fuel + 1) (indented level v ++ rest) = .ok (v, rest)

/-! ## Strings -/

/-- An escape of one letter stands for its code point. -/
theorem stringBody_simpleEscape (start : Text) {b e p : CodePoint} (rest : Text) (hb : b.val = 92)
    (he : e.val ≠ 117) (hp : simpleEscape? e = some p) :
    stringBody start (b :: e :: rest) = prepend p (stringBody start rest) := by
  rw [stringBody.eq_def]
  dsimp only
  rw [if_neg (by omega), if_pos hb, if_neg he, hp]

/-- An escape by number stands for its code point, if that is not the first half of a pair. -/
theorem stringBody_unicodeEscape (start : Text) {b u h₁ h₂ h₃ h₄ : CodePoint} {n : Nat}
    {rest : Text} (hb : b.val = 92) (hu : u.val = 117) (hn : hex4? h₁ h₂ h₃ h₄ = some n)
    (hhigh : isHighSurrogate n = false) (hrest : rest ≠ []) :
    stringBody start (b :: u :: h₁ :: h₂ :: h₃ :: h₄ :: rest) =
      prepend (CodePoint.ofNat n) (stringBody start rest) := by
  rw [stringBody.eq_def]
  dsimp only
  rw [if_neg (by omega), if_pos hb, if_pos hu, hn]
  dsimp only
  rw [if_neg (by simpa using hrest), hhigh]
  rfl

/-- Any other code point stands for itself. -/
theorem stringBody_self (start : Text) {c : CodePoint} (rest : Text) (hquote : c.val ≠ 34)
    (hbackslash : c.val ≠ 92) (hcontrol : ¬ c.val < 32) :
    stringBody start (c :: rest) = prepend c (stringBody start rest) := by
  rw [stringBody.eq_def]
  dsimp only
  rw [if_neg hquote, if_neg hbackslash, if_neg hcontrol]

/-- The code points that are escaped by one letter, and their letters. -/
def shortEscapes : List (Nat × Char) :=
  [(34, '"'), (92, '\\'), (8, 'b'), (9, 't'), (10, 'n'), (12, 'f'), (13, 'r')]

/-- **Each way in which a code point stands in a string is read as that code point.** -/
theorem stringBody_escapedPoint (start : Text) (c : CodePoint) {rest : Text} (hrest : rest ≠ []) :
    stringBody start (escapedPoint c ++ rest) = prepend c (stringBody start rest) := by
  have hshort : ∀ e ∈ shortEscapes, c.val = e.1 →
      stringBody start (CodePoint.ofChar '\\' :: CodePoint.ofChar e.2 :: rest) =
        prepend c (stringBody start rest) := by
    have hletters : ∀ e ∈ shortEscapes, (CodePoint.ofChar e.2).val ≠ 117 ∧
        simpleEscape? (CodePoint.ofChar e.2) = some (CodePoint.ofNat e.1) ∧ e.1 < 0x110000 := by
      decide
    intro e he hc
    obtain ⟨hletter, hsimple, hlt⟩ := hletters e he
    obtain rfl : CodePoint.ofNat e.1 = c := CodePoint.ext (by rw [CodePoint.val_ofNat hlt, hc])
    exact stringBody_simpleEscape start rest rfl hletter hsimple
  unfold escapedPoint
  split
  · exact hshort (34, '"') (by decide) ‹_›
  split
  · exact hshort (92, '\\') (by decide) ‹_›
  split
  · exact hshort (8, 'b') (by decide) ‹_›
  split
  · exact hshort (9, 't') (by decide) ‹_›
  split
  · exact hshort (10, 'n') (by decide) ‹_›
  split
  · exact hshort (12, 'f') (by decide) ‹_›
  split
  · exact hshort (13, 'r') (by decide) ‹_›
  split
  · -- the other control characters stand by their numbers
    rename_i hcontrol
    have hhex : ∀ n < 32, hex4? (Text.hexDigit (n / 16 / 16 / 16)) (Text.hexDigit (n / 16 / 16))
        (Text.hexDigit (n / 16)) (Text.hexDigit n) = some n ∧ isHighSurrogate n = false := by
      decide
    obtain ⟨hn, hhigh⟩ := hhex c.val hcontrol
    have hpoint : CodePoint.ofNat c.val = c := CodePoint.ext (CodePoint.val_ofNat c.isLt)
    have hescape := stringBody_unicodeEscape start (b := CodePoint.ofChar '\\')
      (u := CodePoint.ofChar 'u') rfl rfl hn hhigh hrest
    rw [hpoint] at hescape
    exact hescape
  · exact stringBody_self start rest ‹_› ‹_› ‹_›

/-- A string in a text. -/
theorem string_append (t rest : Text) : string t ++ rest =
    CodePoint.ofChar '"' :: (t.flatMap escapedPoint ++ CodePoint.ofChar '"' :: rest) := by
  rw [string, List.append_assoc, List.append_assoc]
  rfl

/-- **The inside of a string is read back.** -/
theorem stringBody_flatMap (start t rest : Text) :
    stringBody start (t.flatMap escapedPoint ++ CodePoint.ofChar '"' :: rest) = .ok (t, rest) := by
  induction t with
  | nil =>
    rw [List.flatMap_nil, List.nil_append, stringBody.eq_def]
    rfl
  | cons c cs ih =>
    rw [List.flatMap_cons, List.append_assoc, stringBody_escapedPoint start c (by simp), ih]
    rfl

/-! ## Numbers and words -/

/-- No word begins with a minus sign and a digit. -/
theorem word?_of_minus {d : CodePoint} (hd : d.isDigit = true) (ds : Text) :
    word? (CodePoint.ofChar '-' :: d :: ds) = none := by
  have hwords : ∀ t ∈ words.map Prod.fst, ∃ a b r, t = a :: b :: r ∧
      (a ≠ CodePoint.ofChar '-' ∨ b.isDigit = false) := by
    simp only [words, List.map_cons, List.map_nil, List.forall_mem_cons]
    refine ⟨⟨_, _, _, rfl, by decide⟩, ⟨_, _, _, rfl, by decide⟩, ⟨_, _, _, rfl, by decide⟩,
      ⟨_, _, _, rfl, by decide⟩, ⟨_, _, _, rfl, by decide⟩, ⟨_, _, _, rfl, by decide⟩, nofun⟩
  refine List.findSome?_eq_none_iff.mpr fun w hw => ?_
  obtain ⟨a, b, r, hr, hab⟩ := hwords w.1 (List.mem_map_of_mem hw)
  refine if_neg ?_
  rw [hr, List.isPrefixOf_cons_cons, List.isPrefixOf_cons_cons]
  rcases hab with ha | hb
  · rw [beq_false_of_ne ha, Bool.false_and]
    exact Bool.false_ne_true
  · have hne : b ≠ d := by
      rintro rfl
      exact absurd hd (Bool.eq_false_iff.mp hb)
    rw [beq_false_of_ne hne, Bool.false_and, Bool.and_false]
    exact Bool.false_ne_true

/-- The digits of a number are read as the number where it may end. -/
theorem number_ofNat (start : Text) (negative : Bool) {n : Nat} {rest : Text}
    (hn : n < 10 ^ digitLimit) (hrest : Ends rest) :
    number start negative (Text.ofNat n ++ rest) =
      .ok (.int (if negative then -(n : Int) else n), rest) := by
  have hfraction : fraction? rest = none := by
    match rest, hrest with
    | [], _ | [_], _ => rfl
    | p :: d :: ds, hrest =>
      have hp := hrest p rfl
      exact if_neg (by omega)
  have hexponent : exponent? rest = none := by
    match rest, hrest with
    | [], _ => rfl
    | e :: es, hrest =>
      have he := hrest e rfl
      exact if_neg (by omega)
  have hlength : ¬ digitLimit < (Text.ofNat n).length :=
    Nat.not_lt.mpr ((Text.length_ofNat_le_iff (by decide)).mpr hn)
  rw [number, wholePart?_ofNat n hrest.isDigit_eq_false]
  dsimp only
  rw [hfraction]
  dsimp only
  rw [hexponent]
  dsimp only [numberValue]
  rw [if_neg hlength, digitsValue_ofNat]
  rfl

/-- A whole number is read back. -/
theorem readsBack_int {n : Int} (hn : n.natAbs < 10 ^ digitLimit) : ReadsBack (.int n) := by
  intro level fuel rest _ hrest
  have hdigits (m : Nat) : ∃ d ds, Text.ofNat m = d :: ds ∧ d.isDigit = true := by
    obtain ⟨d, ds, hds⟩ := List.exists_cons_of_ne_nil (Text.ofNat_ne_nil m)
    exact ⟨d, ds, hds, Text.isDigit_of_mem_ofNat (by rw [hds]; exact List.mem_cons_self)⟩
  rw [indented]
  cases n with
  | ofNat n =>
    obtain ⟨d, ds, hds, hd⟩ := hdigits n
    have hbounds : 48 ≤ d.val ∧ d.val ≤ 57 := by
      simpa only [CodePoint.isDigit, Bool.and_eq_true, decide_eq_true_eq] using hd
    have hnumber := number_ofNat (Text.ofNat n ++ rest) false (n := n) hn hrest
    rw [Text.ofInt]
    rw [hds, List.cons_append] at hnumber ⊢
    rw [value, if_neg (by omega), if_neg (by omega), if_neg (by omega), word?_of_isDigit hd]
    dsimp only
    rw [if_neg (by omega), hnumber]
    rfl
  | negSucc n =>
    obtain ⟨d, ds, hds, hd⟩ := hdigits (n + 1)
    have hnumber := number_ofNat (CodePoint.ofChar '-' :: (Text.ofNat (n + 1) ++ rest)) true
      (n := n + 1) hn hrest
    rw [Text.ofInt, List.cons_append]
    rw [hds, List.cons_append] at hnumber ⊢
    rw [value, if_neg (by decide), if_neg (by decide), if_neg (by decide), word?_of_minus hd]
    dsimp only
    rw [if_pos (by decide), hnumber]
    rfl

/-- The words for null, true and false are read back. -/
theorem readsBack_null : ReadsBack .null := fun _ _ _ _ _ => rfl

theorem readsBack_bool (b : Bool) : ReadsBack (.bool b) := by
  intro level fuel rest _ _
  cases b <;> rfl

/-- A text is read back. -/
theorem readsBack_text (t : Text) : ReadsBack (.text t) := by
  intro level fuel rest _ _
  rw [indented, string_append, value, if_pos (by decide), stringBody_flatMap]
  rfl

/-! ## Lists and objects -/

/-- White space at the start of a line is skipped. -/
theorem skipSpace_newLine (level : Nat) (t : Text) :
    skipSpace (newLine level ++ t) = skipSpace t := by
  have hspaces : ∀ c ∈ newLine level, isSpace c = true := by
    intro c hc
    rcases List.mem_cons.mp (show c ∈ CodePoint.ofChar '\n' :: List.replicate _ _ from hc) with
      rfl | hc
    · rfl
    · rw [List.eq_of_mem_replicate hc]
      rfl
  exact List.dropWhile_append_of_pos hspaces

/-- The start of a line takes at least one code point. -/
theorem length_newLine (level : Nat) : (newLine level).length = 2 * level + 1 := by
  rw [newLine, List.length_append, List.length_replicate, Nat.add_comm]
  rfl

/-- A text that begins with no blank has none to skip. -/
theorem skipSpace_of_lt {c : CodePoint} (hc : 32 < c.val) (cs : Text) :
    skipSpace (c :: cs) = c :: cs := by
  refine List.dropWhile_cons_of_neg ?_
  simp only [isSpace, Bool.or_eq_true, beq_iff_eq, not_or]
  omega

/-- A new line may follow a value. -/
theorem ends_newLine (level : Nat) (rest : Text) : Ends (newLine level ++ rest) := by
  intro c hc
  obtain rfl : CodePoint.ofChar '\n' = c := Option.some.inj hc
  exact Or.inr rfl

/-- A comma may follow a value. -/
theorem ends_comma (rest : Text) : Ends (CodePoint.ofChar ',' :: rest) := by
  intro c hc
  obtain rfl : CodePoint.ofChar ',' = c := Option.some.inj hc
  exact Or.inl rfl

/-- The text of a plain value begins with a character of ASCII that is neither a blank nor the end
of a list. -/
theorem Plain.head {v : Json} (hv : Plain v) (level : Nat) :
    ∃ c cs, indented level v = c :: cs ∧ 32 < c.val ∧ c.val < 128 ∧ c.val ≠ 93 := by
  cases hv with
  | null => exact ⟨_, _, rfl, by decide⟩
  | bool b => cases b <;> exact ⟨_, _, rfl, by decide⟩
  | @int n _ =>
    cases n with
    | ofNat n =>
      obtain ⟨d, ds, hds⟩ := List.exists_cons_of_ne_nil (Text.ofNat_ne_nil n)
      have hd : d ∈ Text.ofNat n := by rw [hds]; exact List.mem_cons_self
      have hdigit := Text.isDigit_of_mem_ofNat hd
      simp only [CodePoint.isDigit, Bool.and_eq_true, decide_eq_true_eq] at hdigit
      exact ⟨d, ds, hds, by omega⟩
    | negSucc n => exact ⟨_, _, rfl, by decide⟩
  | text t => exact ⟨_, _, rfl, by decide⟩
  | @list items _ => cases items <;> exact ⟨_, _, rfl, by decide⟩
  | @object fields _ _ => cases fields <;> exact ⟨_, _, rfl, by decide⟩

/-- No white space stands before the text of a plain value. -/
theorem Plain.skipSpace {v : Json} (hv : Plain v) (level : Nat) (rest : Text) :
    skipSpace (indented level v ++ rest) = indented level v ++ rest := by
  obtain ⟨c, cs, hcs, hc, -, -⟩ := hv.head level
  rw [hcs, List.cons_append, skipSpace_of_lt hc]

/-- The first item of a list is read, and then what follows it. -/
theorem elements_first {v : Json} (hv : Plain v) (hback : ReadsBack v) (level fuel : Nat)
    (before : List Json) {e : CodePoint} {rest es : Text}
    (hfuel : (indented level v).length ≤ fuel) (hrest : Ends rest)
    (he : Json.skipSpace rest = e :: es) :
    elements (fuel + 1) before (Json.skipSpace (newLine level ++ (indented level v ++ rest))) =
      if e.val = 93 then .ok (.list (v :: before).reverse, es)
      else if e.val = 44 then elements fuel (v :: before) (Json.skipSpace es)
      else .error (.malformed .comma (e :: es)) := by
  obtain ⟨c, cs, hcs, -⟩ := hv.head level
  obtain ⟨fuel, rfl⟩ : ∃ k, fuel = k + 1 := by
    rw [hcs, List.length_cons] at hfuel
    exact ⟨fuel - 1, by omega⟩
  rw [skipSpace_newLine, hv.skipSpace, elements, hback level fuel rest hfuel hrest]
  dsimp only
  rw [he]

/-- **The items of a list are read back** after those that came before them. -/
theorem elements_indentedItems {items : List Json} (hne : items ≠ [])
    (hitems : ∀ v ∈ items, Plain v ∧ ReadsBack v) (level closing fuel : Nat) (before : List Json)
    (rest : Text) (hfuel : (indentedItems level items).length ≤ fuel) :
    elements fuel before (Json.skipSpace
        (indentedItems level items ++ (newLine closing ++ CodePoint.ofChar ']' :: rest))) =
      .ok (.list (before.reverse ++ items), rest) := by
  have hline := length_newLine level
  induction items generalizing fuel before with
  | nil => exact absurd rfl hne
  | cons v vs ih =>
    obtain ⟨⟨hv, hback⟩, hvs⟩ := List.forall_mem_cons.mp hitems
    cases vs with
    | nil =>
      rw [indentedItems, List.length_append] at hfuel
      obtain ⟨fuel, rfl⟩ : ∃ k, fuel = k + 1 := ⟨fuel - 1, by omega⟩
      have hclose := (skipSpace_newLine closing _).trans
        (skipSpace_of_lt (c := CodePoint.ofChar ']') (by decide) rest)
      rw [indentedItems, List.append_assoc, elements_first hv hback level fuel before (by omega)
        (ends_newLine closing _) hclose, if_pos (by decide), List.reverse_cons]
    | cons w vs =>
      have hcomma (tail : Text) : indentedItems level (v :: w :: vs) ++ tail =
          newLine level ++ (indented level v ++
            CodePoint.ofChar ',' :: (indentedItems level (w :: vs) ++ tail)) := by
        simp only [indentedItems, List.append_assoc]
        rfl
      have hlength := congrArg List.length (hcomma [])
      simp only [List.length_append, List.length_cons, List.append_nil] at hlength
      obtain ⟨fuel, rfl⟩ : ∃ k, fuel = k + 1 := ⟨fuel - 1, by omega⟩
      rw [hcomma, elements_first hv hback level fuel before (by omega) (ends_comma _)
        (skipSpace_of_lt (by decide) _), if_neg (by decide), if_pos (by decide),
        ih (List.cons_ne_nil w vs) hvs fuel (v :: before) (by omega), List.reverse_cons,
        List.append_assoc, List.singleton_append]

/-- A list is read back if its items are. -/
theorem readsBack_list {items : List Json} (hitems : ∀ v ∈ items, Plain v ∧ ReadsBack v) :
    ReadsBack (.list items) := by
  intro level fuel rest hfuel _
  cases items with
  | nil => rfl
  | cons v vs =>
    have htext (tail : Text) : indented level (.list (v :: vs)) ++ tail =
        CodePoint.ofChar '[' :: (indentedItems (level + 1) (v :: vs) ++
          (newLine level ++ CodePoint.ofChar ']' :: tail)) := by
      simp only [indented, List.isEmpty_cons, Bool.false_eq_true, if_false, List.append_assoc]
      rfl
    have hlength := congrArg List.length (htext [])
    simp only [List.length_append, List.length_cons, List.append_nil] at hlength
    have hback := elements_indentedItems (List.cons_ne_nil v vs) hitems (level + 1) level fuel []
      rest (by omega)
    -- the list does not end where its first item begins
    obtain ⟨d, ds, hds, hd⟩ : ∃ d ds, Json.skipSpace (indentedItems (level + 1) (v :: vs) ++
        (newLine level ++ CodePoint.ofChar ']' :: rest)) = d :: ds ∧ d.val ≠ 93 := by
      have hv := (List.forall_mem_cons.mp hitems).1.1
      obtain ⟨d, ds, hds, -, -, hd⟩ := hv.head (level + 1)
      cases vs with
      | nil =>
        rw [indentedItems, List.append_assoc, skipSpace_newLine, hv.skipSpace, hds]
        exact ⟨d, _, rfl, hd⟩
      | cons w vs =>
        simp only [indentedItems, List.append_assoc]
        rw [skipSpace_newLine, hv.skipSpace, hds]
        exact ⟨d, _, rfl, hd⟩
    rw [hds] at hback
    rw [htext, value, if_neg (by decide), if_neg (by decide), if_pos (by decide), hds]
    dsimp only
    rw [if_neg hd, hback]
    rfl

/-! ## Objects -/

/-- The first field of an object is read, and then what follows it. -/
theorem members_first {v : Json} (hv : Plain v) (hback : ReadsBack v) (key : Text)
    (level fuel : Nat) (before : Fields) {e : CodePoint} {rest es : Text}
    (hfuel : (indented level v).length ≤ fuel) (hrest : Ends rest)
    (he : Json.skipSpace rest = e :: es) :
    members (fuel + 1) before (Json.skipSpace (newLine level ++ (string key ++
        CodePoint.ofChar ':' :: CodePoint.ofChar ' ' :: (indented level v ++ rest)))) =
      if e.val = 125 then .ok (.object (before.set key v), es)
      else if e.val = 44 then members fuel (before.set key v) (Json.skipSpace es)
      else .error (.malformed .comma (e :: es)) := by
  obtain ⟨c, cs, hcs, -⟩ := hv.head level
  obtain ⟨fuel, rfl⟩ : ∃ k, fuel = k + 1 := by
    rw [hcs, List.length_cons] at hfuel
    exact ⟨fuel - 1, by omega⟩
  have hblank : Json.skipSpace (CodePoint.ofChar ' ' :: (indented level v ++ rest)) =
      indented level v ++ rest := hv.skipSpace level rest
  rw [skipSpace_newLine, string_append, skipSpace_of_lt (by decide), members,
    if_pos (by decide), stringBody_flatMap]
  dsimp only
  rw [skipSpace_of_lt (by decide)]
  dsimp only
  rw [if_pos (by decide), hblank, hback level fuel rest hfuel hrest]
  dsimp only
  rw [he]

/-- **The fields of an object are read back** after those that came before them, if no key is there
twice. -/
theorem members_indentedFields {fields : Fields} (hne : fields ≠ [])
    (hfields : ∀ f ∈ fields, Plain f.2 ∧ ReadsBack f.2) (level closing fuel : Nat)
    (before : Fields) (rest : Text) (hkeys : ((before ++ fields).map Prod.fst).Nodup)
    (hfuel : (indentedFields level fields).length ≤ fuel) :
    members fuel before (Json.skipSpace
        (indentedFields level fields ++ (newLine closing ++ CodePoint.ofChar '\x7d' :: rest))) =
      .ok (.object (before ++ fields), rest) := by
  have hline := length_newLine level
  induction fields generalizing fuel before with
  | nil => exact absurd rfl hne
  | cons f fs ih =>
    obtain ⟨key, v⟩ := f
    obtain ⟨hfirst, hfs⟩ := List.forall_mem_cons.mp hfields
    obtain ⟨hv, hback⟩ : Plain v ∧ ReadsBack v := hfirst
    have hset : before.set key v = before ++ [(key, v)] := by
      refine Fields.set_of_notMem v fun hmem => ?_
      rw [List.map_append, List.map_cons, List.nodup_append] at hkeys
      exact hkeys.2.2 key hmem key List.mem_cons_self rfl
    cases fs with
    | nil =>
      have htext (tail : Text) : indentedFields level [(key, v)] ++ tail =
          newLine level ++ (string key ++ CodePoint.ofChar ':' :: CodePoint.ofChar ' ' ::
            (indented level v ++ tail)) := by
        simp only [indentedFields, List.append_assoc]
        rfl
      have hlength := congrArg List.length (htext [])
      simp only [List.length_append, List.length_cons, List.append_nil] at hlength
      obtain ⟨fuel, rfl⟩ : ∃ k, fuel = k + 1 := ⟨fuel - 1, by omega⟩
      have hclose := (skipSpace_newLine closing _).trans
        (skipSpace_of_lt (c := CodePoint.ofChar '\x7d') (by decide) rest)
      rw [htext, members_first hv hback key level fuel before (by omega) (ends_newLine closing _)
        hclose, if_pos (by decide), hset]
    | cons g gs =>
      have htext (tail : Text) : indentedFields level ((key, v) :: g :: gs) ++ tail =
          newLine level ++ (string key ++ CodePoint.ofChar ':' :: CodePoint.ofChar ' ' ::
            (indented level v ++ CodePoint.ofChar ',' ::
              (indentedFields level (g :: gs) ++ tail))) := by
        simp only [indentedFields, List.append_assoc]
        rfl
      have hlength := congrArg List.length (htext [])
      simp only [List.length_append, List.length_cons, List.append_nil] at hlength
      obtain ⟨fuel, rfl⟩ : ∃ k, fuel = k + 1 := ⟨fuel - 1, by omega⟩
      have happend : before ++ [(key, v)] ++ g :: gs = before ++ (key, v) :: g :: gs := by
        rw [List.append_assoc, List.singleton_append]
      rw [htext, members_first hv hback key level fuel before (by omega) (ends_comma _)
        (skipSpace_of_lt (by decide) _), if_neg (by decide), if_pos (by decide), hset,
        ih (List.cons_ne_nil g gs) hfs fuel (before ++ [(key, v)]) (by rw [happend]; exact hkeys)
          (by omega), happend]

/-- An object is read back if the values of its fields are and no key is there twice. -/
theorem readsBack_object {fields : Fields} (hkeys : (fields.map Prod.fst).Nodup)
    (hfields : ∀ f ∈ fields, Plain f.2 ∧ ReadsBack f.2) : ReadsBack (.object fields) := by
  intro level fuel rest hfuel _
  cases fields with
  | nil => rfl
  | cons f fs =>
    have htext (tail : Text) : indented level (.object (f :: fs)) ++ tail =
        CodePoint.ofChar '\x7b' :: (indentedFields (level + 1) (f :: fs) ++
          (newLine level ++ CodePoint.ofChar '\x7d' :: tail)) := by
      simp only [indented, List.isEmpty_cons, Bool.false_eq_true, if_false, List.append_assoc]
      rfl
    have hlength := congrArg List.length (htext [])
    simp only [List.length_append, List.length_cons, List.append_nil] at hlength
    have hback := members_indentedFields (List.cons_ne_nil f fs) hfields (level + 1) level fuel []
      rest hkeys (by omega)
    -- the object does not end where its first key begins
    obtain ⟨d, ds, hds, hd⟩ : ∃ d ds, Json.skipSpace (indentedFields (level + 1) (f :: fs) ++
        (newLine level ++ CodePoint.ofChar '\x7d' :: rest)) = d :: ds ∧ d.val ≠ 125 := by
      cases fs with
      | nil =>
        simp only [indentedFields, List.append_assoc]
        rw [skipSpace_newLine, string_append, skipSpace_of_lt (by decide)]
        exact ⟨_, _, rfl, by decide⟩
      | cons g gs =>
        simp only [indentedFields, List.append_assoc]
        rw [skipSpace_newLine, string_append, skipSpace_of_lt (by decide)]
        exact ⟨_, _, rfl, by decide⟩
    rw [hds] at hback
    rw [htext, value, if_neg (by decide), if_pos (by decide), hds]
    dsimp only
    rw [if_neg hd, hback]
    rfl

/-! ## Documents -/

/-- **Every plain value is read back.** -/
theorem Plain.readsBack {v : Json} (hv : Plain v) : ReadsBack v := by
  induction hv with
  | null => exact readsBack_null
  | bool b => exact readsBack_bool b
  | int hn => exact readsBack_int hn
  | text t => exact readsBack_text t
  | list hitems ih => exact readsBack_list fun v hv => ⟨hitems v hv, ih v hv⟩
  | object hkeys hfields ih => exact readsBack_object hkeys fun f hf => ⟨hfields f hf, ih f hf⟩

/-- **A document of a plain value is read as the value.** -/
theorem read_indented {v : Json} (hv : Plain v) (level : Nat) :
    read (indented level v) = .ok v := by
  obtain ⟨c, cs, hcs, hblank, hascii, -⟩ := hv.head level
  have hmark : ¬ (indented level v).head? = some byteOrderMark := by
    rw [hcs, List.head?_cons]
    intro h
    rw [Option.some.inj h] at hascii
    exact absurd hascii (by decide)
  have hskip := hv.skipSpace level []
  have hvalue := hv.readsBack level (2 * (indented level v).length + 1) [] (by omega) nofun
  rw [List.append_nil] at hskip hvalue
  rw [read, readDocument, if_neg hmark, hskip, hvalue]
  rfl

end Json

end KernelJob
