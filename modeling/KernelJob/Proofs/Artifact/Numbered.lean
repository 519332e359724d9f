import KernelJob.Artifact.Store
import KernelJob.Proofs.Numeral
import KernelJob.Proofs.Path
import KernelJob.Proofs.Text.Lines

/-! # The names of artifacts

The file of an artifact is named for its unit, the number that it has there, and its type. A hyphen
ends the number of the unit and a dot the number of the artifact, and neither is a digit. So the
name tells all three apart.

* **`Text.ofNat_append_inj`**, **`Text.ofInt_append_inj`** — a number can be read off from a text
  that starts with it.
* **`ArtifactStore.artifactName_inj`** — the name tells unit, number and type apart.
* **`ArtifactStore.isPlain_artifactName`**, **`ArtifactStore.unbroken_artifactName`** — it is one
  name, not a way through directories, and fits on one line. -/

namespace KernelJob

namespace Text

/-- **A number is read off** from a text in which no digit follows it. -/
theorem ofNat_append_inj {a b : Nat} {s t : Text} (hs : ∀ c ∈ s.head?, c.isDigit = false)
    (ht : ∀ c ∈ t.head?, c.isDigit = false) (h : ofNat a ++ s = ofNat b ++ t) : a = b ∧ s = t := by
  have ha := Json.wholePart?_ofNat a hs
  have hb := Json.wholePart?_ofNat b ht
  rw [h, hb] at ha
  obtain ⟨hdigits, rfl⟩ := Prod.mk.inj (Option.some.inj ha)
  refine ⟨?_, rfl⟩
  rw [← digitsValue_ofNat a, ← digitsValue_ofNat b, hdigits]

/-- A number does not begin with a hyphen. -/
theorem ofNat_append_ne_cons_hyphen (n : Nat) (s t : Text) :
    ofNat n ++ s ≠ CodePoint.ofChar '-' :: t := by
  intro h
  obtain ⟨d, ds, hds⟩ := List.exists_cons_of_ne_nil (ofNat_ne_nil n)
  have hd : d.isDigit = true := isDigit_of_mem_ofNat (by rw [hds]; exact List.mem_cons_self)
  rw [hds] at h
  obtain rfl : d = CodePoint.ofChar '-' := (List.cons.inj h).1
  exact absurd hd (by decide)

/-- **A whole number is read off** from a text in which no digit follows it. -/
theorem ofInt_append_inj {a b : Int} {s t : Text} (hs : ∀ c ∈ s.head?, c.isDigit = false)
    (ht : ∀ c ∈ t.head?, c.isDigit = false) (h : ofInt a ++ s = ofInt b ++ t) : a = b ∧ s = t := by
  cases a with
  | ofNat m =>
    cases b with
    | ofNat n =>
      obtain ⟨rfl, rfl⟩ := ofNat_append_inj hs ht h
      exact ⟨rfl, rfl⟩
    | negSucc n => exact absurd h (ofNat_append_ne_cons_hyphen m s _)
  | negSucc m =>
    cases b with
    | ofNat n => exact absurd h.symm (ofNat_append_ne_cons_hyphen n t _)
    | negSucc n =>
      obtain ⟨hmn, rfl⟩ := ofNat_append_inj hs ht (List.cons.inj h).2
      obtain rfl : m = n := by omega
      exact ⟨rfl, rfl⟩

/-- A whole number has digits, and maybe a hyphen before them. -/
theorem of_mem_ofInt {c : CodePoint} {n : Int} (h : c ∈ ofInt n) :
    c.isDigit = true ∨ c = CodePoint.ofChar '-' := by
  cases n with
  | ofNat m => exact .inl (isDigit_of_mem_ofNat h)
  | negSucc m =>
    rcases List.mem_cons.mp h with h | h
    · exact .inr h
    · exact .inl (isDigit_of_mem_ofNat h)

/-- A digit ends no line. -/
theorem isLineEnd_of_isDigit {c : CodePoint} (h : c.isDigit = true) : c.isLineEnd = false := by
  simp only [CodePoint.isDigit, Bool.and_eq_true, decide_eq_true_eq] at h
  simp only [CodePoint.isLineEnd, Bool.or_eq_false_iff, Bool.and_eq_false_iff,
    decide_eq_false_iff_not, beq_eq_false_iff_ne]
  omega

end Text

namespace ArtifactStore

/-- **An ending that can follow a number** in the name of a file. -/
structure IsEnding (suffix : Text) : Prop where
  noDigit : ∀ c ∈ suffix.head?, c.isDigit = false
  slash : Path.slash ∉ suffix
  unbroken : suffix.Unbroken

/-- The endings of the types that are saved can. -/
theorem suffix_of_mem {type : ArtifactType} (h : type ∈ artifactTypes) : IsEnding type.suffix := by
  have hall : ∀ type ∈ artifactTypes, (∀ c ∈ type.suffix.head?, c.isDigit = false) ∧
      Path.slash ∉ type.suffix ∧ type.suffix.Unbroken := by decide
  obtain ⟨hdigit, hslash, hunbroken⟩ := hall type h
  exact ⟨hdigit, hslash, hunbroken⟩

/-- **The name of an artifact tells** its unit, its number and the ending of its type. -/
theorem artifactName_inj {u v : Int} {i j : Nat} {a b : ArtifactType} (ha : a ∈ artifactTypes)
    (hb : b ∈ artifactTypes) (h : artifactName u i a.suffix = artifactName v j b.suffix) :
    u = v ∧ i = j ∧ a.suffix = b.suffix := by
  simp only [artifactName, List.append_assoc] at h
  have hhyphen : ∀ t : Text, ∀ c ∈ (("-" : Text) ++ t).head?, c.isDigit = false := by
    intro t c hc
    obtain rfl : CodePoint.ofChar '-' = c := Option.some.inj hc
    decide
  obtain ⟨hunit, hrest⟩ :=
    Text.ofInt_append_inj (hhyphen _) (hhyphen _) (List.append_cancel_left h)
  obtain ⟨hindex, hsuffix⟩ :=
    Text.ofNat_append_inj (suffix_of_mem ha).noDigit (suffix_of_mem hb).noDigit
      (List.append_cancel_left hrest)
  exact ⟨hunit, hindex, hsuffix⟩

/-- What stands in the name of an artifact: digits, and what stands around the numbers. -/
theorem of_mem_artifactName {unit : Int} {index : Nat} {suffix : Text} {c : CodePoint}
    (h : c ∈ artifactName unit index suffix) :
    c.isDigit = true ∨ c ∈ ("unit-" : Text) ∨ c ∈ suffix := by
  simp only [artifactName, List.mem_append] at h
  rcases h with (((h | h) | h) | h) | h
  · exact .inr (.inl h)
  · rcases Text.of_mem_ofInt h with h | rfl
    · exact .inl h
    · exact .inr (.inl (by decide))
  · obtain rfl := List.mem_singleton.mp h
    exact .inr (.inl (by decide))
  · exact .inl (Text.isDigit_of_mem_ofNat h)
  · exact .inr (.inr h)

/-- **The name of an artifact is plain**: it begins with a letter and holds no slash. -/
theorem isPlain_artifactName (unit : Int) (index : Nat) {type : ArtifactType}
    (h : type ∈ artifactTypes) : Path.IsPlain (artifactName unit index type.suffix) := by
  have hhead : (artifactName unit index type.suffix).head? = some (CodePoint.ofChar 'u') := rfl
  refine ⟨?_, ?_, ?_, ?_⟩
  · intro hnil
    rw [hnil] at hhead
    exact nomatch hhead
  · intro hdot
    rw [hdot] at hhead
    exact absurd (Option.some.inj hhead) (by decide)
  · intro hup
    rw [hup] at hhead
    exact absurd (Option.some.inj hhead) (by decide)
  · intro hslash
    rcases of_mem_artifactName hslash with hdigit | hword | hsuffix
    · exact absurd hdigit (by decide)
    · exact absurd hword (by decide)
    · exact absurd hsuffix (suffix_of_mem h).slash

/-- **The name of an artifact is unbroken.** -/
theorem unbroken_artifactName (unit : Int) (index : Nat) {type : ArtifactType}
    (h : type ∈ artifactTypes) : (artifactName unit index type.suffix).Unbroken := by
  intro c hc
  have hunit : Text.Unbroken "unit-" := by decide
  rcases of_mem_artifactName hc with hdigit | hword | hsuffix
  · exact Text.isLineEnd_of_isDigit hdigit
  · exact hunit c hword
  · exact (suffix_of_mem h).unbroken c hsuffix

end ArtifactStore

end KernelJob
