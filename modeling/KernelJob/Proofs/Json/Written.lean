import KernelJob.Json.Printer
import KernelJob.Proofs.Json.Clean
import KernelJob.Proofs.Text.Utf8

/-! # Clean values are written

A value can be written if UTF-8 can hold all of its texts. A clean value can, and what is written is
a clean text.

* **`Json.Clean.encodeFault?_eq_none`** — nothing keeps a clean value from being written.
* **`Json.Clean.indented`** — its indented form is clean.
* **`Json.Clean.written`** — a clean value is written as a clean text. -/

namespace KernelJob

namespace Json

/-! ## What keeps a value from being written -/

/-- The items of a list can be written if each of them can. -/
theorem encodeFaultIn?_eq_none {items : List Json} (h : ∀ v ∈ items, v.encodeFault? = none) :
    encodeFaultIn? items = none := by
  induction items with
  | nil => rfl
  | cons v vs ih =>
    obtain ⟨hv, hvs⟩ := List.forall_mem_cons.mp h
    rw [encodeFaultIn?, hv, ih hvs]
    rfl

/-- The fields of an object can be written if each key and each value can. -/
theorem encodeFaultUnder?_eq_none {fields : Fields}
    (h : ∀ f ∈ fields, Text.utf8Fault? f.1 = none ∧ f.2.encodeFault? = none) :
    encodeFaultUnder? fields = none := by
  induction fields with
  | nil => rfl
  | cons f fs ih =>
    obtain ⟨⟨hkey, hvalue⟩, hfs⟩ := List.forall_mem_cons.mp h
    rw [encodeFaultUnder?, hkey, hvalue, ih hfs]
    rfl

/-- **A clean value can be written.** -/
theorem Clean.encodeFault?_eq_none {v : Json} (h : v.Clean) : v.encodeFault? = none := by
  induction h with
  | null | bool | int | float | moment => rfl
  | text h => exact Text.utf8Fault?_eq_none (Text.clean_iff.mp h)
  | list _ ih => exact encodeFaultIn?_eq_none ih
  | object hkeys _ ih =>
    exact encodeFaultUnder?_eq_none fun f hf =>
      ⟨Text.utf8Fault?_eq_none (Text.clean_iff.mp (hkeys f hf)), ih f hf⟩

/-! ## The indented form -/

/-- A code point stands in a JSON string as a clean text unless it is a surrogate. -/
theorem clean_escapedPoint {c : CodePoint} (h : c.isSurrogate = false) :
    (escapedPoint c).Clean := by
  simp [escapedPoint, apply_ite Text.Clean, h, Text.clean_hex]

/-- A clean text is a clean JSON string. -/
theorem clean_string {t : Text} (h : t.Clean) : (string t).Clean := by
  have hinside := Text.clean_flatMap fun c hc => clean_escapedPoint (h c hc)
  simp [string, hinside]

theorem clean_newLine (level : Nat) : (newLine level).Clean :=
  Text.clean_append.mpr
    ⟨Text.clean_ofString _, Text.clean_replicate _ (Text.isSurrogate_ofChar ' ')⟩

/-- The items of a list are written as a clean text if each of them is. -/
theorem clean_indentedItems {items : List Json} (h : ∀ v ∈ items, ∀ level, (indented level v).Clean)
    (level : Nat) : (indentedItems level items).Clean := by
  induction items with
  | nil => exact Text.clean_nil
  | cons v vs ih =>
    obtain ⟨hv, hvs⟩ := List.forall_mem_cons.mp h
    cases vs with
    | nil => exact Text.clean_append.mpr ⟨clean_newLine level, hv level⟩
    | cons w vs =>
      have hrest := ih hvs
      simp [indentedItems, clean_newLine, hv level, hrest]

/-- The fields of an object are written as a clean text if each value is, and the keys are clean. -/
theorem clean_indentedFields {fields : Fields} (hkeys : ∀ f ∈ fields, f.1.Clean)
    (h : ∀ f ∈ fields, ∀ level, (indented level f.2).Clean) (level : Nat) :
    (indentedFields level fields).Clean := by
  induction fields with
  | nil => exact Text.clean_nil
  | cons f fs ih =>
    obtain ⟨hkey, hks⟩ := List.forall_mem_cons.mp hkeys
    obtain ⟨hf, hfs⟩ := List.forall_mem_cons.mp h
    cases fs with
    | nil => simp [indentedFields, clean_newLine, clean_string hkey, hf level]
    | cons g fs =>
      have hrest := ih hks hfs
      simp [indentedFields, clean_newLine, clean_string hkey, hf level, hrest]

/-- **The indented form of a clean value is clean.** -/
theorem Clean.indented {v : Json} (h : v.Clean) (level : Nat) : (Json.indented level v).Clean := by
  induction h generalizing level with
  | null => exact Text.clean_ofString _
  | bool b => cases b <;> exact Text.clean_ofString _
  | int n => exact Text.clean_ofInt n
  | float x => exact Text.clean_ofFloat x
  | text h => exact clean_string h
  | moment h => exact clean_string h
  | list _ ih =>
    have hitems := clean_indentedItems ih (level + 1)
    rw [Json.indented]
    split
    · exact Text.clean_ofString _
    · simp [hitems, clean_newLine]
  | object hkeys _ ih =>
    have hfields := clean_indentedFields hkeys ih (level + 1)
    rw [Json.indented]
    split
    · exact Text.clean_ofString _
    · simp [hfields, clean_newLine]

/-- **A clean value is written as a clean text.** -/
theorem Clean.written {v : Json} (h : v.Clean) : ∃ t, v.written = .ok t ∧ t.Clean :=
  ⟨v.indented 0, by rw [Json.written, h.encodeFault?_eq_none], h.indented 0⟩

end Json

end KernelJob
