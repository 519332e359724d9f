import KernelJob.Json.Reader
import KernelJob.Proofs.Json.Clean

/-! # How values that were read are displayed

Texts in a value are displayed with quotes and escapes. Dates and times stand as they were spelled,
but no JSON text spells one; so whatever surrogates a JSON text holds, the value that is read from
it is displayed as a clean text.

* **`Json.Displayed`** — what is read is displayed as a clean text.
* **`Json.readsDisplayed`** — this holds of values, of the fields of an object and of the items of a
  list, by induction on the fuel of the reader.
* **`Json.clean_display_of_read`** — and so of documents. -/

namespace KernelJob

namespace Json

/-- What a part of the reader gives is displayed as a clean text. -/
def Displayed (r : Reading Json) : Prop := Yields r (fun x => x.1.display.Clean) fun _ => True

/-- The words that stand for values stand for values without texts. -/
theorem clean_display_of_word? {t rest : Text} {v : Json} (h : word? t = some (v, rest)) :
    v.display.Clean := by
  have hwords : ∀ w ∈ words, w.2.display.Clean := by simp [words, Json.display]
  obtain ⟨w, hw, hfound⟩ := List.exists_of_findSome?_eq_some h
  split at hfound
  · obtain ⟨rfl, -⟩ := Prod.mk.inj (Option.some.inj hfound)
    exact hwords w hw
  · cases hfound

/-- A number holds no text. -/
theorem number_displayed (start : Text) (negative : Bool) (t : Text) :
    Displayed (number start negative t) := by
  have hvalue (whole : Text) (fraction : Option Text) (exponent : Option Int) :
      Yields (numberValue negative whole fraction exponent) (fun v => v.display.Clean)
        fun _ => True := by
    unfold numberValue
    split
    · split
      · trivial
      · exact Text.clean_ofInt _
    · exact Text.clean_ofFloat _
  unfold number
  cases wholePart? t with
  | none => trivial
  | some w => exact (hvalue _ _ _).map fun _ hv => hv

/-- What the reader of values with some fuel gives is displayed as a clean text, if what was read
before is. -/
structure ReadsDisplayed (fuel : Nat) : Prop where
  value : ∀ t, Displayed (value fuel t)
  members : ∀ fields t, (∀ f ∈ fields, f.2.display.Clean) → Displayed (members fuel fields t)
  elements : ∀ items t, (∀ v ∈ items, v.display.Clean) → Displayed (elements fuel items t)

variable {fuel : Nat}

theorem value_displayed (h : ReadsDisplayed fuel) (t : Text) : Displayed (value (fuel + 1) t) := by
  cases t with
  | nil => trivial
  | cons c cs =>
    rw [value]
    split
    · cases stringBody (c :: cs) cs with
      | ok r => exact Text.clean_quoted r.1
      | error stop => trivial
    split
    · split
      · split
        · exact clean_display_object (List.forall_mem_nil _)
        · exact h.members [] _ (List.forall_mem_nil _)
      · exact h.members [] [] (List.forall_mem_nil _)
    split
    · split
      · split
        · exact clean_display_list (List.forall_mem_nil _)
        · exact h.elements [] _ (List.forall_mem_nil _)
      · exact h.elements [] [] (List.forall_mem_nil _)
    split
    · rename_i hword
      exact clean_display_of_word? hword
    · split <;> exact number_displayed _ _ _

theorem members_displayed (h : ReadsDisplayed fuel) {fields : Fields} (t : Text)
    (hfields : ∀ f ∈ fields, f.2.display.Clean) : Displayed (members (fuel + 1) fields t) := by
  cases t with
  | nil => trivial
  | cons c cs =>
    rw [members]
    split
    · cases stringBody (c :: cs) cs with
      | error stop => trivial
      | ok r =>
        dsimp only
        split
        · trivial
        split
        · rename_i d ds _ _
          have hvalue := h.value (skipSpace ds)
          cases hread : value fuel (skipSpace ds) with
          | error stop => trivial
          | ok u =>
            rw [hread] at hvalue
            have hset : ∀ f ∈ fields.set r.1 u.1, f.2.display.Clean := by
              intro f hf
              rcases Fields.mem_set hf with rfl | hf
              · exact hvalue
              · exact hfields f hf
            dsimp only
            split
            · trivial
            split
            · exact clean_display_object hset
            split
            · exact h.members _ _ hset
            · trivial
        · trivial
    · trivial

theorem elements_displayed (h : ReadsDisplayed fuel) {items : List Json} (t : Text)
    (hitems : ∀ v ∈ items, v.display.Clean) : Displayed (elements (fuel + 1) items t) := by
  have hvalue := h.value t
  rw [elements]
  cases hread : value fuel t with
  | error stop => trivial
  | ok u =>
    rw [hread] at hvalue
    have hcons : ∀ v ∈ u.1 :: items, v.display.Clean := List.forall_mem_cons.mpr ⟨hvalue, hitems⟩
    dsimp only
    split
    · trivial
    split
    · exact clean_display_list fun v hv => hcons v (List.mem_reverse.mp hv)
    split
    · exact h.elements _ _ hcons
    · trivial

/-- **What the reader gives is displayed as a clean text**, whatever its fuel is. -/
theorem readsDisplayed (fuel : Nat) : ReadsDisplayed fuel := by
  induction fuel with
  | zero => exact ⟨fun _ => trivial, fun _ _ _ => trivial, fun _ _ _ => trivial⟩
  | succ fuel ih =>
    exact ⟨value_displayed ih, fun _ => members_displayed ih, fun _ => elements_displayed ih⟩

/-- **The value of a JSON document is displayed as a clean text.** -/
theorem clean_display_of_read {t : Text} {v : Json} (h : read t = .ok v) : v.display.Clean := by
  have hvalue := (readsDisplayed (2 * t.length + 2)).value (skipSpace t)
  unfold read readDocument at h
  split at h
  · cases h
  cases hread : value (2 * t.length + 2) (skipSpace t) with
  | error stop =>
    rw [hread] at h
    cases h
  | ok u =>
    rw [hread] at h hvalue
    dsimp only at h
    split at h
    · obtain rfl := Except.ok.inj h
      exact hvalue
    · cases h

end Json

end KernelJob
