import KernelJob.Json.Misfit
import KernelJob.Proofs.Json.Fields
import KernelJob.Proofs.Text.Clean
import KernelJob.Proofs.Yields

/-! # Clean values

A value is clean if all texts in it are. The parts of a clean value are clean, and it is shown as a
clean text. What is said of a value of an unexpected shape is clean in any case: it names kinds and
quotes keys.

* **`Misfit.clean_of_words`** — what is said of a misfit is clean if the texts in it are.
* **`Json.Clean`** — no text in a value holds a surrogate.
* **`Json.Clean.shown`** — a clean value is shown as a clean text.
* **`Json.yields_fieldOr`** and the like — the parts of a value, or what is said of it. -/

namespace KernelJob

namespace Misfit

/-- What is said of a misfit is clean. -/
def Clean (m : Misfit) : Prop := m.message.Clean

/-- The texts that stand in the message of a misfit as they are. A key is quoted there. -/
def words : Misfit → List Text
  | .missingKey _ | .listField | .textField => []
  | .noOperation kind operation => [kind, operation]
  | .noItems kind | .noMembers kind | .noFields kind | .itemNotText _ kind | .notAppendable kind
  | .notScannable kind | .notWritable kind | .notDecodable kind | .noPath kind
  | .notCountable kind | .notWhole kind | .notAnIndex kind | .notAKey kind | .notAssignable kind
  | .notReadable kind | .notAnOperation kind => [kind]

/-- **The message of a misfit is clean** if the texts that stand in it as they are are clean. -/
theorem clean_of_words {m : Misfit} (h : ∀ t ∈ m.words, t.Clean) : m.Clean := by
  cases m <;> simp_all [Clean, message, words]

/-- So it is if the kind of a value is all that stands in it. -/
theorem clean_of_kind {m : Misfit} {kind : Text} (hm : m.words = [kind]) (h : kind.Clean) :
    m.Clean := by
  refine clean_of_words ?_
  rw [hm]
  exact List.forall_mem_singleton.mpr h

theorem clean_noOperation {kind operation : Text} (hkind : kind.Clean)
    (hoperation : operation.Clean) : Clean (.noOperation kind operation) :=
  clean_of_words (List.forall_mem_cons.mpr ⟨hkind, List.forall_mem_singleton.mpr hoperation⟩)

end Misfit

namespace Json

/-- **A clean value**: all texts in it are clean, keys included. -/
inductive Clean : Json → Prop
  | null : Clean .null
  | bool (b : Bool) : Clean (.bool b)
  | int (n : Int) : Clean (.int n)
  | float (x : Float) : Clean (.float x)
  | text {t : Text} (h : t.Clean) : Clean (.text t)
  | moment {t : Text} (h : t.Clean) : Clean (.moment t)
  | list {items : List Json} (h : ∀ v ∈ items, Clean v) : Clean (.list items)
  | object {fields : Fields} (hkeys : ∀ f ∈ fields, f.1.Clean) (hvalues : ∀ f ∈ fields, Clean f.2) :
    Clean (.object fields)

variable {v : Json} {t : Text} {items : List Json} {fields : Fields}

theorem Clean.of_text (h : Clean (.text t)) : t.Clean := by
  cases h with
  | text h => exact h

@[simp] theorem clean_text_iff : Clean (.text t) ↔ t.Clean := ⟨Clean.of_text, .text⟩

@[simp] theorem clean_object_iff :
    Clean (.object fields) ↔ (∀ f ∈ fields, f.1.Clean) ∧ ∀ f ∈ fields, f.2.Clean := by
  constructor
  · intro h
    cases h with
    | object hkeys hvalues => exact ⟨hkeys, hvalues⟩
  · exact fun h => .object h.1 h.2

theorem Clean.of_mem (h : Clean (.list items)) (hmem : v ∈ items) : v.Clean := by
  cases h with
  | list h => exact h v hmem

/-- The value of a key of a clean object is clean. -/
theorem Clean.get? (h : Clean (.object fields)) {key : Text} (hv : fields.get? key = some v) :
    v.Clean := by
  cases h with
  | object _ hvalues => exact hvalues (key, v) (Fields.mem_of_get? hv)

/-! ## Values in messages -/

/-- Items that are displayed as clean texts. -/
theorem clean_displayItems {items : List Json} (h : ∀ v ∈ items, v.display.Clean) :
    ∀ t ∈ displayItems items, t.Clean := by
  induction items with
  | nil => exact nofun
  | cons v vs ih =>
    obtain ⟨hv, hvs⟩ := List.forall_mem_cons.mp h
    exact List.forall_mem_cons.mpr ⟨hv, ih hvs⟩

/-- Fields whose values are displayed as clean texts; their keys are quoted. -/
theorem clean_displayFields {fields : Fields} (h : ∀ f ∈ fields, f.2.display.Clean) :
    ∀ t ∈ displayFields fields, t.Clean := by
  induction fields with
  | nil => exact nofun
  | cons f fs ih =>
    obtain ⟨hf, hfs⟩ := List.forall_mem_cons.mp h
    refine List.forall_mem_cons.mpr ⟨?_, ih hfs⟩
    simp [hf]

/-- A list is displayed as a clean text if its items are. -/
theorem clean_display_list {items : List Json} (h : ∀ v ∈ items, v.display.Clean) :
    (Json.list items).display.Clean := by
  have hitems := Text.clean_join (Text.clean_ofString ", ") (clean_displayItems h)
  show Text.Clean ("[" ++ Text.join ", " (displayItems items) ++ "]")
  simp [hitems]

/-- An object is displayed as a clean text if the values in it are. -/
theorem clean_display_object {fields : Fields} (h : ∀ f ∈ fields, f.2.display.Clean) :
    (Json.object fields).display.Clean := by
  have hfields := Text.clean_join (Text.clean_ofString ", ") (clean_displayFields h)
  show Text.Clean ("\x7b" ++ Text.join ", " (displayFields fields) ++ "\x7d")
  simp [hfields]

/-- The values in an object that is displayed as a clean text are displayed so. -/
theorem clean_display_of_mem {fields : Fields} (h : (Json.object fields).display.Clean)
    {f : Text × Json} (hf : f ∈ fields) : f.2.display.Clean := by
  have hfields : (Text.join ", " (displayFields fields)).Clean := by
    have hdisplayed : Text.Clean ("\x7b" ++ Text.join ", " (displayFields fields) ++ "\x7d") := h
    simpa using hdisplayed
  have hmem : f.1.quoted ++ ": " ++ f.2.display ∈ displayFields fields := by
    clear h hfields
    induction fields with
    | nil => cases hf
    | cons g gs ih =>
      rcases List.mem_cons.mp hf with rfl | hf
      · exact List.mem_cons_self
      · exact List.mem_cons_of_mem _ (ih hf)
  exact (Text.clean_append.mp (hfields.of_join _ hmem)).2

/-- A clean value is displayed as a clean text. -/
theorem Clean.display (h : v.Clean) : v.display.Clean := by
  induction h with
  | null => exact Text.clean_ofString _
  | bool b => cases b <;> exact Text.clean_ofString _
  | int n => exact Text.clean_ofInt n
  | float x => exact Text.clean_ofFloat x
  | text _ => exact Text.clean_quoted _
  | moment h => exact h
  | list _ ih => exact clean_display_list ih
  | object _ _ ih => exact clean_display_object ih

/-- **A clean value is shown as a clean text.** -/
theorem Clean.shown (h : v.Clean) : v.shown.Clean := by
  cases h with
  | text h => exact h
  | null => exact Clean.null.display
  | bool b => exact (Clean.bool b).display
  | int n => exact (Clean.int n).display
  | float x => exact (Clean.float x).display
  | moment h => exact (Clean.moment h).display
  | list h => exact (Clean.list h).display
  | object hkeys hvalues => exact (Clean.object hkeys hvalues).display

/-! ## The parts of a value -/

/-- The name of a kind is clean. -/
@[simp] theorem clean_kindName (v : Json) : v.kindName.Clean := by
  cases v <;> exact Text.clean_ofString _

/-- The value of a key, or another one. -/
theorem yields_fieldOr (v other : Json) (key : Text) :
    Yields (v.fieldOr key other) (fun u => v.Clean → other.Clean → u.Clean) Misfit.Clean := by
  have hother : ∀ w : Json, Misfit.Clean (.noOperation w.kindName "get") := fun w =>
    Misfit.clean_noOperation (clean_kindName w) (Text.clean_ofString _)
  cases v with
  | object fields =>
    intro hv ho
    cases hget : Fields.get? key fields with
    | none => exact ho
    | some w => exact hv.get? hget
  | _ => exact hother _

/-- The value of a key. -/
theorem yields_field (v : Json) (key : Text) :
    Yields (v.field key) (fun u => v.Clean → u.Clean) Misfit.Clean := by
  have hnone : ∀ w : Json, Misfit.Clean (.noFields w.kindName) := fun w =>
    Misfit.clean_of_kind rfl (clean_kindName w)
  cases v with
  | object fields =>
    unfold field
    dsimp only
    cases hget : Fields.get? key fields with
    | none => exact Text.clean_quoted key
    | some w => exact fun hv => hv.get? hget
  | list items => exact Text.clean_ofString _
  | text t => exact Text.clean_ofString _
  | _ => exact hnone _

/-- What a value holds. -/
theorem yields_holds (v : Json) (t : Text) :
    Yields (v.holds t) (fun _ => True) Misfit.Clean := by
  have hnone : ∀ w : Json, Misfit.Clean (.noMembers w.kindName) := fun w =>
    Misfit.clean_of_kind rfl (clean_kindName w)
  cases v with
  | object fields => trivial
  | list items => trivial
  | text t => trivial
  | _ => exact hnone _

/-- What a value is gone through by. -/
theorem yields_items (v : Json) :
    Yields v.items (fun items => v.Clean → ∀ u ∈ items, u.Clean) Misfit.Clean := by
  have hnone : ∀ w : Json, Misfit.Clean (.noItems w.kindName) := fun w =>
    Misfit.clean_of_kind rfl (clean_kindName w)
  cases v with
  | list items => exact fun hv u hu => hv.of_mem hu
  | text t =>
    intro hv u hu
    obtain ⟨c, hc, rfl⟩ := List.mem_map.mp hu
    have hclean : c.isSurrogate = false := hv.of_text c hc
    exact .text (Text.clean_cons.mpr ⟨hclean, Text.clean_nil⟩)
  | object fields =>
    intro hv u hu
    obtain ⟨f, hf, rfl⟩ := List.mem_map.mp hu
    cases hv with
    | object hkeys _ => exact .text (hkeys f hf)
  | _ => exact hnone _

/-- The texts of a list one after the other. -/
theorem yields_joinedFrom (index : Nat) (items : List Json) :
    Yields (joinedFrom index items) (fun t => (∀ v ∈ items, v.Clean) → t.Clean) Misfit.Clean := by
  have hitem : ∀ (w : Json) (index : Nat), Misfit.Clean (.itemNotText index w.kindName) :=
    fun w _ => Misfit.clean_of_kind rfl (clean_kindName w)
  induction items generalizing index with
  | nil => exact fun _ => Text.clean_nil
  | cons v vs ih =>
    cases v with
    | text t =>
      refine (ih (index + 1)).map fun u hu hclean => ?_
      obtain ⟨ht, hvs⟩ := List.forall_mem_cons.mp hclean
      exact Text.clean_append.mpr ⟨ht.of_text, hu hvs⟩
    | _ => exact hitem _ index

/-- A list of texts as one text, or the value as it is. -/
theorem yields_joined (v : Json) :
    Yields v.joined (fun u => v.Clean → u.Clean) Misfit.Clean := by
  cases v with
  | list items =>
    refine (yields_joinedFrom 0 items).map fun t ht hclean => ?_
    exact .text (ht fun v hv => hclean.of_mem hv)
  | _ => exact id

end Json

end KernelJob
