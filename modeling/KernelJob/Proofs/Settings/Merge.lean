import Mathlib.Data.List.Induction
import KernelJob.Proofs.Json.Fields
import KernelJob.Settings.Layers

/-! # Merging layers

What a merge of layers says of a key is what the first layer says that has the key. This holds up
to one thing: where that value is an object, objects of lower layers may have been merged into it.
No single setting is an object, so a check of the value cannot tell the difference. In a table of
settings, such as that of paths, the same holds key by key, if every layer that has the table has
an object there.

* **`Alike`** — two values are the same, or both are objects.
* **`Json.get?_updateFields`** — the value of a key after an update.
* **`get?_mergeLayers`** — what a merge says of a key.
* **`Tidy`** — a layer has distinct keys, and an object with distinct keys for each section.
* **`inSection_mergeLayers`** — what a merge says of a key of a section. -/

namespace KernelJob

/-! ## Values that are alike -/

/-- **Two values are alike** if they are the same or both are objects. -/
def Alike (v w : Option Json) : Prop :=
  v = w ∨ ∃ fs gs, v = some (.object fs) ∧ w = some (.object gs)

namespace Alike

theorem refl (v : Option Json) : Alike v v := Or.inl rfl

theorem trans {u v w : Option Json} (h : Alike u v) (h' : Alike v w) : Alike u w := by
  rcases h with rfl | ⟨fs, gs, rfl, rfl⟩
  · exact h'
  · rcases h' with rfl | ⟨_, hs, -, rfl⟩
    · exact Or.inr ⟨fs, gs, rfl, rfl⟩
    · exact Or.inr ⟨fs, hs, rfl, rfl⟩

/-- Alike values may be given for another one that is missing. -/
theorem or {v w : Option Json} (h : Alike v w) (u : Option Json) : Alike (v.or u) (w.or u) := by
  rcases h with rfl | ⟨fs, gs, rfl, rfl⟩
  · exact refl _
  · exact Or.inr ⟨fs, gs, rfl, rfl⟩

end Alike

/-! ## Updates -/

namespace Json

/-- An update leaves a value that is no object, or an object. -/
theorem alike_update (old v : Json) : Alike (some (update old v)) (some v) := by
  cases v with
  | object fields =>
    cases old with
    | object base => exact Or.inr ⟨_, _, rfl, rfl⟩
    | _ => exact Alike.refl _
  | _ => cases old <;> exact Alike.refl _

/-- **The value of a key after an update**, if the update has no key twice. -/
theorem get?_updateFields {base fields : Fields} (hfields : (fields.map Prod.fst).Nodup)
    (key : Text) :
    Fields.get? key (updateFields base fields) =
      match Fields.get? key fields with
      | none => Fields.get? key base
      | some v => match Fields.get? key base with
        | none => some v
        | some old => some (update old v) := by
  induction fields generalizing base with
  | nil => rfl
  | cons f fs ih =>
    obtain ⟨k, v⟩ := f
    rw [List.map_cons, List.nodup_cons] at hfields
    rw [Fields.get?_cons]
    by_cases hk : k = key
    · -- the other fields leave this key as it is
      subst hk
      have hrest : Fields.get? k fs = none := Fields.get?_of_notMem hfields.1
      rw [if_pos rfl]
      dsimp only
      rw [updateFields]
      cases hold : Fields.get? k base with
      | none =>
        dsimp only
        rw [ih hfields.2, hrest, Fields.get?_set, if_pos rfl]
      | some old =>
        dsimp only
        rw [ih hfields.2, hrest, Fields.get?_set, if_pos rfl]
    · rw [if_neg hk, updateFields]
      cases hold : Fields.get? k base with
      | none =>
        dsimp only
        rw [ih hfields.2, Fields.get?_set, if_neg hk]
      | some old =>
        dsimp only
        rw [ih hfields.2, Fields.get?_set, if_neg hk]

/-- An update keeps the keys distinct. -/
theorem nodup_updateFields {base : Fields} (hbase : (base.map Prod.fst).Nodup) (fields : Fields) :
    ((updateFields base fields).map Prod.fst).Nodup := by
  induction fields generalizing base with
  | nil => exact hbase
  | cons f fs ih =>
    obtain ⟨k, v⟩ := f
    rw [updateFields]
    cases Fields.get? k base with
    | none => exact ih (Fields.nodup_set hbase k v)
    | some old => exact ih (Fields.nodup_set hbase k (update old v))

/-- The value of a key after an update is that of the update, or else the old one. -/
theorem alike_updateFields {base fields : Fields} (hfields : (fields.map Prod.fst).Nodup)
    (key : Text) :
    Alike (Fields.get? key (updateFields base fields))
      ((Fields.get? key fields).or (Fields.get? key base)) := by
  rw [get?_updateFields hfields]
  cases Fields.get? key fields with
  | none => exact Alike.refl _
  | some v =>
    cases Fields.get? key base with
    | none => exact Alike.refl _
    | some old => exact alike_update old v

end Json

/-! ## Layers -/

/-- The value of a key in a section of a layer. -/
def Fields.inSection? (section_ key : Text) (layer : Fields) : Option Json :=
  match layer.get? section_ with
  | some (.object fields) => Fields.get? key fields
  | _ => none

/-- **A layer is tidy** if it has no key twice, and each section that it has is an object that has
no key twice. -/
structure Tidy (sections : List Text) (layer : Fields) : Prop where
  keys : (layer.map Prod.fst).Nodup
  sections : ∀ s ∈ sections, ∀ v, layer.get? s = some v →
    ∃ fields, v = .object fields ∧ (fields.map Prod.fst).Nodup

variable {sections : List Text} {layer : Fields}

/-- An empty layer is tidy. -/
theorem Tidy.nil : Tidy sections [] := ⟨List.nodup_nil, nofun⟩

/-- Tidy layers are merged to a tidy one. -/
theorem Tidy.update {base : Fields} (hbase : Tidy sections base) (hlayer : Tidy sections layer) :
    Tidy sections (Json.updateFields base layer) := by
  refine ⟨Json.nodup_updateFields hbase.keys layer, fun s hs v hv => ?_⟩
  rw [Json.get?_updateFields hlayer.keys] at hv
  cases hupper : layer.get? s with
  | none =>
    rw [hupper] at hv
    exact hbase.sections s hs v hv
  | some upper =>
    rw [hupper] at hv
    obtain ⟨fields, rfl, hfields⟩ := hlayer.sections s hs upper hupper
    cases hlower : Fields.get? s base with
    | none =>
      rw [hlower] at hv
      exact ⟨fields, (Option.some.inj hv).symm, hfields⟩
    | some lower =>
      rw [hlower] at hv
      obtain ⟨old, rfl, hold⟩ := hbase.sections s hs lower hlower
      exact ⟨_, (Option.some.inj hv).symm, Json.nodup_updateFields hold fields⟩

/-- The merge of tidy layers is tidy. -/
theorem Tidy.mergeLayers {layers : List Fields} (h : ∀ layer ∈ layers, Tidy sections layer) :
    Tidy sections (mergeLayers layers) := by
  induction layers using List.reverseRecOn with
  | nil => exact Tidy.nil
  | append_singleton layers lowest ih =>
    rw [List.forall_mem_append, List.forall_mem_singleton] at h
    rw [mergeLayers_concat]
    exact h.2.update (ih h.1)

/-- **What a merge says of a key** is what the first layer says that has it. -/
theorem get?_mergeLayers {layers : List Fields} (h : ∀ layer ∈ layers, Tidy sections layer)
    (key : Text) :
    Alike ((mergeLayers layers).get? key) (layers.findSome? (Fields.get? key)) := by
  induction layers using List.reverseRecOn with
  | nil => exact Alike.refl _
  | append_singleton layers lowest ih =>
    rw [List.forall_mem_append] at h
    rw [mergeLayers_concat, List.findSome?_append, List.findSome?_singleton]
    exact (Json.alike_updateFields (Tidy.mergeLayers h.1).keys key).trans ((ih h.1).or _)

/-- What an update of a tidy layer says of a key of a section. -/
theorem inSection_updateFields {base : Fields} (hbase : Tidy sections base)
    (hlayer : Tidy sections layer) {s : Text} (hs : s ∈ sections) (key : Text) :
    Alike (Fields.inSection? s key (Json.updateFields base layer))
      ((layer.inSection? s key).or (base.inSection? s key)) := by
  rw [Fields.inSection?, Json.get?_updateFields hlayer.keys, Fields.inSection?, Fields.inSection?]
  cases hupper : layer.get? s with
  | none => exact Alike.refl _
  | some upper =>
    obtain ⟨fields, rfl, hfields⟩ := hlayer.sections s hs upper hupper
    cases hlower : Fields.get? s base with
    | none =>
      dsimp only
      rw [Option.or_none]
      exact Alike.refl _
    | some lower =>
      obtain ⟨old, rfl, -⟩ := hbase.sections s hs lower hlower
      exact Json.alike_updateFields hfields key

/-- **What a merge says of a key of a section** is what the first layer says that has it. -/
theorem inSection_mergeLayers {layers : List Fields} (h : ∀ layer ∈ layers, Tidy sections layer)
    {s : Text} (hs : s ∈ sections) (key : Text) :
    Alike ((mergeLayers layers).inSection? s key)
      (layers.findSome? (Fields.inSection? s key)) := by
  induction layers using List.reverseRecOn with
  | nil => exact Alike.refl _
  | append_singleton layers lowest ih =>
    rw [List.forall_mem_append, List.forall_mem_singleton] at h
    rw [mergeLayers_concat, List.findSome?_append, List.findSome?_singleton]
    exact (inSection_updateFields h.2 (Tidy.mergeLayers h.1) hs key).trans ((ih h.1).or _)

end KernelJob
