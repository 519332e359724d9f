import Mathlib.Data.List.Nodup
import KernelJob.Proofs.Json.Access

/-! # Objects with distinct keys

Setting a key of an object keeps its place or adds it at the end, so an object that is built key by
key has no key twice. Of such an object it does not matter which field of a key is read, and the
same is asked of the objects in it; the items of lists are not looked into.

* **`Fields.nodup_set`** — a key that is set is there once.
* **`Fields.Distinct`** — no key is there twice, and none in the objects below.
* **`Fields.Distinct.set`** — setting a key to a value of this kind keeps it. -/

namespace KernelJob.Fields

variable {fields : Fields} {key : Text} {v : Json}

/-! ## Keys -/

/-- The keys after a key was set. -/
theorem keys_set (key : Text) (v : Json) (fields : Fields) :
    (fields.set key v).map Prod.fst =
      if key ∈ fields.map Prod.fst then fields.map Prod.fst else fields.map Prod.fst ++ [key] := by
  induction fields with
  | nil => rfl
  | cons f fs ih =>
    by_cases h : f.1 = key
    · rw [set, if_pos h, List.map_cons, List.map_cons, if_pos (by simp [h])]
    · rw [set, if_neg h, List.map_cons, List.map_cons, ih]
      by_cases hmem : key ∈ fs.map Prod.fst
      · rw [if_pos hmem, if_pos (List.mem_cons_of_mem _ hmem)]
      · rw [if_neg hmem, if_neg (by simp [Ne.symm h, hmem]), List.cons_append]

/-- **A key that is set is there once**, and so are the others. -/
theorem nodup_set (h : (fields.map Prod.fst).Nodup) (key : Text) (v : Json) :
    ((fields.set key v).map Prod.fst).Nodup := by
  rw [keys_set]
  split
  · exact h
  · exact h.append (List.nodup_singleton key) (List.disjoint_singleton.mpr ‹_›)

/-- A key that is not there yet is set at the end. -/
theorem set_of_notMem (v : Json) (h : key ∉ fields.map Prod.fst) :
    fields.set key v = fields ++ [(key, v)] := by
  induction fields with
  | nil => rfl
  | cons f fs ih =>
    rw [List.map_cons, List.mem_cons, not_or] at h
    rw [set, if_neg (Ne.symm h.1), ih h.2]
    rfl

/-- The value of a key is that of one of the fields. -/
theorem mem_of_get? (h : fields.get? key = some v) : (key, v) ∈ fields := by
  induction fields with
  | nil => exact nomatch h
  | cons f fs ih =>
    obtain ⟨k, w⟩ := f
    rw [get?_cons] at h
    by_cases hk : k = key
    · rw [if_pos hk] at h
      rw [hk, Option.some.inj h]
      exact List.mem_cons_self
    · rw [if_neg hk] at h
      exact List.mem_cons_of_mem _ (ih h)

/-- A key that no field has is without a value. -/
theorem get?_of_notMem (h : key ∉ fields.map Prod.fst) : fields.get? key = none := by
  cases hv : fields.get? key with
  | none => rfl
  | some v => exact absurd (List.mem_map_of_mem (mem_of_get? hv)) h

/-- A field after a key was set is the one that was set or was there before. -/
theorem mem_set {f : Text × Json} (h : f ∈ fields.set key v) : f = (key, v) ∨ f ∈ fields := by
  induction fields with
  | nil => exact Or.inl (List.mem_singleton.mp h)
  | cons g gs ih =>
    rw [set] at h
    split at h
    · rename_i hg
      rcases List.mem_cons.mp h with rfl | h
      · exact Or.inl (by rw [hg])
      · exact Or.inr (List.mem_cons_of_mem g h)
    · rcases List.mem_cons.mp h with rfl | h
      · exact Or.inr List.mem_cons_self
      · exact (ih h).imp_right (List.mem_cons_of_mem g)

/-! ## Distinct keys throughout -/

/-- **No key is there twice**, and none in the objects below. -/
inductive Distinct : Fields → Prop
  | intro {fields : Fields} (keys : (fields.map Prod.fst).Nodup)
      (below : ∀ key sub, (key, Json.object sub) ∈ fields → Distinct sub) : Distinct fields

namespace Distinct

theorem keys (h : Distinct fields) : (fields.map Prod.fst).Nodup := by
  cases h
  assumption

/-- An object without fields. -/
theorem nil : Distinct [] := ⟨List.nodup_nil, fun _ _ h => nomatch h⟩

/-- An object that is the value of a field. -/
theorem of_mem {sub : Fields} (h : Distinct fields) (hmem : (key, Json.object sub) ∈ fields) :
    Distinct sub := by
  cases h with
  | intro _ below => exact below key sub hmem

/-- An object that is the value of a key. -/
theorem get? {sub : Fields} (h : Distinct fields) (hsub : fields.get? key = some (.object sub)) :
    Distinct sub :=
  h.of_mem (mem_of_get? hsub)

/-- **Setting a key keeps the keys distinct**, if they are in its value. -/
theorem set (h : Distinct fields) (key : Text) (hv : ∀ sub, v = .object sub → Distinct sub) :
    Distinct (fields.set key v) := by
  cases h with
  | intro keys below =>
    refine ⟨nodup_set keys key v, fun k sub hmem => ?_⟩
    rcases mem_set hmem with heq | hmem
    · exact hv sub (Prod.mk.inj heq).2.symm
    · exact below k sub hmem

end Distinct

end KernelJob.Fields
