import KernelJob.Proofs.Settings.Leaf

/-! # Entries of the registry

An entry that was read has passed the checks of its fields, or has their defaults, which pass them
too. A job runs on the entry for its kernel, which is the first that has its name.

* **`Server.Valid`** — an entry that a run can start with.
* **`Server.valid_of_read`** — every entry that was read is one.
* **`Registry.Chooses`** — the entry that a job runs on.
* **`Registry.isFirst_of_find?`** — what is found under a name is the first entry for it. -/

namespace KernelJob

/-! ## Blank texts -/

namespace Text

/-- Dropping blanks from a text leaves it blank or not blank. -/
theorem isBlank_trimLeft (t : Text) : t.trimLeft.isBlank = t.isBlank := by
  induction t with
  | nil => rfl
  | cons c t ih =>
    rw [trimLeft, List.dropWhile_cons]
    split
    · rename_i hc
      refine ih.trans ?_
      rw [isBlank, isBlank, List.all_cons, hc, Bool.true_and]
    · rfl

theorem isBlank_reverse (t : Text) : isBlank t.reverse = t.isBlank := List.all_reverse

/-- A text is blank exactly if it is without the blanks around it. -/
theorem isBlank_trim (t : Text) : t.trim.isBlank = t.isBlank := by
  have hright (u : Text) : u.trimRight.isBlank = u.isBlank := by
    rw [trimRight, isBlank_reverse]
    exact (isBlank_trimLeft u.reverse).trans (isBlank_reverse u)
  rw [trim, hright, isBlank_trimLeft]

end Text

/-! ## Entries -/

open Float.Model (UnpackedFloat) in
/-- A number above zero is not at most zero. -/
theorem not_le_zero_of_pos {x : Float} (h : 0.0 < x) : ¬ x ≤ 0.0 := by
  have hzero : (0.0 : Float).toModel.unpack = .zero .positive := rfl
  have hlt : UnpackedFloat.lt _ x.toModel.unpack = true := of_decide_eq_true h
  intro hle
  have hle : UnpackedFloat.le x.toModel.unpack _ = true := of_decide_eq_true hle
  rw [hzero] at hlt hle
  generalize x.toModel.unpack = u at hlt hle
  cases u with
  | notANumber => cases hlt
  | zero _ => cases hlt
  | infinity s =>
    cases s with
    | negative => cases hlt
    | positive => cases hle
  | finite s m e hm =>
    cases s with
    | negative => cases hlt
    | positive => cases hle

/-- What holds of the default of a field and of all that is read for it holds of the field. -/
theorem Checked.fieldOr_induction {α : Type} {P : α → Prop} {fields : Fields} {key : Text}
    {other a : α} {read : Json → Checked α} (h : fieldOr fields key other read = .ok a)
    (hother : P other) (hread : ∀ v, read v = .ok a → P a) : P a := by
  rw [fieldOr_eq_ok_iff] at h
  cases hget : fields.get? key with
  | none =>
    rw [hget] at h
    cases h
    exact hother
  | some v =>
    rw [hget] at h
    exact hread v h

/-- A reading without a problem. -/
theorem Checked.ofReading_eq_ok_iff {α : Type} {r : Except Problem α} {a : α} :
    ofReading r = .ok a ↔ r = .ok a := by
  cases r with
  | ok b => rw [ofReading, Except.ok.injEq, Except.ok.injEq]
  | error p => exact ⟨nofun, nofun⟩

namespace Server

/-- **An entry that a run can start with**: it names a kernel, its times are above zero, and its
limit is not negative. -/
structure Valid (s : Server) : Prop where
  kernel : s.kernel.isBlank = false
  launchTimeout : 0.0 < s.launchTimeout
  maxResults : 0 ≤ s.maxResults
  executionTimeout : ∀ x, s.executionTimeout = some x → 0.0 < x

/-- What is read as a positive number is above zero. -/
theorem pos_of_readPositive {v : Json} {x : Float} (h : readPositive v = .ok x) : 0.0 < x := by
  unfold readPositive at h
  split at h
  · split at h
    · cases h
      assumption
    · cases h
  · cases h

/-- So is what is read as an optional one, if it is there. -/
theorem pos_of_readOptionalPositive {v : Json} {o : Option Float}
    (h : readOptionalPositive v = .ok o) : ∀ x, o = some x → 0.0 < x := by
  rintro x rfl
  unfold readOptionalPositive at h
  split at h
  · cases h
  · obtain ⟨y, hy, heq⟩ := Checked.map_eq_ok_iff.mp h
    cases heq
    exact pos_of_readPositive hy

/-- What is read as a limit is not negative. -/
theorem nonneg_of_readLimit {v : Json} {n : Int} (h : readLimit v = .ok n) : 0 ≤ n := by
  unfold readLimit at h
  split at h
  · split at h
    · cases h
      assumption
    · cases h
  · cases h

/-- What is read as the name of a kernel is not blank. -/
theorem not_isBlank_of_readKernel {v : Json} {t : Text} (h : readKernel v = .ok t) :
    t.isBlank = false := by
  unfold readKernel at h
  split at h
  · split at h
    · cases h
    · rename_i u _ hne
      cases h
      rw [Text.isBlank_trim, ← Bool.not_eq_true]
      exact fun hblank => hne (Text.trim_eq_nil_iff.mpr hblank)
  · cases h

/-- **Every entry that was read is valid.** -/
theorem valid_of_read {v : Json} {s : Server} (h : read v = .ok s) : s.Valid := by
  unfold read at h
  split at h
  swap
  · cases h
  obtain ⟨⟨⟨name, kernel⟩, ⟨launch, limit⟩, execution, file⟩, hfields, rfl⟩ :=
    Checked.map_eq_ok_iff.mp h
  simp only [Checked.both_eq_ok_iff] at hfields
  obtain ⟨⟨-, hkernel⟩, ⟨hlaunch, hlimit⟩, hexecution, -⟩ := hfields
  exact {
    kernel := Checked.fieldOr_induction (P := fun t => Text.isBlank t = false) hkernel rfl
      fun v hv => not_isBlank_of_readKernel (Checked.ofReading_eq_ok_iff.mp hv)
    launchTimeout := Checked.fieldOr_induction hlaunch (by decide)
      fun v hv => pos_of_readPositive (Checked.ofReading_eq_ok_iff.mp hv)
    maxResults := Checked.fieldOr_induction hlimit (by decide)
      fun v hv => nonneg_of_readLimit (Checked.ofReading_eq_ok_iff.mp hv)
    executionTimeout := Checked.fieldOr_induction
      (P := fun o => ∀ x, o = some x → 0.0 < x) hexecution (fun x hx => by cases hx)
      fun v hv => pos_of_readOptionalPositive (Checked.ofReading_eq_ok_iff.mp hv) }

end Server

/-! ## The registry -/

namespace Registry

/-- The first entry for a kernel. -/
def IsFirst (r : Registry) (name : Text) (s : Server) : Prop :=
  s.kernel = name ∧ ∃ before after, r.servers = before ++ s :: after ∧
    ∀ t ∈ before, t.kernel ≠ name

/-- **The entry that a job runs on**: the first for the kernel that it names, without the blanks
around it; the first for the default if the job names none; or just the first. -/
inductive Chooses (r : Registry) (kernel : Option Text) (s : Server) : Prop
  | named {name : Text} (hkernel : kernel = some name) (hname : name.isBlank = false)
      (hfirst : r.IsFirst name.trim s)
  | byDefault (hkernel : (kernel.getD []).isBlank = true) (hdefault : r.defaultKernel ≠ [])
      (hfirst : r.IsFirst r.defaultKernel s)
  | atHead (hkernel : (kernel.getD []).isBlank = true) (hdefault : r.defaultKernel = [])
      (hfirst : r.servers.head? = some s)

variable {r : Registry} {kernel : Option Text} {s : Server}

/-- An entry that is found under a name is the first for it. -/
theorem isFirst_of_find? {name : Text} (h : r.servers.find? (·.kernel == name) = some s) :
    r.IsFirst name s := by
  obtain ⟨hs, before, after, hsplit, hbefore⟩ := List.find?_eq_some_iff_append.mp h
  refine ⟨beq_iff_eq.mp hs, before, after, hsplit, fun t ht heq => ?_⟩
  have hne := hbefore t ht
  rw [heq, beq_self_eq_true] at hne
  cases hne

/-- A kernel that is named is looked up under its name. -/
theorem nameFor_some {name : Text} (h : name ≠ []) : r.nameFor (some name) = name := by
  obtain ⟨c, cs, rfl⟩ := List.exists_cons_of_ne_nil h
  rfl

/-- An entry that was looked up was found. -/
theorem find?_of_get (h : r.get kernel = .ok s) : r.find? kernel = some s := by
  unfold get at h
  split at h
  · rename_i hfind
    cases h
    exact hfind
  · split at h <;> cases h

/-- It is in the registry. -/
theorem mem_of_get (h : r.get kernel = .ok s) : s ∈ r.servers := by
  have hfind := find?_of_get h
  unfold find? at hfind
  split at hfind
  · exact List.mem_of_mem_head? hfind
  · exact List.mem_of_find?_eq_some hfind

end Registry

end KernelJob
