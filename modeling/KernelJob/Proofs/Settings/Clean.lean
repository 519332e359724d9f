import KernelJob.Proofs.Job.Report

/-! # Clean settings

Settings from clean layers are clean, and so is what is said of them if they are not valid; then the
complaints about them can be put into words.

* **`Json.Clean.mergeLayers`** — clean layers have a clean merge.
* **`Problem.Clean`** — what a problem says is clean.
* **`Settings.ofFields_worded`** — clean fields describe clean settings, or there are complaints
  that can be put into words.
* **`Settings.load_of_clean`** — so do the layers that settings are loaded from. -/

namespace KernelJob

/-! ## Merging -/

namespace Json

variable {fields base : Fields}

/-- A clean value under a clean key keeps an object clean. -/
theorem Clean.set (h : Clean (.object fields)) {key : Text} (hkey : key.Clean) {v : Json}
    (hv : v.Clean) : Clean (.object (fields.set key v)) := by
  rw [clean_object_iff] at h ⊢
  constructor
  · intro f hf
    rcases Fields.mem_set hf with rfl | hf
    · exact hkey
    · exact h.1 f hf
  · intro f hf
    rcases Fields.mem_set hf with rfl | hf
    · exact hv
    · exact h.2 f hf

/-- Fields are updated by clean ones if each of their values updates clean ones. -/
theorem clean_updateFields (hbase : Clean (.object base)) (hkeys : ∀ f ∈ fields, f.1.Clean)
    (hvalues : ∀ f ∈ fields, f.2.Clean)
    (hupdate : ∀ f ∈ fields, ∀ old : Json, old.Clean → (update old f.2).Clean) :
    Clean (.object (updateFields base fields)) := by
  induction fields generalizing base with
  | nil => exact hbase
  | cons f fields ih =>
    obtain ⟨hkey, hks⟩ := List.forall_mem_cons.mp hkeys
    obtain ⟨hvalue, hvs⟩ := List.forall_mem_cons.mp hvalues
    obtain ⟨hfirst, hus⟩ := List.forall_mem_cons.mp hupdate
    rw [updateFields]
    split
    · rename_i old hold
      exact ih (hbase.set hkey (hfirst old (hbase.get? hold))) hks hvs hus
    · exact ih (hbase.set hkey hvalue) hks hvs hus

/-- A clean value that is no object replaces the value before it. -/
theorem Clean.replace {old v : Json} (hv : v.Clean) (h : ∀ fields, v ≠ .object fields) :
    (Json.update old v).Clean := by
  unfold Json.update
  split
  · exact absurd rfl (h _)
  · exact hv

/-- **A clean value updated by a clean one is clean.** -/
theorem Clean.update {old v : Json} (hold : old.Clean) (hv : v.Clean) :
    (Json.update old v).Clean := by
  -- only an object looks at the value before it
  induction hv generalizing old with
  | null => exact Clean.replace .null nofun
  | bool b => exact Clean.replace (.bool b) nofun
  | int n => exact Clean.replace (.int n) nofun
  | float x => exact Clean.replace (.float x) nofun
  | text h => exact Clean.replace (.text h) nofun
  | moment h => exact Clean.replace (.moment h) nofun
  | list h _ => exact Clean.replace (.list h) nofun
  | object hkeys hvalues ih =>
    unfold Json.update
    split
    · rename_i heq
      obtain rfl := Json.object.inj heq
      exact clean_updateFields hold hkeys hvalues fun f hf old hold => ih f hf hold
    · exact .object hkeys hvalues

/-- **Clean layers have a clean merge.** -/
theorem Clean.mergeLayers {layers : List Fields} (h : ∀ layer ∈ layers, Clean (.object layer)) :
    Clean (.object (KernelJob.mergeLayers layers)) := by
  have hfold (merged : Fields) (hmerged : Clean (.object merged)) :
      Clean (.object (layers.foldl (fun merged layer => updateFields layer merged) merged)) := by
    induction layers generalizing merged with
    | nil => exact hmerged
    | cons layer layers ih =>
      obtain ⟨hlayer, hlayers⟩ := List.forall_mem_cons.mp h
      exact ih hlayers _ (hlayer.update hmerged)
  exact hfold [] (.object (List.forall_mem_nil _) (List.forall_mem_nil _))

end Json

/-! ## Complaints -/

/-- What a problem says is clean. -/
def Problem.Clean : Problem → Prop
  | .custom t => t.Clean
  | _ => True

/-- A complaint about a clean problem can be put into words. -/
theorem Complaint.encodeFault?_eq_none {e : Complaint} (h : e.problem.Clean) :
    e.encodeFault? = none := by
  unfold encodeFault?
  split
  · rename_i t heq
    rw [heq] at h
    exact Text.utf8Fault?_eq_none (Text.clean_iff.mp h)
  · rfl

namespace Checked

variable {α β : Type} {Q : α → Prop} {R : β → Prop}

/-- **A value with something about it**, or complaints about clean problems. -/
abbrev Worded (r : Checked α) (Q : α → Prop) : Prop :=
  Yields r Q fun es => ∀ e ∈ es, e.problem.Clean

theorem ofReading_worded {r : Except Problem α} (h : Yields r Q Problem.Clean) :
    Worded (ofReading r) Q := by
  cases r with
  | ok a => exact h
  | error p => exact List.forall_mem_singleton.mpr h

theorem under_worded {r : Checked α} (h : Worded r Q) (step : Step) : Worded (r.under step) Q := by
  cases r with
  | ok a => exact h
  | error es => exact List.forall_mem_map.mpr h

theorem both_worded {x : Checked α} {y : Checked β} (hx : Worded x Q) (hy : Worded y R) :
    Worded (x.both y) fun p => Q p.1 ∧ R p.2 := by
  cases x with
  | ok a =>
    cases y with
    | ok b => exact ⟨hx, hy⟩
    | error fs => exact hy
  | error es =>
    cases y with
    | ok b => exact hx
    | error fs => exact List.forall_mem_append.mpr ⟨hx, hy⟩

/-- A field of a clean object, or its default. -/
theorem fieldOr_worded {fields : Fields} (hfields : Json.Clean (.object fields)) (key : Text)
    {other : α} (hother : Q other) {read : Json → Checked α}
    (hread : ∀ v : Json, v.Clean → Worded (read v) Q) :
    Worded (fieldOr fields key other read) Q := by
  unfold fieldOr
  split
  · exact hother
  · rename_i v hget
    exact under_worded (hread v (hfields.get? hget)) _

/-- The items of a clean list. -/
theorem list_worded {read : Json → Checked α} (hread : ∀ v : Json, v.Clean → Worded (read v) Q)
    {v : Json} (hv : v.Clean) : Worded (list read v) fun as => ∀ a ∈ as, Q a := by
  have hitems (items : List Json) (hitems : ∀ v ∈ items, v.Clean) (index : Nat) :
      Worded (itemsFrom read index items) fun as => ∀ a ∈ as, Q a := by
    induction items generalizing index with
    | nil => exact List.forall_mem_nil _
    | cons v vs ih =>
      obtain ⟨hv, hvs⟩ := List.forall_mem_cons.mp hitems
      refine (both_worded (under_worded (hread v hv) _) (ih hvs (index + 1))).map fun p hp => ?_
      exact List.forall_mem_cons.mpr hp
  have hother : Worded (.error [⟨[], .notList⟩]) fun as : List α => ∀ a ∈ as, Q a :=
    List.forall_mem_singleton.mpr trivial
  cases v with
  | list items => exact hitems items (fun v hmem => hv.of_mem hmem) 0
  | _ => exact hother

end Checked

/-! ## Readings -/

namespace Json

theorem yields_readText {v : Json} (hv : v.Clean) :
    Yields v.readText Text.Clean Problem.Clean := by
  cases v with
  | text t => exact hv.of_text
  | _ => trivial

theorem yields_spelling (t : Text) : Yields (spelling t) (fun _ => True) Problem.Clean := by
  unfold spelling
  split <;> trivial

theorem yields_readFloat (v : Json) : Yields v.readFloat (fun _ => True) Problem.Clean := by
  have hnumber (t : Text) : Yields (spelledNumber t) (fun _ => True) Problem.Clean := by
    unfold spelledNumber
    split
    · trivial
    · split <;> trivial
  unfold readFloat
  split
  · trivial
  · dsimp only
    split <;> trivial
  · trivial
  · rename_i t
    have ht := yields_spelling t
    split
    · exact hnumber _
    · rename_i p hp
      rw [hp] at ht
      exact ht
  · trivial

theorem yields_readInt (v : Json) : Yields v.readInt (fun _ => True) Problem.Clean := by
  have hplain (t : Text) : Yields (plainInt t) (fun _ => True) Problem.Clean := by
    unfold plainInt
    dsimp only
    split
    · trivial
    · split
      · trivial
      split <;> trivial
  have hnumber (t : Text) : Yields (spelledInt t) (fun _ => True) Problem.Clean := by
    unfold spelledInt
    split
    · split <;> trivial
    · exact hplain t
  unfold readInt
  split
  · trivial
  · trivial
  · split
    · split
      · trivial
      · split <;> trivial
    · trivial
  · rename_i t
    have ht := yields_spelling t
    split
    · exact hnumber _
    · rename_i p hp
      rw [hp] at ht
      exact ht
  · trivial

theorem yields_readBool (v : Json) : Yields v.readBool (fun _ => True) Problem.Clean := by
  have htruth (n : Int) : Yields (truthOf n) (fun _ => True) Problem.Clean := by
    unfold truthOf
    split
    · trivial
    · split <;> trivial
  unfold readBool
  split
  · trivial
  · split
    · exact htruth _
    · trivial
  · split
    · split
      · exact htruth _
      · trivial
    · trivial
  · rename_i t
    have ht := yields_spelling t
    split
    · rename_i p hp
      rw [hp] at ht
      exact ht
    · dsimp only
      split
      · trivial
      · split <;> trivial
  · trivial

theorem yields_readFields (model : Text) {v : Json} (hv : v.Clean) :
    Yields (v.readFields model) (fun fields => Clean (.object fields)) Problem.Clean := by
  cases v with
  | object fields => exact hv
  | _ => trivial

end Json

open Checked

/-- A model is read from a clean object. -/
theorem Checked.model_worded {α : Type} {Q : α → Prop} (model : Text)
    {ofFields : Fields → Checked α}
    (h : ∀ fields, Json.Clean (.object fields) → Worded (ofFields fields) Q) {v : Json}
    (hv : v.Clean) :
    Worded (match v.readFields model with
      | .ok fields => ofFields fields
      | .error p => .error [⟨[], p⟩]) Q := by
  have hfields := Json.yields_readFields model hv
  cases hread : v.readFields model with
  | ok fields =>
    rw [hread] at hfields
    exact h fields hfields
  | error p =>
    rw [hread] at hfields
    exact List.forall_mem_singleton.mpr hfields

/-! ## Entries -/

namespace Server

theorem yields_readPositive (v : Json) : Yields (readPositive v) (fun _ => True) Problem.Clean := by
  have hnumber := v.yields_readFloat
  unfold readPositive
  split
  · split <;> trivial
  · rename_i p hp
    rw [hp] at hnumber
    exact hnumber

theorem yields_readOptionalPositive (v : Json) :
    Yields (readOptionalPositive v) (fun _ => True) Problem.Clean := by
  unfold readOptionalPositive
  split
  · trivial
  · exact (yields_readPositive _).mapped

theorem yields_readLimit (v : Json) : Yields (readLimit v) (fun _ => True) Problem.Clean := by
  have hnumber := v.yields_readInt
  unfold readLimit
  split
  · split <;> trivial
  · rename_i p hp
    rw [hp] at hnumber
    exact hnumber

theorem yields_readKernel {v : Json} (hv : v.Clean) :
    Yields (readKernel v) Text.Clean Problem.Clean := by
  have htext := Json.yields_readText hv
  unfold readKernel
  split
  · rename_i t ht
    rw [ht] at htext
    have hclean : t.Clean := htext
    split
    · exact Text.clean_ofString _
    · exact hclean.trim
  · rename_i p hp
    rw [hp] at htext
    exact htext

/-- **A clean value describes a clean entry.** -/
theorem read_worded {v : Json} (hv : v.Clean) : Worded (read v) Server.Clean := by
  refine model_worded model (fun fields hfields => ?_) hv
  unfold ofFields
  refine Yields.map (both_worded (both_worded
    (fieldOr_worded hfields _ (Text.clean_ofString "Python") fun v hv =>
      ofReading_worded (Json.yields_readText hv))
    (fieldOr_worded hfields _ (Text.clean_ofString "python3") fun v hv =>
      ofReading_worded (yields_readKernel hv)))
    (both_worded (both_worded
      (fieldOr_worded hfields _ trivial fun v _ => ofReading_worded (yields_readPositive v))
      (fieldOr_worded hfields _ trivial fun v _ => ofReading_worded (yields_readLimit v)))
    (both_worded
      (fieldOr_worded hfields _ trivial fun v _ =>
        ofReading_worded (yields_readOptionalPositive v))
      (fieldOr_worded hfields _ Text.clean_nil fun v hv =>
        ofReading_worded (Json.yields_readText hv))))) ?_
  rintro ⟨⟨name, kernel⟩, ⟨launch, limit⟩, execution, file⟩ h
  exact ⟨h.1.2, h.1.1⟩

end Server

/-! ## Settings -/

theorem PathSettings.read_worded {v : Json} (hv : v.Clean) :
    Worded (PathSettings.read v) fun _ => True := by
  have htext {fields : Fields} (hfields : Json.Clean (.object fields)) (key : Text) :
      Worded (fieldOr fields key [] fun v => .ofReading v.readText) Text.Clean :=
    fieldOr_worded hfields key Text.clean_nil fun v hv =>
      ofReading_worded (Json.yields_readText hv)
  refine model_worded _ (fun fields hfields => ?_) hv
  exact (both_worded (htext hfields _) (both_worded (htext hfields _) (htext hfields _))).map
    fun _ _ => trivial

theorem LogSettings.read_worded {v : Json} (hv : v.Clean) :
    Worded (LogSettings.read v) fun _ => True := by
  have hlevel (v : Json) (hv : v.Clean) : Yields (readLevel v) (fun _ => True) Problem.Clean := by
    have htext := Json.yields_readText hv
    unfold readLevel
    split
    · rename_i p hp
      rw [hp] at htext
      exact htext
    · rename_i t ht
      rw [ht] at htext
      split
      · trivial
      · exact Text.clean_append.mpr ⟨Text.clean_ofString _, htext⟩
  refine model_worded _ (fun fields hfields => ?_) hv
  exact (both_worded
    (fieldOr_worded hfields _ trivial fun v hv => ofReading_worded (hlevel v hv))
    (fieldOr_worded hfields _ trivial fun v _ => ofReading_worded v.yields_readBool)).map
    fun _ _ => trivial

namespace Settings

/-- **Clean fields describe settings with clean entries**, or there are complaints that can be put
into words. -/
theorem ofFields_worded {fields : Fields} (hfields : Json.Clean (.object fields)) :
    Worded (ofFields fields) fun s => ∀ server ∈ s.servers, server.Clean := by
  have hdefault : ∀ server ∈ [({} : Server)], server.Clean :=
    List.forall_mem_singleton.mpr ⟨Text.clean_ofString _, Text.clean_ofString _⟩
  unfold ofFields
  refine Yields.map (both_worded (both_worded
    (fieldOr_worded hfields _ hdefault fun v hv =>
      list_worded (fun v hv => Server.read_worded hv) hv)
    (fieldOr_worded hfields _ Text.clean_nil fun v hv =>
      ofReading_worded (Json.yields_readText hv)))
    (both_worded
      (fieldOr_worded hfields _ trivial fun v hv => PathSettings.read_worded hv)
      (fieldOr_worded hfields _ trivial fun v hv => LogSettings.read_worded hv))) ?_
  rintro ⟨⟨servers, kernel⟩, paths, logging⟩ h
  exact h.1.1

/-- **Clean layers** give settings with clean entries or settings that are not valid. -/
theorem load_of_clean {s : Surroundings} {files : FileTree} {values : Fields} {ls : List Fields}
    (hls : layers s files values = .ok ls) (hclean : ∀ layer ∈ ls, Json.Clean (.object layer)) :
    Yields (load s files values) (fun s => ∀ server ∈ s.servers, server.Clean)
      fun fault => ∃ es, fault = .invalid es := by
  have hread := ofFields_worded (Json.Clean.mergeLayers hclean)
  unfold load
  rw [hls]
  refine Yields.mapError hread fun es hes => ⟨es, ?_⟩
  have hnone : es.findSome? Complaint.encodeFault? = none := by
    rw [List.findSome?_eq_none_iff]
    exact fun e he => Complaint.encodeFault?_eq_none (hes e he)
  rw [SettingsFault.ofComplaints, hnone]

end Settings

end KernelJob
