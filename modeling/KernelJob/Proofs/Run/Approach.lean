import KernelJob.Proofs.Run.Units
import KernelJob.Proofs.Session.Connect

/-! # The way to a connected kernel

Before its first unit a run checks its configuration, loads its source and connects to the kernel.

* **`Run.loadedUnits`**, **`Run.dueUnits`** — the units of a source, and those that a run has to
  execute.
* **`Run.approach_ensures`** — a run that gets as far as its kernel has the units of its source, and
  has made the calls of connecting and no others; one that does not has submitted nothing. -/

namespace KernelJob.Run

open KernelJob.Action KernelJob.Session

/-! ## The units of a source -/

/-- The bytes of a source, if it can be loaded. -/
def sourceBytes (files : FileTree) (config : RunConfig) : Option (List UInt8) :=
  match config.mode with
  | .inline => (Text.utf8 config.source).toOption
  | .file => (files.read config.sourcePath).toOption

/-- **The units of a source**: those of its document, none if it cannot be loaded or parsed. -/
def loadedUnits (files : FileTree) (config : RunConfig) : List CodeUnit :=
  match sourceBytes files config with
  | none => []
  | some bytes =>
    match Document.read config.effectiveFormat bytes with
    | .error _ => []
    | .ok document => document.units

/-- **A source that loads** as a document: its bytes can be read, and they are those of one. -/
def Loads (files : FileTree) (config : RunConfig) (document : Document) : Prop :=
  ∃ bytes, sourceBytes files config = some bytes ∧
    Document.read config.effectiveFormat bytes = .ok document

/-- The units of a source are those of the document as which it loads. -/
theorem Loads.loadedUnits_eq {files : FileTree} {config : RunConfig} {document : Document}
    (h : Loads files config document) : loadedUnits files config = document.units := by
  obtain ⟨bytes, hbytes, hread⟩ := h
  rw [loadedUnits, hbytes]
  dsimp only
  rw [hread]

/-- **A run with a source**: its configuration passes the check and names a source, and that loads
as a document. -/
def HasSource (files : FileTree) (config : RunConfig) : Prop :=
  config.check = .ok () ∧ ¬ (config.mode = .file ∧ config.source.isBlank) ∧
    ∃ document, Loads files config document

/-- **The units that a run has to execute**: those that are not skipped. -/
def dueUnits (files : FileTree) (config : RunConfig) : List CodeUnit :=
  (loadedUnits files config).filter CodeUnit.isExecutable

/-- A run of a single line of code. -/
def oneLine : RunConfig :=
  { kernel := "python3", source := "1", format := some .text, task := "t"
    workspace := .ofText "ws" }

example : dueUnits {} oneLine = [⟨0, "1", false⟩] := rfl

/-- A run of a note with the same line of code three times. -/
def sameLines : RunConfig where
  kernel := "python3"
  source := "\x7b\"paragraphs\":[" ++
    Text.join "," (List.replicate 3 "\x7b\"text\":\"1\"\x7d") ++ "]\x7d"
  format := some .note
  task := "t"
  workspace := .ofText "ws"

example : dueUnits {} sameLines = [⟨0, "1", false⟩, ⟨1, "1", false⟩, ⟨2, "1", false⟩] := by
  decide +kernel

/-- A kernel on which the code of the second request fails. -/
def secondFails : Kernel where
  ownResponses number :=
    if number = 2 then [{
      code := "1"
      polls := [⟨none, .message fun request => .object [
        ("header", .object [("msg_type", .text "error")]),
        ("parent_header", .object [("msg_id", .text request)]),
        ("content", .object [("ename", .text "E"), ("evalue", .text "no")])]⟩] }]
    else []

/-! ## Loading -/

/-- **A world that is as before except for lines and log records.** -/
structure Quiet (w₀ w : World) : Prop where
  calls : w.calls = w₀.calls
  handle : w.handle = w₀.handle
  progress : w.progress = w₀.progress
  files : w.files = w₀.files

namespace Quiet

variable {w₀ w : World}

theorem refl (w : World) : Quiet w w := ⟨rfl, rfl, rfl, rfl⟩

theorem record (h : Quiet w₀ w) (r : LogRecord) : Quiet w₀ (w.push (.record r)) :=
  ⟨by simp [h.calls, Event.call?], h.handle, h.progress, h.files⟩

theorem emitted (h : Quiet w₀ w) (sink : Sink) (line : Text) : Quiet w₀ (w.emitted sink line) :=
  ⟨by simpa using h.calls, by simpa using h.handle, by simpa using h.progress,
    by simpa using h.files⟩

/-- A quiet world has gathered nothing. -/
theorem gathered (h : Quiet w₀ w) : Gathered w₀ [] [] w :=
  Diagnosed.gathered
    ⟨h.calls, h.handle, by rw [h.progress], [], by rw [h.progress, List.append_nil]⟩

end Quiet

variable {s : Setting} {config : RunConfig} {w₀ w : World}

/-- Lines for the receiver are quiet, whether it takes them or fails. -/
theorem emit_quiet (s : Setting) (line : Text) (h : Quiet w₀ w) :
    (emit s.sink line).Ensures w (fun _ => Quiet w₀) (fun _ => Quiet w₀) :=
  (ensures_emit (fun _ line hw => hw.emitted s.sink line) line h).mono (fun _ _ hw => hw)
    fun _ _ hw => hw.1

theorem emitHeader_quiet (s : Setting) (config : RunConfig) (h : Quiet w₀ w) :
    (emitHeader s config).Ensures w (fun _ => Quiet w₀) (fun _ => Quiet w₀) :=
  (ensures_emitAll (fun _ line hw => hw.emitted s.sink line) _ h).mono (fun _ _ hw => hw)
    fun _ _ hw => hw.1

/-- Naming the format of an extension is quiet. -/
theorem recordExtension_quiet (config : RunConfig) (h : Quiet w₀ w) {E : Failure → World → Prop} :
    (recordExtension config).Ensures w (fun _ => Quiet w₀) E := by
  unfold recordExtension
  split
  · split
    · exact h.record _
    · exact h
  · exact h

/-- Saying what a document holds is quiet. -/
theorem recordDocument_quiet (document : Document) (h : Quiet w₀ w) {E : Failure → World → Prop} :
    (recordDocument document).Ensures w (fun _ => Quiet w₀) E := by
  unfold recordDocument
  split
  · exact h
  · exact h.record _
  · exact h.record _

/-- Loading gives the bytes of the source. -/
theorem loadBytes_ensures (config : RunConfig) (h : Quiet w₀ w) :
    (loadBytes config).Ensures w
      (fun bytes w' => sourceBytes w₀.files config = some bytes ∧ Quiet w₀ w')
      (fun _ => Quiet w₀) := by
  unfold loadBytes
  split
  · rename_i hmode
    split
    · rename_i bytes hb
      exact ⟨by rw [sourceBytes, hmode, hb]; rfl, h⟩
    · exact h
  · rename_i hmode
    rw [ensures_bind, ensures_record, ensures_bind, ensures_world]
    split
    · rename_i bytes hb
      rw [World.files_push, h.files] at hb
      exact ⟨by rw [sourceBytes, hmode, hb]; rfl, h.record _⟩
    · split
      · exact h.record _
      · exact h.record _

/-- Loading gives the units of the document as which the source loads. -/
theorem loadUnits_loads (s : Setting) (config : RunConfig) (h : Quiet w₀ w) :
    (loadUnits s config).Ensures w
      (fun units w' => ∃ document, Loads w₀.files config document ∧ units = document.units ∧
        Quiet w₀ w')
      (fun _ => Quiet w₀) := by
  unfold loadUnits
  refine (recordExtension_quiet config h).bind fun _ w₁ h₁ => ?_
  refine (loadBytes_ensures config h₁).bind fun bytes w₂ h₂ => ?_
  obtain ⟨hbytes, h₂⟩ := h₂
  refine (emit_quiet s _ h₂).bind fun _ w₃ h₃ => ?_
  split
  · exact h₃
  · rename_i document hread
    refine (recordDocument_quiet document h₃).bind fun _ w₄ h₄ => ?_
    exact ⟨document, ⟨bytes, hbytes, hread⟩, rfl, h₄.record _⟩

/-- Loading gives the units of the source. -/
theorem loadUnits_ensures (s : Setting) (config : RunConfig) (h : Quiet w₀ w) :
    (loadUnits s config).Ensures w
      (fun units w' => units = loadedUnits w₀.files config ∧ Quiet w₀ w')
      (fun _ => Quiet w₀) := by
  refine (loadUnits_loads s config h).mono ?_ fun _ _ hw => hw
  rintro _ w' ⟨document, hloads, rfl, hw⟩
  exact ⟨hloads.loadedUnits_eq.symm, hw⟩

/-! ## Up to the kernel -/

/-- **A run that has come as far as it comes before its first unit**: it has said that it names no
source, or it has the units of its source and a connected handle. -/
def Approached (config : RunConfig) (w₀ : World) : Option (List CodeUnit) → World → Prop
  | none, w => Gathered w₀ [] [] w ∧ w.progress.diagnostics ≠ []
  | some units, w => units = loadedUnits w₀.files config ∧ w.handle = openHandle config ∧
      w.progress = w₀.progress ∧ ∃ directory, w.calls = w₀.calls ++ connectCalls config directory

namespace Approached

variable {units : List CodeUnit}

/-- On the way to its kernel a run has gathered nothing. -/
theorem gathered (h : Approached config w₀ (some units) w) : Gathered w₀ [] [] w := by
  obtain ⟨-, -, hprogress, directory, hcalls⟩ := h
  have hg := Gathered.of_calls hcalls hprogress
  rwa [List.filterMap_eq_nil_iff.mpr source?_connectCalls] at hg

/-- A run that has reached its kernel is connected. -/
theorem connected (h : Approached config w₀ (some units) w) : w.handle.state = .connected := by
  rw [h.2.1]
  rfl

end Approached

/-- Connecting from a quiet world gathers nothing. -/
theorem connect_gathers (k : Kernel) (h : Quiet w₀ w) :
    (Session.connect k config).Ensures w
      (fun _ w' => w'.handle = openHandle config ∧ w'.progress = w₀.progress ∧
        ∃ directory, w'.calls = w₀.calls ++ connectCalls config directory)
      (fun _ => Gathered w₀ [] []) := by
  refine (connect_ensures k config w).mono ?_ ?_
  · rintro _ w' ⟨directory, hw⟩
    exact ⟨hw.handle, hw.progress.trans h.progress, directory, by rw [hw.calls, h.calls]⟩
  · rintro _ w' ⟨cs, hcs, hw⟩
    have hg := Gathered.of_calls hw.calls hw.progress
    rw [hcs] at hg
    exact h.gathered.trans hg

/-- **The way to a connected kernel** gathers nothing. -/
theorem approach_ensures (s : Setting) (config : RunConfig) (w : World) :
    (approach s config).Ensures w (Approached config w) (fun _ => Gathered w [] []) := by
  unfold approach
  split
  · exact Gathered.refl w
  split
  · -- the run names no source
    exact ((diagnose_ensures s emptyPathMessage w).mono (fun _ _ h => h)
      fun _ _ h => h.1.1.gathered).bind fun _ w' h => ⟨h.1.gathered, h.2⟩
  refine ((emitHeader_quiet s config (Quiet.refl w)).mono (fun _ _ h => h)
    fun _ _ h => h.gathered).bind fun _ w₁ h₁ => ?_
  refine ((loadUnits_ensures s config h₁).mono (fun _ _ h => h)
    fun _ _ h => h.gathered).bind fun units w₂ h₂ => ?_
  obtain ⟨hunits, h₂⟩ := h₂
  -- up to here there were only lines and log records
  rw [ensures_bind]
  refine checkCancelled_ensures _ ?_ fun _ => h₂.gathered
  rw [ensures_bind, enter, ensures_change]
  have h₃ : Quiet w { w₂ with state := .connecting } :=
    ⟨(World.calls_congr (w := w₂) rfl).trans h₂.calls, h₂.handle, h₂.progress, h₂.files⟩
  exact (connect_gathers s.kernel h₃).bind fun _ w₄ h₄ => ⟨hunits, h₄⟩

end KernelJob.Run
