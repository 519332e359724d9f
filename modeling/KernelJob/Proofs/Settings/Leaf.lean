import KernelJob.Proofs.Settings.Merge
import KernelJob.Settings.Model

/-! # Leaves of the settings

The settings are read from one object, and each of their parts from its own place there: the
registry and the default kernel at the top, the paths and the switches of logging in a section. Each
of these parts is a leaf. An object is read as settings if and only if each leaf is valid at its
place, and then the settings hold the values of the leaves.

* **`Leaf`** — the leaves, with the place, the default and the check of each.
* **`Leaf.check_congr`** — values that are alike pass the same checks.
* **`Settings.ofFields_eq_ok_iff`** — an object is read leaf by leaf. -/

namespace KernelJob

/-- A value that is read if it is there, or another one. -/
def Checked.valueOr {α : Type} (other : α) (read : Json → Checked α) : Option Json → Checked α
  | none => .ok other
  | some v => read v

/-- A **leaf** of the settings: a part that is taken as a whole. -/
inductive Leaf
  | servers
  | defaultKernel
  | workspace
  | artifactDirectory
  | reportFile
  | logLevel
  | console
deriving DecidableEq, Repr

namespace Leaf

/-- The section that a leaf is in, if it is in one. -/
def section? : Leaf → Option Text
  | .servers | .defaultKernel => none
  | .workspace | .artifactDirectory | .reportFile => some "paths"
  | .logLevel | .console => some "logging"

/-- The key of a leaf. -/
def name : Leaf → Text
  | .servers => "servers"
  | .defaultKernel => "default_kernel"
  | .workspace => "workspace_path"
  | .artifactDirectory => "artifact_dir"
  | .reportFile => "report_file"
  | .logLevel => "log_level"
  | .console => "console_logging"

/-- What a leaf holds. -/
abbrev Value : Leaf → Type
  | .servers => List Server
  | .defaultKernel | .workspace | .artifactDirectory | .reportFile => Text
  | .logLevel => LogLevel
  | .console => Bool

/-- What a leaf holds if nothing sets it. -/
def default : (l : Leaf) → l.Value
  | .servers => ([{}] : List Server)
  | .defaultKernel | .workspace | .artifactDirectory | .reportFile => ([] : Text)
  | .logLevel => LogLevel.info
  | .console => false

/-- What a leaf holds if it is set to a value, which has to be valid. -/
def read : (l : Leaf) → Json → Checked l.Value
  | .servers => Checked.list Server.read
  | .defaultKernel | .workspace | .artifactDirectory | .reportFile =>
    fun v => Checked.ofReading v.readText
  | .logLevel => fun v => Checked.ofReading (LogSettings.readLevel v)
  | .console => fun v => Checked.ofReading v.readBool

/-- What a leaf holds in some settings. -/
def of (s : Settings) : (l : Leaf) → l.Value
  | .servers => s.servers
  | .defaultKernel => s.defaultKernel
  | .workspace => s.paths.workspace
  | .artifactDirectory => s.paths.artifactDirectory
  | .reportFile => s.paths.reportFile
  | .logLevel => s.logging.level
  | .console => s.logging.console

/-- What a leaf holds if it is set to a value or not at all. -/
def check (l : Leaf) : Option Json → Checked l.Value := Checked.valueOr l.default l.read

/-- The value at the place of a leaf in an object. -/
def within (l : Leaf) (fields : Fields) : Option Json :=
  match l.section? with
  | none => fields.get? l.name
  | some s => fields.inSection? s l.name

/-- What holds of every leaf holds of each of the seven. -/
theorem forall_iff {P : Leaf → Prop} :
    (∀ l, P l) ↔ ((P .servers ∧ P .defaultKernel) ∧ P .workspace ∧ P .artifactDirectory ∧
      P .reportFile) ∧ P .logLevel ∧ P .console := by
  constructor
  · intro h
    exact ⟨⟨⟨h _, h _⟩, h _, h _, h _⟩, h _, h _⟩
  · rintro ⟨⟨⟨h₁, h₂⟩, h₃, h₄, h₅⟩, h₆, h₇⟩ l
    cases l <;> assumption

/-- No leaf is set to an object. -/
theorem read_object (l : Leaf) (fields : Fields) (x : l.Value) :
    l.read (.object fields) ≠ .ok x := by
  cases l <;> exact nofun

/-- **Values that are alike pass the same checks.** -/
theorem check_congr {v w : Option Json} (h : Alike v w) (l : Leaf) (x : l.Value) :
    l.check v = .ok x ↔ l.check w = .ok x := by
  rcases h with rfl | ⟨fs, gs, rfl, rfl⟩
  · exact Iff.rfl
  · exact iff_of_false (l.read_object fs x) (l.read_object gs x)

end Leaf

/-! ## Reading settings -/

namespace Checked

variable {α β ε ε' : Type}

/-- A value is passed on as what is made of it. -/
theorem map_eq_ok_iff {x : Except ε α} {f : α → β} {b : β} :
    x.map f = .ok b ↔ ∃ a, x = .ok a ∧ f a = b := by
  cases x with
  | error e => exact ⟨nofun, fun ⟨_, ha, _⟩ => nomatch ha⟩
  | ok a =>
    constructor
    · intro h
      exact ⟨a, rfl, Except.ok.inj h⟩
    · rintro ⟨_, ha, rfl⟩
      rw [Except.ok.inj ha]
      rfl

/-- A value is passed on as it is where failures are put in other words. -/
theorem mapError_eq_ok_iff {x : Except ε α} {f : ε → ε'} {a : α} :
    x.mapError f = .ok a ↔ x = .ok a := by
  cases x with
  | error e => exact ⟨nofun, nofun⟩
  | ok b =>
    constructor
    · intro h
      exact congrArg _ (Except.ok.inj h)
    · intro h
      rw [Except.ok.inj h]
      rfl

/-- The place of a value does not matter for its check. -/
theorem under_eq_ok_iff {x : Checked α} {step : Step} {a : α} :
    x.under step = .ok a ↔ x = .ok a := by
  cases x with
  | ok b => exact Iff.rfl
  | error es => exact ⟨nofun, nofun⟩

/-- A field is checked at its key, or has another value. -/
theorem fieldOr_eq_ok_iff {fields : Fields} {key : Text} {other a : α} {read : Json → Checked α} :
    fieldOr fields key other read = .ok a ↔ valueOr other read (fields.get? key) = .ok a := by
  rw [fieldOr]
  cases fields.get? key with
  | none => exact Iff.rfl
  | some v => exact under_eq_ok_iff

end Checked

variable {fields : Fields}

/-- A section that is missing has its defaults. -/
theorem Leaf.within_eq_none {l : Leaf} {s : Text} (hl : l.section? = some s)
    (h : fields.get? s = none) : l.within fields = none := by
  rw [within, hl]
  dsimp only
  rw [Fields.inSection?, h]

/-- A leaf of a section is at its key there. -/
theorem Leaf.within_eq {l : Leaf} {s : Text} {sub : Fields} (hl : l.section? = some s)
    (h : fields.get? s = some (.object sub)) : l.within fields = sub.get? l.name := by
  rw [within, hl]
  dsimp only
  rw [Fields.inSection?, h]

/-- The paths are read leaf by leaf. -/
theorem PathSettings.ofFields_eq_ok_iff {p : PathSettings} :
    ofFields fields = .ok p ↔
      Leaf.workspace.check (fields.get? Leaf.workspace.name) = .ok p.workspace ∧
      Leaf.artifactDirectory.check (fields.get? Leaf.artifactDirectory.name) =
        .ok p.artifactDirectory ∧
      Leaf.reportFile.check (fields.get? Leaf.reportFile.name) = .ok p.reportFile := by
  rw [ofFields, Checked.map_eq_ok_iff]
  simp only [Checked.both_eq_ok_iff, Checked.fieldOr_eq_ok_iff]
  constructor
  · rintro ⟨⟨workspace, artifacts, report⟩, h, rfl⟩
    exact h
  · intro h
    exact ⟨(p.workspace, p.artifactDirectory, p.reportFile), h, rfl⟩

/-- The switches of logging are read leaf by leaf. -/
theorem LogSettings.ofFields_eq_ok_iff {g : LogSettings} :
    ofFields fields = .ok g ↔
      Leaf.logLevel.check (fields.get? Leaf.logLevel.name) = .ok g.level ∧
      Leaf.console.check (fields.get? Leaf.console.name) = .ok g.console := by
  rw [ofFields, Checked.map_eq_ok_iff]
  simp only [Checked.both_eq_ok_iff, Checked.fieldOr_eq_ok_iff]
  constructor
  · rintro ⟨⟨level, console⟩, h, rfl⟩
    exact h
  · intro h
    exact ⟨(g.level, g.console), h, rfl⟩

/-- So are they in their section, which may be missing. -/
theorem PathSettings.fieldOr_eq_ok_iff {p : PathSettings}
    (hobject : ∀ v, fields.get? "paths" = some v → ∃ sub, v = .object sub) :
    Checked.fieldOr fields "paths" {} PathSettings.read = .ok p ↔
      Leaf.workspace.check (Leaf.workspace.within fields) = .ok p.workspace ∧
      Leaf.artifactDirectory.check (Leaf.artifactDirectory.within fields) =
        .ok p.artifactDirectory ∧
      Leaf.reportFile.check (Leaf.reportFile.within fields) = .ok p.reportFile := by
  rw [Checked.fieldOr_eq_ok_iff]
  cases hget : fields.get? "paths" with
  | none =>
    -- without fields there are only defaults
    have hdefault : ofFields [] = .ok p ↔ _ := ofFields_eq_ok_iff
    rw [Leaf.within_eq_none rfl hget, Leaf.within_eq_none rfl hget, Leaf.within_eq_none rfl hget]
    exact hdefault
  | some v =>
    obtain ⟨sub, rfl⟩ := hobject v hget
    rw [Leaf.within_eq rfl hget, Leaf.within_eq rfl hget, Leaf.within_eq rfl hget]
    exact ofFields_eq_ok_iff

theorem LogSettings.fieldOr_eq_ok_iff {g : LogSettings}
    (hobject : ∀ v, fields.get? "logging" = some v → ∃ sub, v = .object sub) :
    Checked.fieldOr fields "logging" {} LogSettings.read = .ok g ↔
      Leaf.logLevel.check (Leaf.logLevel.within fields) = .ok g.level ∧
      Leaf.console.check (Leaf.console.within fields) = .ok g.console := by
  rw [Checked.fieldOr_eq_ok_iff]
  cases hget : fields.get? "logging" with
  | none =>
    have hdefault : ofFields [] = .ok g ↔ _ := ofFields_eq_ok_iff
    rw [Leaf.within_eq_none rfl hget, Leaf.within_eq_none rfl hget]
    exact hdefault
  | some v =>
    obtain ⟨sub, rfl⟩ := hobject v hget
    rw [Leaf.within_eq rfl hget, Leaf.within_eq rfl hget]
    exact ofFields_eq_ok_iff

/-- The sections of the settings. -/
def Settings.sections : List Text := ["paths", "logging"]

/-- **An object is read leaf by leaf**, if its sections are objects: it is read as some settings if
and only if each leaf is valid at its place and the settings hold its value. -/
theorem Settings.ofFields_eq_ok_iff {s : Settings}
    (hobject : ∀ k ∈ sections, ∀ v, fields.get? k = some v → ∃ sub, v = .object sub) :
    Settings.ofFields fields = .ok s ↔ ∀ l : Leaf, l.check (l.within fields) = .ok (l.of s) := by
  rw [Settings.ofFields, Checked.map_eq_ok_iff, Leaf.forall_iff]
  have hpaths {p : PathSettings} :=
    PathSettings.fieldOr_eq_ok_iff (p := p) (hobject "paths" (by decide))
  have hlogging {g : LogSettings} :=
    LogSettings.fieldOr_eq_ok_iff (g := g) (hobject "logging" (by decide))
  obtain ⟨servers, kernel, paths, logging⟩ := s
  simp only [Checked.both_eq_ok_iff, hpaths, hlogging]
  simp only [Checked.fieldOr_eq_ok_iff, Settings.mk.injEq]
  constructor
  · rintro ⟨p, ⟨⟨h₁, h₂⟩, hp, hg⟩, rfl, rfl, rfl, rfl⟩
    exact ⟨⟨⟨h₁, h₂⟩, hp⟩, hg⟩
  · rintro ⟨⟨⟨h₁, h₂⟩, hp⟩, hg⟩
    exact ⟨((servers, kernel), paths, logging), ⟨⟨h₁, h₂⟩, hp, hg⟩, rfl, rfl, rfl, rfl⟩

end KernelJob
