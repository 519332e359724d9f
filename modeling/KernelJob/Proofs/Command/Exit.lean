import KernelJob.Proofs.Settings.Clean
import KernelJob.Proofs.Settings.Loading

/-! # The exit code of a run

The command that runs a job exits with 0 if the report of the job succeeded, with 1 if it failed,
and with 2 before anything is started if there are no settings. It keeps to that if the files of
settings can be looked up and the variables for lists and objects hold JSON. Settings that are not
valid count as misuse, but a file or a variable that cannot be read at all ends the command with a
failure that no rule is for.

* **`Shell.ExitTells`** — what an exit code says of the job and of the settings.
* **`Shell.run_of_loaded`** — a run with settings exits with the verdict of its job.
* **`Shell.exitTells_invoke_iff`** — when the exit code of a run says what it should. -/

namespace KernelJob

variable {shell : Shell} {site : Site} {o : RunOptions} {s : Settings}

/-! ## Layers that cannot be read -/

/-- Whether a fault is that of a layer, and no complaint about the settings of all layers. -/
def SettingsFault.IsOfLayer : SettingsFault → Prop
  | .unparsable _ | .file _ => True
  | .invalid _ | .encoding _ => False

/-- A variable for a list or an object gives what it holds, or does not hold JSON. -/
theorem Environment.yields_compound (env : Environment) (field : Text) :
    Yields (env.compound? field) (fun _ => True) SettingsFault.IsOfLayer := by
  unfold compound?
  split <;> split <;> trivial

theorem Environment.yields_layer (env : Environment) :
    Yields env.layer (fun _ => True) SettingsFault.IsOfLayer := by
  have hfault {field : Text} {fault : SettingsFault}
      (h : env.lowered.compound? field = .error fault) : fault.IsOfLayer := by
    have hcompound := env.lowered.yields_compound field
    rw [h] at hcompound
    exact hcompound
  unfold layer
  dsimp only
  split
  · rename_i hservers
    exact hfault hservers
  · rename_i hpaths _
    exact hfault hpaths
  · rename_i hlogging _ _
    exact hfault hlogging
  · trivial

namespace Settings

variable {surroundings : Surroundings} {files : FileTree}

/-- **Layers fail for a file or for a variable**, whatever the settings in them. -/
theorem yields_layers (surroundings : Surroundings) (files : FileTree) (values : Fields) :
    Yields (layers surroundings files values) (fun _ => True) SettingsFault.IsOfLayer := by
  have hfound : Yields ((SettingsFiles.existing surroundings files).mapError SettingsFault.file)
      (fun _ => True) SettingsFault.IsOfLayer := by
    cases SettingsFiles.existing surroundings files <;> trivial
  exact hfound.bind fun _ _ => surroundings.env.yields_layer.bind fun _ _ => trivial

/-- There are layers if the files can be looked up and the variables hold JSON, and only then. -/
theorem exists_layers_iff : (∃ ls, layers surroundings files [] = .ok ls) ↔
    (∃ found, SettingsFiles.existing surroundings files = .ok found) ∧
      surroundings.env.Parses := by
  cases hfound : SettingsFiles.existing surroundings files with
  | error fault =>
    constructor
    · rintro ⟨ls, hls⟩
      rw [layers, hfound] at hls
      cases hls
    · rintro ⟨⟨found, h⟩, -⟩
      cases h
  | ok found =>
    constructor
    · rintro ⟨ls, hls⟩
      exact ⟨⟨found, rfl⟩, ((layers_eq_ok_iff hfound).mp hls).1⟩
    · rintro ⟨-, hparses⟩
      exact ⟨_, (layers_eq_ok_iff hfound).mpr ⟨hparses, rfl⟩⟩

end Settings

/-! ## Runs -/

/-- Nothing was asked of a kernel. -/
def Outcome.StartsNothing (r : Outcome) : Prop := ∀ e ∈ r.trace, e.call? = none

namespace Shell

/-- The world that a command with some settings runs its job in: the log is open. -/
def jobWorld (shell : Shell) (site : Site) (o : RunOptions) (s : Settings) : World :=
  .atStart (shell.openLog site (o.logLevel s) (o.console || s.logging.console)).1.files
    shell.kernelAlive

/-- **A usable shell**: the log can be opened, and all texts that a run is given are clean. The path
of a report, from the options or from the settings, can be sent. -/
structure Usable (shell : Shell) (site : Site) (o : RunOptions) : Prop where
  log : ∀ level console fault, (shell.openLog site level console).2 ≠ .error fault
  kernel : shell.kernel.Clean
  task : o.task.Clean
  kernelName : (o.kernel.getD []).Clean
  settings : ∀ ls, Settings.layers shell.surroundings site.files [] = .ok ls →
    ∀ layer ∈ ls, Json.Clean (.object layer)
  report : ∀ s, shell.settings site = .ok s → ∀ path, o.reportFile s = some path → path.Sendable

/-- **What the exit code of a run says.** No failure but the exit leaves the command. With settings
the code is 0 or 1 after the report of the job, and 2 without a kernel says that there are no
settings. No other file for the report changes it, whether that can be written or not. -/
structure ExitTells (shell : Shell) (site : Site) (o : RunOptions) (r : Outcome) : Prop where
  fatal : r.fatal = none
  job : ∀ s, shell.settings site = .ok s →
    let w := shell.jobWorld site o s
    ∃ report v, o.job s shell.kernel w.files w = (.ok report, v) ∧
      (r.exitCode = 0 ↔ report.succeeded = true) ∧ (r.exitCode = 1 ↔ report.succeeded = false)
  misused : r.exitCode = 2 ∧ r.StartsNothing ↔ ∃ fault, shell.settings site = .error fault
  report : ∀ path : Path, path.Sendable →
    (shell.run site { o with report := some path }).exitCode = r.exitCode

/-- Without layers there are no settings. -/
theorem settings_of_unreadable {fault : SettingsFault}
    (hls : Settings.layers shell.surroundings site.files [] = .error fault) :
    shell.settings site = .error fault := by
  rw [settings, Settings.load, hls]
  rfl

/-- With layers there are settings with clean entries in a usable shell, or settings that are not
valid. -/
theorem Usable.yields_settings (h : shell.Usable site o) {ls : List Fields}
    (hls : Settings.layers shell.surroundings site.files [] = .ok ls) :
    Yields (shell.settings site) (fun s => ∀ server ∈ s.servers, server.Clean)
      fun fault => ∃ es, fault = .invalid es :=
  Settings.load_of_clean hls (h.settings ls hls)

/-- Settings with clean entries are loaded in a usable shell. -/
theorem Usable.servers (h : shell.Usable site o) (hs : shell.settings site = .ok s) :
    ∀ server ∈ s.servers, server.Clean := by
  cases hls : Settings.layers shell.surroundings site.files [] with
  | error fault =>
    rw [settings_of_unreadable hls] at hs
    cases hs
  | ok ls =>
    have hsettings := h.yields_settings hls
    rw [hs] at hsettings
    exact hsettings

/-- Another file for the report leaves a shell usable. -/
theorem Usable.withReport (h : shell.Usable site o) {path : Path} (hpath : path.Sendable) :
    shell.Usable site { o with report := some path } where
  log := h.log
  kernel := h.kernel
  task := h.task
  kernelName := h.kernelName
  settings := h.settings
  report s _ path' hpath' := by
    obtain rfl : path = path' := Option.some.inj hpath'
    exact hpath

/-- **A run with settings exits with the verdict of its job**, and with no failure. -/
theorem run_of_loaded (h : shell.Usable site o) (hs : shell.settings site = .ok s) :
    let w := shell.jobWorld site o s
    ∃ report v, o.job s shell.kernel w.files w = (.ok report, v) ∧
      (shell.run site o).fatal = none ∧
      (shell.run site o).exitCode = if report.succeeded then 0 else 1 := by
  have hclean : (shell.jobWorld site o s).Clean :=
    ⟨Text.clean_nil, ⟨Text.clean_nil, Text.clean_nil, Text.clean_nil, List.forall_mem_nil _,
      List.forall_mem_nil _⟩⟩
  obtain ⟨report, unwritten, v, v', hjob, hperform⟩ :=
    o.perform_reports h.kernel h.task h.kernelName (h.servers hs) (h.report s hs) hclean
  refine ⟨report, v, hjob, ?_⟩
  unfold jobWorld at hperform
  unfold run withSettings
  rw [hs]
  dsimp only
  -- the world of the job is the one that opening the log leaves
  have hlog := h.log (o.logLevel s) (o.console || s.logging.console)
  revert hlog hperform
  rcases shell.openLog site (o.logLevel s) (o.console || s.logging.console) with
    ⟨opened, fault | target⟩
  · intro _ hlog
    exact absurd rfl (hlog fault)
  · intro hperform _
    dsimp only at hperform ⊢
    rw [hperform]
    exact ⟨rfl, rfl⟩

/-- Without settings nothing is made of the options of a run. -/
theorem run_of_unloaded {fault : SettingsFault} (hs : shell.settings site = .error fault)
    (o o' : RunOptions) : shell.run site o = shell.run site o' := by
  unfold run withSettings
  rw [hs]
  cases fault <;> rfl

/-- Settings that are not valid count as misuse, and nothing is started. -/
theorem run_of_invalid {es : List Complaint} (hs : shell.settings site = .error (.invalid es)) :
    (shell.run site o).fatal = none ∧ (shell.run site o).exitCode = 2 ∧
      (shell.run site o).StartsNothing := by
  unfold run withSettings
  rw [hs]
  exact ⟨rfl, rfl, List.forall_mem_nil _⟩

/-- Layers that cannot be read end a run with a failure. -/
theorem run_of_unreadable {fault : SettingsFault}
    (hls : Settings.layers shell.surroundings site.files [] = .error fault) :
    (shell.run site o).fatal = some (.settings fault) := by
  have hlayers := Settings.yields_layers shell.surroundings site.files []
  rw [hls] at hlayers
  unfold run withSettings
  rw [settings_of_unreadable hls]
  cases fault with
  | invalid es => exact hlayers.elim
  | _ => rfl

/-! ## The exit code -/

/-- **The exit code of a run says what it should** if there are layers of settings. -/
theorem exitTells_of_layers (h : shell.Usable site o) {ls : List Fields}
    (hls : Settings.layers shell.surroundings site.files [] = .ok ls) :
    shell.ExitTells site o (shell.run site o) := by
  have hsettings := h.yields_settings hls
  cases hs : shell.settings site with
  | error fault =>
    rw [hs] at hsettings
    obtain ⟨es, rfl⟩ := hsettings
    obtain ⟨hfatal, hcode, hnothing⟩ := run_of_invalid (o := o) hs
    exact {
      fatal := hfatal
      job := fun s hs' => by rw [hs] at hs'; cases hs'
      misused := ⟨fun _ => ⟨_, hs⟩, fun _ => ⟨hcode, hnothing⟩⟩
      report := fun path _ => congrArg Outcome.exitCode (run_of_unloaded hs _ _) }
  | ok s =>
    obtain ⟨report, v, hjob, hfatal, hcode⟩ := run_of_loaded h hs
    refine ⟨hfatal, ?_, ?_, ?_⟩
    · intro s' hs'
      rw [hs] at hs'
      cases hs'
      refine ⟨report, v, hjob, ?_⟩
      rw [hcode]
      cases report.succeeded <;> decide
    · constructor
      · rintro ⟨htwo, -⟩
        rw [hcode] at htwo
        split at htwo <;> cases htwo
      · rintro ⟨fault, hs'⟩
        rw [hs] at hs'
        cases hs'
    · intro path hpath
      obtain ⟨report', v', hjob', -, hcode'⟩ := run_of_loaded (h.withReport hpath) hs
      -- the job does not look at where its report goes
      have hsame : (Except.ok report', v') = (Except.ok report, v) := hjob'.symm.trans hjob
      obtain ⟨hreport, -⟩ := Prod.mk.inj hsame
      rw [hcode, hcode', Except.ok.inj hreport]

/-- **When the exit code of a run says what it should.** Let arguments ask for a run in a usable
shell. Then no failure leaves the command, and it exits with 0 or 1 after the report of its job or,
exactly if there are no settings, with 2 and no kernel started, whatever becomes of the file of the
report; that is so exactly if the files of settings can be looked up and the variables for lists and
objects hold JSON. -/
theorem exitTells_invoke_iff {args : List Text}
    (hread : Command.read site.files args = .ok (.run o)) (h : shell.Usable site o) :
    shell.ExitTells site o (shell.invoke site args) ↔
      (∃ found, SettingsFiles.existing shell.surroundings site.files = .ok found) ∧
        shell.surroundings.env.Parses := by
  have hinvoke : shell.invoke site args = shell.run site o := by
    unfold invoke
    rw [hread]
    rfl
  rw [hinvoke, ← Settings.exists_layers_iff]
  constructor
  · intro htells
    cases hls : Settings.layers shell.surroundings site.files [] with
    | ok ls => exact ⟨ls, rfl⟩
    | error fault =>
      have hfatal : (shell.run site o).fatal = some (.settings fault) := run_of_unreadable hls
      rw [htells.fatal] at hfatal
      cases hfatal
  · rintro ⟨ls, hls⟩
    exact exitTells_of_layers h hls

/-- A shell in which some variables are set. -/
def smokeShell (env : Environment) : Shell := { surroundings := { env := env }, kernel := {} }

/-- The arguments for a small job. -/
def smokeArguments : List Text := ["run", "--code", "print(1)", "--task", "smoke"]

/-- The options that they stand for. -/
def smokeOptions : RunOptions := { source := .code "print(1)", task := "smoke" }

/-- A shell is usable for a small job if its log can be opened, its layers are clean and its
settings want no report. -/
theorem usable_smoke {env : Environment}
    (hlog : ∀ level console fault,
      ((smokeShell env).openLog ⟨{}, {}⟩ level console).2 ≠ .error fault)
    (hlayers : ∀ ls, Settings.layers { env := env } {} [] = .ok ls →
      ∀ layer ∈ ls, Json.Clean (.object layer))
    (hreport : ∀ s, (smokeShell env).settings ⟨{}, {}⟩ = .ok s →
      smokeOptions.reportFile s = none) :
    (smokeShell env).Usable ⟨{}, {}⟩ smokeOptions where
  log := hlog
  kernel := by
    have hnone : ∀ error ∈ Kernel.errors {}, error = none := by decide
    refine ⟨fun error hmem e he => ?_, List.forall_mem_nil _, fun _ => List.forall_mem_nil _⟩
    rw [hnone error hmem] at he
    cases he
  task := Text.clean_ofString _
  kernelName := Text.clean_nil
  settings := hlayers
  report s hs path hpath := by
    rw [hreport s hs] at hpath
    cases hpath

/-- Without any variables or files there are settings, and the exit code says what it should. -/
theorem exitTells_invoke_smoke :
    Command.read {} smokeArguments = .ok (.run smokeOptions) ∧
      (smokeShell []).Usable ⟨{}, {}⟩ smokeOptions ∧
      (smokeShell []).settings ⟨{}, {}⟩ = .ok {} ∧
      (smokeShell []).ExitTells ⟨{}, {}⟩ smokeOptions
        ((smokeShell []).invoke ⟨{}, {}⟩ smokeArguments) := by
  have hread : Command.read {} smokeArguments = .ok (.run smokeOptions) := rfl
  have hlayers : Settings.layers { env := [] } {} [] = .ok (List.replicate 6 []) := rfl
  have hsettings : (smokeShell []).settings ⟨{}, {}⟩ = .ok {} := rfl
  have husable : (smokeShell []).Usable ⟨{}, {}⟩ smokeOptions := by
    refine usable_smoke (fun level console fault h => by cases h) ?_ ?_
    · intro ls hls layer hlayer
      rw [hlayers] at hls
      obtain rfl := Except.ok.inj hls
      obtain rfl : layer = [] := List.eq_of_mem_replicate hlayer
      exact .object (List.forall_mem_nil _) (List.forall_mem_nil _)
    · intro s hs
      rw [hsettings] at hs
      obtain rfl := Except.ok.inj hs
      rfl
  have hparses : Environment.Parses [] := fun _ _ t ht => by cases ht
  exact ⟨hread, husable, hsettings, (exitTells_invoke_iff hread husable).mpr ⟨⟨_, rfl⟩, hparses⟩⟩

/-- A variable for the registry that holds no JSON. -/
def unparsableVariables : Environment := [("IPYJOB_SERVERS", "oops")]

/-- There the command ends with a failure, while no settings should count as misuse. -/
theorem not_exitTells_invoke_unparsable :
    Command.read {} smokeArguments = .ok (.run smokeOptions) ∧
      (smokeShell unparsableVariables).Usable ⟨{}, {}⟩ smokeOptions ∧
      ¬ (smokeShell unparsableVariables).ExitTells ⟨{}, {}⟩ smokeOptions
        ((smokeShell unparsableVariables).invoke ⟨{}, {}⟩ smokeArguments) := by
  have hlayers : Settings.layers { env := unparsableVariables } {} [] =
      .error (.unparsable "servers") := rfl
  have hsettings : (smokeShell unparsableVariables).settings ⟨{}, {}⟩ =
      .error (.unparsable "servers") := rfl
  refine ⟨rfl, usable_smoke (fun level console fault h => by cases h) ?_ ?_, ?_⟩
  · intro ls hls
    rw [hlayers] at hls
    cases hls
  · intro s hs
    rw [hsettings] at hs
    cases hs
  · intro htells
    have hfatal : some (Fatal.settings (.unparsable "servers")) = none := htells.fatal
    cases hfatal

end Shell

end KernelJob
