import KernelJob.Command.Perform
import KernelJob.Proofs.FileTree.Sendable
import KernelJob.Proofs.Job.Config
import KernelJob.Proofs.Run.Clean

/-! # The report of a job

A job ends with a report whether it was started or not. The report is written to a file where one is
wanted; a report whose texts are clean can always be written down, so that nothing but the operating
system keeps it from its file, and that is no failure of the job.

* **`JobAdapter.perform_reports`** — a job ends with a clean report.
* **`Report.write_reports`** — a clean report is written, or the operating system reports why not.
* **`RunOptions.perform_reports`** — a command ends with the report of its job. -/

namespace KernelJob

open KernelJob.Action

variable {w : World}

/-! ## Jobs -/

/-- The names of an entry are clean. -/
structure Server.Clean (s : Server) : Prop where
  kernel : s.kernel.Clean
  serverName : s.serverName.Clean

/-- A configuration on a clean entry is clean if its label is. -/
theorem RunConfig.IsOn.clean {config : RunConfig} {s : Server} (h : config.IsOn s) (hs : s.Clean)
    (htask : config.task.Clean) : config.Clean :=
  ⟨h.kernel ▸ hs.kernel, h.serverName ▸ hs.serverName, htask⟩

/-- **A job ends with a clean report**, whether it was started or not. -/
theorem JobAdapter.perform_reports (a : JobAdapter) {s : JobSettings} {task : Text}
    (hs : s.task = some task) (htask : task.Clean) (hname : (s.kernel.getD []).Clean)
    (hservers : ∀ server ∈ a.registry.servers, server.Clean) (workspace : Path)
    {setting : Run.Setting} (hk : setting.kernel.Clean) (hsink : setting.sink.Prints)
    (hw : w.Clean) :
    (a.perform s workspace setting).Ensures w (fun report _ => ∀ t ∈ report.texts, t.Clean)
      fun _ _ => False := by
  unfold perform
  cases hbuild : a.buildConfig s workspace with
  | error fault =>
    have hfault : ("Configuration error: " ++ fault.message).Clean := by simp
    have hlogged {r : LogRecord} : (w.push (.record r)).Clean := ⟨hw.kernel, hw.progress⟩
    dsimp only
    rw [ensures_bind, ensures_record]
    refine (emit_taken hsink hfault hlogged).bind fun _ w hw => ?_
    refine (emit_taken hsink (Text.clean_ofString _) hw).bind fun _ w hw => ?_
    rw [ensures_ofExcept, notStarted, hs]
    simp [Except.mapError, Report.texts, htask, hname]
  | ok config =>
    obtain ⟨server, hget, hon, hlabel⟩ := isOn_of_buildConfig hbuild
    have htask' : config.task.Clean := by
      rw [hlabel, JobSettings.label, hs]
      exact htask
    have hconfig := hon.clean (hservers server (Registry.mem_of_get hget)) htask'
    exact (Run.run_reports hk hsink hconfig hw.kernel).bind fun _ _ hreport => hreport

/-! ## The file of a report -/

/-- **A clean report is written** to a path that can be sent, or the operating system reports why
not. -/
theorem Report.write_reports {r : Report} (hr : ∀ t ∈ r.texts, t.Clean) {path : Path}
    (hp : path.Sendable) (w : World) :
    (r.write path).Ensures w (fun _ _ => True) fun e _ => e.isOs = true := by
  obtain ⟨t, htext, ht⟩ := fileText_of_clean hr
  obtain ⟨bytes, hbytes⟩ := Text.exists_utf8From_eq (Text.clean_iff.mp ht) 0
  have hbytes : Text.utf8 t = .ok bytes := hbytes
  have hmake := w.files.yields_makeDirectories hp.parent
  have hwrite := (w.files.makeDirectories path.parent).1.yields_write hp bytes
  unfold write
  rw [ensures_bind, ensures_world]
  dsimp only
  rw [ensures_bind, ensures_change]
  cases hmade : (w.files.makeDirectories path.parent).2 with
  | error fault =>
    rw [hmade] at hmake
    exact hmake
  | ok _ =>
    dsimp only
    rw [ensures_bind, ensures_ofExcept, htext]
    dsimp only [Except.mapError]
    rw [hbytes, ArtifactStore.writeContent]
    cases hfile : (w.files.makeDirectories path.parent).1.write path bytes with
    | error fault =>
      rw [hfile] at hwrite
      exact hwrite
    | ok files => trivial

/-- Writing a clean report where one is wanted is no failure of the job. -/
theorem Report.writeTo_reports {r : Report} (hr : ∀ t ∈ r.texts, t.Clean) {path? : Option Path}
    (hp : ∀ path, path? = some path → path.Sendable) (w : World) :
    (r.writeTo path?).Ensures w (fun _ _ => True) fun _ _ => False := by
  cases path? with
  | none => trivial
  | some path =>
    unfold writeTo
    rw [ensures_bind, ensures_attempt]
    refine (write_reports hr (hp path rfl) w).mono (fun _ _ _ => trivial) ?_
    intro e w' he
    dsimp only
    rw [if_pos he]
    trivial

/-! ## Commands -/

/-- The job of a command. -/
def RunOptions.job (o : RunOptions) (s : Settings) (kernel : Kernel) (files : FileTree) :
    Action Report :=
  (o.adapter s).perform o.jobSettings (o.workspaceIn s files) ⟨kernel, printingSink⟩

/-- A line can be printed if and only if it is clean. -/
theorem Outcome.printFault?_eq_none_iff {line : Text} :
    printFault? line = none ↔ line.Clean := by
  rw [printFault?, Text.utf8Fault?_eq_none_iff, ← Text.clean_iff]
  simp [printed]

/-- **A receiver that prints lines** prints those that are clean. -/
theorem printingSink_prints : printingSink.Prints where
  accepts _ line hline := by
    show (Outcome.printFault? line).map Failure.encoding = none
    rw [Outcome.printFault?_eq_none_iff.mpr hline]
    rfl
  complains _ line e h := by
    obtain ⟨fault, -, rfl⟩ := Option.map_eq_some_iff.mp h
    exact .of_message fault.clean_message rfl

/-- A name without the blanks around it is clean if the name is. -/
theorem clean_nonBlank {name : Option Text} (h : (name.getD []).Clean) :
    ((nonBlank name).getD []).Clean := by
  cases name with
  | none => exact Text.clean_nil
  | some t =>
    have ht : t.trim.Clean := Text.Clean.trim h
    unfold nonBlank
    split
    · rename_i heq
      rw [← Option.some.inj heq]
      exact ht
    · exact Text.clean_nil

/-- The settings of a job hold its label and its kernel, without the blanks around it. -/
theorem RunOptions.jobSettings_eq (o : RunOptions) :
    o.jobSettings.task = some o.task ∧ o.jobSettings.kernel = nonBlank o.kernel := by
  unfold jobSettings
  split <;> exact ⟨rfl, rfl⟩

/-- A command runs its job, writes the report and logs its verdict. -/
theorem RunOptions.perform_eq {o : RunOptions} {s : Settings} {kernel : Kernel} {report : Report}
    {unwritten : Option (Path × Failure)} {v v' : World}
    (hjob : o.job s kernel w.files w = (.ok report, v))
    (hwrite : report.writeTo (o.reportFile s) v = (.ok unwritten, v')) :
    o.perform s kernel w = (.ok (report, unwritten), v'.push
      (.record ⟨.info, .command, o.task ++ ":Exiting with status " ++ report.verdict⟩)) := by
  unfold job at hjob
  unfold perform
  rw [bind_apply, world_apply]
  dsimp only
  rw [bind_apply, hjob]
  dsimp only
  rw [bind_apply, hwrite]
  rfl

/-- **A command ends with the report of its job**, whatever becomes of the file of the report. -/
theorem RunOptions.perform_reports (o : RunOptions) {s : Settings} {kernel : Kernel}
    (hk : kernel.Clean) (htask : o.task.Clean) (hname : (o.kernel.getD []).Clean)
    (hservers : ∀ server ∈ s.servers, server.Clean)
    (hpath : ∀ path, o.reportFile s = some path → path.Sendable) (hw : w.Clean) :
    ∃ report unwritten v v', o.job s kernel w.files w = (.ok report, v) ∧
      o.perform s kernel w = (.ok (report, unwritten), v') := by
  obtain ⟨htasks, hkernels⟩ := o.jobSettings_eq
  have hjob : (o.job s kernel w.files).Ensures w (fun report _ => ∀ t ∈ report.texts, t.Clean)
      fun _ _ => False :=
    (o.adapter s).perform_reports htasks htask (hkernels ▸ clean_nonBlank hname) hservers _ hk
      printingSink_prints hw
  unfold Ensures at hjob
  rcases hreport : o.job s kernel w.files w with ⟨e | report, v⟩
  · rw [hreport] at hjob
    exact hjob.elim
  rw [hreport] at hjob
  have hwritten := Report.writeTo_reports hjob hpath v
  unfold Ensures at hwritten
  rcases hwrite : report.writeTo (o.reportFile s) v with ⟨e | unwritten, v'⟩
  · rw [hwrite] at hwritten
    exact hwritten.elim
  exact ⟨report, unwritten, v, _, rfl, perform_eq hreport hwrite⟩

end KernelJob
