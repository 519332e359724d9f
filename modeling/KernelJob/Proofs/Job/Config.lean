import KernelJob.Proofs.Command.Source
import KernelJob.Proofs.Settings.Server

/-! # The configuration that a job is run with

What a run needs is checked twice: entries are checked when the registry is read, and the
configuration of a run when the run begins. A job with a label whose entry passed the first check
passes the second.

* **`RunConfig.StartsOn`** — a configuration that a run starts with, on some entry.
* **`JobAdapter.startsOn_of_buildConfig`** — the configuration of a job starts on the entry that the
  registry chooses for it. -/

namespace KernelJob

/-! ## The kernel of a job -/

/-- A text that is blank is no text. -/
theorem nonBlank_of_isBlank {t : Text} (h : t.isBlank = true) : nonBlank (some t) = none := by
  simp [nonBlank, Text.trim_eq_nil_iff.mpr h]

/-- Looking up the kernel of a job gives the entry that the registry chooses. -/
theorem Registry.chooses_of_get {r : Registry} {kernel : Option Text} {s : Server}
    (h : r.get (nonBlank kernel) = .ok s) : r.Chooses kernel s := by
  have hfind := find?_of_get h
  rw [find?] at hfind
  rcases kernel with _ | name
  · split at hfind
    · rename_i hdefault
      exact .atHead rfl hdefault hfind
    · rename_i hdefault
      exact .byDefault rfl hdefault (isFirst_of_find? hfind)
  cases hblank : name.isBlank with
  | false =>
    rw [nonBlank_of_not_isBlank hblank, nameFor_some (Text.trim_ne_nil hblank),
      if_neg (Text.trim_ne_nil hblank)] at hfind
    exact .named rfl hblank (isFirst_of_find? hfind)
  | true =>
    rw [nonBlank_of_isBlank hblank] at hfind
    split at hfind
    · rename_i hdefault
      exact .atHead hblank hdefault hfind
    · rename_i hdefault
      exact .byDefault hblank hdefault (isFirst_of_find? hfind)

/-! ## The configuration -/

/-- Everything about the kernel of a configuration is from an entry. -/
structure RunConfig.IsOn (config : RunConfig) (s : Server) : Prop where
  kernel : config.kernel = s.kernel
  serverName : config.serverName = s.serverName
  launchTimeout : config.launchTimeout = s.launchTimeout
  maxResults : config.maxResults = s.maxResults
  executionTimeout : config.executionTimeout = s.executionTimeout
  connectionFile : config.connectionFile = JobAdapter.pathOf s.connectionFile

/-- **A configuration that a run starts with**, on an entry. -/
structure RunConfig.StartsOn (config : RunConfig) (s : Server) : Prop extends config.IsOn s where
  check : config.check = .ok ()

/-- On a valid entry a configuration passes the check if its label is not blank and code has a
format. -/
theorem RunConfig.IsOn.check {config : RunConfig} {s : Server} (h : config.IsOn s) (hs : s.Valid)
    (htask : config.task.isBlank = false) (hformat : config.mode = .inline → config.format ≠ none) :
    config.check = .ok () := by
  have hkernel : ¬ config.kernel.isBlank = true := by rw [h.kernel, hs.kernel]; exact nofun
  have htask : ¬ config.task.isBlank = true := by rw [htask]; exact nofun
  have hlimit : ¬ config.maxResults < 0 := by
    rw [h.maxResults]
    exact Int.not_lt.mpr hs.maxResults
  have hlaunch : ¬ config.launchTimeout ≤ 0.0 := by
    rw [h.launchTimeout]
    exact not_le_zero_of_pos hs.launchTimeout
  unfold RunConfig.check
  rw [if_neg hkernel, if_neg htask, if_neg fun h => hformat h.1 h.2, if_neg hlimit, if_neg hlaunch]
  split
  · rename_i x hx
    exact if_neg (not_le_zero_of_pos (hs.executionTimeout x (h.executionTimeout.symm.trans hx)))
  · rfl

namespace JobAdapter

variable {s : JobSettings}

/-- The source of a job has a format if it is code. -/
theorem format_ne_none_of_sourceOf {source : Text} {format : Option SourceFormat}
    (h : sourceOf s = .ok (.inline, source, format)) : format ≠ none := by
  unfold sourceOf at h
  split at h
  · cases h
    exact nofun
  split at h
  · cases h
  split at h
  · cases h
  · split at h
    · cases h
    · cases h
      exact nofun

/-- A configuration is on the entry that was looked up, with the label of the job. -/
theorem isOn_of_buildConfig {a : JobAdapter} {workspace : Path} {config : RunConfig}
    (h : a.buildConfig s workspace = .ok config) :
    ∃ server, a.registry.get s.kernel = .ok server ∧ config.IsOn server ∧
      config.task = s.label := by
  unfold buildConfig at h
  split at h
  · cases h
  split at h
  · cases h
  rename_i server hserver
  split at h
  · cases h
  · cases h
    exact ⟨server, hserver, ⟨rfl, rfl, rfl, rfl, rfl, rfl⟩, rfl⟩

/-- **The checks of the registry suffice for a run**: if its entries were read, then a configuration
for a job with a label passes the check of the run, on the entry that the registry chooses. -/
theorem startsOn_of_buildConfig (a : JobAdapter) (code filePath parser task kernel : Option Text)
    (workspace : Path) {config : RunConfig}
    (hread : ∀ server ∈ a.registry.servers, ∃ v, Server.read v = .ok server)
    (htask : Text.isBlank (task.getD []) = false)
    (h : a.buildConfig (.entered code filePath parser task kernel) workspace = .ok config) :
    ∃ server, a.registry.Chooses kernel server ∧ config.StartsOn server := by
  obtain ⟨server, hget, hon, hlabel⟩ := isOn_of_buildConfig h
  obtain ⟨v, hv⟩ := hread server (Registry.mem_of_get hget)
  have hformat : config.mode = .inline → config.format ≠ none := by
    intro hmode
    have hsource := sourceOf_of_buildConfig h
    rw [hmode] at hsource
    exact format_ne_none_of_sourceOf hsource
  exact ⟨server, Registry.chooses_of_get hget, hon,
    hon.check (Server.valid_of_read hv) (by rw [hlabel]; exact htask) hformat⟩

/-- The fields of an entry that waits for its kernel for any time. -/
def patientFields : Json :=
  .object [("kernel", .text " ir "), ("launch_timeout", .text "inf"), ("max_results", .int 0)]

/-- An adapter with that entry as the second one. -/
def twoKernels : JobAdapter where
  registry :=
    ⟨[{}, { kernel := "ir", launchTimeout := positiveInfinity, maxResults := 0 }], "python3"⟩

/-- A job on the second of two entries, named with blanks around it. -/
theorem startsOn_twoKernels : ∃ config,
    twoKernels.buildConfig (.entered (some "1") none (some "text") (some "t") (some "\tir "))
      (.ofText "ws") = .ok config ∧
    ∃ server, twoKernels.registry.Chooses (some "\tir ") server ∧ config.StartsOn server := by
  refine ⟨_, rfl, startsOn_of_buildConfig twoKernels (some "1") none (some "text") (some "t")
    (some "\tir ") (.ofText "ws") ?_ (by decide) rfl⟩
  intro server hserver
  rcases List.mem_cons.mp hserver with rfl | hserver
  · exact ⟨.object [], rfl⟩
  · obtain rfl := List.mem_singleton.mp hserver
    exact ⟨patientFields, rfl⟩

end JobAdapter

end KernelJob
