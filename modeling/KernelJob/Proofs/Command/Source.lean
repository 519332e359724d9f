import KernelJob.Command.Perform

/-! # The source that a command runs

The command `run` is given code or the path of a file, and perhaps the name of a format. That name
is also the name of the parser of the job, and two of these names say where the source comes from.

* **`RunOptions.RunsGiven`** — a configuration runs the code or the file that was given.
* **`RunOptions.Clash`** — the name of the format contradicts where the source comes from.
* **`RunOptions.buildConfig_runsGiven_iff`** — the source is run that was given exactly if there is
  no clash; where there is one, nothing is run. -/

namespace KernelJob

/-! ## The source of a job -/

/-- Something is left of a text that is not blank. -/
theorem Text.trim_ne_nil {t : Text} (h : t.isBlank = false) : t.trim ≠ [] := by
  intro hnil
  rw [Text.trim_eq_nil_iff, h] at hnil
  cases hnil

/-- A text that is not blank, without surrounding blanks. -/
theorem nonBlank_of_not_isBlank {t : Text} (h : t.isBlank = false) :
    nonBlank (some t) = some t.trim := by
  obtain ⟨c, cs, hc⟩ := List.exists_cons_of_ne_nil (Text.trim_ne_nil h)
  simp [nonBlank, hc]

/-- The parsers for code and for files have different names. -/
theorem JobSettings.textParser_ne_fileParser :
    JobSettings.textParser ≠ JobSettings.fileParser := by decide

namespace JobAdapter

variable {s : JobSettings} {mode : SourceMode} {source : Text} {format : Option SourceFormat}

/-- The parser for code reads the code. -/
theorem sourceOf_textParser (h : s.parserName = JobSettings.textParser) :
    sourceOf s = .ok (.inline, s.source, some .text) := by
  rw [sourceOf, if_pos h]

/-- The parser for files reads the file. -/
theorem sourceOf_fileParser (h : s.parserName = JobSettings.fileParser) :
    sourceOf s = .ok (.file, s.filePath.getD [], none) := by
  rw [sourceOf, if_neg (by rw [h]; exact JobSettings.textParser_ne_fileParser.symm), if_pos h]

/-- Without a path every other parser reads the code. -/
theorem sourceOf_of_filePath_none (hpath : s.filePath = none)
    (hparser : s.parserName ≠ JobSettings.fileParser)
    (h : sourceOf s = .ok (mode, source, format)) :
    mode = .inline ∧ source = s.source := by
  unfold sourceOf at h
  rw [if_neg hparser, hpath] at h
  split at h
  · cases h
    exact ⟨rfl, rfl⟩
  · split at h
    · cases h
    · cases h
      exact ⟨rfl, rfl⟩

/-- With a path every other parser reads the file. -/
theorem sourceOf_of_filePath_some {path : Text} (hpath : s.filePath = some path) (hne : path ≠ [])
    (hparser : s.parserName ≠ JobSettings.textParser)
    (h : sourceOf s = .ok (mode, source, format)) :
    mode = .file ∧ source = path := by
  obtain ⟨c, cs, rfl⟩ := List.exists_cons_of_ne_nil hne
  unfold sourceOf at h
  rw [if_neg hparser, hpath] at h
  split at h
  · cases h
    exact ⟨rfl, rfl⟩
  · split at h
    · cases h
    · cases h
      exact ⟨rfl, rfl⟩

/-- A configuration has the mode and the source of its job. -/
theorem sourceOf_of_buildConfig {a : JobAdapter} {workspace : Path} {config : RunConfig}
    (h : a.buildConfig s workspace = .ok config) :
    sourceOf s = .ok (config.mode, config.source, config.format) := by
  unfold buildConfig at h
  split at h
  · cases h
  split at h
  · cases h
  split at h
  · cases h
  · rename_i hsource
    cases h
    exact hsource

end JobAdapter

namespace RunOptions

open JobAdapter

variable {o : RunOptions}

/-! ## The settings of the job -/

/-- **A configuration that runs what was given**: the code, or the file at the path without
surrounding blanks, unless the path is blank. -/
def RunsGiven (o : RunOptions) (config : RunConfig) : Prop :=
  match o.source with
  | .code code => config.mode = .inline ∧ config.source = code
  | .file path => path.isBlank = false → config.mode = .file ∧ config.source = path.trim

/-- **Options that clash**: code with the parser for files as its format, or a path with the parser
for code as its format. -/
def Clash (o : RunOptions) : Prop :=
  match o.source with
  | .code _ => o.format = some JobSettings.fileParser
  | .file path => path.isBlank = false ∧ o.format = some JobSettings.textParser

/-- The settings for code have the code and no path. -/
theorem jobSettings_of_code {code : Text} (h : o.source = .code code) :
    o.jobSettings.source = code ∧ o.jobSettings.filePath = none ∧
      o.jobSettings.parserName = o.parser := by
  rw [jobSettings, h]
  exact ⟨rfl, rfl, rfl⟩

/-- The settings for a path have the path and no code. -/
theorem jobSettings_of_file {path : Text} (h : o.source = .file path) :
    o.jobSettings.source = [] ∧ o.jobSettings.filePath = nonBlank (some path) ∧
      o.jobSettings.parserName = o.parser := by
  rw [jobSettings, h]
  exact ⟨rfl, rfl, rfl⟩

/-- Options name a parser that is not that of their source exactly as their format. -/
theorem parser_eq_iff {name : Text} (hne : name ≠ []) (h : o.source.parser ≠ name) :
    o.parser = name ↔ o.format = some name := by
  unfold parser
  split
  · rename_i c cs hf
    rw [hf, Option.some.injEq]
  · rename_i hf
    refine iff_of_false h fun hsome => ?_
    obtain ⟨c, cs, rfl⟩ := List.exists_cons_of_ne_nil hne
    exact hf c cs hsome

/-- The source of the job for code: the code, unless its format is the parser for files. -/
theorem sourceOf_of_code {code : Text} (ho : o.source = .code code) {mode : SourceMode}
    {source : Text} {format : Option SourceFormat}
    (h : sourceOf o.jobSettings = .ok (mode, source, format)) :
    (o.format ≠ some JobSettings.fileParser ∧ mode = .inline ∧ source = code) ∨
      (o.format = some JobSettings.fileParser ∧ mode = .file ∧ source = []) := by
  obtain ⟨hcode, hpath, hparser⟩ := jobSettings_of_code ho
  have hformat : o.parser = JobSettings.fileParser ↔ o.format = some JobSettings.fileParser :=
    parser_eq_iff (by decide) (by rw [ho]; exact JobSettings.textParser_ne_fileParser)
  rw [Ne, ← hformat, ← hparser]
  by_cases hfile : o.jobSettings.parserName = JobSettings.fileParser
  · -- the file is read, and there is none
    rw [sourceOf_fileParser hfile, hpath] at h
    cases h
    exact .inr ⟨hfile, rfl, rfl⟩
  · obtain ⟨hmode, hsource⟩ := sourceOf_of_filePath_none hpath hfile h
    exact .inl ⟨hfile, hmode, hsource.trans hcode⟩

/-- The source of the job for a file: its path, unless its format is the parser for code. -/
theorem sourceOf_of_file {path : Text} (ho : o.source = .file path) (hblank : path.isBlank = false)
    {mode : SourceMode} {source : Text} {format : Option SourceFormat}
    (h : sourceOf o.jobSettings = .ok (mode, source, format)) :
    (o.format ≠ some JobSettings.textParser ∧ mode = .file ∧ source = path.trim) ∨
      (o.format = some JobSettings.textParser ∧ mode = .inline ∧ source = []) := by
  obtain ⟨hcode, hpath, hparser⟩ := jobSettings_of_file ho
  rw [nonBlank_of_not_isBlank hblank] at hpath
  have hformat : o.parser = JobSettings.textParser ↔ o.format = some JobSettings.textParser :=
    parser_eq_iff (by decide) (by rw [ho]; exact JobSettings.textParser_ne_fileParser.symm)
  rw [Ne, ← hformat, ← hparser]
  by_cases htext : o.jobSettings.parserName = JobSettings.textParser
  · -- the code is read, and there is none
    rw [sourceOf_textParser htext, hcode] at h
    cases h
    exact .inr ⟨htext, rfl, rfl⟩
  · exact .inl ⟨htext, sourceOf_of_filePath_some hpath (Text.trim_ne_nil hblank) htext h⟩

/-- **The source is run that was given** if and only if the options do not clash; if they do, the
configuration has an empty source. -/
theorem buildConfig_runsGiven_iff (a : JobAdapter) (o : RunOptions) (workspace : Path)
    {config : RunConfig} (h : a.buildConfig o.jobSettings workspace = .ok config) :
    (o.RunsGiven config ↔ ¬ o.Clash) ∧ (o.Clash → config.source = []) := by
  have hsource := sourceOf_of_buildConfig h
  unfold RunsGiven Clash
  rcases ho : o.source with code | path
  · rcases sourceOf_of_code ho hsource with ⟨hformat, hmode, hcode⟩ | ⟨hformat, hmode, hempty⟩
    · exact ⟨iff_of_true ⟨hmode, hcode⟩ hformat, fun hclash => absurd hclash hformat⟩
    · refine ⟨iff_of_false (fun hgiven => ?_) fun hclash => hclash hformat, fun _ => hempty⟩
      rw [hmode] at hgiven
      cases hgiven.1
  rcases hblank : path.isBlank with _ | _
  · rcases sourceOf_of_file ho hblank hsource with ⟨hformat, hgiven⟩ | ⟨hformat, hmode, hempty⟩
    · exact ⟨iff_of_true (fun _ => hgiven) fun hclash => hformat hclash.2,
        fun hclash => absurd hclash.2 hformat⟩
    · refine ⟨iff_of_false (fun hgiven => ?_) fun hclash => hclash ⟨hblank, hformat⟩,
        fun _ => hempty⟩
      have hfile := (hgiven hblank).1
      rw [hmode] at hfile
      cases hfile
  · -- a blank path promises nothing
    simp [hblank]

/-- An adapter with a single entry in its registry. -/
def oneKernel : JobAdapter := { registry := ⟨[{}], []⟩ }

/-- A file without a declared format is run. -/
theorem runsGiven_of_file : ∃ config,
    oneKernel.buildConfig (jobSettings { source := .file "job.py", task := "t" }) (.ofText "ws") =
      .ok config ∧ RunsGiven { source := .file "job.py", task := "t" } config := by
  have h : oneKernel.buildConfig (jobSettings { source := .file "job.py", task := "t" })
      (.ofText "ws") = .ok _ := rfl
  exact ⟨_, h, (buildConfig_runsGiven_iff _ _ _ h).1.mpr fun hclash => nomatch hclash.2⟩

/-- A file that is declared to be a text is not run: the run gets an empty piece of code. -/
theorem not_runsGiven_of_text : ∃ config,
    oneKernel.buildConfig
        (jobSettings { source := .file "job.py", format := some "text", task := "t" })
        (.ofText "ws") = .ok config ∧ config.mode = .inline ∧ config.source = [] ∧
    ¬ RunsGiven { source := .file "job.py", format := some "text", task := "t" } config :=
  ⟨_, rfl, rfl, rfl, fun h => nomatch (h rfl).1⟩

end RunOptions

end KernelJob
