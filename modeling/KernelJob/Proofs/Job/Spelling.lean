import KernelJob.Proofs.Command.Source

/-! # The spelling of a parser

The name of a format is read without surrounding blanks and in lower case. The parser of a job is
such a name too, but those for code and for files are compared as they are spelled, before that.

* **`Concur`** — two attempts with the same outcome, or two that fail.
* **`JobSettings.SpellingMatters`** — two spellings of a parser for which the source of a job is not
  the same.
* **`JobAdapter.concur_buildConfig_iff`** — two spellings give the same configuration exactly if
  none can be had or the spelling does not matter. -/

namespace KernelJob

/-- Two attempts **concur** if they give the same, or if both fail. -/
inductive Concur {ε α : Type} : Except ε α → Except ε α → Prop
  | same (a : α) : Concur (.ok a) (.ok a)
  | failed (e e' : ε) : Concur (.error e) (.error e')

namespace Concur

variable {ε α β : Type} {x y : Except ε α}

theorem refl (x : Except ε α) : Concur x x := by
  cases x with
  | ok a => exact .same a
  | error e => exact .failed e e

theorem symm (h : Concur x y) : Concur y x := by
  cases h with
  | same a => exact .same a
  | failed e e' => exact .failed e' e

theorem comm : Concur x y ↔ Concur y x := ⟨symm, symm⟩

/-- What two attempts give is the same if they concur. -/
theorem ok_iff {a b : α} : Concur (.ok a : Except ε α) (.ok b) ↔ a = b := by
  constructor
  · rintro ⟨⟩
    rfl
  · rintro rfl
    exact .same a

/-- Attempts that concur still do after an operation on what they give. -/
theorem map (h : Concur x y) (f : α → β) : Concur (x.map f) (y.map f) := by
  cases h with
  | same a => exact .same (f a)
  | failed e e' => exact .failed e e'

/-- They do so only if they concurred, where the operation keeps apart what it is given. -/
theorem map_iff {f : α → β} (hf : f.Injective) : Concur (x.map f) (y.map f) ↔ Concur x y := by
  refine ⟨fun h => ?_, fun h => h.map f⟩
  cases x with
  | ok a =>
    cases y with
    | ok b => exact ok_iff.mpr (hf (ok_iff.mp h))
    | error e => cases h
  | error e =>
    cases y with
    | ok b => cases h
    | error e' => exact .failed e e'

end Concur

namespace JobSettings

/-- The settings of a job with some parser. -/
def withParser (s : JobSettings) (name : Text) : JobSettings := { s with parser := some name }

/-- Two spellings of a parser for which the source of a job is not the same: one is that of the
parser for files, or one is that of the parser for code and there is a file. -/
def SpellingMatters (s : JobSettings) (m n : Text) : Prop :=
  m ≠ n ∧ ((m = fileParser ∨ n = fileParser) ∨
    ((m = textParser ∨ n = textParser) ∧ s.filePath.getD [] ≠ []))

end JobSettings

namespace JobAdapter

open JobSettings

variable {s : JobSettings} {m n : Text}

/-! ## The source -/

/-- The source of a job whose parser is a format: the file, or else the code. -/
def sourceAs (s : JobSettings) (format : SourceFormat) : SourceMode × Text × Option SourceFormat :=
  if s.filePath.getD [] = [] then (.inline, s.source, some format)
  else (.file, s.filePath.getD [], some format)

/-- A parser that is spelled otherwise than those for code and for files is a format. -/
theorem sourceOf_withParser (ht : n ≠ textParser) (hf : n ≠ fileParser) :
    sourceOf (s.withParser n) = (SourceFormat.parse n).map (sourceAs s) := by
  have hname : (s.withParser n).parserName = n := rfl
  unfold sourceOf
  rw [hname, if_neg ht, if_neg hf]
  cases SourceFormat.parse n with
  | error fault => rfl
  | ok format =>
    dsimp only [Except.map, sourceAs]
    rcases hpath : s.filePath with _ | _ | ⟨c, cs⟩ <;> simp [withParser, hpath, source]

/-- Such a source has a format. -/
theorem sourceAs_format (s : JobSettings) (format : SourceFormat) :
    (sourceAs s format).2.2 = some format := by
  unfold sourceAs
  split <;> rfl

/-- A format is the same under all spellings of its name. -/
theorem parse?_congr (hname : m.normalizedName = n.normalizedName) :
    SourceFormat.parse? m = SourceFormat.parse? n := by
  rw [SourceFormat.parse?, SourceFormat.parse?, hname]

/-- So is the attempt to read it. -/
theorem concur_parse (hname : m.normalizedName = n.normalizedName) :
    Concur (SourceFormat.parse m) (SourceFormat.parse n) := by
  rw [SourceFormat.parse, SourceFormat.parse, parse?_congr hname]
  cases SourceFormat.parse? n with
  | none => exact .failed _ _
  | some format => exact .same format

theorem parse_of_parse? {format : SourceFormat} (h : SourceFormat.parse? n = some format) :
    SourceFormat.parse n = .ok format := by
  rw [SourceFormat.parse, h]

/-- Another spelling of the parser for files is a format, which files alone do not have. -/
theorem not_concur_fileParser (hne : n ≠ fileParser)
    (hname : fileParser.normalizedName = n.normalizedName) :
    ¬ Concur (sourceOf (s.withParser fileParser)) (sourceOf (s.withParser n)) := by
  have ht : n ≠ textParser := by
    rintro rfl
    exact absurd hname (by decide)
  have hparse : SourceFormat.parse n = .ok .plainFile :=
    parse_of_parse? ((parse?_congr hname).symm.trans (by decide))
  rw [sourceOf_withParser ht hne, hparse, sourceOf_fileParser rfl, Except.map, Concur.ok_iff]
  intro heq
  have hformat := sourceAs_format s .plainFile
  rw [← heq] at hformat
  cases hformat

/-- Another spelling of the parser for code is a format too, that of code; it is one of the file if
there is one. -/
theorem concur_textParser_iff (hne : n ≠ textParser)
    (hname : textParser.normalizedName = n.normalizedName) :
    Concur (sourceOf (s.withParser textParser)) (sourceOf (s.withParser n)) ↔
      s.filePath.getD [] = [] := by
  have hf : n ≠ fileParser := by
    rintro rfl
    exact absurd hname (by decide)
  have hparse : SourceFormat.parse n = .ok .text :=
    parse_of_parse? ((parse?_congr hname).symm.trans (by decide))
  rw [sourceOf_withParser hne hf, hparse, sourceOf_textParser rfl, Except.map, Concur.ok_iff,
    sourceAs]
  split
  · rename_i hpath
    exact iff_of_true rfl hpath
  · rename_i hpath
    exact iff_of_false nofun hpath

/-- **Two spellings of a parser** give a job the same source if and only if the spelling does not
matter. -/
theorem concur_sourceOf_iff (hname : m.normalizedName = n.normalizedName) :
    Concur (sourceOf (s.withParser m)) (sourceOf (s.withParser n)) ↔ ¬ s.SpellingMatters m n := by
  unfold SpellingMatters
  by_cases hmn : m = n
  · rw [hmn]
    exact iff_of_true (.refl _) fun h => h.1 rfl
  by_cases hmf : m = fileParser
  · subst hmf
    exact iff_of_false (not_concur_fileParser (Ne.symm hmn) hname)
      (not_not_intro ⟨hmn, .inl (.inl rfl)⟩)
  by_cases hnf : n = fileParser
  · subst hnf
    exact iff_of_false (fun h => not_concur_fileParser hmn hname.symm h.symm)
      (not_not_intro ⟨hmn, .inl (.inr rfl)⟩)
  by_cases hmt : m = textParser
  · subst hmt
    simp [concur_textParser_iff (Ne.symm hmn) hname, hmn, hmf, hnf]
  by_cases hnt : n = textParser
  · subst hnt
    have hconcur := concur_textParser_iff (s := s) hmn hname.symm
    rw [Concur.comm, hconcur]
    simp [hmn, hmf, hnf]
  · -- both are formats
    rw [sourceOf_withParser hmt hmf, sourceOf_withParser hnt hnf]
    exact iff_of_true ((concur_parse hname).map _) (by simp [hmf, hnf, hmt, hnt])

/-! ## The configuration -/

/-- The configuration with a given entry and source. -/
def configOn (a : JobAdapter) (s : JobSettings) (workspace : Path) (server : Server)
    (source : SourceMode × Text × Option SourceFormat) : RunConfig where
  kernel := server.kernel
  serverName := server.serverName
  launchTimeout := server.launchTimeout
  maxResults := server.maxResults
  mode := source.1
  source := source.2.1
  format := source.2.2
  task := s.label
  workspace := workspace
  executionTimeout := server.executionTimeout
  connectionFile := pathOf server.connectionFile
  artifactDirectory := a.artifactDirectory

theorem configOn_injective (a : JobAdapter) (s : JobSettings) (workspace : Path)
    (server : Server) : (a.configOn s workspace server).Injective := by
  rintro ⟨mode, source, format⟩ ⟨mode', source', format'⟩ h
  have hmode : mode = mode' := congrArg RunConfig.mode h
  have hsource : source = source' := congrArg RunConfig.source h
  have hformat : format = format' := congrArg RunConfig.format h
  rw [hmode, hsource, hformat]

variable {a : JobAdapter} {workspace : Path}

/-- With a label and an entry for the kernel, the configuration depends on the source alone. -/
theorem buildConfig_withParser {server : Server} (hn : n ≠ []) (hlabel : s.label ≠ [])
    (hget : a.registry.get s.kernel = .ok server) :
    a.buildConfig (s.withParser n) workspace =
      (sourceOf (s.withParser n)).map (a.configOn s workspace server) := by
  have hcomplete : ¬ ((s.withParser n).parserName = [] ∨ (s.withParser n).label = []) :=
    not_or.mpr ⟨hn, hlabel⟩
  have hkernel : a.registry.get (s.withParser n).kernel = .ok server := hget
  rw [buildConfig, if_neg hcomplete, hkernel]
  cases sourceOf (s.withParser n) <;> rfl

/-- Without one of them there is no configuration. -/
theorem buildConfig_fails (workspace : Path)
    (h : ¬ (s.label ≠ [] ∧ ∃ server, a.registry.get s.kernel = .ok server)) :
    ∃ fault, a.buildConfig s workspace = .error fault := by
  unfold buildConfig
  split
  · exact ⟨_, rfl⟩
  rename_i hcomplete
  split
  · exact ⟨_, rfl⟩
  · rename_i server hserver
    exact absurd ⟨fun hlabel => hcomplete (.inr hlabel), server, hserver⟩ h

/-- **Two spellings of a parser** give a job the same configuration, or none, if and only if the job
has no label or no entry or the spelling does not matter. -/
theorem concur_buildConfig_iff (a : JobAdapter) (s : JobSettings) (workspace : Path) {m n : Text}
    (hm : m ≠ []) (hn : n ≠ []) (hname : m.normalizedName = n.normalizedName) :
    Concur (a.buildConfig (s.withParser m) workspace) (a.buildConfig (s.withParser n) workspace) ↔
      ¬ ((s.label ≠ [] ∧ ∃ server, a.registry.get s.kernel = .ok server) ∧
        s.SpellingMatters m n) := by
  by_cases hready : s.label ≠ [] ∧ ∃ server, a.registry.get s.kernel = .ok server
  · obtain ⟨hlabel, server, hget⟩ := hready
    rw [buildConfig_withParser hm hlabel hget, buildConfig_withParser hn hlabel hget,
      Concur.map_iff (a.configOn_injective s workspace server), concur_sourceOf_iff hname,
      and_iff_right ⟨hlabel, server, hget⟩]
  · obtain ⟨fault, hfault⟩ := buildConfig_fails (a := a) (s := s.withParser m) workspace hready
    obtain ⟨fault', hfault'⟩ := buildConfig_fails (a := a) (s := s.withParser n) workspace hready
    rw [hfault, hfault']
    exact iff_of_true (.failed _ _) fun h => hready h.1

/-- A job on a notebook. -/
def notebookJob : JobSettings := .entered (some []) (some "nb.ipynb") none (some "t") none

/-- The spelling of a format does not matter. -/
theorem concur_buildConfig_notebook :
    Concur
      (RunOptions.oneKernel.buildConfig (notebookJob.withParser "notebook") (.ofText "ws"))
      (RunOptions.oneKernel.buildConfig (notebookJob.withParser " NoteBook\t") (.ofText "ws")) :=
  (concur_buildConfig_iff _ _ _ (by decide) (by decide) (by decide)).mpr fun h =>
    absurd h.2 (by unfold SpellingMatters; decide)

/-- That of the parser for files does: in capitals it makes a file of code of a notebook. -/
theorem not_concur_buildConfig_file :
    Text.normalizedName "file" = Text.normalizedName "FILE" ∧
    ¬ Concur
      (RunOptions.oneKernel.buildConfig (notebookJob.withParser "file") (.ofText "ws"))
      (RunOptions.oneKernel.buildConfig (notebookJob.withParser "FILE") (.ofText "ws")) := by
  refine ⟨by decide, fun h => ?_⟩
  have hsame := Concur.ok_iff.mp h
  exact absurd (congrArg RunConfig.effectiveFormat hsame) (by decide)

end JobAdapter

end KernelJob
