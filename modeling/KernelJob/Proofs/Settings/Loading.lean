import KernelJob.Proofs.Settings.Variables

/-! # Loading settings leaf by leaf

Each leaf of the loaded settings has the value of the first source that sets it, and its default if
none does: first come the program's own variables, then those that job systems set, then the files
of the project, the user and the system. What other sources say of the leaf is not looked at, and
neither is what any source says of another leaf.

* **`Settings.load_eq_ok_iff`** — what is loaded, leaf by leaf.
* **`Settings.current_layered`** — what is in use after a reload, and what follows from it. -/

namespace KernelJob.Settings

variable {s : Surroundings} {files : FileTree} {found : SettingsFiles (Option Path)}

/-- The layers are those of the sources, and one of values given by hand. -/
theorem layers_eq_ok_iff (hfound : SettingsFiles.existing s files = .ok found)
    {ls : List Fields} :
    layers s files [] = .ok ls ↔ s.env.Parses ∧
      Source.ranked.map (Sources.of s files found).layer ++ [[]] = ls := by
  have hfile (p : Option Path) : fileLayer files p =
      Environment.namedFields Environment.fieldNames (Sources.tableIn files p) := by
    cases p with
    | none => rfl
    | some p =>
      rw [fileLayer, Sources.tableIn]
      cases files.read p <;> rfl
  have hlayers : layers s files [] = s.env.layer.map fun own =>
      [own, s.env.jobLayer, fileLayer files found.project, fileLayer files found.user,
        fileLayer files found.system, []] := by
    rw [layers, hfound]
    cases s.env.layer <;> rfl
  rw [hlayers, hfile, hfile, hfile, Checked.map_eq_ok_iff]
  simp only [Environment.layer_eq_ok_iff]
  constructor
  · rintro ⟨_, ⟨hparses, rfl⟩, rfl⟩
    exact ⟨hparses, rfl⟩
  · rintro ⟨hparses, rfl⟩
    exact ⟨_, ⟨hparses, rfl⟩, rfl⟩

/-- All layers are tidy. -/
theorem tidy_layers {S : Sources} (htabular : S.Tabular) (hdistinct : S.Distinct) :
    ∀ layer ∈ Source.ranked.map S.layer ++ [[]], Tidy sections layer := by
  rw [List.forall_mem_append, List.forall_mem_map, List.forall_mem_singleton]
  exact ⟨fun source _ => htabular.tidy_layer hdistinct source, Tidy.nil⟩

/-- What the merge of the layers says of a leaf is what the first source says that sets it. -/
theorem alike_within_merge {S : Sources} (htabular : S.Tabular) (hdistinct : S.Distinct)
    (l : Leaf) :
    Alike (l.within (mergeLayers (Source.ranked.map S.layer ++ [[]]))) (S.first? l) := by
  have htidy := tidy_layers htabular hdistinct
  have hfirst : (Source.ranked.map S.layer ++ [[]]).findSome? l.within = S.first? l := by
    have hempty : l.within [] = none := by cases l <;> rfl
    rw [List.findSome?_append, List.findSome?_map, List.findSome?_singleton, hempty,
      Option.or_none]
    exact congrArg (List.findSome? · Source.ranked) (funext (S.within_layer l))
  rw [← hfirst]
  cases hsection : l.section? with
  | none =>
    have hwithin : l.within = Fields.get? l.name := funext fun fields => by
      rw [Leaf.within, hsection]
    rw [hwithin]
    exact get?_mergeLayers htidy l.name
  | some k =>
    have hwithin : l.within = Fields.inSection? k l.name := funext fun fields => by
      rw [Leaf.within, hsection]
    have hk : k ∈ sections := by
      cases l <;> simp only [Leaf.section?, Option.some.injEq, reduceCtorEq] at hsection <;>
        rw [← hsection] <;> decide
    rw [hwithin]
    exact inSection_mergeLayers htidy hk l.name

/-- The merge of the layers is read leaf by leaf. -/
theorem ofFields_merge_eq_ok_iff {S : Sources} (htabular : S.Tabular) (hdistinct : S.Distinct)
    {cfg : Settings} :
    ofFields (mergeLayers (Source.ranked.map S.layer ++ [[]])) = .ok cfg ↔
      ∀ l : Leaf, l.check (S.first? l) = .ok (l.of cfg) := by
  have htidy := Tidy.mergeLayers (tidy_layers htabular hdistinct)
  have hobject : ∀ k ∈ sections, ∀ v,
      (mergeLayers (Source.ranked.map S.layer ++ [[]])).get? k = some v →
        ∃ sub, v = .object sub := by
    intro k hk v hv
    obtain ⟨sub, hsub, -⟩ := htidy.sections k hk v hv
    exact ⟨sub, hsub⟩
  rw [ofFields_eq_ok_iff hobject]
  exact forall_congr' fun l => l.check_congr (alike_within_merge htabular hdistinct l) _

/-- **What is loaded, leaf by leaf**: the first source that sets a leaf is checked. -/
theorem load_eq_ok_iff (hfound : SettingsFiles.existing s files = .ok found)
    (htabular : (Sources.of s files found).Tabular) {cfg : Settings} :
    load s files [] = .ok cfg ↔ s.env.Parses ∧
      ∀ l : Leaf, l.check ((Sources.of s files found).first? l) = .ok (l.of cfg) := by
  have hmerge : _ ↔ ∀ l : Leaf, _ = Except.ok (l.of cfg) :=
    ofFields_merge_eq_ok_iff htabular (Sources.distinct_of s files found)
  have hload (ls : List Fields) (hls : layers s files [] = .ok ls) :
      load s files [] = .ok cfg ↔ ofFields (mergeLayers ls) = .ok cfg := by
    rw [load, hls]
    exact Checked.mapError_eq_ok_iff
  constructor
  · intro h
    cases hlayers : layers s files [] with
    | error fault =>
      rw [load, hlayers] at h
      cases h
    | ok ls =>
      have hread := (hload ls hlayers).mp h
      obtain ⟨hparses, rfl⟩ := (layers_eq_ok_iff hfound).mp hlayers
      exact ⟨hparses, hmerge.mp hread⟩
  · rintro ⟨hparses, h⟩
    exact (hload _ ((layers_eq_ok_iff hfound).mpr ⟨hparses, rfl⟩)).mpr (hmerge.mpr h)

/-- Settings that are loaded anew are those in use. -/
theorem current_reload (kept : Option Settings) (loaded : Except SettingsFault Settings) :
    (current kept true loaded).1 = loaded := by
  cases kept <;> cases loaded <;> rfl

/-- **Settings are layered leaf by leaf.** Let some files be found, and let paths and logging be
tables wherever they are given. Then after a reload the settings in use hold for each leaf the
checked value of the first source that sets it, or the default; and there are settings in use if the
variables for lists and objects hold JSON and those values are valid, whatever else the sources say.
The variable of a leaf, which names its section and its key, comes before all other sources. In
particular what a leaf holds does not change with what is said of another leaf. -/
theorem current_layered (hfound : SettingsFiles.existing s files = .ok found)
    (htabular : (Sources.of s files found).Tabular) (kept : Option Settings) :
    (∀ cfg, (current kept true (load s files [])).1 = .ok cfg ↔ s.env.Parses ∧
      ∀ l : Leaf, l.check ((Sources.of s files found).first? l) = .ok (l.of cfg)) ∧
    (s.env.Parses → (∀ l : Leaf, ∃ x, l.check ((Sources.of s files found).first? l) = .ok x) →
      ∃ cfg, (current kept true (load s files [])).1 = .ok cfg) ∧
    (∀ (l : Leaf) section_ t, l.section? = some section_ →
      lastNamed? (Environment.nameStart ++ section_) s.env = none →
      lastNamed? (Environment.nameStart ++ section_ ++ Environment.separator ++ l.name) s.env =
        some t →
      (Sources.of s files found).first? l = some (.text t)) ∧
    ∀ s' files' found' kept' cfg cfg', SettingsFiles.existing s' files' = .ok found' →
      (Sources.of s' files' found').Tabular →
      (current kept true (load s files [])).1 = .ok cfg →
      (current kept' true (load s' files' [])).1 = .ok cfg' →
      ∀ l : Leaf, (∀ source, (Sources.of s' files' found').value l source =
        (Sources.of s files found).value l source) → l.of cfg' = l.of cfg := by
  simp only [current_reload]
  refine ⟨fun cfg => load_eq_ok_iff hfound htabular, fun hparses hvalid => ?_, ?_, ?_⟩
  · obtain ⟨servers, hservers⟩ := hvalid .servers
    obtain ⟨kernel, hkernel⟩ := hvalid .defaultKernel
    obtain ⟨workspace, hworkspace⟩ := hvalid .workspace
    obtain ⟨artifacts, hartifacts⟩ := hvalid .artifactDirectory
    obtain ⟨report, hreport⟩ := hvalid .reportFile
    obtain ⟨level, hlevel⟩ := hvalid .logLevel
    obtain ⟨console, hconsole⟩ := hvalid .console
    refine ⟨⟨servers, kernel, ⟨workspace, artifacts, report⟩, ⟨level, console⟩⟩, ?_⟩
    rw [load_eq_ok_iff hfound htabular, Leaf.forall_iff]
    exact ⟨hparses, ⟨⟨hservers, hkernel⟩, hworkspace, hartifacts, hreport⟩, hlevel, hconsole⟩
  · intro l section_ t hl hwhole hvar
    have hown : (Sources.of s files found).value l .own = some (.text t) :=
      Leaf.inVariables?_of_nested hl hwhole hvar
    rw [Sources.first?, Source.ranked, List.findSome?_cons, hown]
  · intro s' files' found' _ cfg cfg' hfound' htabular' h h' l hsame
    have hfirst : (Sources.of s' files' found').first? l = (Sources.of s files found).first? l :=
      congrArg (List.findSome? · Source.ranked) (funext hsame)
    have hcheck := ((load_eq_ok_iff hfound htabular).mp h).2 l
    have hcheck' := ((load_eq_ok_iff hfound' htabular').mp h').2 l
    rw [hfirst, hcheck] at hcheck'
    exact (Except.ok.inj hcheck').symm

/-- A project whose file names a default kernel that is no text. -/
def layeredFiles : FileTree where
  entries := [(["w"], .directory), (["w", "ipyjob.toml"], .file
    (("default_kernel = 5\n[paths]\nartifact_dir = \"out\"\n[Logging]\nlog_level = \"debug\"\n" :
      Text).flatMap Text.utf8Point))]
  workingDirectory := ["w"]

/-- A job system names the kernel and a workspace; a variable of the program names another one. -/
def layeredSurroundings : Surroundings where
  env := [("IPYJOB_KERNEL", "julia"), ("WORKSPACE", "/job"),
    ("IPYJOB_PATHS__WORKSPACE_PATH", "/own")]

/-- The sources there: the file of the project is found. -/
def layeredSources : Sources :=
  .of layeredSurroundings layeredFiles ⟨none, none, some ⟨.slash, ["w", "ipyjob.toml"]⟩⟩

/-- Each leaf takes the first value, and the invalid default kernel below it does no harm. -/
theorem current_layered_invalid :
    Leaf.defaultKernel.check (layeredSources.value .defaultKernel .project) =
      .error [⟨[], .notText⟩] ∧
    ∃ cfg, (current none true (load layeredSurroundings layeredFiles [])).1 = .ok cfg ∧
      cfg.defaultKernel = "julia" ∧ cfg.paths = ⟨"/own", "out", []⟩ ∧
      cfg.logging = ⟨.debug, false⟩ := by
  have hfound : SettingsFiles.existing layeredSurroundings layeredFiles =
      .ok ⟨none, none, some ⟨.slash, ["w", "ipyjob.toml"]⟩⟩ := rfl
  have hlayered := current_layered hfound (by decide +kernel) none
  have hparses : layeredSurroundings.env.Parses := by
    have hnone : ∀ field ∈ Environment.compoundNames,
        lastNamed? (Environment.nameStart ++ field) layeredSurroundings.env = none := by decide
    intro field hfield t ht
    rw [hnone field hfield] at ht
    exact nomatch ht
  have hinvalid : Leaf.defaultKernel.check (layeredSources.value .defaultKernel .project) =
      .error [⟨[], .notText⟩] := by decide +kernel
  have hservers : layeredSources.first? .servers = none :=
    Option.isNone_iff_eq_none.mp (by decide +kernel)
  have hkernel : Leaf.defaultKernel.check (layeredSources.first? .defaultKernel) =
      .ok ("julia" : Text) := by decide +kernel
  have hpaths : Leaf.workspace.check (layeredSources.first? .workspace) = .ok ("/own" : Text) ∧
      Leaf.artifactDirectory.check (layeredSources.first? .artifactDirectory) =
        .ok ("out" : Text) ∧
      Leaf.reportFile.check (layeredSources.first? .reportFile) = .ok [] := by
    decide +kernel
  have hlogging : Leaf.logLevel.check (layeredSources.first? .logLevel) = .ok .debug ∧
      Leaf.console.check (layeredSources.first? .console) = .ok false := by
    decide +kernel
  refine ⟨hinvalid, ⟨[{}], "julia", ⟨"/own", "out", []⟩, ⟨.debug, false⟩⟩,
    (hlayered.1 _).mpr ⟨hparses, Leaf.forall_iff.mpr ?_⟩, rfl, rfl, rfl⟩
  exact ⟨⟨⟨congrArg Leaf.servers.check hservers, hkernel⟩, hpaths⟩, hlogging⟩

end KernelJob.Settings
