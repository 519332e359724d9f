import KernelJob.Proofs.Settings.Leaf
import KernelJob.Proofs.Toml.Distinct
import KernelJob.Settings.Files

/-! # Sources of settings

Settings come from the program's own variables, from variables that job systems set, and from the
files of the project, the user and the system. Each source sets some of the leaves. The layer that
is made of a source says of each leaf what the source sets it to, and it is tidy if the source gives
paths and logging as tables.

* **`Sources.value`** — what a source sets a leaf to.
* **`Sources.Tabular`** — paths and logging are tables wherever a source gives them.
* **`Sources.within_layer`** — the layer of a source says what the source sets.
* **`Sources.tidy_layer`** — and it is tidy. -/

namespace KernelJob

/-! ## Names in any letter case -/

/-- The value of a name in any letter case; of several the first counts. -/
def firstNamed? {α : Type} (name : Text) (entries : List (Text × α)) : Option α :=
  (entries.find? fun e => e.1.lower == name).map Prod.snd

/-- The value of a name in any letter case; of several the last counts. -/
def lastNamed? {α : Type} (name : Text) (entries : List (Text × α)) : Option α :=
  firstNamed? name entries.reverse

/-- The value that was set last is read. -/
theorem Fields.get?_foldl_set (rename : Text × Json → Text) (fields start : Fields) (key : Text) :
    Fields.get? key (fields.foldl (fun fs f => fs.set (rename f) f.2) start) =
      ((fields.reverse.find? fun f => rename f == key).map Prod.snd).or (start.get? key) := by
  induction fields generalizing start with
  | nil => rfl
  | cons f fs ih =>
    rw [List.foldl_cons, ih, get?_set, List.reverse_cons, List.find?_append, Option.map_or,
      Option.or_assoc]
    by_cases h : rename f = key
    · simp [h]
    · simp [h]

/-- A variable is read in any letter case. -/
theorem Environment.get?_lowered (env : Environment) (name : Text) :
    env.lowered.get? name = lastNamed? name env := by
  have hset (env : Environment) (n v : Text) :
      (env.set n v).get? name = if n = name then some v else env.get? name := by
    by_cases h : n = name
    · rw [h, get?_set, if_pos rfl]
    · rw [get?_set_of_ne v env (Ne.symm h), if_neg h]
  have hfold (start : Environment) :
      (env.foldl (fun e v => e.set v.1.lower v.2) start).get? name =
        (lastNamed? name env).or (start.get? name) := by
    induction env generalizing start with
    | nil => rfl
    | cons v env ih =>
      rw [List.foldl_cons, ih, hset, lastNamed?, lastNamed?, firstNamed?, firstNamed?,
        List.reverse_cons, List.find?_append, Option.map_or, Option.or_assoc]
      by_cases h : v.1.lower = name
      · simp [h]
      · simp [h]
  rw [lowered, hfold]
  exact Option.or_none

namespace Environment

/-- A key is renamed to a name that it is but for letter case. -/
theorem get?_renameKeys {names : List Text} (hlower : ∀ n ∈ names, n.lower = n) {name : Text}
    (hname : name ∈ names) (fields : Fields) :
    (renameKeys names fields).get? name = lastNamed? name fields := by
  rw [renameKeys, Fields.get?_foldl_set]
  have hrename (f : Text × Json) :
      ((names.find? (· == f.1.lower)).getD f.1 == name) = (f.1.lower == name) := by
    cases hfind : names.find? (· == f.1.lower) with
    | some n =>
      have hn := List.find?_some hfind
      rw [Option.getD_some, beq_iff_eq.mp hn]
    | none =>
      -- the key is no name in any letter case, so it is not this one
      have hother : f.1.lower ≠ name := by
        rintro rfl
        exact absurd (List.find?_eq_none.mp hfind _ hname) (by simp)
      have hself : f.1 ≠ name := by
        intro heq
        exact hother (by rw [heq, hlower name hname])
      rw [Option.getD_none, beq_false_of_ne hself, beq_false_of_ne hother]
  simp only [hrename]
  exact Option.or_none

/-- Renamed keys are distinct. -/
theorem nodup_renameKeys (names : List Text) (fields : Fields) :
    ((renameKeys names fields).map Prod.fst).Nodup := by
  have hfold : ∀ start : Fields, (start.map Prod.fst).Nodup →
      ((fields.foldl (fun fs f =>
        fs.set ((names.find? (· == f.1.lower)).getD f.1) f.2) start).map Prod.fst).Nodup := by
    induction fields with
    | nil => exact fun start h => h
    | cons f fs ih => exact fun start h => ih _ (Fields.nodup_set h _ _)
  exact hfold [] List.nodup_nil

/-- The field of a name is that of the first key for it. -/
theorem get?_namedFields (names : List Text) (fields : Fields) {name : Text}
    (hname : name ∈ names) : (namedFields names fields).get? name = firstNamed? name fields := by
  have hcons (n : Text) (ns : List Text) : namedFields (n :: ns) fields =
      fieldIf n (firstNamed? n fields) ++ namedFields ns fields := by
    rw [namedFields, List.filterMap_cons, firstNamed?]
    cases fields.find? fun f => f.1.lower == n <;> rfl
  induction names with
  | nil => exact nomatch hname
  | cons n ns ih =>
    rw [hcons]
    by_cases hn : n = name
    · subst hn
      cases hfirst : firstNamed? n fields with
      | some v => rw [fieldIf, List.singleton_append, Fields.get?_cons, if_pos rfl]
      | none =>
        rw [fieldIf, List.nil_append]
        by_cases hmem : n ∈ ns
        · rw [ih hmem, hfirst]
        · refine Fields.get?_of_notMem fun hkey => hmem ?_
          obtain ⟨f, hf, rfl⟩ := List.mem_map.mp hkey
          obtain ⟨m, hm, hf⟩ := List.mem_filterMap.mp hf
          obtain ⟨g, -, rfl⟩ := Option.map_eq_some_iff.mp hf
          exact hm
    · have hrest := ih ((List.mem_cons.mp hname).resolve_left (Ne.symm hn))
      cases firstNamed? n fields with
      | some v => rw [fieldIf, List.singleton_append, Fields.get?_cons, if_neg hn, hrest]
      | none => rw [fieldIf, List.nil_append, hrest]

/-- Each name has at most one field. -/
theorem nodup_namedFields {names : List Text} (hnames : names.Nodup) (fields : Fields) :
    ((namedFields names fields).map Prod.fst).Nodup := by
  have hkeys : (namedFields names fields).map Prod.fst =
      names.filter fun n => (fields.find? fun f => f.1.lower == n).isSome := by
    rw [namedFields, List.map_filterMap, ← List.filterMap_eq_filter]
    refine List.filterMap_congr fun n _ => ?_
    cases hfind : fields.find? fun f => f.1.lower == n <;> simp [Option.guard, hfind]
  rw [hkeys]
  exact hnames.filter _

/-! ## The program's own variables -/

/-- The settings that are lists or objects. -/
def compoundNames : List Text := ["servers", "paths", "logging"]

/-- Whether the variables of lists and objects hold JSON. -/
def Parses (env : Environment) : Prop :=
  ∀ field ∈ compoundNames, ∀ t, lastNamed? (nameStart ++ field) env = some t →
    ∃ v, Json.read t = .ok v

/-- What the program's own variables give for a setting that is a list or an object. -/
def given? (env : Environment) (field : Text) : Option Json :=
  match env.lowered.compound? field with
  | .ok v => v
  | .error _ => none

/-- A list or an object is given if its variable holds JSON. -/
theorem compound?_eq {env : Environment} {field : Text}
    (h : ∀ t, lastNamed? (nameStart ++ field) env = some t → ∃ v, Json.read t = .ok v) :
    env.lowered.compound? field = .ok (env.given? field) := by
  have hok : ∃ v, env.lowered.compound? field = .ok v := by
    rw [compound?, get?_lowered]
    cases hvar : lastNamed? (nameStart ++ field) env with
    | none =>
      dsimp only
      split <;> exact ⟨_, rfl⟩
    | some t =>
      obtain ⟨v, hv⟩ := h t hvar
      dsimp only
      rw [hv]
      cases v <;> exact ⟨_, rfl⟩
  obtain ⟨v, hv⟩ := hok
  rw [given?, hv]

/-- It is not if its variable does not. -/
theorem compound?_eq_error {env : Environment} {field t : Text} {fault : Json.Fault}
    (hvar : lastNamed? (nameStart ++ field) env = some t) (ht : Json.read t = .error fault) :
    env.lowered.compound? field = .error (.unparsable field) := by
  rw [compound?, get?_lowered, hvar]
  dsimp only
  rw [ht]

/-- The layer of the program's own variables. -/
def ownLayer (env : Environment) : Fields :=
  fieldIf "servers" (env.given? "servers") ++
    fieldIf "default_kernel" ((lastNamed? (nameStart ++ "default_kernel") env).map Json.text) ++
    fieldIf "paths" ((env.given? "paths").map (renameIn pathNames)) ++
    fieldIf "logging" ((env.given? "logging").map (renameIn logNames))

/-- The layer of variables that hold JSON. -/
theorem layer_eq {env : Environment} (h : env.Parses) : env.layer = .ok env.ownLayer := by
  rw [layer, compound?_eq (h "servers" (by decide)), compound?_eq (h "paths" (by decide)),
    compound?_eq (h "logging" (by decide))]
  dsimp only
  rw [get?_lowered]
  rfl

/-- **The layer of the program's own variables is there if they hold JSON**, and only then. -/
theorem layer_eq_ok_iff {env : Environment} {own : Fields} :
    env.layer = .ok own ↔ env.Parses ∧ env.ownLayer = own := by
  constructor
  · intro h
    have hok : ∀ field ∈ compoundNames, ∃ v, env.lowered.compound? field = .ok v := by
      rw [layer] at h
      split at h
      · exact nomatch h
      · exact nomatch h
      · exact nomatch h
      · rename_i hservers hpaths hlogging
        simp only [compoundNames, List.forall_mem_cons]
        exact ⟨⟨_, hservers⟩, ⟨_, hpaths⟩, ⟨_, hlogging⟩, nofun⟩
    have hparses : env.Parses := by
      intro field hfield t hvar
      obtain ⟨v, hv⟩ := hok field hfield
      cases hread : Json.read t with
      | ok v => exact ⟨v, rfl⟩
      | error fault =>
        rw [compound?_eq_error hvar hread] at hv
        exact nomatch hv
    rw [layer_eq hparses] at h
    exact ⟨hparses, Except.ok.inj h⟩
  · rintro ⟨hparses, rfl⟩
    exact layer_eq hparses

end Environment

/-! ## Leaves in a source -/

namespace Leaf

/-- What the program's own variables set a leaf to. The default kernel has a variable of its own. A
leaf of a section is a key, in any letter case, of what is given for the section. -/
def inVariables? (l : Leaf) (env : Environment) : Option Json :=
  match l, l.section? with
  | .defaultKernel, _ => (lastNamed? "ipyjob_default_kernel" env).map .text
  | l, none => env.given? l.name
  | l, some s => (env.given? s).bind fun v => v.fields?.bind (lastNamed? l.name)

/-- What the variables that job systems set say of a leaf. -/
def inJob? (l : Leaf) (env : Environment) : Option Json :=
  match l with
  | .defaultKernel => (env.get? "IPYJOB_KERNEL").map .text
  | .workspace => (env.get? "WORKSPACE").map .text
  | _ => none

/-- What the table of a file sets a leaf to. Its keys at the top stand in any letter case. -/
def inFile? (l : Leaf) (table : Fields) : Option Json :=
  match l.section? with
  | none => firstNamed? l.name table
  | some s => (firstNamed? s table).bind fun v => v.fields?.bind (Fields.get? l.name)

end Leaf

/-- The kinds of sources. -/
inductive Source
  /-- The program's own variables. -/
  | own
  /-- The variables that job systems set. -/
  | job
  | project
  | user
  | system
deriving DecidableEq, Repr

/-- The kinds of sources, the highest first. -/
def Source.ranked : List Source := [.own, .job, .project, .user, .system]

/-- What settings are loaded from: the variables, and the tables in the files. -/
structure Sources where
  env : Environment
  project : Fields
  user : Fields
  system : Fields

namespace Sources

/-- The table in a file. A file that is not there, cannot be read or is no document has no keys. -/
def tableIn (files : FileTree) : Option Path → Fields
  | none => []
  | some p =>
    match files.read p with
    | .error _ => []
    | .ok bytes => (Toml.readBytes bytes).getD []

/-- The sources in some surroundings with the files that were found there. -/
def of (s : Surroundings) (files : FileTree) (found : SettingsFiles (Option Path)) : Sources :=
  ⟨s.env, tableIn files found.project, tableIn files found.user, tableIn files found.system⟩

variable (S : Sources)

/-- **What a source sets a leaf to**, if it sets it. -/
def value (l : Leaf) : Source → Option Json
  | .own => l.inVariables? S.env
  | .job => l.inJob? S.env
  | .project => l.inFile? S.project
  | .user => l.inFile? S.user
  | .system => l.inFile? S.system

/-- **What the first source that sets a leaf sets it to.** -/
def first? (l : Leaf) : Option Json := Source.ranked.findSome? (S.value l)

/-- **Paths and logging are tables** wherever a source gives them. -/
structure Tabular : Prop where
  own : ∀ k ∈ Settings.sections, ∀ v, S.env.given? k = some v → ∃ sub, v = .object sub
  files : ∀ table ∈ [S.project, S.user, S.system], ∀ k ∈ Settings.sections, ∀ v,
    firstNamed? k table = some v → ∃ sub, v = .object sub

/-- A value is an object if it is there. -/
theorem all_isSome_fields? (v : Option Json) :
    v.all (·.fields?.isSome) = true ↔ ∀ w, v = some w → ∃ sub, w = .object sub := by
  cases v with
  | none => exact iff_of_true rfl nofun
  | some v => cases v <;> simp [Json.fields?]

instance : Decidable S.Tabular :=
  decidable_of_iff
    ((∀ k ∈ Settings.sections, (S.env.given? k).all (·.fields?.isSome) = true) ∧
      ∀ table ∈ [S.project, S.user, S.system], ∀ k ∈ Settings.sections,
        (firstNamed? k table).all (·.fields?.isSome) = true)
    (by
      simp only [all_isSome_fields?]
      exact ⟨fun h => ⟨h.1, h.2⟩, fun h => ⟨h.own, h.files⟩⟩)

/-- No table of a file has a key twice. -/
def Distinct : Prop := ∀ table ∈ [S.project, S.user, S.system], table.Distinct

/-- The layer that is made of a source. -/
def layer : Source → Fields
  | .own => S.env.ownLayer
  | .job => S.env.jobLayer
  | .project => Environment.namedFields Environment.fieldNames S.project
  | .user => Environment.namedFields Environment.fieldNames S.user
  | .system => Environment.namedFields Environment.fieldNames S.system

end Sources

/-! ## Layers of sources -/

namespace Fields

/-- A key of one object after another is that of the first object that has it. -/
theorem get?_append (fs gs : Fields) (key : Text) :
    Fields.get? key (fs ++ gs) = (fs.get? key).or (gs.get? key) := by
  induction fs with
  | nil => rfl
  | cons f fs ih =>
    obtain ⟨k, v⟩ := f
    rw [List.cons_append, get?_cons, get?_cons, ih]
    split <;> rfl

/-- A field that may be absent. -/
theorem get?_fieldIf (k key : Text) (v : Option Json) :
    (Environment.fieldIf k v).get? key = if k = key then v else none := by
  cases v with
  | none => exact (ite_self none).symm
  | some v => rw [Environment.fieldIf, get?_cons, get?_nil]

end Fields

/-- A key of a section, read through the value of the section. -/
theorem Fields.inSection?_eq (s key : Text) (layer : Fields) :
    layer.inSection? s key = (layer.get? s).bind fun v => v.fields?.bind (Fields.get? key) := by
  rw [inSection?]
  rcases layer.get? s with _ | v
  · rfl
  · cases v <;> rfl

namespace Environment

variable (env : Environment)

/-- What the layer of the program's own variables says of each setting. -/
theorem get?_ownLayer :
    env.ownLayer.get? "servers" = env.given? "servers" ∧
    env.ownLayer.get? "default_kernel" =
      (lastNamed? (nameStart ++ "default_kernel") env).map .text ∧
    env.ownLayer.get? "paths" = (env.given? "paths").map (renameIn pathNames) ∧
    env.ownLayer.get? "logging" = (env.given? "logging").map (renameIn logNames) := by
  refine ⟨?_, ?_, ?_, ?_⟩ <;>
    simp +decide only [ownLayer, Fields.get?_append, Fields.get?_fieldIf, if_true, if_false,
      Option.or_none, Option.none_or]

/-- What the layer of the variables of job systems says of each setting. -/
theorem get?_jobLayer :
    env.jobLayer.get? "servers" = none ∧
    env.jobLayer.get? "default_kernel" = (env.get? "IPYJOB_KERNEL").map .text ∧
    env.jobLayer.get? "paths" =
      (env.get? "WORKSPACE").map (fun t => .object [("workspace_path", .text t)]) ∧
    env.jobLayer.get? "logging" = none := by
  refine ⟨?_, ?_, ?_, ?_⟩ <;>
    simp +decide only [jobLayer, Fields.get?_append, Fields.get?_fieldIf, if_true, if_false,
      Option.or_none, Option.none_or]

/-- A key of a section whose keys were renamed. -/
theorem get?_renameIn {names : List Text} (hlower : ∀ n ∈ names, n.lower = n) {name : Text}
    (hname : name ∈ names) (v : Option Json) :
    ((v.map (renameIn names)).bind fun v => v.fields?.bind (Fields.get? name)) =
      v.bind fun v => v.fields?.bind (lastNamed? name) := by
  rcases v with _ | v
  · rfl
  · cases v with
    | object fields => exact get?_renameKeys hlower hname fields
    | _ => rfl

end Environment

namespace Leaf

/-- The leaves in the layer of the program's own variables. -/
theorem within_ownLayer (l : Leaf) (env : Environment) :
    l.within env.ownLayer = l.inVariables? env := by
  obtain ⟨hservers, hkernel, hpaths, hlogging⟩ := env.get?_ownLayer
  have hlower : ∀ n ∈ Environment.pathNames ++ Environment.logNames, n.lower = n := by decide
  rw [List.forall_mem_append] at hlower
  have hsection {s : Text} {names : List Text}
      (hs : env.ownLayer.get? s = (env.given? s).map (Environment.renameIn names))
      (hnames : ∀ n ∈ names, n.lower = n) {name : Text} (hname : name ∈ names) :
      env.ownLayer.inSection? s name =
        (env.given? s).bind fun v => v.fields?.bind (lastNamed? name) := by
    rw [Fields.inSection?_eq, hs, Environment.get?_renameIn hnames hname]
  cases l with
  | servers => exact hservers
  | defaultKernel => exact hkernel
  | workspace => exact hsection hpaths hlower.1 (by decide)
  | artifactDirectory => exact hsection hpaths hlower.1 (by decide)
  | reportFile => exact hsection hpaths hlower.1 (by decide)
  | logLevel => exact hsection hlogging hlower.2 (by decide)
  | console => exact hsection hlogging hlower.2 (by decide)

/-- The leaves in the layer of the variables of job systems. -/
theorem within_jobLayer (l : Leaf) (env : Environment) :
    l.within env.jobLayer = l.inJob? env := by
  obtain ⟨hservers, hkernel, hpaths, hlogging⟩ := env.get?_jobLayer
  have hmissing {s : Text} (hs : env.jobLayer.get? s = none) (name : Text) :
      env.jobLayer.inSection? s name = none := by
    rw [Fields.inSection?_eq, hs]
    rfl
  have hpath (name : Text) : env.jobLayer.inSection? "paths" name =
      if "workspace_path" = name then (env.get? "WORKSPACE").map .text else none := by
    rw [Fields.inSection?_eq, hpaths]
    cases env.get? "WORKSPACE" with
    | none => exact (ite_self none).symm
    | some t => rfl
  cases l with
  | servers => exact hservers
  | defaultKernel => exact hkernel
  | workspace => exact hpath "workspace_path"
  | artifactDirectory => exact hpath "artifact_dir"
  | reportFile => exact hpath "report_file"
  | logLevel => exact hmissing hlogging "log_level"
  | console => exact hmissing hlogging "console_logging"

/-- The leaves in the layer of a file. -/
theorem within_namedFields (l : Leaf) (table : Fields) :
    l.within (Environment.namedFields Environment.fieldNames table) = l.inFile? table := by
  have hnamed {name : Text} (hname : name ∈ Environment.fieldNames) :=
    Environment.get?_namedFields Environment.fieldNames table hname
  cases l with
  | servers | defaultKernel => exact hnamed (by decide)
  | workspace | artifactDirectory | reportFile | logLevel | console =>
    rw [within, inFile?, section?]
    dsimp only
    rw [Fields.inSection?_eq, hnamed (by decide)]

end Leaf

namespace Sources

variable (S : Sources)

/-- **The layer of a source says of each leaf what the source sets it to.** -/
theorem within_layer (l : Leaf) (source : Source) :
    l.within (S.layer source) = S.value l source := by
  cases source with
  | own => exact l.within_ownLayer S.env
  | job => exact l.within_jobLayer S.env
  | project => exact l.within_namedFields S.project
  | user => exact l.within_namedFields S.user
  | system => exact l.within_namedFields S.system

variable {S}

/-- The layer of the program's own variables is tidy. -/
theorem Tabular.tidy_ownLayer (h : S.Tabular) : Tidy Settings.sections S.env.ownLayer := by
  obtain ⟨-, -, hpaths, hlogging⟩ := S.env.get?_ownLayer
  have hrenamed {s : Text} (hs : s ∈ Settings.sections) {names : List Text} {v : Json}
      (hv : (S.env.given? s).map (Environment.renameIn names) = some v) :
      ∃ fields, v = .object fields ∧ (fields.map Prod.fst).Nodup := by
    obtain ⟨w, hw, rfl⟩ := Option.map_eq_some_iff.mp hv
    obtain ⟨sub, rfl⟩ := h.own s hs w hw
    exact ⟨_, rfl, Environment.nodup_renameKeys names sub⟩
  refine ⟨?_, ?_⟩
  · have hfield (k : Text) (v : Option Json) :
        ((Environment.fieldIf k v).map Prod.fst).Sublist [k] := by
      cases v with
      | none => exact List.nil_sublist _
      | some v => exact List.Sublist.refl _
    have hkeys : (S.env.ownLayer.map Prod.fst).Sublist
        ([("servers" : Text)] ++ [("default_kernel" : Text)] ++ [("paths" : Text)] ++
          [("logging" : Text)]) := by
      simp only [Environment.ownLayer, List.map_append]
      exact (((hfield _ _).append (hfield _ _)).append (hfield _ _)).append (hfield _ _)
    exact List.Nodup.sublist hkeys (by decide)
  · simp only [Settings.sections, List.forall_mem_cons]
    refine ⟨fun v hv => ?_, fun v hv => ?_, nofun⟩
    · exact hrenamed (s := "paths") (by decide) (hpaths ▸ hv)
    · exact hrenamed (s := "logging") (by decide) (hlogging ▸ hv)

/-- The layer of the variables of job systems is tidy. -/
theorem tidy_jobLayer (env : Environment) : Tidy Settings.sections env.jobLayer := by
  obtain ⟨-, -, hpaths, hlogging⟩ := env.get?_jobLayer
  refine ⟨?_, ?_⟩
  · rw [Environment.jobLayer]
    cases env.get? "IPYJOB_KERNEL" <;> cases env.get? "WORKSPACE" <;>
      simp only [Option.map_none, Option.map_some, Environment.fieldIf, List.nil_append,
        List.append_nil, List.cons_append, List.map_cons, List.map_nil] <;>
      decide
  · simp only [Settings.sections, List.forall_mem_cons]
    refine ⟨fun v hv => ?_, fun v hv => ?_, nofun⟩
    · rw [hpaths] at hv
      obtain ⟨t, -, rfl⟩ := Option.map_eq_some_iff.mp hv
      exact ⟨_, rfl, List.nodup_singleton _⟩
    · rw [hlogging] at hv
      exact nomatch hv

/-- The layer of a file is tidy. -/
theorem tidy_namedFields {table : Fields} (htable : table.Distinct)
    (hsections : ∀ k ∈ Settings.sections, ∀ v, firstNamed? k table = some v →
      ∃ sub, v = .object sub) :
    Tidy Settings.sections (Environment.namedFields Environment.fieldNames table) := by
  refine ⟨Environment.nodup_namedFields (by decide) table, fun s hs v hv => ?_⟩
  have hnames : ∀ n ∈ Settings.sections, n ∈ Environment.fieldNames := by decide
  have hname := hnames s hs
  rw [Environment.get?_namedFields _ _ hname] at hv
  obtain ⟨sub, rfl⟩ := hsections s hs v hv
  obtain ⟨f, hf, hsub⟩ := Option.map_eq_some_iff.mp hv
  have hmem : (f.1, Json.object sub) ∈ table := by
    rw [← hsub]
    exact List.mem_of_find?_eq_some hf
  exact ⟨sub, rfl, (htable.of_mem hmem).keys⟩

/-- **The layers of sources are tidy**, if paths and logging are tables in them. -/
theorem Tabular.tidy_layer (h : S.Tabular) (hdistinct : S.Distinct) (source : Source) :
    Tidy Settings.sections (S.layer source) := by
  have hfile {table : Fields} (hmem : table ∈ [S.project, S.user, S.system]) :=
    tidy_namedFields (hdistinct table hmem) (h.files table hmem)
  cases source with
  | own => exact h.tidy_ownLayer
  | job => exact tidy_jobLayer S.env
  | project => exact hfile (by simp)
  | user => exact hfile (by simp)
  | system => exact hfile (by simp)

/-- The tables in files have no key twice. -/
theorem distinct_of (s : Surroundings) (files : FileTree) (found : SettingsFiles (Option Path)) :
    (of s files found).Distinct := by
  have htable (p : Option Path) : (tableIn files p).Distinct := by
    cases p with
    | none => exact .nil
    | some p =>
      rw [tableIn]
      cases files.read p with
      | error fault => exact .nil
      | ok bytes =>
        cases hread : Toml.readBytes bytes with
        | none =>
          dsimp only
          rw [hread]
          exact .nil
        | some table =>
          dsimp only
          rw [hread]
          exact Toml.readBytes_distinct hread
  simp only [Distinct, of, List.forall_mem_cons]
  exact ⟨htable _, htable _, htable _, nofun⟩

end Sources

end KernelJob
