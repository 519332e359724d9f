import KernelJob.Settings.Model

/-! # Layers of settings

Settings come in layers: variables of the environment, variables of other programs, files, and
values given by hand. A higher layer wins over a lower one key by key; tables are merged and
everything else is replaced.
-/

namespace KernelJob

/-- The variables of the environment, in order. -/
abbrev Environment := List (Text × Text)

namespace Environment

/-- The value of a variable. -/
def get? (env : Environment) (name : Text) : Option Text := env.lookup name

/-- The environment with a variable set: in its place if it is there, at the end if not. -/
def set (name value : Text) : Environment → Environment
  | [] => [(name, value)]
  | (n, v) :: env => if n = name then (n, value) :: env else (n, v) :: set name value env

/-- A variable that has been set has its value. -/
@[simp] theorem get?_set (name value : Text) (env : Environment) :
    (env.set name value).get? name = some value := by
  induction env with
  | nil => simp [set, get?]
  | cons v env ih =>
    obtain ⟨n, v⟩ := v
    by_cases h : n = name
    · simp [set, get?, h]
    · have hb : (name == n) = false := by simpa using fun e => h e.symm
      simpa [set, get?, h, List.lookup_cons, hb] using ih

/-- Setting one variable leaves the others as they are. -/
theorem get?_set_of_ne {name other : Text} (value : Text) (env : Environment)
    (h : other ≠ name) : (env.set name value).get? other = env.get? other := by
  have hb : (other == name) = false := by simpa using h
  induction env with
  | nil => simp [set, get?, List.lookup_cons, hb]
  | cons v env ih =>
    obtain ⟨n, v⟩ := v
    by_cases hn : n = name
    · simp [set, get?, hn, List.lookup_cons, hb]
    · by_cases ho : other = n
      · simp [set, get?, hn, ho]
      · have hb' : (other == n) = false := by simpa using ho
        simpa [set, get?, hn, List.lookup_cons, hb'] using ih

/-- The environment without a variable. -/
def unset (env : Environment) (name : Text) : Environment := env.filter (·.1 != name)

end Environment

/-! ## Merging -/

namespace Json

mutual

/-- A value updated by another one: two objects key by key, anything else as a whole. -/
def update : Json → Json → Json
  | .object base, .object fields => .object (updateFields base fields)
  | _, v => v

/-- Fields updated by others. -/
def updateFields (base : List (Text × Json)) : List (Text × Json) → List (Text × Json)
  | [] => base
  | (k, v) :: fields =>
    match Fields.get? k base with
    | some old => updateFields (Fields.set k (update old v) base) fields
    | none => updateFields (Fields.set k v base) fields

end

end Json

/-- The merge of layers, the highest first. Each layer goes below all that has been merged before:
where a higher object replaces a value that is no object, objects further below are merged with
it. -/
def mergeLayers (layers : List Fields) : Fields :=
  layers.foldl (fun merged layer => Json.updateFields layer merged) []

@[simp] theorem mergeLayers_nil : mergeLayers [] = [] := rfl

/-- The lowest layer is updated by the merge of all others. -/
theorem mergeLayers_concat (layers : List Fields) (lowest : Fields) :
    mergeLayers (layers ++ [lowest]) = Json.updateFields lowest (mergeLayers layers) := by
  simp [mergeLayers]

/-! ## The environment -/

/-- Why settings could not be loaded. -/
inductive SettingsFault
  /-- The variable for a field does not hold JSON. -/
  | unparsable (field : Text)
  /-- The settings are not valid. -/
  | invalid (complaints : List Complaint)
  /-- The settings are not valid, and a complaint about them cannot be put into words. -/
  | encoding (fault : EncodeFault)
  /-- A file could not be looked up. -/
  | file (fault : FileFault)

/-- The fault of settings about which there are complaints. -/
def SettingsFault.ofComplaints (complaints : List Complaint) : SettingsFault :=
  match complaints.findSome? Complaint.encodeFault? with
  | some fault => .encoding fault
  | none => .invalid complaints

/-- What is said of a variable that does not hold JSON. -/
def unparsableMessage (field : Text) : Text :=
  "error parsing value for field \"" ++ field ++ "\" from source \"EnvSettingsSource\""

namespace Environment

/-- What the names of the program's variables begin with, in lower case. -/
def nameStart : Text := "ipyjob_"

/-- What stands between nested keys. -/
def separator : Text := "__"

/-- The variables with their names in lower case; of names that differ in case only the last
counts. Only names of ASCII are looked up, so it does not matter which small sigma a capital one
becomes. -/
def lowered (env : Environment) : Environment :=
  env.foldl (fun e v => e.set v.1.lower v.2) []

/-- A name cut at double underscores, from left to right. -/
def keysOf : Text → List Text
  | [] => [[]]
  | [c] => [[c]]
  | c :: d :: cs =>
    if c.val = 95 ∧ d.val = 95 then [] :: keysOf cs
    else match keysOf (d :: cs) with
      | [] => [[c]]
      | key :: keys => (c :: key) :: keys

/-- Fields with a text put at a path of keys. Where the path goes through something that is not an
object, nothing is put. -/
def place (value : Text) : List Text → Fields → Fields
  | [], fields => fields
  | [key], fields => fields.set key (.text value)
  | key :: keys, fields =>
    match fields.get? key with
    | none => fields.set key (.object (place value keys []))
    | some (.object sub) => fields.set key (.object (place value keys sub))
    | some _ => fields

/-- The object that the nested variables of a field make up. -/
def nested (env : Environment) (field : Text) : Fields :=
  let start := nameStart ++ field ++ separator
  env.foldl (fun fields v =>
    if start.isPrefixOf v.1 then place v.2 (keysOf (v.1.drop start.length)) fields else fields) []

/-- The value of a field that is a list or an object: the JSON of its own variable, updated by the
nested variables. -/
def compound? (env : Environment) (field : Text) : Except SettingsFault (Option Json) :=
  match env.get? (nameStart ++ field) with
  | none =>
    match env.nested field with
    | [] => .ok none
    | f :: fs => .ok (some (.object (f :: fs)))
  | some t =>
    match Json.read t with
    | .error _ => .error (.unparsable field)
    | .ok .null => .ok none
    | .ok (.object fields) => .ok (some (.object (Json.updateFields fields (env.nested field))))
    | .ok v => .ok (some v)

/-- The fields of some names, all of them ASCII. A key is a name in any letter case; of several keys
for one name the first counts. -/
def namedFields (names : List Text) (fields : Fields) : Fields :=
  names.filterMap fun name =>
    (fields.find? fun f => f.1.lower == name).map fun f => (name, f.2)

/-- Fields with those keys renamed that are one of some names of ASCII but for letter case; of
several keys for one name the last counts. -/
def renameKeys (names : List Text) (fields : Fields) : Fields :=
  fields.foldl (fun fs f => fs.set ((names.find? (· == f.1.lower)).getD f.1) f.2) []

/-- A value whose keys are renamed, if it is an object. -/
def renameIn (names : List Text) : Json → Json
  | .object fields => .object (renameKeys names fields)
  | v => v

/-- The names of the settings of paths. -/
def pathNames : List Text := ["workspace_path", "artifact_dir", "report_file"]

/-- The names of the settings of logging. -/
def logNames : List Text := ["log_level", "console_logging"]

/-- The names of all settings. -/
def fieldNames : List Text := ["servers", "default_kernel", "paths", "logging"]

/-- A field that may be absent. -/
def fieldIf (key : Text) : Option Json → Fields
  | some v => [(key, v)]
  | none => []

/-- The layer of the program's own variables. -/
def layer (env : Environment) : Except SettingsFault Fields :=
  let env := env.lowered
  match env.compound? "servers", env.compound? "paths", env.compound? "logging" with
  | .error e, _, _ => .error e
  | _, .error e, _ => .error e
  | _, _, .error e => .error e
  | .ok servers, .ok paths, .ok logging =>
    .ok (fieldIf "servers" servers ++
      fieldIf "default_kernel" ((env.get? (nameStart ++ "default_kernel")).map Json.text) ++
      fieldIf "paths" (paths.map (renameIn pathNames)) ++
      fieldIf "logging" (logging.map (renameIn logNames)))

/-- The layer of the variables that job systems set. -/
def jobLayer (env : Environment) : Fields :=
  fieldIf "default_kernel" ((env.get? "IPYJOB_KERNEL").map Json.text) ++
    fieldIf "paths" ((env.get? "WORKSPACE").map fun t => .object [("workspace_path", .text t)])

end Environment

end KernelJob
