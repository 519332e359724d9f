import KernelJob.Source.OldNotebook.Fault

/-! # Parts of older notebooks

Access to the parts of a document of an older version at some stage on its way to the current form,
and the two ways in which lists of lines became one text.
-/

namespace KernelJob

namespace OldNotebook

/-- The kind of a value in an older notebook. -/
def kindName : Json → Text
  | .object _ => "NotebookNode"
  | v => v.kindName

/-- The value of a key. -/
def part (stage : UpgradeStage) (v : Json) (key : Text) : Except UpgradeFault Json :=
  match v.fields?.bind (Fields.get? key) with
  | some v => .ok v
  | none => .error (.incomplete stage (.of v key))

/-- The items of the value of a key. -/
def parts (stage : UpgradeStage) (v : Json) (key : Text) : Except UpgradeFault (List Json) :=
  match part stage v key with
  | .ok v => v.items.mapError UpgradeFault.ofMisfit
  | .error fault => .error fault

/-- The fault of a value that is used as if it had an operation: a field of that name is none. -/
def noOperation (stage : UpgradeStage) (v : Json) (name : Text) : UpgradeFault :=
  match v.fields?.bind (Fields.get? name) with
  | some field => .ofMisfit (.notAnOperation (kindName field))
  | none => .incomplete stage (.of v name)

/-! ## Lines -/

/-- Lines as texts; `index` is the index of the first one. -/
def linesFrom (index : Nat) : List Json → Except UpgradeFault (List Text)
  | [] => .ok []
  | .text t :: vs => (linesFrom (index + 1) vs).map (t :: ·)
  | v :: _ => .error (.ofMisfit (.itemNotText index (kindName v)))

/-- How lines become one text. -/
abbrev Joining := List Json → Except UpgradeFault Text

/-- The lines of version 2 as one text, with newlines between them. -/
def joinApart : Joining := fun vs => (linesFrom 0 vs).map (Text.join "\n")

/-- The lines of version 3 as one text: newlines go between them unless the first has an end of its
own already. -/
def joinLines : Joining
  | [] => .ok []
  | .text t :: vs =>
    (linesFrom 0 (.text t :: vs)).map
      (if t.endsWith "\n" || t.endsWith "\r" then Text.concat else Text.join "\n")
  | v :: _ => .error (noOperation .reading v "endswith")

/-- Fields with the lines under a key made one text. -/
def joinUnder (join : Joining) (key : Text) (fields : Fields) : Except UpgradeFault Fields :=
  match fields.get? key with
  | some (.list lines) => (join lines).map fun t => fields.set key (.text t)
  | _ => .ok fields

end OldNotebook

end KernelJob
