import KernelJob.Source.OldNotebook.Part

/-! # Outputs of older notebooks

Cells of code in versions 2 and 3 keep their outputs. What was displayed stands under short names of
its kinds, in version 2 with images as bytes. `OldNotebook.upgradeOutput` gives an output in the
current form, where the contents stand by themselves under the names of media types.
-/

namespace KernelJob

namespace OldNotebook

/-! ## Reading -/

/-- The keys of an output that may hold lines. -/
def outputKeys : List Text := ["text", "html", "svg", "latex", "javascript", "json"]

/-- An output with each of its lists of lines made one text. -/
def readOutput (join : Joining) : Json → Except UpgradeFault Fields
  | .object fields => outputKeys.foldlM (fun fields key => joinUnder join key fields) fields
  | v => .error (.incomplete .reading (.part v.kindName "get"))

/-! ## Images -/

/-- The keys of an output that hold images. -/
def imageKeys : List Text := ["png", "jpeg"]

/-- Looks at the image under a key of an output, which has to be an ASCII text. -/
def checkImage (output : Fields) (key : Text) : Except UpgradeFault Unit :=
  match output.get? key with
  | none => .ok ()
  | some (.text t) =>
    match Text.asciiFault? t with
    | none => .ok ()
    | some fault => .error (.unfit (.image fault))
  | some v => .error (noOperation .reading v "encode")

/-! ## Contents -/

/-- The step to the current version. -/
def lastStep : UpgradeStage := .step (.int 3) 4

/-- The short names of kinds of contents, and the media types that they stand for. -/
def kinds : List (Text × Text) :=
  [("text", "text/plain"), ("html", "text/html"), ("svg", "image/svg+xml"), ("png", "image/png"),
    ("jpeg", "image/jpeg"), ("latex", "text/latex"), ("json", "application/json"),
    ("javascript", "application/javascript")]

/-- Contents with the media types in place of the short names. -/
def byMediaType (contents : Fields) : Fields :=
  kinds.foldl (fun contents kind =>
    match contents.get? kind.1 with
    | some v => (contents.erase kind.1).set kind.2 v
    | none => contents) contents

/-- The metadata of an output, where short names of kinds are looked up too. -/
def upgradeMetadata : Json → Except UpgradeFault Json
  | .object fields => .ok (.object (byMediaType fields))
  | .text t =>
    if kinds.any fun kind => Text.containsText kind.1 t then
      .error (.incomplete lastStep (.part "str" "pop"))
    else .ok (.text t)
  | .list items =>
    if kinds.any fun kind => items.any (·.isText kind.1) then
      .error (.ofMisfit (.notAnIndex "str"))
    else .ok (.list items)
  | v => .error (.ofMisfit (.noMembers v.kindName))

/-- Looks at contents that are JSON, which have to be a JSON text. -/
def checkContents (contents : Fields) : Except UpgradeFault Unit :=
  match contents.get? "application/json" with
  | none => .ok ()
  | some (.text t) =>
    match Json.read t with
    | .ok _ => .ok ()
    | .error fault => .error (.unfit (.contents fault))
  | some v => .error (.ofMisfit (.notReadable (kindName v)))

/-! ## Upgrading -/

/-- The keys of an output that are no contents. -/
def plainKeys : List Text := ["output_type", "execution_count", "metadata"]

/-- What was displayed in the current form: `output` with its contents apart. -/
def upgradeShown (output : Fields) : Except UpgradeFault Json := do
  let contents := byMediaType (output.without plainKeys)
  let metadata ← upgradeMetadata ((output.get? "metadata").getD (.object []))
  checkContents contents
  return .object
    (((output.only plainKeys).set "data" (.object contents)).set "metadata" metadata)

/-- An output in the current form. -/
def upgradeOutput (output : Fields) : Except UpgradeFault Json :=
  match output.get? "output_type" with
  | none => .error (.ofMisfit (.missingKey "output_type"))
  | some (.list _) => .error (.ofMisfit (.notAKey "list"))
  | some (.object fields) => .error (.ofMisfit (.notAKey (kindName (.object fields))))
  | some type =>
    if type.isText "display_data" then upgradeShown output
    else if type.isText "pyout" then
      upgradeShown (((output.erase "prompt_number").set "output_type" (.text "execute_result")).set
        "execution_count" ((output.get? "prompt_number").getD .null))
    else if type.isText "pyerr" then .ok (.object (output.set "output_type" (.text "error")))
    else if type.isText "stream" then
      .ok (.object ((output.erase "stream").set "name"
        ((output.get? "stream").getD (.text "stdout"))))
    else .ok (.object output)

end OldNotebook

end KernelJob
