import KernelJob.Json.Misfit
import KernelJob.Json.Reader
import KernelJob.Source.CodeUnit
import KernelJob.Text.Blank

/-! # Notes

A note is a list of paragraphs. Every paragraph becomes a code unit; a paragraph of documentation is
kept as a unit that is skipped. Documentation shows by the editor mode of a paragraph or by a
directive that its text begins with.
-/

namespace KernelJob

/-- The editor mode of documentation. -/
def markdownMode : Text := "ace/mode/markdown"

/-- The directive that the text of documentation begins with. -/
def markdownDirective : Text := "%md"

/-- A required part that a note lacks. -/
inductive NoteFault
  | notAnObject
  | noParagraphs
  | paragraphNotAnObject (index : Nat)
  | noText (index : Nat)
  | textNotText (index : Nat)
  | configNotAnObject (index : Nat)
deriving DecidableEq, Repr

/-- What is missing, in words. -/
def NoteFault.message : NoteFault → Text
  | .notAnObject => "Zeppelin note is not a JSON object"
  | .noParagraphs => "Zeppelin note has no list of paragraphs"
  | .paragraphNotAnObject i => "Paragraph " ++ Text.ofNat i ++ " is not a JSON object"
  | .noText i => "Paragraph " ++ Text.ofNat i ++ " has no text"
  | .textNotText i => "Paragraph " ++ Text.ofNat i ++ " has a text that is not a string"
  | .configNotAnObject i =>
    "Paragraph " ++ Text.ofNat i ++ " has a config that is not a JSON object"

/-- A paragraph of a note. -/
structure Paragraph where
  text : Text
  isDocumentation : Bool
deriving DecidableEq, Repr

namespace Paragraph

open Unread

/-- A value, or the empty text in place of one that does not count as present. -/
def presentOr : Json → Json := fun v => if v.isPresent then v else .text []

/-- The editor mode of a paragraph, empty if it has none. -/
def editorModeOf (paragraph : Json) : Except Misfit Json := do
  let config ← paragraph.fieldOr "config" .null
  if config.isPresent then presentOr <$> config.fieldOr "editorMode" .null else return .text []

/-- The text of a paragraph; null is empty. -/
def textOf (paragraph : Json) : Except Misfit Json := presentOr <$> paragraph.field "text"

/-- Whether a text begins with the directive of documentation as a word of its own. -/
def hasDirective (t : Text) : Bool := t.firstWord == markdownDirective

/-- Whether a paragraph holds documentation. -/
def isDocumentationOf (paragraph : Json) : Except Misfit Bool := do
  let mode ← editorModeOf paragraph
  if mode.isText markdownMode then return true
  match presentOr (← paragraph.fieldOr "text" .null) with
  | .text t => return hasDirective t
  | v => .error (.noOperation v.kindName "lstrip")

/-- The paragraph at some index of a note. -/
def read (index : Nat) (paragraph : Json) : Except (Unread NoteFault) Paragraph := do
  require paragraph.isObject (.paragraphNotAnObject index)
  require (← use (paragraph.holds "text")) (.noText index)
  let text ← use (paragraph.field "text")
  require (text.isNull || text.isTextual) (.textNotText index)
  if !(← use (paragraph.fieldOr "config" .null)).isNull then
    require (← use (paragraph.field "config")).isObject (.configNotAnObject index)
  let text ← useText (← use (textOf paragraph))
  let isDocumentation ← use (isDocumentationOf paragraph)
  return ⟨text, isDocumentation⟩

/-- The paragraphs of a note from some index on. -/
def readFrom (index : Nat) : List Json → Except (Unread NoteFault) (List Paragraph)
  | [] => .ok []
  | v :: vs =>
    match read index v with
    | .error fault => .error fault
    | .ok p => (readFrom (index + 1) vs).map (p :: ·)

/-- The units of the paragraphs from some index on. -/
def unitsFrom (index : Nat) : List Paragraph → List CodeUnit
  | [] => []
  | p :: ps => ⟨index, p.text, p.isDocumentation⟩ :: unitsFrom (index + 1) ps

end Paragraph

/-- A note. -/
structure Note where
  paragraphs : List Paragraph
deriving DecidableEq, Repr

namespace Note

/-- The units of a note, one for each paragraph. -/
def units (n : Note) : List CodeUnit := Paragraph.unitsFrom 0 n.paragraphs

/-- The note that an object holds. -/
def ofFields (fields : Fields) : Except (Unread NoteFault) Note :=
  match fields.get? "paragraphs" with
  | some (.list items) => (Paragraph.readFrom 0 items).map Note.mk
  | _ => .error (.lacking .noParagraphs)

end Note

end KernelJob
