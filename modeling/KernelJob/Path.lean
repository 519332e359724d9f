import KernelJob.Text.Basic

/-! # Paths

A path is a root and a list of names. Reading a text drops empty names and single dots, so that
`a//b/./c/` and `a/b/c` are one path; double dots stay. Two slashes at the start are a root of their
own, three or more are one.
-/

namespace KernelJob

/-- What a path starts from. -/
inductive PathRoot
  /-- Nothing: the path is relative. -/
  | relative
  /-- One slash. -/
  | slash
  /-- Two slashes. -/
  | doubleSlash
deriving DecidableEq, Repr

/-- A path in normal form. -/
structure Path where
  root : PathRoot
  names : List Text
deriving DecidableEq, Repr

namespace Path

/-- The slash between names. -/
def slash : CodePoint := '/'

/-- The name that stands for the directory above. -/
def up : Text := ".."

/-- The root that a text starts with. -/
def rootOf : Text → PathRoot
  | [] => .relative
  | c :: cs =>
    if c = slash then
      match cs with
      | d :: ds =>
        if d = slash then
          match ds with
          | e :: _ => if e = slash then .slash else .doubleSlash
          | [] => .doubleSlash
        else .slash
      | [] => .slash
    else .relative

/-- Whether a piece between slashes counts as a name. -/
def isName (piece : Text) : Bool := piece != [] && piece != "."

/-- The path that a text names. -/
def ofText (t : Text) : Path := ⟨rootOf t, (Text.splitOn slash t).filter isName⟩

/-- The text of a root. -/
def PathRoot.text : PathRoot → Text
  | .relative => []
  | .slash => [slash]
  | .doubleSlash => [slash, slash]

/-- The text of a path; the empty relative path is a single dot. -/
def text (p : Path) : Text :=
  if p.root = .relative ∧ p.names = [] then "."
  else PathRoot.text p.root ++ Text.join [slash] p.names

/-- Whether a path starts from a root. -/
def isAbsolute (p : Path) : Bool := p.root != .relative

/-- A path seen from a directory: an absolute path stays as it is. -/
def under (p dir : Path) : Path := if p.isAbsolute then p else ⟨dir.root, dir.names ++ p.names⟩

/-- A path extended by one name. -/
def child (p : Path) (name : Text) : Path := (ofText name).under p

/-- The last name of a path, empty if there is none. -/
def name (p : Path) : Text := p.names.getLast?.getD []

/-- The path without its last name. -/
def parent (p : Path) : Path := ⟨p.root, p.names.dropLast⟩

/-- Names from a root in which every double dot has taken away the name before it. -/
def collapse (names : List Text) : List Text :=
  names.foldl (fun done name => if name = up then done.dropLast else done ++ [name]) []

/-- An absolute path in which every double dot has taken away the name before it. -/
def collapsed (p : Path) : Path := { p with names := collapse p.names }

end Path

end KernelJob
