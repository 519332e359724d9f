import KernelJob.Text.Utf8
import KernelJob.Toml.Value

/-! # Reading TOML documents

A document is a sequence of pairs and table headers, one a line. It is read into an object; a
document that breaks the grammar, or declares something twice, has none.
-/

namespace KernelJob.Toml

/-- What is known of a path of keys. -/
structure Mark where
  path : List Text
  /-- Whether nothing can be added below the path; else the path may only not be declared again. -/
  frozen : Bool

/-- The state of reading. -/
structure Reader where
  table : Fields := []
  /-- The path that the last header names. -/
  header : List Text := []
  marks : List Mark := []
  /-- Paths that can no longer be declared after the next header. -/
  pending : List (List Text) := []

namespace Reader

/-- Whether nothing can be added at a path; the document itself is never frozen. -/
def isFrozen (r : Reader) (path : List Text) : Bool :=
  !path.isEmpty && r.marks.any fun m => m.frozen && m.path.isPrefixOf path

/-- Whether a path was declared as a table. -/
def isDeclared (r : Reader) (path : List Text) : Bool :=
  !path.isEmpty && r.marks.any fun m => !m.frozen && m.path == path

/-- Declares a path as a table. -/
def declare (r : Reader) (path : List Text) : Reader := { r with marks := ⟨path, false⟩ :: r.marks }

/-- Lets nothing be added at a path. -/
def freeze (r : Reader) (path : List Text) : Reader := { r with marks := ⟨path, true⟩ :: r.marks }

/-- Forgets what is known of a path and all below it. -/
def release (r : Reader) (path : List Text) : Reader :=
  { r with marks := r.marks.filter fun m => !path.isPrefixOf m.path }

/-- Declares what is pending. -/
def settle (r : Reader) : Reader :=
  { r with marks := r.pending.map (⟨·, false⟩) ++ r.marks, pending := [] }

/-- Opens a table. -/
def openTable (r : Reader) (path : List Text) : Option Reader :=
  if r.isDeclared path || r.isFrozen path then none
  else (modifyTable true some path r.table).map fun table =>
    { r.declare path with table := table, header := path }

/-- Adds an empty table to the list at a key. -/
def appendTable (key : Text) (table : Fields) : Option Fields :=
  match table.get? key with
  | none => some (table.set key (.list [.object []]))
  | some (.list items) => some (table.set key (.list (items ++ [.object []])))
  | _ => none

/-- Opens another table of a list. -/
def openItem (r : Reader) (path : List Text) : Option Reader :=
  if r.isFrozen path then none
  else
    let (parents, stem) := splitKey path
    (modifyTable true (appendTable stem) parents r.table).map fun table =>
      { (r.release path).declare path with table := table, header := path }

/-- The paths of the tables that a dotted key goes through, below a header. -/
def through (header : List Text) (parents : List Text) : List (List Text) :=
  (List.range parents.length).map fun i => header ++ parents.take (i + 1)

/-- Adds a pair. -/
def addPair (r : Reader) (key : List Text) (v : Json) : Option Reader :=
  let (parents, stem) := splitKey key
  let tables := through r.header parents
  if tables.any r.isDeclared then none
  else if r.isFrozen (r.header ++ parents) then none
  else
    (modifyTable true (addNew stem v) (r.header ++ parents) r.table).map fun table =>
      let r := { r with table := table, pending := tables ++ r.pending }
      if isClosed v then r.freeze (r.header ++ key) else r

/-- Whether a code point can begin a key. -/
def beginsKey (c : CodePoint) : Bool := isBare c || c == quote || c == apostrophe

/-- A header of the given number of brackets, without the first ones. -/
def headerKey (brackets : Nat) (t : Text) : Reading (List Text) :=
  match key (t.length + 1) (skipBlanks t) with
  | some (k, rest) =>
    if (rest.take brackets).length = brackets ∧ (rest.take brackets).all (·.val == 93) then
      some (k, rest.drop brackets)
    else none
  | none => none

/-- A statement at the start of a line, if there is one. -/
def statement (r : Reader) : Text → Option (Reader × Text)
  | [] => some (r, [])
  | c :: cs =>
    if beginsKey c then
      match pair (2 * (c :: cs).length + 4) (c :: cs) with
      | some ((k, v), rest) => (r.addPair k v).map fun r => (r, skipBlanks rest)
      | none => none
    else if c.val = 91 then
      let r := r.settle
      match cs with
      | d :: ds =>
        if d.val = 91 then
          match headerKey 2 ds with
          | some (k, rest) => (r.openItem k).map fun r => (r, skipBlanks rest)
          | none => none
        else
          match headerKey 1 (d :: ds) with
          | some (k, rest) => (r.openTable k).map fun r => (r, skipBlanks rest)
          | none => none
      | [] => none
    else if c.val = 35 then some (r, c :: cs)
    else none

/-- The lines of a document; each takes a unit of fuel. -/
def linesFuel (r : Reader) : Nat → Text → Option Fields
  | 0, _ => none
  | fuel + 1, t =>
    match skipBlanks t with
    | [] => some r.table
    | c :: cs =>
      if c.val = 10 then linesFuel r fuel cs
      else
        match r.statement (c :: cs) with
        | none => none
        | some (r, rest) =>
          match skipComment rest with
          | none => none
          | some [] => some r.table
          | some (d :: ds) => if d.val = 10 then linesFuel r fuel ds else none

end Reader

/-- A text with a newline in place of each carriage return that is followed by one. -/
def unifyLineEnds : Text → Text
  | c :: d :: rest =>
    if c.val = 13 ∧ d.val = 10 then d :: unifyLineEnds rest else c :: unifyLineEnds (d :: rest)
  | t => t

/-- The object that a document stands for. -/
def read (t : Text) : Option Fields :=
  let t := unifyLineEnds t
  Reader.linesFuel {} (t.length + 2) t

/-- The object that the bytes of a document stand for. -/
def readBytes (bytes : List UInt8) : Option Fields :=
  match Text.ofUtf8 bytes with
  | .ok t => read t
  | .error _ => none

end KernelJob.Toml
