import KernelJob.Path
import KernelJob.Text.Utf8

/-! # File trees

A file tree maps places, lists of names from the root, to files and directories, and has a working
directory. The operations fail with the cause that the operating system would report.
-/

namespace KernelJob

/-- What the operating system reports. -/
inductive OsCause
  | missing
  | exists
  | notDirectory
  | isDirectory
  | nameTooLong
deriving DecidableEq, Repr

/-- The number of a cause. -/
def OsCause.number : OsCause → Nat
  | .missing => 2
  | .exists => 17
  | .notDirectory => 20
  | .isDirectory => 21
  | .nameTooLong => 36

/-- A cause in words. -/
def OsCause.words : OsCause → Text
  | .missing => "No such file or directory"
  | .exists => "File exists"
  | .notDirectory => "Not a directory"
  | .isDirectory => "Is a directory"
  | .nameTooLong => "File name too long"

/-- Why a file operation failed. -/
inductive FileFault
  /-- The operating system refused the path. -/
  | os (cause : OsCause) (path : Text)
  /-- The path holds a null. -/
  | null
  /-- The path cannot be encoded. -/
  | encoding (fault : EncodeFault)
deriving DecidableEq, Repr

/-- What the message of a failed file operation says. -/
def FileFault.message : FileFault → Text
  | .os cause path =>
    "[Errno " ++ Text.ofNat cause.number ++ "] " ++ cause.words ++ ": " ++ path.quoted
  | .null => "embedded null byte"
  | .encoding fault => fault.message

/-- Whether the operating system itself reported the failure. -/
def FileFault.isOs : FileFault → Bool
  | .os .. => true
  | _ => false

/-- What stands at a place. -/
inductive Entry
  | file (bytes : List UInt8)
  | directory
deriving DecidableEq, Repr

/-- A place: the names from the root. -/
abbrev Place := List Text

/-- Files and directories by place. -/
structure FileTree where
  /-- The entries below the root, one for each place. -/
  entries : List (Place × Entry) := []
  /-- The directory that relative paths start from. -/
  workingDirectory : Place := []
deriving Repr

namespace FileTree

/-- What stands at a place; the root is a directory. -/
def find? (t : FileTree) (at_ : Place) : Option Entry :=
  if at_ = [] then some .directory else t.entries.lookup at_

/-- The tree with an entry put at a place. -/
def put (t : FileTree) (at_ : Place) (e : Entry) : FileTree :=
  { t with entries := (at_, e) :: t.entries.filter (fun x => x.1 != at_) }

/-- The tree without the entry of a place. -/
def remove (t : FileTree) (at_ : Place) : FileTree :=
  { t with entries := t.entries.filter (fun x => x.1 != at_) }

@[simp] theorem find?_root (t : FileTree) : t.find? [] = some .directory := rfl

theorem find?_of_ne_nil (t : FileTree) {place : Place} (h : place ≠ []) :
    t.find? place = t.entries.lookup place := by
  simp [find?, h]

/-- An entry that was taken away leaves those of other keys. -/
theorem lookup_filter_ne {α β : Type} [BEq α] [LawfulBEq α] {key other : α} (h : other ≠ key)
    (es : List (α × β)) : (es.filter fun e => e.1 != key).lookup other = es.lookup other := by
  induction es with
  | nil => rfl
  | cons e es ih =>
    obtain ⟨k, e⟩ := e
    by_cases hk : k = key
    · subst hk
      have hne : (other == k) = false := by simpa using h
      simp [List.lookup_cons, hne, ih]
    · by_cases ho : other = k
      · simp [hk, ho]
      · have hne : (other == k) = false := by simpa using ho
        simp [hk, List.lookup_cons, hne, ih]

/-- What has been put at a place stands there. -/
@[simp] theorem find?_put (t : FileTree) {place : Place} (e : Entry) (h : place ≠ []) :
    (t.put place e).find? place = some e := by
  simp [find?_of_ne_nil, put, h]

/-- Putting an entry at one place leaves the others as they are. -/
theorem find?_put_of_ne (t : FileTree) {place other : Place} (e : Entry) (h : other ≠ place) :
    (t.put place e).find? other = t.find? other := by
  by_cases hn : other = []
  · simp [hn]
  · have hb : (other == place) = false := by simpa using h
    simp [find?_of_ne_nil, put, hn, List.lookup_cons, hb, lookup_filter_ne h]

/-- The surrogates that a path may hold, which stand for bytes outside UTF-8. -/
def isByteEscape (c : CodePoint) : Bool := 0xDC80 ≤ c.val && c.val ≤ 0xDCFF

/-- The bytes of a path, or of a part of one, that stands at position `pos`. -/
def pathBytesFrom (pos : Nat) : Text → Except EncodeFault (List UInt8)
  | [] => .ok []
  | c :: cs =>
    if isByteEscape c then (pathBytesFrom (pos + 1) cs).map (UInt8.ofNat (c.val % 256) :: ·)
    else if c.isSurrogate then
      .error ⟨.utf8, c, pos, pos + 1 + (cs.takeWhile CodePoint.isSurrogate).length⟩
    else (pathBytesFrom (pos + 1) cs).map (Text.utf8Point c ++ ·)

/-- The bytes of a path; fails at a surrogate that stands for no byte. -/
def pathBytes (path : Text) : Except EncodeFault (List UInt8) := pathBytesFrom 0 path

/-- The number of bytes of a path. -/
def byteLength (path : Text) : Nat :=
  match pathBytes path with
  | .ok bytes => bytes.length
  | .error _ => 0

/-- The place that names lead to from a place; all directories on the way have to be there. -/
def walk (t : FileTree) : Place → List Text → Except OsCause Place
  | at_, [] => .ok at_
  | at_, name :: names =>
    match t.find? at_ with
    | none => .error .missing
    | some (.file _) => .error .notDirectory
    | some .directory =>
      if name = Path.up then walk t at_.dropLast names
      else if 255 < byteLength name then .error .nameTooLong
      else walk t (at_ ++ [name]) names

/-- Whether a path can be given to the operating system. -/
def checkPath (path : Text) : Except FileFault Unit :=
  match pathBytes path with
  | .error fault => .error (.encoding fault)
  | .ok _ => if path.any (·.val == 0) then .error .null else .ok ()

/-- The place of a path, which lies in a directory that is there. -/
def locate (t : FileTree) (p : Path) : Except FileFault Place :=
  match checkPath p.text with
  | .error fault => .error fault
  | .ok _ =>
    if 4095 < byteLength p.text then .error (.os .nameTooLong p.text)
    else
      match t.walk (if p.isAbsolute then [] else t.workingDirectory) p.names with
      | .error cause => .error (.os cause p.text)
      | .ok place => .ok place

/-- What stands at a path, if anything: a path that leads nowhere has nothing, but one that is too
long is an error. -/
def stat (t : FileTree) (p : Path) : Except FileFault (Option Entry) :=
  match t.locate p with
  | .ok place => .ok (t.find? place)
  | .error (.os .nameTooLong path) => .error (.os .nameTooLong path)
  | .error _ => .ok none

/-- Whether anything stands at a path. -/
def exists? (t : FileTree) (p : Path) : Except FileFault Bool := (t.stat p).map Option.isSome

/-- Whether a directory stands at a path. -/
def isDirectory? (t : FileTree) (p : Path) : Except FileFault Bool :=
  (t.stat p).map (· == some .directory)

/-- The bytes of the file at a path. -/
def read (t : FileTree) (p : Path) : Except FileFault (List UInt8) :=
  match t.locate p with
  | .error fault => .error fault
  | .ok place =>
    match t.find? place with
    | some (.file bytes) => .ok bytes
    | some .directory => .error (.os .isDirectory p.text)
    | none => .error (.os .missing p.text)

/-- The place at which a file can be written. -/
def locateFile (t : FileTree) (p : Path) : Except FileFault Place :=
  match t.locate p with
  | .error fault => .error fault
  | .ok place =>
    if t.find? place = some .directory then .error (.os .isDirectory p.text) else .ok place

/-- The tree with a file written, in place of what the file held before. -/
def write (t : FileTree) (p : Path) (bytes : List UInt8) : Except FileFault FileTree :=
  (t.locateFile p).map fun place => t.put place (.file bytes)

/-- The tree with one directory made; the directory above has to be there. -/
def makeDirectory (t : FileTree) (p : Path) : Except FileFault FileTree :=
  match t.locate p with
  | .error fault => .error fault
  | .ok place =>
    match t.find? place with
    | some _ => .error (.os .exists p.text)
    | none => .ok (t.put place .directory)

/-- The outcome of making a directory that may be there already. -/
def settle (t : FileTree) (p : Path) (fault : FileFault) : Except FileFault FileTree :=
  match t.isDirectory? p with
  | .ok there => if fault.isOs && there then .ok t else .error fault
  | .error _ => .error fault

/-- The tree with a directory and all directories above it; `fuel` bounds their number. A failure
leaves the directories made before it. -/
def makeDirectoriesFuel : Nat → FileTree → Path → FileTree × Except FileFault Unit
  | 0, t, p => (t, .error (.os .missing p.text))
  | fuel + 1, t, p =>
    match t.makeDirectory p with
    | .ok t' => (t', .ok ())
    | .error (.os .missing path) =>
      if p.names = [] then (t, .error (.os .missing path))
      else
        match makeDirectoriesFuel fuel t p.parent with
        | (t', .error fault) => (t', .error fault)
        | (t', .ok _) =>
          match t'.makeDirectory p with
          | .ok t'' => (t'', .ok ())
          | .error (.os .missing path) => (t', .error (.os .missing path))
          | .error fault => (t', (t'.settle p fault).map fun _ => ())
    | .error fault => (t, (t.settle p fault).map fun _ => ())

/-- The tree with a directory and all directories above it. -/
def makeDirectories (t : FileTree) (p : Path) : FileTree × Except FileFault Unit :=
  makeDirectoriesFuel (p.names.length + 1) t p

end FileTree

end KernelJob
