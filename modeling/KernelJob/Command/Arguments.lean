import KernelJob.FileTree
import KernelJob.Text.Case
import KernelJob.Text.Quoted
import KernelJob.Text.Similar

/-! # Arguments of a command

A command has options, each with a name that begins with two dashes, and takes what remains as
words. `Arguments.read` cuts a list of arguments into the two; `Arguments.check` looks at the
values. What is wrong with arguments is a `UsageFault`.
-/

namespace KernelJob

/-- What the value of an option has to be. -/
inductive OptionKind
  /-- There is no value. -/
  | flag
  | text
  /-- One of some words, in any letter case. -/
  | oneOf (words : List Text)
  /-- A path at which no directory stands. -/
  | filePath
  /-- A path at which no file stands. -/
  | directoryPath
deriving DecidableEq, Repr

/-- An option of a command. -/
structure OptionSpec where
  /-- The name, with its dashes. -/
  name : Text
  kind : OptionKind := .text
  /-- Whether the command cannot do without it. -/
  required : Bool := false
deriving DecidableEq, Repr

/-- Whether an option takes a value. -/
def OptionSpec.takesValue (o : OptionSpec) : Bool := o.kind != .flag

/-- What is wrong with a value. -/
inductive ValueFault
  | notOneOf (value : Text) (words : List Text)
  | isFile (value : Text)
  | isDirectory (value : Text)
deriving DecidableEq, Repr

/-- What is wrong with a value, in words. -/
def ValueFault.message : ValueFault → Text
  | .notOneOf value words => value.quoted ++ " is not one of " ++
      Text.join ", " (words.map fun w => Text.quoted w.foldCase) ++ "."
  | .isFile value => "Directory " ++ value.quoted ++ " is a file."
  | .isDirectory value => "File " ++ value.quoted ++ " is a directory."

/-- What is wrong with the arguments of a command. -/
inductive UsageFault
  /-- There is no such option; some names of options are alike. -/
  | unknownOption (name : Text) (similar : List Text)
  | valueMissing (name : Text)
  | valueUnexpected (name : Text)
  | invalidValue (name : Text) (fault : ValueFault)
  | optionMissing (name : Text)
  | extraWords (words : List Text)
  /-- There is no such command; some names of commands are alike. -/
  | unknownCommand (name : Text) (similar : List Text)
  | commandMissing
  /-- There is not exactly one source of code. -/
  | sourceCount
deriving DecidableEq, Repr

namespace UsageFault

/-- The names that an unknown name may have been meant to be: a single one, or several in order. -/
def guess : List Text → Text
  | [] => []
  | [name] => " Did you mean " ++ name.quoted ++ "?"
  | names => " (Did you mean one of: " ++
      Text.join ", " ((names.mergeSort fun s t => !Text.before t s).map Text.quoted) ++ "?)"

/-- What is wrong, in words. -/
def message : UsageFault → Text
  | .unknownOption name similar => "No such option " ++ name.quoted ++ "." ++ guess similar
  | .valueMissing name => "Option " ++ name.quoted ++ " requires an argument."
  | .valueUnexpected name => "Option " ++ name.quoted ++ " does not take a value."
  | .invalidValue name fault => "Invalid value for '" ++ name ++ "': " ++ fault.message
  | .optionMissing name => "Missing option '" ++ name ++ "'."
  | .extraWords [word] => "Got unexpected extra argument (" ++ word ++ ")"
  | .extraWords words => "Got unexpected extra arguments (" ++ Text.join " " words ++ ")"
  | .unknownCommand name similar => "No such command " ++ name.quoted ++ "." ++ guess similar
  | .commandMissing => "Missing command."
  | .sourceCount => "Exactly one of --code and --file is required."

/-- Whether the usage of the command is shown with the fault. -/
def showsUsage : UsageFault → Bool
  | .valueMissing _ | .valueUnexpected _ => false
  | _ => true

end UsageFault

/-- The arguments of a command: its options in order, each with its value, and its words. -/
structure Arguments where
  options : List (Text × Text) := []
  words : List Text := []
deriving DecidableEq, Repr

namespace Arguments

/-- The dash that begins an option. -/
def dash : CodePoint := '-'

/-- An argument that ends the options. -/
def endMark : Text := "--"

/-- Whether an argument has the form of an option. -/
def isOption : Text → Bool
  | c :: _ :: _ => c = dash
  | _ => false

/-- An argument cut at its first equals sign, if it has one. -/
def cutValue : Text → Text × Option Text
  | [] => ([], none)
  | c :: cs =>
    if c.val = 61 then ([], some cs)
    else match cutValue cs with
      | (name, value) => (c :: name, value)

/-- The most names that are suggested for an unknown one. -/
def suggestionLimit : Nat := 3

/-- The fault of an argument that names no option. With a single dash it counts as a letter. -/
def unknown (specs : List OptionSpec) (arg name : Text) : UsageFault :=
  if endMark.isPrefixOf arg then
    .unknownOption name (Text.similar suggestionLimit (specs.map OptionSpec.name) name)
  else .unknownOption (arg.take 2) []

/-- The arguments with an option put first. -/
def addOption (name value : Text) (a : Arguments) : Arguments :=
  { a with options := (name, value) :: a.options }

/-- The arguments with a word put first. -/
def addWord (word : Text) (a : Arguments) : Arguments := { a with words := word :: a.words }

/-- Arguments cut into options and words. Without `mixed` the first word ends the options. -/
def read (specs : List OptionSpec) (mixed : Bool) : List Text → Except UsageFault Arguments
  | [] => .ok {}
  | arg :: args =>
    if arg = endMark then .ok { words := args }
    else if isOption arg then
      match cutValue arg with
      | (name, value) =>
        match specs.find? (·.name == name) with
        | none => .error (unknown specs arg name)
        | some spec =>
          match spec.takesValue, value with
          | true, some v => (read specs mixed args).map (addOption name v)
          | true, none =>
            match args with
            | [] => .error (.valueMissing name)
            | v :: args => (read specs mixed args).map (addOption name v)
          | false, some _ => .error (.valueUnexpected name)
          | false, none => (read specs mixed args).map (addOption name [])
    else if mixed then (read specs mixed args).map (addWord arg)
    else .ok { words := arg :: args }

@[simp] theorem read_nil (specs : List OptionSpec) (mixed : Bool) :
    read specs mixed [] = .ok {} := by simp [read]

/-- What stands behind the mark that ends the options is taken as words. -/
@[simp] theorem read_endMark (specs : List OptionSpec) (mixed : Bool) (args : List Text) :
    read specs mixed (endMark :: args) = .ok { words := args } := by simp [read]

/-- Whether an option is given. -/
def has (a : Arguments) (name : Text) : Bool := a.options.any (·.1 == name)

/-- The value of an option: the last one that is given. -/
def value? (a : Arguments) (name : Text) : Option Text := a.options.reverse.lookup name

/-- The options that are given, in the order in which they first appear. -/
def given (a : Arguments) : List Text :=
  a.options.foldl (fun names o => if names.contains o.1 then names else names ++ [o.1]) []

/-! ## Values -/

/-- Whether a text can only name a directory. -/
def namesDirectory (value : Text) : Bool :=
  ("/" : Text).isSuffixOf value || ("/." : Text).isSuffixOf value

/-- What stands at the path that a value names, if anything can. -/
def entryAt (files : FileTree) (value : Text) : Except FileFault (Option Entry) :=
  match FileTree.checkPath value with
  | .error fault => .error fault
  | .ok _ =>
    if value = [] then .ok none
    else
      match files.stat (Path.ofText value) with
      | .ok (some (.file bytes)) => .ok (if namesDirectory value then none else some (.file bytes))
      | .ok e => .ok e
      | .error _ => .ok none

/-- What is wrong with a value of some kind, if anything is. -/
def valueFault? (files : FileTree) (kind : OptionKind) (value : Text) :
    Except FileFault (Option ValueFault) :=
  match kind with
  | .flag | .text => .ok none
  | .oneOf words =>
    .ok (if words.any (fun w => w.foldCase == value.foldCase) then none
      else some (.notOneOf value words))
  | .filePath => (entryAt files value).map fun e =>
      if e = some .directory then some (.isDirectory value) else none
  | .directoryPath => (entryAt files value).map fun e =>
      match e with
      | some (.file _) => some (.isFile value)
      | _ => none

/-- The word among some that a value stands for. -/
def wordOf (words : List Text) (value : Text) : Option Text :=
  words.find? fun w => w.foldCase == value.foldCase

/-- The first thing that is wrong with the values of options, in order. -/
def firstFault (files : FileTree) (specs : List OptionSpec) (a : Arguments) :
    List Text → Except FileFault (Option UsageFault)
  | [] => .ok none
  | name :: names =>
    match specs.find? (·.name == name), a.value? name with
    | some spec, some value =>
      match valueFault? files spec.kind value with
      | .error fault => .error fault
      | .ok (some fault) => .ok (some (.invalidValue name fault))
      | .ok none => firstFault files specs a names
    | _, _ => firstFault files specs a names

/-- The first required option that is not given. -/
def firstMissing (specs : List OptionSpec) (a : Arguments) : Option UsageFault :=
  (specs.find? fun o => o.required && !a.has o.name).map fun o => .optionMissing o.name

/-- The fault of words that a command has no use for. -/
def extraFault (a : Arguments) : Option UsageFault :=
  if a.words = [] then none else some (.extraWords a.words)

/-- What is wrong with the arguments of a command that takes no words: first the values in the order
in which they are given, then what is missing, then what is too much. -/
def check (files : FileTree) (specs : List OptionSpec) (a : Arguments) :
    Except FileFault (Option UsageFault) :=
  (firstFault files specs a a.given).map fun fault =>
    (fault.or (firstMissing specs a)).or (extraFault a)

end Arguments

end KernelJob
