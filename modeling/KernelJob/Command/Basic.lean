import KernelJob.Command.Arguments
import KernelJob.Log

/-! # Commands

The commands of the program form a tree: `run`, `kernels`, and the group `config` with `init`,
`show` and `locate`. `Command.read` finds the command that a list of arguments stands for, or says
why there is none.
-/

namespace KernelJob

/-- The version of the program. -/
def version : Text := "0.3.0"

/-- A node of the tree of commands. -/
inductive CommandNode
  | program
  | run
  | kernels
  | config
  | init
  | show
  | locate
deriving DecidableEq, Repr

namespace CommandNode

/-- The words that lead to a node. -/
def path : CommandNode → Text
  | .program => "ipyjob"
  | .run => "ipyjob run"
  | .kernels => "ipyjob kernels"
  | .config => "ipyjob config"
  | .init => "ipyjob config init"
  | .show => "ipyjob config show"
  | .locate => "ipyjob config locate"

/-- The commands of a group. -/
def members : CommandNode → List (Text × CommandNode)
  | .program => [("run", .run), ("kernels", .kernels), ("config", .config)]
  | .config => [("init", .init), ("show", .show), ("locate", .locate)]
  | _ => []

/-- The option that asks for help. -/
def helpOption : OptionSpec := { name := "--help", kind := .flag }

/-- The option that asks for the version. -/
def versionOption : OptionSpec := { name := "--version", kind := .flag }

/-- Where an example of settings can be written. -/
def locations : List Text := ["user", "project"]

/-- The options of a node, apart from that for help. -/
def ownOptions : CommandNode → List OptionSpec
  | .program => [versionOption]
  | .run => [
      { name := "--code" }, { name := "--file" }, { name := "--format" },
      { name := "--task", required := true }, { name := "--kernel" },
      { name := "--workspace", kind := .directoryPath }, { name := "--report", kind := .filePath },
      { name := "--artifact-dir", kind := .directoryPath },
      { name := "--log-level", kind := .oneOf (LogLevel.all.map LogLevel.name) },
      { name := "--console-logging", kind := .flag }]
  | .init => [
      { name := "--location", kind := .oneOf locations }, { name := "--force", kind := .flag }]
  | _ => []

/-- The options of a node. -/
def options (n : CommandNode) : List OptionSpec := n.ownOptions ++ [helpOption]

/-- The fault of a word that names no command of a group. -/
def unknownMember (n : CommandNode) (word : Text) : UsageFault :=
  .unknownCommand word (Text.similar Arguments.suggestionLimit (n.members.map Prod.fst) word)

/-- Whether a node is a group of commands. -/
def isGroup (n : CommandNode) : Bool := !n.members.isEmpty

/-- How a node is used. -/
def usage (n : CommandNode) : Text :=
  "Usage: " ++ n.path ++
    (if n.isGroup then (" [OPTIONS] COMMAND [ARGS]..." : Text) else " [OPTIONS]")

/-- How a node is used, with the names of its options and commands. -/
def help (n : CommandNode) : Text :=
  Text.join "\n" ([n.usage, [], "Options:"] ++ n.options.map (fun o => ("  " : Text) ++ o.name) ++
    (if n.isGroup then
      ([[], "Commands:"] : List Text) ++ n.members.map (fun m => ("  " : Text) ++ m.1)
    else []))

end CommandNode

/-- What a run executes. -/
inductive RunSource
  | code (code : Text)
  | file (path : Text)
deriving DecidableEq, Repr

/-- The options of a run, as given. -/
structure RunOptions where
  source : RunSource
  format : Option Text := none
  task : Text
  kernel : Option Text := none
  workspace : Option Path := none
  report : Option Path := none
  artifactDirectory : Option Path := none
  level : Option LogLevel := none
  /-- Whether log records go to the console too. -/
  console : Bool := false
deriving DecidableEq, Repr

/-- What the program is asked to do. -/
inductive Command
  | version
  | help (node : CommandNode)
  | run (options : RunOptions)
  | kernels
  /-- Writes an example of settings to a place, over an old file only if asked to. -/
  | writeExample (location : Text) (overwrite : Bool)
  | showSettings
  | locateSettings
deriving DecidableEq, Repr

/-- Why arguments stand for no command. -/
inductive Refusal
  | usage (node : CommandNode) (fault : UsageFault)
  /-- A group of commands was given no arguments. -/
  | noArguments (node : CommandNode)
  /-- A path could not be looked up. -/
  | file (fault : FileFault)
deriving DecidableEq, Repr

namespace Command

/-- The command of the first option that is obeyed before all others. -/
def eager? (node : CommandNode) (a : Arguments) : Option Command :=
  match a.given.find? fun name =>
      name == CommandNode.versionOption.name || name == CommandNode.helpOption.name with
  | none => none
  | some name => some (if name = CommandNode.versionOption.name then .version else .help node)

/-- The options of a run from its arguments, which have been checked. -/
def runOptions (a : Arguments) : Option RunOptions :=
  let rest (source : RunSource) : RunOptions := {
    source := source
    format := a.value? "--format"
    task := (a.value? "--task").getD []
    kernel := a.value? "--kernel"
    workspace := (a.value? "--workspace").map Path.ofText
    report := (a.value? "--report").map Path.ofText
    artifactDirectory := (a.value? "--artifact-dir").map Path.ofText
    level := (a.value? "--log-level").bind fun value =>
      (Arguments.wordOf (LogLevel.all.map LogLevel.name) value).bind LogLevel.ofName?
    console := a.has "--console-logging" }
  match a.value? "--code", a.value? "--file" with
  | some code, none => some (rest (.code code))
  | none, some path => some (rest (.file path))
  | _, _ => none

/-- The command of a node that is no group, from its arguments. -/
def ofArguments (node : CommandNode) (a : Arguments) : Except Refusal Command :=
  match node with
  | .run =>
    match runOptions a with
    | some options => .ok (.run options)
    | none => .error (.usage node .sourceCount)
  | .kernels => .ok .kernels
  | .init => .ok (.writeExample
      (((a.value? "--location").bind (Arguments.wordOf CommandNode.locations)).getD "user")
      (a.has "--force"))
  | .show => .ok .showSettings
  | .locate => .ok .locateSettings
  | .program | .config => .error (.noArguments node)

/-- Reads the arguments of a node that is no group. -/
def readLeaf (files : FileTree) (node : CommandNode) (args : List Text) : Except Refusal Command :=
  match Arguments.read node.options true args with
  | .error fault => .error (.usage node fault)
  | .ok a =>
    match eager? node a with
    | some command => .ok command
    | none =>
      match a.check files node.options with
      | .error fault => .error (.file fault)
      | .ok (some fault) => .error (.usage node fault)
      | .ok none => ofArguments node a

/-- A command, or a node with the arguments that are left for it. -/
abbrev Selection := Command ⊕ (CommandNode × List Text)

/-- Reads the arguments of a group. A word that names no member but has the form of an option is
read as one. -/
def select (node : CommandNode) (args : List Text) : Except Refusal Selection :=
  if args = [] then .error (.noArguments node)
  else
    match Arguments.read node.options false args with
    | .error fault => .error (.usage node fault)
    | .ok a =>
      match eager? node a, a.words with
      | some command, _ => .ok (.inl command)
      | none, [] => .error (.usage node .commandMissing)
      | none, word :: words =>
        match node.members.lookup word with
        | some member => .ok (.inr (member, words))
        | none =>
          match Arguments.read node.options false (word :: words) with
          | .error fault => .error (.usage node fault)
          | .ok b =>
            match eager? node b with
            | some command => .ok (.inl command)
            | none => .error (.usage node (node.unknownMember word))

/-- The command that arguments stand for. -/
def read (files : FileTree) (args : List Text) : Except Refusal Command :=
  match select .program args with
  | .error refusal => .error refusal
  | .ok (.inl command) => .ok command
  | .ok (.inr (.config, args)) =>
    match select .config args with
    | .error refusal => .error refusal
    | .ok (.inl command) => .ok command
    | .ok (.inr (node, args)) => readLeaf files node args
  | .ok (.inr (node, args)) => readLeaf files node args

end Command

end KernelJob
