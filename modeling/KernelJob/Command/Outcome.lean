import KernelJob.Command.Basic
import KernelJob.Settings.Files
import KernelJob.Text.Escapes

/-! # Outcomes of commands

What a command leaves behind: an exit code, the texts of its two outputs, what it did to the
outside, and the files and the log that later commands find. Texts are printed without terminal
commands. The standard output carries UTF-8 only; the error output spells what UTF-8 cannot carry.
-/

namespace KernelJob

/-- What commands change and later commands find. -/
structure Site where
  files : FileTree
  log : Log := {}

/-- A failure that a command has no rule for. -/
inductive Fatal
  | settings (fault : SettingsFault)
  | failure (failure : Failure)

/-- What a command leaves behind. -/
structure Outcome where
  exitCode : Nat := 0
  output : Text := []
  errorOutput : Text := []
  /-- The failure that ended the command, if it has no rule for it. -/
  fatal : Option Fatal := none
  /-- What was done to the outside. -/
  trace : List Event := []
  site : Site

namespace Outcome

/-- A text as it is printed, with the end of its line. -/
def printed (t : Text) : Text := t.stripCommands ++ "\n"

/-- The failure of printing a text, if UTF-8 cannot carry it. -/
def printFault? (t : Text) : Option EncodeFault := Text.utf8Fault? (printed t)

/-- A text in which surrogates are spelled as escapes. -/
def spelled (t : Text) : Text :=
  t.flatMap fun c => if c.isSurrogate then "\\u" ++ Text.hex 4 c.val else [c]

/-- A text as it is printed to the error output. -/
def printedError (t : Text) : Text := spelled (printed t)

/-- The exit code of a command that fails. -/
def failed : Nat := 1

/-- The exit code of a command that was not understood. -/
def misused : Nat := 2

/-- A command that ended with a failure. -/
def ofFatal (site : Site) (fatal : Fatal) : Outcome :=
  { exitCode := failed, fatal := some fatal, site := site }

/-- The lines that are printed, and the failure that ended the printing. -/
def printAll : List Text → Text × Option EncodeFault
  | [] => ([], none)
  | line :: lines =>
    match printFault? line with
    | some fault => ([], some fault)
    | none =>
      match printAll lines with
      | (t, fault) => (printed line ++ t, fault)

@[simp] theorem printAll_nil : printAll [] = ([], none) := rfl

/-- Lines that can all be printed are printed one after the other. -/
theorem printAll_of_forall {lines : List Text} (h : ∀ l ∈ lines, printFault? l = none) :
    printAll lines = (lines.flatMap printed, none) := by
  induction lines with
  | nil => rfl
  | cons l lines ih =>
    have hl : printFault? l = none := h l List.mem_cons_self
    have hs : printAll lines = (lines.flatMap printed, none) :=
      ih fun m hm => h m (List.mem_cons_of_mem _ hm)
    simp [printAll, hl, hs]

/-- A command that prints lines. -/
def ofLines (site : Site) (lines : List Text) : Outcome :=
  match printAll lines with
  | (t, none) => { output := t, site := site }
  | (t, some fault) => { ofFatal site (.failure (.encoding fault)) with output := t }

/-- A command that prints nothing but a complaint. -/
def ofComplaint (site : Site) (exitCode : Nat) (complaint : Text) : Outcome :=
  { exitCode := exitCode, errorOutput := printedError complaint, site := site }

/-- What is printed of arguments that are not understood. -/
def usageComplaint (node : CommandNode) (fault : UsageFault) : Text :=
  (if fault.showsUsage then
    node.usage ++ "\nTry '" ++ node.path ++ " " ++ CommandNode.helpOption.name ++ "' for help.\n\n"
  else []) ++ "Error: " ++ fault.message

/-- The outcome of arguments that stand for no command. -/
def ofRefusal (site : Site) : Refusal → Outcome
  | .usage node fault => ofComplaint site misused (usageComplaint node fault)
  | .noArguments node => ofComplaint site misused node.help
  | .file fault => ofFatal site (.failure (.file fault))

end Outcome

end KernelJob
