import KernelJob.Path

/-! # Logs

A log record has a level, the part of the program that it comes from, and a message. Records go to a
target, which has a file and a level; those below the level are dropped, and so are those whose text
UTF-8 cannot carry. A log holds what all targets have taken.
-/

namespace KernelJob

/-- How important a log record is. -/
inductive LogLevel
  | debug
  | info
  | warning
  | error
  | critical
deriving DecidableEq, Repr

namespace LogLevel

/-- The rank of a level. -/
def rank : LogLevel → Nat
  | .debug => 10
  | .info => 20
  | .warning => 30
  | .error => 40
  | .critical => 50

/-- The name of a level. -/
def name : LogLevel → Text
  | .debug => "DEBUG"
  | .info => "INFO"
  | .warning => "WARNING"
  | .error => "ERROR"
  | .critical => "CRITICAL"

/-- All levels, least important first. -/
def all : List LogLevel := [debug, info, warning, error, critical]

/-- The level with some name. -/
def ofName? (t : Text) : Option LogLevel := all.find? (·.name == t)

@[simp] theorem ofName?_name (l : LogLevel) : ofName? l.name = some l := by cases l <;> decide

end LogLevel

/-- The part of the program that a log record comes from. -/
inductive LogSource
  | run
  | codeUnit
  | document
  | session
  | artifacts
  | job
  | command
deriving DecidableEq, Repr

/-- The name of a part of the program in the log. -/
def LogSource.name : LogSource → Text
  | .run => "ipyjob.core.orchestrator"
  | .codeUnit => "ipyjob.core.code_unit"
  | .document => "ipyjob.parsing.notebook_parser"
  | .session => "ipyjob.interpreter.session"
  | .artifacts => "ipyjob.interpreter.artifacts"
  | .job => "ipyjob.job.adapter"
  | .command => "ipyjob.cli.commands.run"

/-- A log record. -/
structure LogRecord where
  level : LogLevel
  source : LogSource
  message : Text
deriving DecidableEq, Repr

/-- Whether a code point ends a line of a log. -/
def endsLogLine (c : CodePoint) : Bool := c.val == 10 || c.val == 13

/-- A record as a line; of a message with several lines it shows the first. -/
def LogRecord.line (r : LogRecord) : Text :=
  r.source.name ++ " - " ++ r.level.name ++ " - " ++ r.message.takeWhile fun c => !endsLogLine c

/-- What a log writes to. -/
structure LogTarget where
  file : Path
  level : LogLevel
  /-- Whether records are shown on the console too. -/
  console : Bool := false
deriving DecidableEq, Repr

/-- Whether a target takes a record: it is important enough, and its text can be put down. -/
def LogTarget.accepts (t : LogTarget) (r : LogRecord) : Bool :=
  t.level.rank ≤ r.level.rank && !r.message.hasSurrogate

/-- The records that a target takes among some. -/
def LogTarget.accepted (t : LogTarget) (rs : List LogRecord) : List LogRecord := rs.filter t.accepts

/-- What has been logged, in order, each record with the target that took it. -/
structure Log where
  written : List (LogTarget × LogRecord) := []
deriving Repr

namespace Log

/-- The log with records written to a target. -/
def write (log : Log) (t : LogTarget) (rs : List LogRecord) : Log :=
  ⟨log.written ++ (t.accepted rs).map fun r => (t, r)⟩

/-- The records of a file. -/
def recordsIn (log : Log) (file : Path) : List LogRecord :=
  (log.written.filter (·.1.file == file)).map Prod.snd

@[simp] theorem write_nil (log : Log) (t : LogTarget) : log.write t [] = log := by
  simp [write, LogTarget.accepted]

theorem write_append (log : Log) (t : LogTarget) (rs ss : List LogRecord) :
    log.write t (rs ++ ss) = (log.write t rs).write t ss := by
  simp [write, LogTarget.accepted]

/-- A file that a target does not write to keeps its records, and its own file takes on those that
it accepts. -/
theorem recordsIn_write (log : Log) (t : LogTarget) (rs : List LogRecord) (file : Path) :
    (log.write t rs).recordsIn file =
      log.recordsIn file ++ if t.file = file then t.accepted rs else [] := by
  by_cases h : t.file = file <;> simp [write, recordsIn, h, List.filter_map, Function.comp_def]

end Log

end KernelJob
