import Autopilot.Text.LineBreak

/-!
# The log

Beside its results the library keeps a log: records of different levels, each from one
part of the library.
-/

namespace Autopilot

/-- How important a record of the log is. -/
inductive LogLevel where
  | debug
  | info
  | warning
deriving DecidableEq, Repr

/-- The word for a level. -/
def LogLevel.word : LogLevel → String
  | debug => "DEBUG"
  | info => "INFO"
  | warning => "WARNING"

/-- The parts of the library that keep a log. -/
inductive LogSource where
  | check
  | tick
  | tokens
deriving DecidableEq, Repr

/-- The name under which a part keeps its log. -/
def LogSource.name : LogSource → String
  | check => "dronescript.pipeline.entrypoints"
  | tick => "dronescript.evaluator.evaluator"
  | tokens => "dump_tokens"

/-- A record of the log. -/
structure LogRecord where
  level : LogLevel
  source : LogSource
  message : String
deriving DecidableEq, Repr

namespace LogRecord

/-- A record with its level. -/
def text (record : LogRecord) : String :=
  record.level.word ++ " " ++ record.message

/-- A record with its level and its source. -/
def sourcedText (record : LogRecord) : String :=
  record.level.word ++ " " ++ record.source.name ++ ": " ++ record.message

end LogRecord

/-- The records of a log that are shown: all of them, or only the warnings. -/
def shownRecords (verbose : Bool) (log : List LogRecord) : List LogRecord :=
  log.filter fun record => verbose || record.level = .warning

/-- The text of a log with the sources of its records. -/
def sourcedLog (verbose : Bool) (log : List LogRecord) : String :=
  Text.endLines ((shownRecords verbose log).map LogRecord.sourcedText)

/-- The text of the warnings of a log, without their sources. -/
def bareWarnings (log : List LogRecord) : String :=
  Text.endLines ((shownRecords false log).map (·.message))

end Autopilot
