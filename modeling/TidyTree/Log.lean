/-
TidyTree.Log — log records and what of them is shown.

A record has a level, the part of the program it comes from and a
message.  A threshold lets through the records that are at least as
severe as its level, or none at all.
-/

namespace TidyTree

/-! ## 1. Levels and thresholds -/

/-- How severe a record is, from the most to the least severe. -/
inductive Level where
  | error
  | warn
  | info
  | debug
  | trace
deriving DecidableEq, Repr

namespace Level

/-- The place of the level, counted from the most severe. -/
def rank : Level → Nat
  | error => 1
  | warn => 2
  | info => 3
  | debug => 4
  | trace => 5

/-- The level in capitals. -/
def text : Level → String
  | error => "ERROR"
  | warn => "WARN"
  | info => "INFO"
  | debug => "DEBUG"
  | trace => "TRACE"

end Level

/-- Which records are shown: none, or those down to a level. -/
inductive Threshold where
  | off
  | upTo (level : Level)
deriving DecidableEq, Repr

namespace Threshold

/-- The place of the threshold; `off` comes before every level. -/
def rank : Threshold → Nat
  | off => 0
  | upTo l => l.rank

/-- Whether records of the level are shown. -/
def admits (t : Threshold) (l : Level) : Bool := l.rank ≤ t.rank

/-- The thresholds by their names. -/
def names : List (String × Threshold) :=
  [("off", off), ("error", upTo .error), ("warn", upTo .warn), ("info", upTo .info),
    ("debug", upTo .debug), ("trace", upTo .trace)]

/-- The threshold of that name, in any mixture of upper and lower case ASCII letters. -/
def ofName? (s : String) : Option Threshold :=
  names.lookup (s.map Char.toLower)

end Threshold

/-! ## 2. Records -/

/-- The part of the program a record comes from. -/
inductive Target where
  | discovery
  | runner
  | formatter
  | commandLine
deriving DecidableEq, Repr

/-- The target as it is written in a log. -/
def Target.text : Target → String
  | .discovery => "source_formatter::utils::file_utils"
  | .runner => "source_formatter::core::runner"
  | .formatter => "source_formatter::core::formatter"
  | .commandLine => "format_sources"

/-- One record of the log. -/
structure Record where
  level : Level
  target : Target
  message : String
deriving DecidableEq, Repr

/-- The line a record makes in the log, given the time it was written. -/
def Record.line (r : Record) (time : String) : String :=
  time ++ " - " ++ r.level.text ++ " - " ++ r.target.text ++ " - " ++ r.message ++ "\n"

end TidyTree
