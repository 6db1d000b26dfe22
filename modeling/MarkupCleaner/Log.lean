/-!
# The log

Messages with a level. Levels have a severity, by which they are ordered; besides the named ones there
is a level for every number.
-/

namespace MarkupCleaner

/-- The level of a message. -/
inductive Level where
  | trace
  | debug
  | info
  | success
  | warning
  | error
  | critical
  | numbered (severity : Nat)
deriving DecidableEq, Repr

namespace Level

/-- How severe a level is. -/
def severity : Level → Nat
  | trace => 5
  | debug => 10
  | info => 20
  | success => 25
  | warning => 30
  | error => 40
  | critical => 50
  | numbered n => n

/-- The name of a level. -/
def name : Level → String
  | trace => "TRACE"
  | debug => "DEBUG"
  | info => "INFO"
  | success => "SUCCESS"
  | warning => "WARNING"
  | error => "ERROR"
  | critical => "CRITICAL"
  | numbered n => "Level " ++ toString n

/-- The levels that have a name, by increasing severity. -/
def named : List Level := [trace, debug, info, success, warning, error, critical]

/-- The level of a name, which is written in capitals. -/
def ofName? (name : String) : Option Level := named.find? fun level => level.name = name

end Level

/-- A message of the log. -/
structure Entry where
  level : Level
  message : String
deriving DecidableEq, Repr

/-- Messages in the order in which they were logged. -/
abbrev Log := List Entry

/-- The messages of at least a level. -/
def Log.atLeast (log : Log) (level : Level) : Log :=
  log.filter fun entry => level.severity ≤ entry.level.severity

end MarkupCleaner
