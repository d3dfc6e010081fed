/-!
# Log records

What is reported while the program works: a severity, the name of the part that reports, and a
message.

## Main definitions

* `Toolpath.Log.Level` — the named severities and their numbers.
* `Toolpath.Log.levelName` — the name of any severity number.
* `Toolpath.Log.Record` — one report.
-/

namespace Toolpath.Log

/-- The named severities of reports. -/
inductive Level where
  | debug
  | info
  | warning
  | error
  | critical
  deriving DecidableEq, Repr, Inhabited

namespace Level

/-- All severities, the least first. -/
def all : List Level := [debug, info, warning, error, critical]

/-- The number of a severity. -/
def number : Level → Int
  | debug => 10
  | info => 20
  | warning => 30
  | error => 40
  | critical => 50

/-- The name of a severity. -/
def name : Level → String
  | debug => "DEBUG"
  | info => "INFO"
  | warning => "WARNING"
  | error => "ERROR"
  | critical => "CRITICAL"

/-- The severity of a name. -/
def ofName? (s : String) : Option Level := all.find? (·.name == s)

end Level

/-- The name of a severity number. -/
def levelName (n : Int) : String :=
  match Level.all.find? (·.number == n) with
  | some level => level.name
  | none => if n = 0 then "NOTSET" else s!"Level {n}"

/-- One report. -/
structure Record where
  /-- The name of the part that reports. -/
  logger : String
  /-- The number of the severity. -/
  level : Int
  message : String
  deriving DecidableEq, Repr

/-- A report of a named severity. -/
def Record.of (logger : String) (level : Level) (message : String) : Record :=
  ⟨logger, level.number, message⟩

end Toolpath.Log
