import Toolpath.CommandLine.Arguments
import Toolpath.Config.File
import Toolpath.Log.Setup
import Toolpath.Source.Load
import Toolpath.Summary
/-!
# The program

What the program does with its arguments: it reads the settings, sets up the log, loads the source
and prints a summary.

## Main definitions

* `Toolpath.CommandLine.Surroundings` — what the program finds when it starts.
* `Toolpath.CommandLine.Outcome` — what it leaves behind.
* `Toolpath.CommandLine.run` — the program.
-/

namespace Toolpath.CommandLine

open Files

/-- What the program finds when it starts. -/
structure Surroundings where
  tree : Tree
  network : Network
  clock : Clock
  /-- Whether messages go to a terminal. -/
  terminal : Bool
  /-- The moment of all records. -/
  moment : Log.Moment
  /-- The number of the process. -/
  process : Nat

/-- Why the program stops without an exit code. -/
inductive Crash where
  /-- The option for the configuration file has no value. -/
  | noConfigPath
  | config (fault : Config.Fault)
  | log (fault : Log.SetupFault)
  | fetch (fault : FetchFault)
  deriving Repr

/-- The wording of a crash. -/
def Crash.message : Crash → String
  | noConfigPath => "expected str, bytes or os.PathLike object, not list"
  | config fault => fault.message
  | log fault => fault.message
  | fetch fault => fault.message

/-- What the program leaves behind. -/
structure Outcome where
  exit : Except Crash Nat
  output : List Char := []
  messages : List Char := []
  tree : Tree

/-- A text as lines. -/
def asLines (lines : List (List Char)) : List Char := lines.flatMap (· ++ ['\n'])

/-- Whether a fault of the settings is told to the user. -/
def isTold : Config.Fault → Bool
  | .value (.file (.notFound _ _)) => true
  | .value _ => false
  | .keyNotText => false
  | _ => true

/-- The name of the part that runs the program. -/
def programLogger : String := "gcode_layers.cli"

/-- Records written one after the other. -/
def writeAll (s : Surroundings) (l : Log.Logging) (sinks : Log.Logging.Sinks)
    (records : List Log.Record) : Log.Logging.Sinks :=
  records.foldl (fun sinks r => l.emit sinks ⟨r, s.moment, s.process, none⟩) sinks

/-- The summary of a result as it is printed. -/
def printed (a : Arguments) (r : Result) : List Char :=
  let summary := Summary.of r a.layers
  if a.json then asLines [Json.renderIndented summary.value] else asLines summary.lines

/-- The log that the arguments and the settings ask for. -/
def logOptions (a : Arguments) (s : LogSettings) : Log.Options where
  level := .str (a.level.getD s.level).name
  file := s.file.elim .null .str
  json := s.jsonLines
  color := s.color

/-- The program with its arguments and settings. The source may be the log file itself, so the first
line of the log is written before the source is read. -/
def runWith (s : Surroundings) (readers : Encoding.Readers) (a : Arguments) (settings : Settings) :
    Outcome :=
  let o := Log.Logging.setup {} s.tree s.terminal (logOptions a settings.log)
  match o.fault with
  | some fault => { exit := .error (.log fault), tree := o.tree }
  | none =>
    let source := String.ofList a.source
    let log := { o.logging with context := o.logging.context.push [("source", .str source)] }
    let loader := { Loader.ofSettings settings.loader settings.parser.instrument with readers }
    let sinks := writeAll s log ⟨[], o.tree⟩ (loader.announcement source)
    let load := loader.load sinks.tree s.network s.clock {} source
    let sinks := writeAll s log sinks load.reports
    match load.result with
    | .ok result =>
      { exit := .ok 0
        output := result.elim [] (printed a)
        messages := sinks.console
        tree := sinks.tree }
    | .error fault =>
      match fault with
      | .unobtainable _ _ =>
        let sinks := writeAll s log sinks [.of programLogger .error fault.message]
        { exit := .ok 1, messages := sinks.console, tree := sinks.tree }
      | _ => { exit := .error (.fetch fault), messages := sinks.console, tree := sinks.tree }

/-- The program, with the readers of the encodings that have none here. -/
def run (s : Surroundings) (texts : List (List Char)) (readers : Encoding.Readers := {}) :
    Outcome :=
  match Request.ofArguments texts with
  | .error fault =>
    let message := s!"{usage}{programName}: error: {fault.message}\n"
    { exit := .ok 2, messages := message.toList, tree := s.tree }
  | .ok .help => { exit := .ok 0, output := helpText.toList, tree := s.tree }
  | .ok (.run a) =>
    if a.config = some none then { exit := .error .noConfigPath, tree := s.tree }
    else
      match Config.load s.tree a.config.join with
      | .ok settings => runWith s readers a settings
      | .error fault =>
        if isTold fault then
          let message := s!"Error loading config: {fault.message}\n"
          { exit := .ok 1, messages := message.toList, tree := s.tree }
        else { exit := .error (.config fault), tree := s.tree }

end Toolpath.CommandLine
