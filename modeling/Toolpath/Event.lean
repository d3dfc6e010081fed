import Toolpath.Decimal.Layout
import Toolpath.Log.Record
import Toolpath.Text.Quoted
/-!
# Events of a run

What is worth a report while a document is interpreted, and the wording of the reports.

## Main definitions

* `Toolpath.Event` — the events.
* `Toolpath.Event.record` — the report of an event.
-/

namespace Toolpath

/-- What is worth a report while a document is interpreted. -/
inductive Event where
  /-- A word has no number behind its letter. -/
  | malformed (word line : List Char)
  /-- A layer was opened. -/
  | layerOpened (index : Nat) (z : Float) (line : Int)
  /-- An arc was left out. -/
  | arcSkipped (line : Int)
  /-- A code is not supported. -/
  | unsupported (code : List Char) (line : Int)
  deriving DecidableEq, Repr

namespace Event

open Text Decimal

/-- The part that reads lines. -/
def readerLogger : String := "gcode_layers.interpreter.lexer"

/-- The part that executes commands. -/
def runLogger : String := "gcode_layers.interpreter.parser"

/-- The part that records layers. -/
def recorderLogger : String := "gcode_layers.interpreter.builder"

/-- The name of the part that an event concerns. -/
def logger : Event → String
  | malformed .. => readerLogger
  | layerOpened .. => recorderLogger
  | arcSkipped .. => runLogger
  | unsupported .. => runLogger

/-- The wording of an event. -/
def message : Event → String
  | malformed word line =>
    s!"Malformed parameter {String.ofList (quoted word)} in {String.ofList (quoted line)}"
  | layerOpened index z line =>
    s!"Layer {index} opened at z={String.ofList (text z)} (line {line})"
  | arcSkipped line => s!"Arc move not supported, skipped (line {line})"
  | unsupported code line => s!"Command not supported: {String.ofList code} (line {line})"

/-- The report of an event. -/
def record (e : Event) : Log.Record := .of e.logger .debug e.message

end Event

end Toolpath
