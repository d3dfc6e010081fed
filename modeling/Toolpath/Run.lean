import Toolpath.Clock
import Toolpath.Command
import Toolpath.Event
import Toolpath.Layer
/-!
# Running a document

A run goes through the lines of a document once. It carries the machine, the recorder of layers,
the counters and the journal of events; a line with a code is executed, any other is passed over.

A layer is opened by the first move that draws at another height than that of the layer being
drawn. Travel alone never opens one, so lifting the tool and lowering it again does not split a
layer.

## Main definitions

* `Toolpath.Tally` — the counters of a run.
* `Toolpath.Run`, `Run.execute`, `Run.readLine`, `Run.ofText` — the run of a document.
* `Toolpath.Result` — what a run is for: layers, final state and counters.
* `Toolpath.interpret` — a document interpreted, with its report.
-/

namespace Toolpath

open Text Decimal

/-! ## Counters -/

/-- The counters of a run. -/
structure Tally where
  lines : Nat := 0
  /-- Straight moves. -/
  motion : Nat := 0
  /-- Straight moves that draw. -/
  extruding : Nat := 0
  /-- Straight moves that do not draw. -/
  travel : Nat := 0
  arcs : Nat := 0
  /-- Words without a number in executed lines. -/
  malformed : Nat := 0
  /-- Unsupported codes in order of first appearance, each with its number of lines. -/
  ignored : List (List Char × Nat) := []
  /-- The time that the run took, if it was measured. -/
  elapsed : Option Float := none
  deriving DecidableEq, Repr

namespace Tally

/-- The counters after a straight move. -/
def countMove (t : Tally) (draws : Bool) : Tally :=
  { t with
    motion := t.motion + 1
    extruding := if draws then t.extruding + 1 else t.extruding
    travel := if draws then t.travel else t.travel + 1 }

/-- The counters after a command that is not a move of a known shape. -/
def count (t : Tally) : Command → Tally
  | .arc _ => { t with arcs := t.arcs + 1 }
  | .unsupported code => { t with ignored := Entries.bump t.ignored code }
  | _ => t

/-- The number of lines with unsupported codes. -/
def ignoredTotal (t : Tally) : Nat := t.ignored.foldr (fun entry n => entry.2 + n) 0

/-- The most frequent unsupported codes, five at most; of equally frequent ones the first seen
comes first. -/
def topIgnored (t : Tally) : List (List Char × Nat) :=
  (t.ignored.mergeSort fun a b => b.2 ≤ a.2).take 5

/-- The summary of a measured run. -/
def summary (t : Tally) (layers : Nat) (elapsed : Float) : List Log.Record :=
  let top := String.ofList <|
    joined [',', ' '] (t.topIgnored.map fun (code, n) => code ++ 'x' :: ofNat n)
  let line (level : Log.Level) (present : Bool) (message : String) : List Log.Record :=
    if present then [.of Event.runLogger level message] else []
  line .info true s!"Parsed {t.lines} lines: {layers} layers, {t.extruding} extruding / {t.travel} travel moves in {String.ofList (fixed 3 elapsed)}s"
    ++ line .info (t.arcs ≠ 0) s!"Skipped {t.arcs} arc moves (G2/G3)"
    ++ line .info (t.ignored ≠ []) s!"Ignored {t.ignoredTotal} unsupported commands ({top})"
    ++ line .warning (t.malformed ≠ 0) s!"{t.malformed} malformed parameters treated as absent"

end Tally

/-! ## The run -/

/-- Everything that a run carries from line to line. -/
structure Run where
  machine : Machine := {}
  recorder : Recorder := {}
  tally : Tally := {}
  /-- The events so far. -/
  journal : Array Event := #[]

namespace Run

/-- The run with an event noted. -/
def note (r : Run) (e : Event) : Run := { r with journal := r.journal.push e }

/-- The run with a layer opened. -/
def openLayer (r : Run) (z : Float) (line : Int) : Run :=
  let recorder := r.recorder.openLayer z line
  { r with recorder }.note (.layerOpened recorder.finished.size z line)

/-- The run after a straight move. A move that draws opens a layer if it needs one. -/
def move (r : Run) (line : Int) (m : Move) : Run :=
  let before := r.machine
  let after := before.move m
  let r := if after.extruding && r.recorder.needsLayer after.z then r.openLayer after.z line else r
  { r with
    machine := after
    recorder := r.recorder.record before after
    tally := r.tally.countMove after.extruding }

/-- The run after a command on a line. -/
def execute (r : Run) (line : Int) (c : Command) : Run :=
  match c with
  | .linear m => r.move line m
  | .arc _ => { r with tally := r.tally.count c }.note (.arcSkipped line)
  | .unsupported code => { r with tally := r.tally.count c }.note (.unsupported code line)
  | .origin _ => { r with machine := r.machine.after c }
  | .positioning _ => { r with machine := r.machine.after c }

/-- The run with the malformed words of a line noted. -/
def complain (r : Run) (b : Block) : Run :=
  { r with journal := r.journal ++ (b.malformed.map fun w => Event.malformed w.written b.line) }

/-- The run after a line. Malformed words are noted on every line and counted on those that
are executed. -/
def readLine (r : Run) (line : Nat) (text : List Char) : Run :=
  let b := Block.read text
  let r := r.complain b
  if b.isBlank then r
  else
    let tally := { r.tally with malformed := r.tally.malformed + b.malformed.length }
    { r with tally }.execute line (.ofBlock b)

/-- The run over lines that are numbered from `first` on. -/
def readLines (r : Run) (first : Nat) : List (List Char) → Run
  | [] => r
  | text :: rest => (r.readLine first text).readLines (first + 1) rest

/-- The run of a whole document from the state at rest: at the origin, reading positions. -/
def ofText (s : List Char) : Run :=
  let lines := sourceLines s
  readLines { tally := { lines := lines.length } } 0 lines

/-- The reports of the events so far. -/
def reports (r : Run) : List Log.Record := r.journal.toList.map Event.record

end Run

/-! ## Results -/

/-- What a run is for. -/
structure Result where
  /-- The layers in the order in which they were opened. -/
  layers : List Layer
  finalState : Machine
  tally : Tally
  deriving DecidableEq, Repr

/-- The lines at which the layers were opened. -/
def Result.layerIndices (r : Result) : List Int := r.layers.map (·.startLine)

/-- The result of a run. -/
def Run.result (r : Run) : Result := ⟨r.recorder.layers, r.machine, r.tally⟩

/-- The result for a document. -/
def resultOf (s : List Char) : Result := (Run.ofText s).result

/-- A document interpreted: the result, the reports, and the clock afterwards. -/
structure Interpretation where
  result : Result
  reports : List Log.Record
  clock : Clock

/-- The interpretation of a document. A measured run takes two readings of the clock, keeps the
time between them and ends its reports with a summary. -/
def interpret (measured : Bool) (clock : Clock) (s : List Char) : Interpretation :=
  let run := Run.ofText s
  if measured then
    let (elapsed, clock) := clock.stretch
    let tally := { run.tally with elapsed := some elapsed }
    let result := { run.result with tally }
    ⟨result, run.reports ++ tally.summary result.layers.length elapsed, clock⟩
  else ⟨run.result, run.reports, clock⟩

end Toolpath
