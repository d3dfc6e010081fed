import Toolpath.Geometry
import Toolpath.Run
import Toolpath.Value
/-!
# Summaries

A run in a few numbers: counts, the length that was drawn, the box around it, and on demand a
table of the layers.

## Main definitions

* `Toolpath.Summary`, `Toolpath.Summary.of` — the numbers of a result.
* `Toolpath.Summary.value` — a summary as a value, for machines.
* `Toolpath.Summary.lines` — a summary as lines of text, for people.
-/

namespace Toolpath

open Text Decimal

/-- A layer's row in the table. -/
structure LayerRow where
  index : Nat
  z : Float
  startLine : Int
  /-- The paths with points. -/
  paths : Nat
  segments : Nat
  deriving DecidableEq, Repr

/-- The row of the layer with an index. -/
def LayerRow.of (index : Nat) (l : Layer) : LayerRow where
  index := index
  z := l.z
  startLine := l.startLine
  paths := l.paths.countP (!·.isEmpty)
  segments := l.segmentCount

/-- A run in a few numbers; lengths and coordinates have three places. -/
structure Summary where
  layers : Nat
  segments : Nat
  length : Float
  bounds : Option Geometry.Box
  tally : Tally
  table : Option (List LayerRow)
  deriving DecidableEq, Repr

namespace Summary

/-- A number of millimetres rounded to three places. -/
def rounded (x : Float) : Float := roundTo 3 x

/-- A point with rounded coordinates. -/
def roundedPoint (p : Point) : Point := ⟨rounded p.x, rounded p.y, rounded p.z⟩

/-- The summary of a result, with a table of the layers on demand. -/
def of (r : Result) (withTable : Bool) : Summary where
  layers := r.layers.length
  segments := r.layers.foldr (fun l n => l.segmentCount + n) 0
  length := rounded (Geometry.length r.layers)
  bounds := (Geometry.bounds r.layers).map fun box =>
    ⟨roundedPoint box.least, roundedPoint box.greatest⟩
  tally := r.tally
  table := if withTable then some (r.layers.mapIdx LayerRow.of) else none

/-- A point as a list of three numbers. -/
def pointValue (p : Point) : Value := .list [.float p.x, .float p.y, .float p.z]

/-- A count as a value. -/
def count (n : Nat) : Value := .int n

/-- A row of the table as a value. -/
def rowValue (row : LayerRow) : Value :=
  .record
    [("index", count row.index), ("z", .float row.z), ("start_line", .int row.startLine),
      ("paths", count row.paths), ("segments", count row.segments)]

/-- A summary as a value. -/
def value (s : Summary) : Value :=
  .record <|
    [("layers", count s.layers), ("segments", count s.segments),
      ("extruded_length_mm", .float s.length),
      ("bounds",
        match s.bounds with
        | none => .null
        | some box =>
          .record [("min", pointValue box.least), ("max", pointValue box.greatest)]),
      ("lines", count s.tally.lines), ("motion_commands", count s.tally.motion),
      ("arc_commands", count s.tally.arcs),
      ("ignored_commands",
        .record (s.tally.ignored.map fun (code, n) => (String.ofList code, count n))),
      ("malformed_parameters", count s.tally.malformed)]
    ++ match s.table with
      | none => []
      | some rows => [("layer_table", .list (rows.map rowValue))]

/-- The row of a layer as a line of text; lines are counted from one there. -/
def rowLine (row : LayerRow) : List Char :=
  "  layer ".toList ++ padLeft 4 (ofNat row.index)
    ++ "  z=".toList ++ padRight 8 (general 6 row.z)
    ++ " line ".toList ++ padRight 8 (ofInt (row.startLine + 1))
    ++ " paths=".toList ++ padRight 4 (ofNat row.paths)
    ++ " segments=".toList ++ ofNat row.segments

/-- A summary as lines of text. -/
def lines (s : Summary) : List (List Char) :=
  let number (label : String) (n : Nat) : List Char := label.toList ++ ofNat n
  [number "Layers:          " s.layers, number "Segments:        " s.segments,
    "Extruded length: ".toList ++ fixed 3 s.length ++ " mm".toList]
    ++ (match s.bounds with
      | none => []
      | some box =>
        ["Bounds:          ".toList ++ (pointValue box.least).shown ++ " .. ".toList
          ++ (pointValue box.greatest).shown])
    ++ [number "Lines:           " s.tally.lines]
    ++ (if s.tally.arcs ≠ 0 then [number "Arcs skipped:    " s.tally.arcs] else [])
    ++ (s.table.getD []).map rowLine

end Summary

end Toolpath
