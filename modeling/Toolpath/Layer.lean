import Toolpath.Machine
/-!
# Layers and how they are recorded

The drawn part of a toolpath, in layers of paths. The recorder takes every straight move as the
pair of the states before and after it: a move that draws adds its two ends to the path being
drawn, and any other move ends that path.

## Main definitions

* `Toolpath.Path`, `Toolpath.Layer` — points in drawing order, two for each move, and the paths
  drawn at one height.
* `Toolpath.OpenLayer` — the layer being drawn: its ended paths and the path under the pen.
* `Toolpath.Recorder` — the finished layers and the one being drawn, with the operations
  `needsLayer`, `openLayer` and `record` and the view `layers`.
-/

namespace Toolpath

/-- Points in drawing order, two for each move that draws. -/
abbrev Path := List Point

/-- The paths drawn at one height. -/
structure Layer where
  /-- The height of the move that opened the layer. -/
  z : Float
  /-- The line of that move; those of a document are counted from zero. -/
  startLine : Int
  /-- The paths in drawing order; the last may be empty and wait for the next move. -/
  paths : List Path
  deriving DecidableEq, Repr, Inhabited

namespace Layer

/-- The number of points of a layer. -/
def pointCount (l : Layer) : Nat := l.paths.flatten.length

/-- The number of moves drawn in a layer. -/
def segmentCount (l : Layer) : Nat := l.pointCount / 2

/-- The numbers of points of a layer's paths. -/
def shape (l : Layer) : List Nat := l.paths.map List.length

end Layer

/-! ## The layer being drawn -/

/-- A layer being drawn. -/
structure OpenLayer where
  z : Float
  startLine : Int
  /-- The paths that a travel has ended. -/
  ended : Array Path
  /-- The path under the pen. -/
  pen : Array Point

namespace OpenLayer

/-- A layer before its first move. -/
def start (z : Float) (line : Int) : OpenLayer := ⟨z, line, #[], #[]⟩

/-- The layer as it stands. -/
def layer (l : OpenLayer) : Layer := ⟨l.z, l.startLine, l.ended.toList ++ [l.pen.toList]⟩

/-- The layer with the path under the pen ended; an empty path goes on waiting. -/
def lift (l : OpenLayer) : OpenLayer :=
  if l.pen.isEmpty then l else { l with ended := l.ended.push l.pen.toList, pen := #[] }

/-- The layer with a line drawn from one point to another. -/
def draw (l : OpenLayer) (a b : Point) : OpenLayer := { l with pen := (l.pen.push a).push b }

/-- The layer after a straight move. -/
def record (l : OpenLayer) (before after : Machine) : OpenLayer :=
  if after.extruding then l.draw before.position after.position else l.lift

end OpenLayer

/-! ## The recorder -/

/-- The layers recorded so far. -/
structure Recorder where
  /-- The layers that a later one has closed. -/
  finished : Array Layer := #[]
  /-- The layer being drawn. -/
  current : Option OpenLayer := none

namespace Recorder

/-- The height of the layer being drawn. -/
def currentZ (r : Recorder) : Option Float := r.current.map (·.z)

/-- Whether a move that draws at a height needs a new layer: there is none, or its height
differs. Nothing equals a height that is no number. -/
def needsLayer (r : Recorder) (z : Float) : Bool :=
  match r.current with
  | none => true
  | some l => !(z == l.z)

/-- The recorder with the layer being drawn closed and a new one opened. -/
def openLayer (r : Recorder) (z : Float) (line : Int) : Recorder where
  finished :=
    match r.current with
    | none => r.finished
    | some l => r.finished.push l.layer
  current := some (.start z line)

/-- The recorder after a straight move. Before the first layer a move leaves no trace. -/
def record (r : Recorder) (before after : Machine) : Recorder :=
  { r with current := r.current.map (·.record before after) }

/-- The layers in the order in which they were opened, the one being drawn last. -/
def layers (r : Recorder) : List Layer :=
  r.finished.toList ++ (r.current.map OpenLayer.layer).toList

end Recorder

end Toolpath
