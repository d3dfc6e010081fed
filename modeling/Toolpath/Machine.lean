/-!
# The machine

The state of the machine between two lines: where the tool is, how much material was fed, and how
the coordinates of the next line are to be read.

## Main definitions

* `Toolpath.Point` — a position of the tool.
* `Toolpath.Positioning` — whether a coordinate is a position or a distance, with the two readings
  `Positioning.change` and `Positioning.target`.
* `Toolpath.Machine` — the state between two lines.
* `Toolpath.Move`, `Toolpath.Machine.move` — a straight move and the state after it.
* `Toolpath.Origin`, `Toolpath.Machine.declare` — coordinates declared without moving.
-/

namespace Toolpath

/-- A position of the tool, in millimetres. -/
structure Point where
  x : Float
  y : Float
  z : Float
  deriving DecidableEq, Repr, Inhabited

/-! ## Reading coordinates -/

/-- How a coordinate is read. -/
inductive Positioning where
  /-- As a position. -/
  | absolute
  /-- As a distance from the present position. -/
  | relative
  deriving DecidableEq, Repr, Inhabited

namespace Positioning

/-- The change that a coordinate asks for. -/
def change (mode : Positioning) (previous value : Float) : Float :=
  match mode with
  | absolute => value - previous
  | relative => value

/-- The position that a coordinate leads to; an absent one keeps the position. -/
def target (mode : Positioning) (previous : Float) (value : Option Float) : Float :=
  match value, mode with
  | none, _ => previous
  | some v, absolute => v
  | some v, relative => previous + v

end Positioning

/-! ## The state -/

/-- The state of the machine between two lines. -/
structure Machine where
  x : Float := 0.0
  y : Float := 0.0
  z : Float := 0.0
  /-- The material fed so far. -/
  e : Float := 0.0
  /-- The feed rate. -/
  f : Float := 0.0
  positioning : Positioning := .absolute
  /-- Whether the last move fed material. -/
  extruding : Bool := false
  deriving DecidableEq, Repr, Inhabited

/-- The position of the tool. -/
def Machine.position (m : Machine) : Point := ⟨m.x, m.y, m.z⟩

/-! ## Moves -/

/-- A straight move: the coordinates it names. -/
structure Move where
  x : Option Float := none
  y : Option Float := none
  z : Option Float := none
  e : Option Float := none
  f : Option Float := none
  /-- Whether the line asks for the fastest travel. -/
  rapid : Bool := false
  deriving DecidableEq, Repr, Inhabited

/-- The material that a move feeds; nothing if it does not name `e`. -/
def Machine.feed (m : Machine) (move : Move) : Float :=
  match move.e with
  | none => 0.0
  | some e => m.positioning.change m.e e

/-- A move that feeds material draws. -/
def Machine.draws (m : Machine) (move : Move) : Bool := decide (0.0 < m.feed move)

/-- The state after a move. -/
def Machine.move (m : Machine) (move : Move) : Machine where
  x := m.positioning.target m.x move.x
  y := m.positioning.target m.y move.y
  z := m.positioning.target m.z move.z
  e := m.positioning.target m.e move.e
  f := m.positioning.target m.f move.f
  positioning := m.positioning
  extruding := m.draws move

/-- Coordinates declared for the present position. -/
structure Origin where
  x : Option Float := none
  y : Option Float := none
  z : Option Float := none
  e : Option Float := none
  deriving DecidableEq, Repr, Inhabited

/-- The state with coordinates declared, whatever the positioning; the tool does not move. -/
def Machine.declare (m : Machine) (origin : Origin) : Machine :=
  { m with
    x := origin.x.getD m.x
    y := origin.y.getD m.y
    z := origin.z.getD m.z
    e := origin.e.getD m.e }

/-- The state with the positioning switched. -/
def Machine.switch (m : Machine) (mode : Positioning) : Machine := { m with positioning := mode }

end Toolpath
