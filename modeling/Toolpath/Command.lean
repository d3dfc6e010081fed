import Toolpath.Block
import Toolpath.Machine
/-!
# Commands

What a line asks of the machine. Codes are compared exactly, so a code with a leading zero is not
supported.

## Main definitions

* `Toolpath.Command` — the supported commands, and one for all other codes.
* `Toolpath.Command.ofBlock` — the command of a line.
* `Toolpath.Machine.after` — the state after a command.
-/

namespace Toolpath

/-- What a line asks of the machine. -/
inductive Command where
  /-- `G0` and `G1`: a straight move. -/
  | linear (move : Move)
  /-- `G2` and `G3`: a move on an arc, recognized and left out. -/
  | arc (clockwise : Bool)
  /-- `G90` and `G91`: how the coordinates that follow are read. -/
  | positioning (mode : Positioning)
  /-- `G92`: coordinates declared for the present position. -/
  | origin (origin : Origin)
  /-- Any other code. -/
  | unsupported (code : List Char)
  deriving DecidableEq, Repr

namespace Command

/-- The number a line gives for a letter. -/
def axis (b : Block) (letter : Char) : Option Float := b.value [letter]

/-- The coordinates of a straight move. -/
def moveOf (b : Block) (rapid : Bool) : Move where
  x := axis b 'x'
  y := axis b 'y'
  z := axis b 'z'
  e := axis b 'e'
  f := axis b 'f'
  rapid := rapid

/-- The coordinates that a line declares. -/
def originOf (b : Block) : Origin where
  x := axis b 'x'
  y := axis b 'y'
  z := axis b 'z'
  e := axis b 'e'

/-- The command of a line. -/
def ofBlock (b : Block) : Command :=
  match b.code with
  | ['G', '0'] => .linear (moveOf b true)
  | ['G', '1'] => .linear (moveOf b false)
  | ['G', '2'] => .arc true
  | ['G', '3'] => .arc false
  | ['G', '9', '0'] => .positioning .absolute
  | ['G', '9', '1'] => .positioning .relative
  | ['G', '9', '2'] => .origin (originOf b)
  | code => .unsupported code

end Command

/-- The state after a command: a move moves, a declaration and a switch change what they name,
and everything else leaves the machine alone. -/
def Machine.after (m : Machine) : Command → Machine
  | .linear move => m.move move
  | .origin origin => m.declare origin
  | .positioning mode => m.switch mode
  | .arc _ => m
  | .unsupported _ => m

end Toolpath
