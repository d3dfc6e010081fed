import Toolpath.Layer
/-!
# Geometry of the drawn part

The lines that layers hold, the box around them, and their length. A path is read as pairs of
points; a single point left at its end is no line.

## Main definitions

* `Toolpath.Segment` — a line from a point to a point.
* `Toolpath.Path.segments`, `Layer.segments`, `Geometry.segments` — the lines of a path, of a
  layer, and of all layers.
* `Toolpath.Geometry.bounds` — the box around all lines.
* `Toolpath.Geometry.pairwiseSum` — a sum in the order of additions that keeps its error small.
* `Toolpath.Geometry.length` — the length of all lines.
-/

namespace Toolpath

/-- A line from a point to a point. -/
structure Segment where
  start : Point
  stop : Point
  deriving DecidableEq, Repr, Inhabited

/-- The lines of a path: its points taken two by two. -/
def Path.segments : Path → List Segment
  | a :: b :: rest => ⟨a, b⟩ :: Path.segments rest
  | _ => []

/-- The lines of a layer in drawing order. -/
def Layer.segments (l : Layer) : List Segment := l.paths.flatMap Path.segments

/-- The length of a line. -/
def Segment.length (s : Segment) : Float :=
  let dx := s.stop.x - s.start.x
  let dy := s.stop.y - s.start.y
  let dz := s.stop.z - s.start.z
  (dx * dx + dy * dy + dz * dz).sqrt

namespace Geometry

/-- The lines of all layers in drawing order. -/
def segments (layers : List Layer) : List Segment := layers.flatMap Layer.segments

/-! ## The box -/

/-- The smaller of two numbers; what is no number wins, and of the two zeros the second one. -/
def least (a b : Float) : Float :=
  if a.isNaN then a else if b.isNaN then b else if a < b then a else b

/-- The larger of two numbers; what is no number wins, and of the two zeros the second one. -/
def greatest (a b : Float) : Float :=
  if a.isNaN then a else if b.isNaN then b else if b < a then a else b

/-- Two points combined coordinate by coordinate. -/
def combine (f : Float → Float → Float) (p q : Point) : Point :=
  ⟨f p.x q.x, f p.y q.y, f p.z q.z⟩

/-- The two ends of lines, in order. -/
def ends (lines : List Segment) : List Point := lines.flatMap fun s => [s.start, s.stop]

/-- A box along the axes, by its least and its greatest corner. -/
structure Box where
  least : Point
  greatest : Point
  deriving DecidableEq, Repr

/-- The box around all lines of the layers; none if there is no line. -/
def bounds (layers : List Layer) : Option Box :=
  match ends (segments layers) with
  | [] => none
  | p :: ps => some ⟨ps.foldl (combine least) p, ps.foldl (combine greatest) p⟩

/-! ## The length -/

/-- The numbers added from left to right. -/
def runningSum (xs : List Float) : Float := xs.foldl (· + ·) 0.0

/-- Eight running sums side by side: the first takes the numbers at places 0, 8, 16, …, and
the last those at 7, 15, 23, …. A last block that is not full is returned untouched. -/
def laneSums (lanes : List Float) (xs : List Float) : List Float × List Float :=
  if _h : 8 ≤ xs.length then
    laneSums (List.zipWith (· + ·) lanes (xs.take 8)) (xs.drop 8)
  else (lanes, xs)
termination_by xs.length
decreasing_by simp only [List.length_drop]; omega

/-- The eight running sums added in pairs. -/
def addLanes : List Float → Float
  | [a, b, c, d, e, f, g, h] => ((a + b) + (c + d)) + ((e + f) + (g + h))
  | xs => runningSum xs

/-- The sum of a block of at most 128 numbers. -/
def blockSum (xs : List Float) : Float :=
  if xs.length < 8 then runningSum xs
  else
    let (lanes, rest) := laneSums (xs.take 8) (xs.drop 8)
    rest.foldl (· + ·) (addLanes lanes)

/-- Where a list of more than 128 numbers is cut: at the multiple of eight below its middle. -/
def cut (n : Nat) : Nat := n / 2 - n / 2 % 8

/-- The sum of numbers: of blocks of at most 128 numbers, and of halves above that. -/
def pairwiseSum (xs : List Float) : Float :=
  if _h : xs.length ≤ 128 then blockSum xs
  else pairwiseSum (xs.take (cut xs.length)) + pairwiseSum (xs.drop (cut xs.length))
termination_by xs.length
decreasing_by
  · simp only [List.length_take, cut]; omega
  · simp only [List.length_drop, cut]; omega

/-- The length of all lines of the layers. -/
def length (layers : List Layer) : Float := pairwiseSum ((segments layers).map Segment.length)

end Geometry

end Toolpath
