import Toolpath.Decimal.Binary
/-!
# The fewest digits that read back

Every decimal between a double's two half-way neighbours reads back as that double. Among those
decimals this module finds the one with the fewest digits, and of several the nearest.

## Main definitions

* `Toolpath.Decimal.Rounding` — a positive double with the interval of numbers that round to it.
* `Toolpath.Decimal.Rounding.onGrid` — the interval's best point on a decimal grid.
* `Toolpath.Decimal.shortest` — the fewest digits and their exponent.
-/

namespace Toolpath.Decimal

/-- The value `mantissa * 2 ^ exponent` of a positive double. -/
structure Rounding where
  mantissa : Nat
  exponent : Int

namespace Rounding

/-- Quarters of the mantissa's unit from the lower end of the interval to the value: one below
a power of two, where the doubles get twice as dense, and two elsewhere. -/
def below (r : Rounding) : Nat :=
  if r.mantissa = hiddenBit ∧ leastExponent < r.exponent then 1 else 2

/-- The ends of the interval belong to it iff the mantissa is even, since ties go there. -/
def closed (r : Rounding) : Bool := r.mantissa % 2 == 0

/-- The point of the grid `… , 10 ^ t, 2 * 10 ^ t, …` that rounds to the value: of the two
neighbours of the value on the grid the one in the interval, the nearer if both are, and the
even one if they are equally near. -/
def onGrid (r : Rounding) (t : Int) : Option Nat :=
  let (up, down) := fraction 1 r.exponent
  let (value, unit) := scale (4 * r.mantissa * up) (4 * down) (-t)
  let quarter := value / (4 * r.mantissa)
  let low := value - r.below * quarter
  let high := value + 2 * quarter
  let d := value / unit
  let lower := if r.closed then low ≤ d * unit else low < d * unit
  let upper := if r.closed then (d + 1) * unit ≤ high else (d + 1) * unit < high
  if lower && upper then
    let less := value - d * unit
    let more := (d + 1) * unit - value
    some (if less < more || (less == more && d % 2 == 0) then d else d + 1)
  else if lower then some d
  else if upper then some (d + 1)
  else none

/-- The first grid with a point in the interval, from `count` digits on and for `fuel` grids;
seventeen digits always have one. -/
def search (r : Rounding) (k : Int) : (fuel count : Nat) → Nat × Int
  | 0, _ => (r.mantissa, 0)
  | fuel + 1, count =>
    let t := k - count + 1
    match r.onGrid t with
    | some d => (d, t)
    | none => search r k fuel (count + 1)

end Rounding

/-- A number `d * 10 ^ t` without zeros at the end of `d`. -/
def stripZeros : (fuel d : Nat) → Int → Nat × Int
  | 0, d, t => (d, t)
  | fuel + 1, d, t => if d ≠ 0 ∧ d % 10 = 0 then stripZeros fuel (d / 10) (t + 1) else (d, t)

/-- The fewest digits that read back as `m * 2 ^ e`, a positive double, and the exponent of the
last of them. -/
def shortest (m : Nat) (e : Int) : Nat × Int :=
  let (n, d) := fraction m e
  let (digits, t) := Rounding.search ⟨m, e⟩ (log10 n d) 17 1
  stripZeros 20 digits t

end Toolpath.Decimal
