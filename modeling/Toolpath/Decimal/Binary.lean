/-!
# Doubles as exact binary fractions

A finite double is a whole number times a power of two. The conversions between doubles and
decimal text work on that pair in exact arithmetic.

## Main definitions

* `Toolpath.Decimal.Binary` — what a double stands for: no number, an infinity, or a signed
  mantissa and exponent.
* `Toolpath.Decimal.decode` — the reading of a double's bits.
* `Toolpath.Decimal.roundDiv` — a quotient rounded to the nearest whole number, ties to even.
* `Toolpath.Decimal.log10` — the decimal exponent of a positive fraction.
-/

namespace Toolpath.Decimal

/-- What a double stands for. -/
inductive Binary where
  | nan
  | infinite (negative : Bool)
  /-- The number `mantissa * 2 ^ exponent`, with its sign. -/
  | finite (negative : Bool) (mantissa : Nat) (exponent : Int)
  deriving DecidableEq, Repr

/-- The exponent of the smallest doubles. -/
def leastExponent : Int := -1074

/-- The least mantissa of the doubles that are not the smallest: `2 ^ 52`. -/
def hiddenBit : Nat := 0x10000000000000

/-- The reading of a double's bits: a sign, eleven bits of exponent, and the mantissa. -/
def decode (x : Float) : Binary :=
  let bits : Nat := x.toBits.toNat
  let negative := bits / 0x8000000000000000 == 1
  let biased : Nat := bits / hiddenBit % 0x800
  let fraction : Nat := bits % hiddenBit
  if biased = 2047 then
    if fraction = 0 then .infinite negative else .nan
  else if biased = 0 then .finite negative fraction leastExponent
  else .finite negative (hiddenBit + fraction) (leastExponent + (biased : Int) - 1)

/-- A finite double, neither infinite nor no number. -/
def isFinite (x : Float) : Bool :=
  match decode x with
  | .finite .. => true
  | _ => false

/-- The numerator and denominator of `m * 2 ^ e`. -/
def fraction (m : Nat) (e : Int) : Nat × Nat :=
  if 0 ≤ e then (m <<< e.toNat, 1) else (m, 1 <<< (-e).toNat)

/-- The quotient `n / d` rounded to the nearest whole number; a tie goes to the even one. -/
def roundDiv (n d : Nat) : Nat :=
  let q := n / d
  let r := n % d
  if 2 * r < d || (2 * r == d && q % 2 == 0) then q else q + 1

/-- The number of decimal digits of a whole number; zero has one. -/
def digitCount (n : Nat) : Nat := (Nat.toDigits 10 n).length

/-- The decimal exponent `k` of a positive fraction: `10 ^ k ≤ n / d < 10 ^ (k + 1)`. -/
def log10 (n d : Nat) : Int :=
  if d ≤ n then (digitCount (n / d) : Int) - 1 else -(digitCount ((d - 1) / n) : Int)

/-- The fraction `n / d * 10 ^ k` as a numerator and a denominator. -/
def scale (n d : Nat) (k : Int) : Nat × Nat :=
  if 0 ≤ k then (n * Nat.pow 10 k.toNat, d) else (n, d * Nat.pow 10 (-k).toNat)

end Toolpath.Decimal
