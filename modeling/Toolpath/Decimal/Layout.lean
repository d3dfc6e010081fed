import Toolpath.Decimal.Shortest
import Toolpath.Text.Digit
/-!
# The text of a double

How digits and an exponent are laid out as text, and the three forms in which the program shows
numbers: the fewest digits, a fixed number of places, and a number of significant digits.

## Main definitions

* `Toolpath.Decimal.Layout` — which exponents are written with places and which with an `e`.
* `Toolpath.Decimal.text` — a double in the fewest digits that read back.
* `Toolpath.Decimal.fixed` — a double with a fixed number of places.
* `Toolpath.Decimal.general` — a double with a number of significant digits.
* `Toolpath.Decimal.scientific` — a double with an exponent.
* `Toolpath.Decimal.roundTo` — the double nearest to a rounding to decimal places.
-/

namespace Toolpath.Decimal

open Toolpath.Text (ofNat)

/-! ## Digits in place -/

/-- Which decimal exponents are written with places, and whether a whole number shows a point. -/
structure Layout where
  /-- The least exponent written with places. -/
  positionalFrom : Int
  /-- The first exponent written with an `e`. -/
  exponentFrom : Int
  /-- Whether a whole number ends in a point and a zero. -/
  wholePoint : Bool

/-- Numbers in answers and in the log: an `e` below `10 ^ -4` and from `10 ^ 16` on, and a point
in every number without `e`. -/
def Layout.answer : Layout := ⟨-4, 16, true⟩

/-- Numbers of `count` significant digits: no point in whole numbers, and an `e` from
`10 ^ count` on. -/
def Layout.significant (count : Nat) : Layout := ⟨-4, count, false⟩

/-- The exponent part: a sign and at least two digits. -/
def exponentText (k : Int) : List Char :=
  let digits := ofNat k.natAbs
  'e' :: (if k < 0 then '-' else '+') :: (if digits.length < 2 then '0' :: digits else digits)

/-- The digits `0.d₁d₂d₃…` with the point moved `point` places to the right. -/
def place (digits : List Char) (point : Int) (wholePoint : Bool) : List Char :=
  if point ≤ 0 then '0' :: '.' :: List.replicate (-point).toNat '0' ++ digits
  else
    let n := point.toNat
    if digits.length ≤ n then
      digits ++ List.replicate (n - digits.length) '0' ++ (if wholePoint then ['.', '0'] else [])
    else digits.take n ++ '.' :: digits.drop n

/-- Digits with the exponent `k` of the first one, laid out. -/
def Layout.write (layout : Layout) (digits : List Char) (k : Int) : List Char :=
  if layout.positionalFrom ≤ k && k < layout.exponentFrom then
    place digits (k + 1) layout.wholePoint
  else
    match digits with
    | [] => exponentText k
    | [d] => d :: exponentText k
    | d :: ds => d :: '.' :: ds ++ exponentText k

/-- A minus sign in front of a negative number. -/
def signed (negative : Bool) (s : List Char) : List Char := if negative then '-' :: s else s

/-! ## The fewest digits -/

/-- A double in the fewest digits that read back. -/
def text (x : Float) : List Char :=
  match decode x with
  | .nan => ['n', 'a', 'n']
  | .infinite negative => signed negative ['i', 'n', 'f']
  | .finite negative m e =>
    signed negative <|
      if m = 0 then Layout.answer.write ['0'] 0
      else
        let (d, t) := shortest m e
        let digits := ofNat d
        Layout.answer.write digits (t + digits.length - 1)

/-! ## Fixed places -/

/-- A whole number of units `10 ^ -places`, laid out with that many places. -/
def placed (places n : Nat) : List Char :=
  let digits := ofNat n
  let digits := List.replicate (places + 1 - digits.length) '0' ++ digits
  let whole := digits.length - places
  if places = 0 then digits else digits.take whole ++ '.' :: digits.drop whole

/-- The whole number of units `10 ^ -places` nearest to `m * 2 ^ e`. -/
def units (places m : Nat) (e : Int) : Nat :=
  let (n, d) := fraction m e
  roundDiv (n * Nat.pow 10 places) d

/-- The size of a double with a fixed number of places, and whether it is negative. -/
def fixedParts (places : Nat) (x : Float) : Bool × List Char :=
  match decode x with
  | .nan => (false, ['n', 'a', 'n'])
  | .infinite negative => (negative, ['i', 'n', 'f'])
  | .finite negative m e => (negative, placed places (units places m e))

/-- A double with a fixed number of places, rounded from its exact value. -/
def fixed (places : Nat) (x : Float) : List Char :=
  let (negative, s) := fixedParts places x
  signed negative s

/-- The double nearest to a number rounded to decimal places; what is not finite stays. -/
def roundTo (places : Nat) (x : Float) : Float :=
  match decode x with
  | .finite negative m e =>
    if 0 ≤ e then x
    else
      let size := Float.ofScientific (units places m e) true places
      if negative then -size else size
  | _ => x

/-! ## Significant digits -/

/-- The digits of `m * 2 ^ e` rounded to `count` significant ones, and the exponent of the
first. -/
def significantDigits (count m : Nat) (e : Int) : List Char × Int :=
  if m = 0 then (List.replicate count '0', 0)
  else
    let (n, d) := fraction m e
    let k := log10 n d
    let (n, d) := scale n d (count - 1 - k)
    let rounded := ofNat (roundDiv n d)
    if count < rounded.length then (rounded.take count, k + 1) else (rounded, k)

/-- Digits without the zeros at the end; the first digit stays. -/
def dropZeros (digits : List Char) : List Char :=
  match (digits.reverse.dropWhile (· == '0')).reverse with
  | [] => digits.take 1
  | kept => kept

/-- The size of a double with `count` significant digits, and whether it is negative. Zeros at
the end are dropped unless `keep` is set. -/
def generalParts (count : Nat) (keep : Bool) (x : Float) : Bool × List Char :=
  match decode x with
  | .nan => (false, ['n', 'a', 'n'])
  | .infinite negative => (negative, ['i', 'n', 'f'])
  | .finite negative m e =>
    let count := max count 1
    let (digits, k) := significantDigits count m e
    let digits := if keep then digits else dropZeros digits
    (negative, (Layout.significant count).write digits k)

/-- A double with `count` significant digits, without zeros at the end. -/
def general (count : Nat) (x : Float) : List Char :=
  let (negative, s) := generalParts count false x
  signed negative s

/-- The size of a double with one digit before the point, `places` behind and an exponent, and
whether it is negative. -/
def scientificParts (places : Nat) (x : Float) : Bool × List Char :=
  match decode x with
  | .nan => (false, ['n', 'a', 'n'])
  | .infinite negative => (negative, ['i', 'n', 'f'])
  | .finite negative m e =>
    let (digits, k) := significantDigits (places + 1) m e
    (negative, (⟨0, 0, false⟩ : Layout).write digits k)

end Toolpath.Decimal
