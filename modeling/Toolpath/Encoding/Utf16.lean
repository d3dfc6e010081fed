import Toolpath.Encoding.Utf8
/-!
# UTF-16

A character is one unit of two bytes, or a pair of units from two reserved ranges. A mark in front
of the text tells the order of the two bytes; without it the lower one comes first. What is no
character is read as a replacement character: a half that stands alone, a first half that the end
cuts off with all that is left, and a single last byte.

## Main definitions

* `Toolpath.Encoding.Utf16.decode` — bytes as text.
-/

namespace Toolpath.Encoding.Utf16

/-- The order of the two bytes of a unit. -/
inductive Order where
  | lowFirst
  | highFirst
  deriving DecidableEq, Repr

/-- The unit that two bytes make. -/
def Order.unit (order : Order) (a b : UInt8) : Nat :=
  match order with
  | lowFirst => a.toNat + 256 * b.toNat
  | highFirst => 256 * a.toNat + b.toNat

/-- A unit that is the first half of a pair. -/
def isFirstHalf (n : Nat) : Bool := 0xD800 ≤ n && n < 0xDC00

/-- A unit that is the second half of a pair. -/
def isSecondHalf (n : Nat) : Bool := 0xDC00 ≤ n && n < 0xE000

/-- Bytes in a known order as text. -/
def decodeIn (order : Order) : List UInt8 → List Char
  | [] => []
  | [_] => [replacement]
  | a :: b :: rest =>
    let n := order.unit a b
    if isFirstHalf n then
      match rest with
      | c :: d :: rest' =>
        let m := order.unit c d
        if isSecondHalf m then
          Char.ofNat (0x10000 + (n - 0xD800) * 0x400 + (m - 0xDC00)) :: decodeIn order rest'
        else replacement :: decodeIn order (c :: d :: rest')
      | _ => [replacement]
    else if isSecondHalf n then replacement :: decodeIn order rest
    else Char.ofNat n :: decodeIn order rest

/-- Bytes as text, in the order that a mark in front tells. -/
def decode : List UInt8 → List Char
  | 0xFF :: 0xFE :: rest => decodeIn .lowFirst rest
  | 0xFE :: 0xFF :: rest => decodeIn .highFirst rest
  | data => decodeIn .lowFirst data

end Toolpath.Encoding.Utf16
