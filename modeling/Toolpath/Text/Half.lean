/-!
# Halves of pairs

A character beyond 16 bits is written as a pair of units, and an escape may spell one of them
alone. Such a half is no character. It is kept as a character for private use that stands for it,
and is written as an escape again. The characters U+FF000 to U+FF7FF always stand for halves here: a
text that holds them as characters of its own is not represented.

## Main definitions

* `Toolpath.Text.ofCode` — the character of a number, or what stands for a half.
* `Toolpath.Text.halfUnit?` — the unit that a character stands for.
* `Toolpath.Text.withoutHalves` — a text with halves replaced.
-/

namespace Toolpath.Text

/-- The first unit that is half of a pair. -/
def firstHalf : Nat := 0xD800

/-- The number of such units. -/
def halfCount : Nat := 0x800

/-- The first of the private characters that stand for halves. -/
def firstStandIn : Nat := 0xFF000

/-- The character of a number, or what stands for it if it is half of a pair. -/
def ofCode (n : Nat) : Char :=
  if firstHalf ≤ n && n < firstHalf + halfCount then Char.ofNat (firstStandIn + (n - firstHalf))
  else Char.ofNat n

/-- The unit that a character stands for, if it stands for half of a pair. -/
def halfUnit? (c : Char) : Option Nat :=
  if firstStandIn ≤ c.toNat && c.toNat < firstStandIn + halfCount then
    some (firstHalf + (c.toNat - firstStandIn))
  else none

/-- Whether a text holds half of a pair. -/
def hasHalf (s : List Char) : Bool := s.any fun c => (halfUnit? c).isSome

/-- A text with halves replaced: each would take three bytes, of which none is a character. -/
def withoutHalves (s : List Char) : List Char :=
  s.flatMap fun c => if (halfUnit? c).isSome then List.replicate 3 (Char.ofNat 0xFFFD) else [c]

end Toolpath.Text
