import Toolpath.Text.Quoted
/-!
# Texts that have no bytes

A text that holds half of a pair cannot be written as bytes.

## Main definitions

* `Toolpath.Encoding.Halves`, `firstHalves?` — the first halves in a text.
-/

namespace Toolpath.Encoding

open Text

/-- Halves that stand next to each other in a text. -/
structure Halves where
  /-- The number of characters in front of them. -/
  place : Nat
  /-- The first of them. -/
  first : Char
  /-- The number of those that follow it. -/
  more : Nat
  deriving DecidableEq, Repr

/-- Whether a character stands for half of a pair. -/
def isHalf (c : Char) : Bool := (halfUnit? c).isSome

/-- The first halves in a text that starts at `place`, with all that stand next to each other. -/
def firstHalvesFrom? (place : Nat) : List Char → Option Halves
  | [] => none
  | c :: s =>
    if isHalf c then some ⟨place, c, (s.takeWhile isHalf).length⟩
    else firstHalvesFrom? (place + 1) s

/-- The first halves in a text, with all that stand next to each other. -/
def firstHalves? (s : String) : Option Halves := firstHalvesFrom? 0 s.toList

/-- The wording of halves where only characters can stand. -/
def Halves.message (h : Halves) : String :=
  let which :=
    if h.more = 0 then s!"character {String.ofList (quoted [h.first])} in position {h.place}"
    else s!"characters in position {h.place}-{h.place + h.more}"
  s!"'utf-8' codec can't encode {which}: surrogates not allowed"

end Toolpath.Encoding
