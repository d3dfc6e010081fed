import Toolpath.Text.CaseTable
import Toolpath.Text.CasedTable
/-!
# Upper and lower case

The upper and the lower case of texts, character by character. A character may grow: the upper
case of sharp s is two letters. One letter looks at its neighbours: a sigma that ends a word has a
lower case of its own.

## Main definitions

* `Toolpath.Text.upperChar`, `Toolpath.Text.upper` — the upper case of a character and of a text.
* `Toolpath.Text.lowerChar`, `Toolpath.Text.lower` — the lower case of a character that stands
  alone, and of a text.
* `Toolpath.Text.asciiLower` — the lower case of the ASCII letters only.
-/

namespace Toolpath.Text

/-- The other case of a character beyond ASCII: an expansion, else the run that holds it, else
the character itself. -/
def otherCase (runs : List CaseRun) (expansions : List (Nat × List Nat)) (c : Char) : List Char :=
  match expansions.find? (·.1 == c.toNat) with
  | some (_, expansion) => expansion.map Char.ofNat
  | none =>
    match runs.find? (·.holds c.toNat) with
    | some run => [Char.ofNat (c.toNat + run.offset).toNat]
    | none => [c]

/-- The upper case of a character. -/
def upperChar (c : Char) : List Char :=
  if c.toNat < 128 then [c.toUpper] else otherCase upperRuns upperExpansions c

/-- The upper case of a text. -/
def upper (s : List Char) : List Char := s.flatMap upperChar

/-- The lower case of a character that stands alone. -/
def lowerChar (c : Char) : List Char :=
  if c.toNat < 128 then [c.toLower] else otherCase lowerRuns lowerExpansions c

/-- The capital sigma. -/
def capitalSigma : Char := Char.ofNat 0x3A3

/-- The small sigma at the end of a word. -/
def finalSigma : Char := Char.ofNat 0x3C2

/-- Whether the first character that is not passed over has a case. -/
def startsCased (s : List Char) : Bool :=
  match s.dropWhile isPassedOver with
  | [] => false
  | c :: _ => isCased c

/-- The lower case of a text; `inWord` says that a letter with a case stands in front of it. -/
def lowerFrom (inWord : Bool) : List Char → List Char
  | [] => []
  | c :: s =>
    let here := if c = capitalSigma && inWord && !startsCased s then [finalSigma] else lowerChar c
    here ++ lowerFrom (if isPassedOver c then inWord else isCased c) s

/-- The lower case of a text. -/
def lower (s : List Char) : List Char := lowerFrom false s

/-- A text with its ASCII letters in lower case. -/
def asciiLower (s : List Char) : List Char := s.map Char.toLower

end Toolpath.Text
