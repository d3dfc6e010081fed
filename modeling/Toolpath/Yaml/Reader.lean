import Toolpath.Yaml.Graph
/-!
# Reading documents

The value that a text stands for.

## Main definitions

* `Toolpath.Yaml.read` — what a text stands for.
-/

namespace Toolpath.Yaml

/-- The characters that a document may hold. -/
def isAllowed (c : Char) : Bool :=
  let n := c.toNat
  n == 9 || n == 10 || n == 13 || (0x20 ≤ n && n ≤ 0x7E) || n == 0x85
    || (0xA0 ≤ n && n ≤ 0xFFFD) || 0x10000 ≤ n

/-- A text with one line feed for every kind of line end. -/
def withLineFeeds : List Char → List Char
  | '\r' :: '\n' :: s => '\n' :: withLineFeeds s
  | '\r' :: s => '\n' :: withLineFeeds s
  | c :: s => c :: withLineFeeds s
  | [] => []

/-- What a text stands for; a text without a document stands for nothing. -/
def read (s : List Char) : Except Fault (Option Graph) := do
  let s := withLineFeeds s
  if !s.all isAllowed then throw .malformed
  match ← Document.ofScan (Token.scan s) with
  | none => return none
  | some d => return some (← Graph.ofDocument d)

end Toolpath.Yaml
