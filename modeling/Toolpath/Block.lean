import Toolpath.Decimal.Reader
import Toolpath.Entries
import Toolpath.Text.Case
/-!
# Lines and words

A document is read line by line. A comment starts at a semicolon and runs to the end of its line.
What is left of a line is cut at spaces: the first piece is the line's code, in upper case, and
every other piece that is not empty is a word, a letter with a number behind it.

## Main definitions

* `Toolpath.stripComments`, `Toolpath.sourceLines` — a document without comments, and its lines.
* `Toolpath.Word` — a letter and a number; the number may be missing.
* `Toolpath.Block` — a line: its code and its words.
* `Toolpath.Block.value` — what a line gives for a letter: the last word with it decides.
-/

namespace Toolpath

open Text

/-! ## Comments and lines -/

/-- The text without comments; `inside` says that it starts within one. Line feeds stay. -/
def dropComments (inside : Bool) : List Char → List Char
  | [] => []
  | c :: s =>
    if c = '\n' then c :: dropComments false s
    else if inside || c == ';' then dropComments true s
    else c :: dropComments false s

/-- The document without its comments. -/
def stripComments (s : List Char) : List Char := dropComments false s

/-- The lines of a document without its comments. A line's place in the list is its number. -/
def sourceLines (s : List Char) : List (List Char) := pieces '\n' (stripComments s)

/-! ## Words -/

/-- A word of a line. -/
structure Word where
  /-- The word as it is written. -/
  written : List Char
  /-- The letter in lower case. -/
  key : List Char
  /-- The number behind the letter, absent if none starts there. -/
  value : Option Float
  deriving DecidableEq, Repr

/-- The word that a piece of a line spells; an empty piece spells none. -/
def Word.ofPiece? : List Char → Option Word
  | [] => none
  | c :: rest => some ⟨c :: rest, lowerChar c, Decimal.leading? rest⟩

/-- A word whose letter is not followed by a number. -/
def Word.isMalformed (w : Word) : Bool := w.value.isNone

/-! ## Lines -/

/-- A line cut into its code and its words. -/
structure Block where
  /-- The line as it is written, without comment. -/
  line : List Char
  /-- The first piece in upper case; empty if the line is blank or starts with a space. -/
  code : List Char
  /-- The words in source order. -/
  words : List Word
  deriving DecidableEq, Repr

namespace Block

/-- The pieces of a line between spaces, without the white space around them. -/
def tokens (line : List Char) : List (List Char) := (pieces ' ' line).map trim

/-- A line read as code and words. -/
def read (line : List Char) : Block :=
  match tokens line with
  | [] => ⟨line, [], []⟩
  | first :: rest => ⟨line, upper first, rest.filterMap Word.ofPiece?⟩

/-- A line without a code is not executed. -/
def isBlank (b : Block) : Bool := b.code.isEmpty

/-- The words whose letter is not followed by a number. -/
def malformed (b : Block) : List Word := b.words.filter Word.isMalformed

/-- The number a line gives for a letter: that of the last word with the letter, if it has
one. -/
def value (b : Block) (key : List Char) : Option Float :=
  (b.words.reverse.find? (·.key = key)).bind (·.value)

/-- The letters of a line in order of first appearance, each with what its last word gives. -/
def parameters (b : Block) : List (List Char × Option Float) :=
  Entries.putAll [] (b.words.map fun w => (w.key, w.value))

end Block

end Toolpath
