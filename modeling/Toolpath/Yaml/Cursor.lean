/-!
# A place in a text

What is left of a text, with the line and the column that it starts at.

## Main definitions

* `Toolpath.Yaml.Cursor` — a place in a text.
* `Toolpath.Yaml.Cursor.advance`, `Cursor.take` — the place some characters further on.
* `Toolpath.Yaml.Cursor.lineBreak` — the place behind a line break.
-/

namespace Toolpath.Yaml

/-! ## Classes of characters -/

/-- The separators of lines and of paragraphs. -/
def isSeparator (c : Char) : Bool := c.toNat == 0x2028 || c.toNat == 0x2029

/-- The characters that end a line. -/
def isBreak (c : Char) : Bool := c == '\n' || c.toNat == 0x85 || isSeparator c

/-- The space and the tab. -/
def isSpace (c : Char) : Bool := c == ' ' || c == '\t'

/-- Whether a line ends at a character; it ends where the text does. -/
def endsLine (c : Option Char) : Bool := c.all isBreak

/-- Whether a word ends at a character: at the end of its line or at a space. -/
def endsWord (c : Option Char) : Bool := c.all fun c => isBreak c || isSpace c

/-- Whether a name ends at a character: at the end of its line or at a space that is no tab. -/
def endsName (c : Option Char) : Bool := c.all fun c => isBreak c || c == ' '

/-- The letters, digits and signs of names. -/
def isNameChar (c : Char) : Bool := c.isAlphanum || c == '-' || c == '_'

/-! ## Places -/

/-- A place in a text. -/
structure Cursor where
  /-- What is left of the text. -/
  rest : List Char
  /-- The number of characters in front. -/
  index : Nat := 0
  line : Nat := 0
  column : Nat := 0
  deriving Repr

namespace Cursor

/-- The character at a place. -/
def peek (c : Cursor) : Option Char := c.rest.head?

/-- The character some places further on. -/
def peekAt (c : Cursor) (n : Nat) : Option Char := (c.rest.drop n).head?

/-- The place behind one character. A byte order mark takes no column. -/
def step (c : Cursor) : Cursor :=
  match c.rest with
  | [] => c
  | ch :: rest =>
    if isBreak ch then ⟨rest, c.index + 1, c.line + 1, 0⟩
    else ⟨rest, c.index + 1, c.line, if ch.toNat = 0xFEFF then c.column else c.column + 1⟩

/-- The place behind some characters. -/
def advance (c : Cursor) : Nat → Cursor
  | 0 => c
  | n + 1 => c.step.advance n

/-- The characters from a place on that have a property, and the place behind them. -/
def take (c : Cursor) (p : Char → Bool) : List Char × Cursor :=
  let s := c.rest.takeWhile p
  (s, c.advance s.length)

/-- The place behind all characters that have a property. -/
def skip (c : Cursor) (p : Char → Bool) : Cursor := (c.take p).2

/-- The place behind spaces. -/
def skipSpaces (c : Cursor) : Cursor := c.skip (· == ' ')

/-- The place behind a comment, if one starts here. -/
def skipComment (c : Cursor) : Cursor :=
  if c.peek == some '#' then c.skip (!isBreak ·) else c

/-- The line break at a place as it is kept, and the place behind it. The next line is kept as a
line feed. -/
def lineBreak (c : Cursor) : List Char × Cursor :=
  match c.peek with
  | none => ([], c)
  | some ch =>
    if isSeparator ch then ([ch], c.step) else if isBreak ch then (['\n'], c.step) else ([], c)

/-- The place behind the spaces and the comment at the end of a line, if there is nothing else. -/
def restOfLine? (c : Cursor) : Option Cursor :=
  let c := c.skipSpaces.skipComment
  if endsLine c.peek then some c.lineBreak.2 else none

/-- Whether three equal characters stand as a word. -/
def marks (c : Cursor) (ch : Char) : Bool := [ch, ch, ch].isPrefixOf c.rest && endsWord (c.peekAt 3)

/-- Whether a line that separates documents starts here. -/
def atSeparator (c : Cursor) : Bool := c.marks '-' || c.marks '.'

end Cursor

end Toolpath.Yaml
