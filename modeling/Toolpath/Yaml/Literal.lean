import Toolpath.Text.Half
import Toolpath.Yaml.Cursor
import Toolpath.Yaml.Fault
/-!
# Scalars as they are written

A scalar is written plainly, between quotes, or as a block of lines. Lines of a plain or quoted
scalar are folded: a single line break is a space, and of several the first is dropped. A block
keeps its lines or folds them.

## Main definitions

* `Toolpath.Yaml.Literal.plain` — a plain scalar.
* `Toolpath.Yaml.Literal.quoted?` — a scalar between quotes.
* `Toolpath.Yaml.Literal.block?` — a block of lines.
-/

namespace Toolpath.Yaml.Literal

/-- The line breaks between two lines as they are kept: a single line feed is a space, and of
several breaks the first is dropped if it is a line feed. -/
def fold (first : List Char) (others : List Char) : List Char :=
  (if first = ['\n'] then if others.isEmpty then [' '] else [] else first) ++ others

/-! ## Plain scalars -/

/-- The punctuation of lists and mappings between brackets. -/
def isFlowSign (c : Char) : Bool := [',', '?', '[', ']', '\x7b', '\x7d'].contains c

/-- Whether a character after a colon ends a plain scalar at the colon. -/
def endsAtColon (flow : Bool) (c : Option Char) : Bool :=
  endsWord c || (flow && c.any fun c => isFlowSign c && c != '?')

/-- The characters of a plain scalar from a place on, to the end of the word. -/
def plainWord (flow : Bool) : List Char → List Char
  | [] => []
  | c :: s =>
    if endsWord (some c) || (c == ':' && endsAtColon flow s.head?) || (flow && isFlowSign c) then []
    else c :: plainWord flow s

/-- The empty lines and the spaces between two lines of a plain scalar: the line breaks, and the
place behind; nothing if documents are separated there. -/
def plainBreaks? : (fuel : Nat) → Cursor → Option (List Char × Cursor)
  | 0, _ => none
  | fuel + 1, c =>
    if c.peek == some ' ' then plainBreaks? fuel c.skipSpaces
    else
      match c.lineBreak with
      | ([], c) => some ([], c)
      | (b, c) =>
        if c.atSeparator then none
        else (plainBreaks? fuel c).map fun (bs, c) => (b ++ bs, c)

/-- What stands between two words of a plain scalar. -/
structure Gap where
  /-- The gap as it is kept; empty if the scalar ends here. -/
  kept : List Char
  /-- Whether the gap holds a line break. -/
  breaks : Bool
  cursor : Cursor

/-- The gap at a place. -/
def gap (c : Cursor) : Gap :=
  let (spaces, c) := c.take (· == ' ')
  match c.lineBreak with
  | ([], c) => ⟨spaces, false, c⟩
  | (b, c) =>
    if c.atSeparator then ⟨[], true, c⟩
    else
      match plainBreaks? (c.rest.length + 1) c with
      | none => ⟨[], true, c.skip fun ch => ch == ' ' || isBreak ch⟩
      | some (bs, c) => ⟨fold b bs, true, c⟩

/-- A scalar as it was read. -/
structure Plain where
  text : List Char
  /-- Whether a line break was read behind the last word. -/
  breaks : Bool
  cursor : Cursor

/-- A plain scalar with the gap in front of its next word. Lines have to be indented by `indent`
columns outside of brackets. -/
def plainFrom (flow : Bool) (indent : Nat) : (fuel : Nat) → (before : Gap) → Plain
  | 0, before => ⟨[], before.breaks, before.cursor⟩
  | fuel + 1, before =>
    let c := before.cursor
    if c.peek == some '#' then ⟨[], before.breaks, c⟩
    else
      match plainWord flow c.rest with
      | [] => ⟨[], before.breaks, c⟩
      | word =>
        let after := gap (c.advance word.length)
        let stop := after.kept.isEmpty || after.cursor.peek == some '#'
          || (!flow && after.cursor.column < indent)
        let rest : Plain :=
          if stop then ⟨[], after.breaks, after.cursor⟩ else plainFrom flow indent fuel after
        { rest with text := before.kept ++ word ++ rest.text }

/-- The plain scalar at a place. -/
def plain (flow : Bool) (indent : Nat) (c : Cursor) : Plain :=
  plainFrom flow indent (c.rest.length + 1) ⟨[], false, c⟩

/-! ## Quoted scalars -/

/-- The character of an escape of one letter. -/
def escaped? (c : Char) : Option Char :=
  let table : List (Char × Nat) := [
    ('0', 0), ('a', 7), ('b', 8), ('t', 9), ('\t', 9), ('n', 10), ('v', 11), ('f', 12), ('r', 13),
    ('e', 27), (' ', 32), ('"', 34), ('\\', 92), ('/', 47), ('N', 0x85), ('_', 0xA0),
    ('L', 0x2028), ('P', 0x2029)]
  (table.find? (·.1 == c)).map fun (_, n) => Char.ofNat n

/-- The number of hexadecimal digits behind an escape letter. -/
def codeLength? (c : Char) : Option Nat :=
  if c = 'x' then some 2 else if c = 'u' then some 4 else if c = 'U' then some 8 else none

/-- The value of a hexadecimal digit. -/
def hexValue? (c : Char) : Option Nat :=
  let n := c.toNat
  if 48 ≤ n && n ≤ 57 then some (n - 48)
  else if 65 ≤ n && n ≤ 70 then some (n - 55)
  else if 97 ≤ n && n ≤ 102 then some (n - 87)
  else none

/-- The number that hexadecimal digits spell, if there are as many as asked for. -/
def hexNumber? (count : Nat) (s : List Char) : Option Nat :=
  let digits := s.take count
  if digits.length < count then none
  else (digits.mapM hexValue?).map (·.foldl (fun n d => 16 * n + d) 0)

/-- The empty lines and the spaces between two lines of a quoted scalar: the line breaks, and the
place behind; nothing if documents are separated there. -/
def quotedBreaks? : (fuel : Nat) → Cursor → Option (List Char × Cursor)
  | 0, _ => none
  | fuel + 1, c =>
    if c.atSeparator then none
    else
      match (c.skip isSpace).lineBreak with
      | ([], c) => some ([], c)
      | (b, c) => (quotedBreaks? fuel c).map fun (bs, c) => (b ++ bs, c)

/-- A quoted scalar from a place inside on, to its closing quote. -/
def quotedFrom? (quote : Char) : (fuel : Nat) → Cursor → Except Fault (List Char × Cursor)
  | 0, _ => .error .malformed
  | fuel + 1, c =>
    let go (kept : List Char) (c : Cursor) : Except Fault (List Char × Cursor) :=
      (quotedFrom? quote fuel c).map fun (s, c) => (kept ++ s, c)
    let double := quote == '"'
    match c.rest with
    | [] => .error .malformed
    | ch :: rest =>
      if ch = quote then
        if !double && rest.head? == some quote then go [quote] (c.advance 2) else .ok ([], c.step)
      else if double && ch == '\\' then
        let c := c.step
        match rest with
        | [] => .error .malformed
        | e :: digits =>
          match escaped? e, codeLength? e with
          | some ch, _ => go [ch] c.step
          | none, some count =>
            match hexNumber? count digits with
            | none => .error .malformed
            | some n =>
              if n < 0x110000 then go [Text.ofCode n] (c.advance (1 + count))
              else if n < 0x80000000 then .error .noCharacter
              else .error .codeTooLarge
          | none, none =>
            if isBreak e then
              match quotedBreaks? (digits.length + 1) c.step with
              | none => .error .malformed
              | some (bs, c) => go bs c
            else .error .malformed
      else if isSpace ch || isBreak ch then
        let (spaces, c) := c.take isSpace
        match c.lineBreak with
        | ([], c) => go spaces c
        | (b, c) =>
          match quotedBreaks? (c.rest.length + 1) c with
          | none => .error .malformed
          | some (bs, c) => go (fold b bs) c
      else go [ch] c.step

/-- The quoted scalar whose opening quote is at a place. -/
def quoted? (quote : Char) (c : Cursor) : Except Fault (List Char × Cursor) :=
  quotedFrom? quote (c.rest.length + 1) c.step

/-! ## Blocks -/

/-- What becomes of the line breaks at the end of a block. -/
inductive Chomping where
  | strip
  | clip
  | keep
  deriving DecidableEq, Repr

/-- The head of a block: what becomes of its end, and its indentation, if given. -/
structure BlockHead where
  chomping : Chomping := .clip
  increment : Option Nat := none
  deriving Repr

/-- The chomping of a sign. -/
def chomping? (c : Option Char) : Option Chomping :=
  if c = some '+' then some .keep else if c = some '-' then some .strip else none

/-- The digit at a place. -/
def digit? (c : Option Char) : Option Nat :=
  c.bind fun c => if c.isDigit then some (c.toNat - 48) else none

/-- The head of a block and the place behind its line: a sign and a digit in any order. -/
def blockHead? (c : Cursor) : Option (BlockHead × Cursor) := do
  let (head, c) : BlockHead × Cursor :=
    match chomping? c.peek with
    | some chomping =>
      match digit? (c.peekAt 1) with
      | some n => (⟨chomping, some n⟩, c.advance 2)
      | none => (⟨chomping, none⟩, c.step)
    | none =>
      match digit? c.peek with
      | some n =>
        match chomping? (c.peekAt 1) with
        | some chomping => (⟨chomping, some n⟩, c.advance 2)
        | none => (⟨.clip, some n⟩, c.step)
      | none => ({}, c)
  if head.increment = some 0 || !endsName c.peek then none
  else
    let c ← c.restOfLine?
    return (head, c)

/-- The empty lines at the start of a block whose indentation is not given: the line breaks, the
greatest indentation, and the place behind. -/
def blockIndent : (fuel : Nat) → (widest : Nat) → Cursor → List Char × Nat × Cursor
  | 0, widest, c => ([], widest, c)
  | fuel + 1, widest, c =>
    if c.peek == some ' ' then
      let c := c.skipSpaces
      blockIndent fuel (max widest c.column) c
    else
      match c.lineBreak with
      | ([], c) => ([], widest, c)
      | (b, c) =>
        let (bs, widest, c) := blockIndent fuel widest c
        (b ++ bs, widest, c)

/-- The place behind spaces, up to a column. -/
def skipTo (column : Nat) (c : Cursor) : Cursor :=
  c.advance (min (column - c.column) (c.rest.takeWhile (· == ' ')).length)

/-- The empty lines in front of a line of a block: the line breaks, and the place behind. -/
def blockBreaks (column : Nat) : (fuel : Nat) → Cursor → List Char × Cursor
  | 0, c => ([], c)
  | fuel + 1, c =>
    match (skipTo column c).lineBreak with
    | ([], c) => ([], c)
    | (b, c) =>
      let (bs, c) := blockBreaks column fuel c
      (b ++ bs, c)

/-- Whether a block goes on at a place. -/
def goesOn (column : Nat) (c : Cursor) : Bool := c.column == column && c.peek.isSome

/-- Whether a line of a folded block may be joined to its neighbours. -/
def isFoldable (c : Option Char) : Bool := !c.any isSpace

/-- The lines of a block: what they hold, the break behind the last, and the empty lines after
it. -/
def blockLines (folded : Bool) (column : Nat) :
    (fuel : Nat) → (breaks : List Char) → Cursor → List Char × List Char × List Char × Cursor
  | 0, breaks, c => ([], [], breaks, c)
  | fuel + 1, breaks, c =>
    let foldable := isFoldable c.peek
    let (line, c) := c.take (!isBreak ·)
    let (b, c) := c.lineBreak
    let (next, c) := blockBreaks column (c.rest.length + 1) c
    if goesOn column c then
      let kept :=
        if folded && b == ['\n'] && foldable && isFoldable c.peek then
          if next.isEmpty then [' '] else []
        else b
      let (text, last, after, c) := blockLines folded column fuel next c
      (breaks ++ line ++ kept ++ text, last, after, c)
    else (breaks ++ line, b, next, c)

/-- The block whose sign is at a place. The structure around it asks for lines that are indented by
`indent` columns at least. -/
def block? (folded : Bool) (indent : Nat) (c : Cursor) : Option (List Char × Cursor) := do
  let (head, c) ← blockHead? c.step
  let least := max 1 indent
  let (breaks, column, c) : List Char × Nat × Cursor :=
    match head.increment with
    | some n =>
      let column := least + n - 1
      let (bs, c) := blockBreaks column (c.rest.length + 1) c
      (bs, column, c)
    | none =>
      let (bs, widest, c) := blockIndent (2 * c.rest.length + 1) 0 c
      (bs, max least widest, c)
  let (text, last, after, c) :=
    if goesOn column c then blockLines folded column (c.rest.length + 1) breaks c
    else ([], [], breaks, c)
  return (text ++ (if head.chomping = .strip then [] else last)
    ++ (if head.chomping = .keep then after else []), c)

end Toolpath.Yaml.Literal
