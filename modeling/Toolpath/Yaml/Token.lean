import Toolpath.Encoding.Utf8
import Toolpath.Yaml.Literal
/-!
# Tokens of a document

A document cut into tokens. Indentation opens and closes block lists and block mappings. That a
scalar is a key shows only at the colon behind it, so every place where a key may start is noted
as a candidate, and the tokens that announce a key are put in front of it afterwards. A candidate
lasts for one line and 1024 characters.

## Main definitions

* `Toolpath.Yaml.Token` — the tokens.
* `Toolpath.Yaml.Scan`, `Token.scan` — the tokens of a text, and why there are no more.
-/

namespace Toolpath.Yaml

/-- A tag as it is written: a handle, unless it is written out, and the rest. -/
structure TagName where
  handle : Option String
  suffix : String
  deriving DecidableEq, Repr

/-- The tokens of a document. -/
inductive Token where
  /-- The version that a document asks for. -/
  | version (major : Nat)
  /-- What a tag handle stands for. -/
  | tagHandle (handle expansion : String)
  /-- A directive that means nothing. -/
  | otherDirective
  | documentStart
  | documentEnd
  | blockListStart
  | blockMapStart
  | blockEnd
  | listOpen
  | listClose
  | mapOpen
  | mapClose
  | comma
  /-- The dash in front of an item. -/
  | item
  | key
  | value
  | alias (name : String)
  | anchor (name : String)
  | tag (name : TagName)
  /-- A scalar, and whether it is written plainly. -/
  | scalar (text : List Char) (plain : Bool)
  deriving DecidableEq, Repr

namespace Token

/-! ## Names, tags and directives -/

/-- The name at a place; it ends at a space or a sign. -/
def name? (c : Cursor) : Option (String × Cursor) :=
  let (name, c) := c.take isNameChar
  let closes (ch : Char) : Bool :=
    isBreak ch || isSpace ch || ['?', ':', ',', ']', '\x7d', '%', '@', Char.ofNat 96].contains ch
  if name.isEmpty || !c.peek.all closes then none else some (String.ofList name, c)

/-- The characters of tags. -/
def isTagChar (c : Char) : Bool :=
  c.isAlphanum || "-;/?:@&=+$,_.!~*()[]%".toList.contains c || c.toNat == 39

/-- The bytes of percent escapes at the start of a text, and the rest. -/
def escapedBytes? : List Char → Option (List UInt8 × List Char)
  | '%' :: a :: b :: s => do
    let a ← Literal.hexValue? a
    let b ← Literal.hexValue? b
    let (bytes, s) ← escapedBytes? s
    return ((16 * a + b).toUInt8 :: bytes, s)
  | '%' :: _ => none
  | s => some ([], s)

/-- A tag's text with its percent escapes read as UTF-8. -/
def unescaped? : (fuel : Nat) → List Char → Option (List Char)
  | 0, _ => none
  | _, [] => some []
  | fuel + 1, c :: s =>
    if c = '%' then do
      let (bytes, s) ← escapedBytes? (c :: s)
      let rest ← unescaped? fuel s
      if (Encoding.Utf8.firstFault? bytes).isSome then none
      else some (Encoding.Utf8.decode bytes ++ rest)
    else (unescaped? fuel s).map (c :: ·)

/-- The text of a tag at a place. -/
def tagText? (c : Cursor) : Option (String × Cursor) := do
  let (text, c) := c.take isTagChar
  if text.isEmpty then none
  else
    let text ← unescaped? (text.length + 1) text
    return (String.ofList text, c)

/-- The tag handle at a place: one exclamation mark, or a name between two. -/
def handle? (c : Cursor) : Option (String × Cursor) :=
  if c.peek != some '!' then none
  else
    let (name, after) := c.step.take isNameChar
    if c.peekAt 1 == some ' ' then some ("!", c.step)
    else if after.peek != some '!' then none
    else some (String.ofList ('!' :: name ++ ['!']), after.step)

/-- The tag at a place. -/
def tag? (c : Cursor) : Option (TagName × Cursor) := do
  let (name, c) : TagName × Cursor ←
    if c.peekAt 1 == some '<' then do
      let (suffix, c) ← tagText? (c.advance 2)
      if c.peek == some '>' then some (⟨none, suffix⟩, c.step) else none
    else if endsWord (c.peekAt 1) then some (⟨none, "!"⟩, c.step)
    else if (c.step.rest.takeWhile fun ch => !endsName (some ch)).contains '!' then do
      let (handle, c) ← handle? c
      let (suffix, c) ← tagText? c
      some (⟨some handle, suffix⟩, c)
    else do
      let (suffix, c) ← tagText? c.step
      some (⟨some "!", suffix⟩, c)
  if endsName c.peek then some (name, c) else none

/-- The number at a place. -/
def versionNumber? (c : Cursor) : Option (Nat × Cursor) :=
  let (digits, c) := c.take Char.isDigit
  if digits.isEmpty then none else some (digits.foldl (fun n d => 10 * n + (d.toNat - 48)) 0, c)

/-- The directive at a place, to the end of its line. -/
def directive? (c : Cursor) : Option (Token × Cursor) := do
  let (name, c) := c.step.take isNameChar
  if name.isEmpty || !endsName c.peek then none
  else
    let (token, c) : Token × Cursor ←
      match String.ofList name with
      | "YAML" => do
        let (major, c) ← versionNumber? c.skipSpaces
        if c.peek != some '.' then none
        else
          let (_, c) ← versionNumber? c.step
          if endsName c.peek then some (version major, c) else none
      | "TAG" => do
        let (handle, c) ← handle? c.skipSpaces
        if c.peek != some ' ' then none
        else
          let (expansion, c) ← tagText? c.skipSpaces
          if endsName c.peek then some (tagHandle handle expansion, c) else none
      | _ => some (otherDirective, c.skip (!isBreak ·))
    let c ← c.restOfLine?
    return (token, c)

/-! ## The scanner -/

/-- A place where a key may start. -/
structure Candidate where
  /-- The number of tokens in front of it. -/
  position : Nat
  /-- Whether nothing but a key can start here. -/
  required : Bool
  cursor : Cursor
  deriving Repr

/-- How many characters a key may have at most. -/
def keyLimit : Nat := 1024

/-- The state between two tokens. -/
structure Scanner where
  cursor : Cursor
  tokens : Array Token := #[]
  /-- Where a key starts, by the number of tokens in front, and whether a mapping starts there. -/
  keys : List (Nat × Bool) := []
  /-- The candidates, by depth of brackets, the innermost first. -/
  candidates : List (Option Candidate) := [none]
  /-- The columns of the open blocks, less one, the innermost first; the last stands for the
  document. -/
  indents : List Nat := []
  keyAllowed : Bool := true
  deriving Repr

namespace Scanner

/-- Whether the place is between brackets. -/
def inFlow (s : Scanner) : Bool := 1 < s.candidates.length

/-- The column from which on the lines of the innermost block start, and one more: zero outside
of blocks. -/
def indent (s : Scanner) : Nat := s.indents.headD 0

/-- The scanner with a token added and the cursor moved. -/
def push (s : Scanner) (t : Token) (c : Cursor) : Scanner :=
  { s with tokens := s.tokens.push t, cursor := c }

/-- The blocks closed that are indented more than a column; `column` is one more than it. -/
def closeBlocks (s : Scanner) (column : Nat) : Scanner :=
  let deeper := (s.indents.takeWhile (column < ·)).length
  { s with
    indents := s.indents.drop deeper
    tokens := s.tokens ++ Array.replicate deeper Token.blockEnd }

/-- Whether a block at a column is new. -/
def isDeeper (s : Scanner) (column : Nat) : Bool := s.indent < column + 1

/-- The scanner with a block opened at a column. -/
def openBlock (s : Scanner) (column : Nat) : Scanner :=
  { s with indents := (column + 1) :: s.indents }

/-- The scanner with a block of a kind opened here, unless it is open. -/
def ensureBlock (s : Scanner) (start : Token) : Scanner :=
  if s.isDeeper s.cursor.column then (s.openBlock s.cursor.column).push start s.cursor else s

/-- The scanner without the innermost candidate, which must not be required. -/
def dropCandidate (s : Scanner) : Except Fault Scanner :=
  match s.candidates with
  | some k :: rest =>
    if k.required then .error .malformed else .ok { s with candidates := none :: rest }
  | _ => .ok s

/-- The scanner with this place noted as a candidate, if a key is allowed here. -/
def saveCandidate (s : Scanner) : Except Fault Scanner :=
  if s.keyAllowed then do
    let required := !s.inFlow && s.indent == s.cursor.column + 1
    let s ← s.dropCandidate
    return { s with candidates := some ⟨s.tokens.size, required, s.cursor⟩ :: s.candidates.drop 1 }
  else .ok s

/-- Whether a candidate is too far away. -/
def isStale (s : Scanner) (k : Candidate) : Bool :=
  k.cursor.line != s.cursor.line || keyLimit < s.cursor.index - k.cursor.index

/-- The scanner without the candidates that are too far away, which must not be required. -/
def dropStale (s : Scanner) : Except Fault Scanner := do
  let candidates ← s.candidates.mapM fun k =>
    match k with
    | none => Except.ok none
    | some k =>
      if s.isStale k then if k.required then Except.error Fault.malformed else Except.ok none
      else Except.ok (some k)
  return { s with candidates }

/-- The place of the next token: behind spaces, comments and line breaks. A line break allows a
key. -/
def skipToToken : (fuel : Nat) → Scanner → Scanner
  | 0, s => s
  | fuel + 1, s =>
    match s.cursor.skipSpaces.skipComment.lineBreak with
    | ([], c) => { s with cursor := c }
    | (_, c) =>
      skipToToken fuel { s with cursor := c, keyAllowed := s.keyAllowed || !s.inFlow }

/-! ### One token -/

/-- A token that stands for itself, some characters long. -/
def sign (s : Scanner) (t : Token) (length : Nat) (keyAllowed : Bool) : Scanner :=
  { s.push t (s.cursor.advance length) with keyAllowed }

/-- The directive or the separator of documents here. -/
def documentToken (s : Scanner) : Except Fault Scanner := do
  let s := { ← (s.closeBlocks 0).dropCandidate with keyAllowed := false }
  if s.cursor.peek == some '%' then
    match directive? s.cursor with
    | some (t, c) => .ok (s.push t c)
    | none => .error .malformed
  else
    let t := if s.cursor.peek == some '-' then documentStart else documentEnd
    .ok (s.push t (s.cursor.advance 3))

/-- The bracket that opens here. -/
def openBracket (s : Scanner) (t : Token) : Except Fault Scanner := do
  let s := (← s.saveCandidate).sign t 1 true
  return { s with candidates := none :: s.candidates }

/-- The bracket that closes here. -/
def closeBracket (s : Scanner) (t : Token) : Except Fault Scanner := do
  let s ← s.dropCandidate
  if s.inFlow then .ok { s.sign t 1 false with candidates := s.candidates.drop 1 }
  else .error .malformed

/-- The dash of an item here. -/
def itemToken (s : Scanner) : Except Fault Scanner :=
  if s.inFlow then do return (← s.dropCandidate).sign item 1 true
  else if !s.keyAllowed then .error .malformed
  else do return (← (s.ensureBlock blockListStart).dropCandidate).sign item 1 true

/-- The question mark of a key here. -/
def keyToken (s : Scanner) : Except Fault Scanner :=
  if s.inFlow then do return (← s.dropCandidate).sign key 1 false
  else if !s.keyAllowed then .error .malformed
  else do return (← (s.ensureBlock blockMapStart).dropCandidate).sign key 1 true

/-- The colon of a value here. It makes the innermost candidate a key. -/
def valueToken (s : Scanner) : Except Fault Scanner :=
  match s.candidates with
  | some k :: rest =>
    let starts := !s.inFlow && s.isDeeper k.cursor.column
    let s := if starts then s.openBlock k.cursor.column else s
    .ok ({ s with keys := (k.position, starts) :: s.keys, candidates := none :: rest }.sign
      value 1 false)
  | _ =>
    if s.inFlow then .ok (s.sign value 1 false)
    else if !s.keyAllowed then .error .malformed
    else .ok ((s.ensureBlock blockMapStart).sign value 1 true)

/-- The anchor, the alias or the tag here. -/
def property (s : Scanner) (read : Cursor → Option (Token × Cursor)) : Except Fault Scanner := do
  let s ← s.saveCandidate
  match read s.cursor with
  | some (t, c) => .ok { s.push t c with keyAllowed := false }
  | none => .error .malformed

/-- The block scalar here. -/
def blockScalar (s : Scanner) (folded : Bool) : Except Fault Scanner := do
  let s ← s.dropCandidate
  match Literal.block? folded s.indent s.cursor with
  | some (text, c) => .ok { s.push (scalar text false) c with keyAllowed := true }
  | none => .error .malformed

/-- The quoted scalar here. -/
def quotedScalar (s : Scanner) (quote : Char) : Except Fault Scanner := do
  let s ← s.saveCandidate
  let (text, c) ← Literal.quoted? quote s.cursor
  return { s.push (scalar text false) c with keyAllowed := false }

/-- The plain scalar here. -/
def plainScalar (s : Scanner) : Except Fault Scanner := do
  let s ← s.saveCandidate
  let r := Literal.plain s.inFlow s.indent s.cursor
  return { s.push (scalar r.text true) r.cursor with keyAllowed := r.breaks }

/-- The characters that start no plain scalar by themselves. -/
def isIndicator (c : Char) : Bool :=
  "-?:,[]\x7b\x7d#&*!|>\"%@".toList.contains c || c.toNat == 39 || c.toNat == 96

/-- Whether a plain scalar starts here. -/
def startsPlain (s : Scanner) (c : Char) : Bool :=
  (!isIndicator c && !endsWord (some c))
    || (!endsWord (s.cursor.peekAt 1)
      && (c == '-' || (!s.inFlow && (c == '?' || c == ':'))))

/-- The token that starts with a character. -/
def token (s : Scanner) (c : Char) : Except Fault Scanner :=
  let here := s.cursor
  let alone := endsWord (here.peekAt 1)
  let first := here.column == 0
  if first && (c == '%' || here.atSeparator) then s.documentToken
  else if c == '[' then s.openBracket listOpen
  else if c == '\x7b' then s.openBracket mapOpen
  else if c == ']' then s.closeBracket listClose
  else if c == '\x7d' then s.closeBracket mapClose
  else if c == ',' then do return (← s.dropCandidate).sign comma 1 true
  else if c == '-' && alone then s.itemToken
  else if c == '?' && (s.inFlow || alone) then s.keyToken
  else if c == ':' && (s.inFlow || alone) then s.valueToken
  else if c == '*' then s.property fun c => (name? c.step).map fun (n, c) => (.alias n, c)
  else if c == '&' then s.property fun c => (name? c.step).map fun (n, c) => (anchor n, c)
  else if c == '!' then s.property fun c => (tag? c).map fun (n, c) => (tag n, c)
  else if c == '|' && !s.inFlow then s.blockScalar false
  else if c == '>' && !s.inFlow then s.blockScalar true
  else if c == '"' || c.toNat == 39 then s.quotedScalar c
  else if s.startsPlain c then s.plainScalar
  else .error .malformed

/-- The scanner behind one more token; nothing at the end of the text. -/
def next? (s : Scanner) : Except Fault (Option Scanner) := do
  let s ← (s.skipToToken (s.cursor.rest.length + 1)).dropStale
  let s := if s.inFlow then s else s.closeBlocks (s.cursor.column + 1)
  match s.cursor.peek with
  | some c => return some (← s.token c)
  | none => return none

/-- The scanner at the end of its text. -/
def finish (s : Scanner) : Except Fault Scanner := do
  let s ← (s.skipToToken (s.cursor.rest.length + 1)).dropStale
  let s := if s.inFlow then s else s.closeBlocks 0
  s.dropCandidate

/-- A token with the tokens that announce it if it is a key; `starts` says that a mapping starts with
the key. -/
def announced (t : Token) : (starts : Option Bool) → List Token
  | none => [t]
  | some false => [key, t]
  | some true => [blockMapStart, key, t]

/-- The number of tokens that are known to be what they are: those in front of the first
candidate. -/
def settled (s : Scanner) : Nat :=
  match s.dropStale with
  | .error _ => 0
  | .ok s =>
    s.candidates.foldl (fun n k => k.elim n fun k => min n k.position) s.tokens.size

/-- The first tokens of a scanner with their keys. -/
def firstTokens (s : Scanner) (count : Nat) : List Token :=
  let marks : Array (Option Bool) :=
    s.keys.foldl (fun marks (position, starts) => marks.setIfInBounds position (some starts))
      (Array.replicate count none)
  ((s.tokens.toList.take count).zip marks.toList).flatMap fun (t, starts) => announced t starts

end Scanner

end Token

/-- The tokens of a text up to its end, or up to a fault. -/
structure Scan where
  tokens : List Token
  fault : Option Fault

namespace Token

/-- The tokens from a scanner on. -/
def Scanner.run : (fuel : Nat) → Scanner → Scan
  | 0, _ => ⟨[], some .malformed⟩
  | fuel + 1, s =>
    match s.next? with
    | .error fault => ⟨s.firstTokens s.settled, some fault⟩
    | .ok (some s) => Scanner.run fuel s
    | .ok none =>
      match s.finish with
      | .error fault => ⟨s.firstTokens s.settled, some fault⟩
      | .ok s => ⟨s.firstTokens s.tokens.size, none⟩

/-- The tokens of a text. A token that a fault keeps from being known is left out. -/
def scan (text : List Char) : Scan :=
  let text : List Char :=
    match text with
    | c :: rest => if c.toNat = 0xFEFF then rest else text
    | [] => text
  Scanner.run (2 * text.length + 2) { cursor := ⟨text, 0, 0, 0⟩ }

end Token

end Toolpath.Yaml
