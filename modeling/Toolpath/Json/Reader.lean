import Toolpath.Decimal.Reader
import Toolpath.Entries
import Toolpath.Text.Half
import Toolpath.Value
/-!
# Reading JSON

JSON text as a value. A number is whole unless it is written with a point or an exponent, entries
keep their order, a key that is written again changes its value, and two escaped halves of a
character are put together.

## Main definitions

* `Toolpath.Json.read?` — a whole text as a value.
-/

namespace Toolpath.Json

open Text

/-- The white space of JSON. -/
def isSpace (c : Char) : Bool := c == ' ' || c == '\n' || c == '\t' || c == '\r'

/-- A text without the white space in front. -/
def skip (s : List Char) : List Char := s.dropWhile isSpace

/-! ## Strings -/

/-- The value of a hexadecimal digit. -/
def hexValue? (c : Char) : Option Nat :=
  let n := c.toNat
  if 48 ≤ n && n ≤ 57 then some (n - 48)
  else if 97 ≤ n && n ≤ 102 then some (n - 87)
  else if 65 ≤ n && n ≤ 70 then some (n - 55)
  else none

/-- The number that four hexadecimal digits spell. -/
def unit? (a b c d : Char) : Option Nat := do
  let a ← hexValue? a
  let b ← hexValue? b
  let c ← hexValue? c
  let d ← hexValue? d
  return ((a * 16 + b) * 16 + c) * 16 + d

/-- The character of a single-letter escape. -/
def escaped? (c : Char) : Option Char :=
  match c with
  | '"' => some '"'
  | '\\' => some '\\'
  | '/' => some '/'
  | 'b' => some (Char.ofNat 8)
  | 'f' => some (Char.ofNat 12)
  | 'n' => some '\n'
  | 'r' => some '\r'
  | 't' => some '\t'
  | _ => none

/-- The sixteen-bit units of a text as characters. A half without its other half has a character
that stands for it. -/
def ofUnits : List Nat → List Char
  | [] => []
  | [n] => [ofCode n]
  | n :: m :: rest =>
    if 0xD800 ≤ n && n < 0xDC00 then
      if 0xDC00 ≤ m && m < 0xE000 then
        Char.ofNat (0x10000 + (n - 0xD800) * 0x400 + (m - 0xDC00)) :: ofUnits rest
      else ofCode n :: ofUnits (m :: rest)
    else ofCode n :: ofUnits (m :: rest)

/-- The inside of a string, up to its closing quote, and the rest. Units that stand next to each
other are collected in `units`, the last first. -/
def string? (units : List Nat) : List Char → Option (List Char × List Char)
  | [] => none
  | '"' :: s => some (ofUnits units.reverse, s)
  | '\\' :: 'u' :: a :: b :: c :: d :: s => do
    let n ← unit? a b c d
    string? (n :: units) s
  | '\\' :: c :: s => do
    let c ← escaped? c
    let (rest, s) ← string? [] s
    return (ofUnits units.reverse ++ c :: rest, s)
  | c :: s =>
    if c.toNat < 32 then none
    else do
      let (rest, s) ← string? [] s
      return (ofUnits units.reverse ++ c :: rest, s)

/-! ## Numbers -/

/-- The ASCII digits in front of a text, and the rest. -/
def digits (s : List Char) : List Char × List Char :=
  (s.takeWhile Char.isDigit, s.dropWhile Char.isDigit)

/-- A minus in front of a text, and the rest. -/
def minus : List Char → List Char × List Char
  | '-' :: s => (['-'], s)
  | s => ([], s)

/-- A point and the digits behind it in front of a text, and the rest. -/
def places : List Char → List Char × List Char
  | '.' :: s => ('.' :: (digits s).1, (digits s).2)
  | s => ([], s)

/-- A number in front of a text, and the rest. -/
def number? (s : List Char) : Option (Value × List Char) :=
  let (sign, body) := minus s
  let (whole, rest) := digits body
  if whole.isEmpty || (1 < whole.length && whole.head? == some '0') then none
  else
    let (part, rest) := places rest
    let (e, rest) := Decimal.Leading.exponent rest
    if part == ['.'] then none
    else if part.isEmpty && e.isEmpty then
      let n := numberOf (whole.filterMap digitValue?)
      some (.int (if sign.isEmpty then n else -n), rest)
    else (Decimal.read? (sign ++ whole ++ part ++ e)).map fun x => (.float x, rest)

/-! ## Values -/

/-- A word in front of a text, and the rest. -/
def word? (word : String) (v : Value) (s : List Char) : Option (Value × List Char) :=
  if word.toList.isPrefixOf s then some (v, s.drop word.length) else none

mutual

/-- A value in front of a text, and the rest; `fuel` bounds the depth of the reading. -/
def value? : (fuel : Nat) → List Char → Option (Value × List Char)
  | 0, _ => none
  | fuel + 1, s =>
    match skip s with
    | '"' :: t => (string? [] t).map fun (s, rest) => (.str (String.ofList s), rest)
    | '[' :: t =>
      match skip t with
      | ']' :: rest => some (.list [], rest)
      | _ => (items? fuel t).map fun (vs, rest) => (.list vs, rest)
    | '\x7b' :: t =>
      match skip t with
      | '\x7d' :: rest => some (.map [], rest)
      | _ => (entries? fuel t).map fun (fs, rest) => (.record (Entries.putAll [] fs), rest)
    | 'n' :: t => word? "null" .null ('n' :: t)
    | 't' :: t => word? "true" (.bool true) ('t' :: t)
    | 'f' :: t => word? "false" (.bool false) ('f' :: t)
    | t => number? t

/-- The values up to the end of a list, and the rest. -/
def items? : (fuel : Nat) → List Char → Option (List Value × List Char)
  | 0, _ => none
  | fuel + 1, s =>
    match value? fuel s with
    | none => none
    | some (v, s) =>
      match skip s with
      | ',' :: t => (items? fuel t).map fun (vs, rest) => (v :: vs, rest)
      | ']' :: t => some ([v], t)
      | _ => none

/-- The entries up to the end of a mapping, and the rest. -/
def entries? : (fuel : Nat) → List Char → Option (List (String × Value) × List Char)
  | 0, _ => none
  | fuel + 1, s =>
    match skip s with
    | '"' :: t =>
      match string? [] t with
      | none => none
      | some (k, s) =>
        match skip s with
        | ':' :: t =>
          match value? fuel t with
          | none => none
          | some (v, s) =>
            match skip s with
            | ',' :: t =>
              (entries? fuel t).map fun (fs, rest) => ((String.ofList k, v) :: fs, rest)
            | '\x7d' :: t => some ([(String.ofList k, v)], t)
            | _ => none
        | _ => none
    | _ => none

end

/-- A whole text as a value. Every step of the reading takes at least one character, so twice
the length bounds its depth. -/
def read? (s : List Char) : Option Value :=
  match value? (2 * s.length + 2) s with
  | some (v, rest) => if (skip rest).isEmpty then some v else none
  | none => none

end Toolpath.Json
