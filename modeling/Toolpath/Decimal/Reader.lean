import Toolpath.Text.Blank
import Toolpath.Text.Digit
/-!
# Reading decimal numbers

The double nearest to a decimal text. `read?` takes a whole text or nothing; a text in front of
other characters is found by `leading?`, whose grammar is smaller.

## Main definitions

* `Toolpath.Decimal.nearest` — the double nearest to a whole number times a power of ten.
* `Toolpath.Decimal.read?` — a whole text as a double.
* `Toolpath.Decimal.Leading.split?` — the longest number in front of a text, and the rest.
-/

namespace Toolpath.Decimal

open Toolpath.Text

/-! ## Nearest doubles -/

/-- Positive infinity. -/
def infinity : Float := 1.0 / 0.0

/-- The double nearest to `mantissa * 10 ^ exponent`. Exponents far outside the range of doubles
are answered without arithmetic: zero below, infinity above. -/
def nearest (mantissa : Nat) (exponent : Int) : Float :=
  let magnitude := (ofNat mantissa).length + exponent
  if mantissa = 0 || magnitude < -400 then 0.0
  else if 400 < magnitude then infinity
  else if 0 ≤ exponent then Float.ofScientific mantissa false exponent.toNat
  else Float.ofScientific mantissa true (-exponent).toNat

/-- A double with a sign. -/
def withSign (negative : Bool) (x : Float) : Float := if negative then -x else x

/-- A sign in front of a text, and whether it is a minus. -/
def splitSign : List Char → Bool × List Char
  | '+' :: s => (false, s)
  | '-' :: s => (true, s)
  | s => (false, s)

/-- Whether a text starts with a digit. -/
def startsWithDigit : List Char → Bool
  | [] => false
  | c :: _ => isDecimal c

/-- Digits in front of a text, where single underscores may stand between two of them; `inside`
says that a digit stands in front. -/
def splitGrouped (inside : Bool) : List Char → List Nat × List Char
  | [] => ([], [])
  | c :: s =>
    match digitValue? c with
    | some d =>
      let (ds, rest) := splitGrouped true s
      (d :: ds, rest)
    | none =>
      if inside && c == '_' && startsWithDigit s then splitGrouped false s else ([], c :: s)

/-- An exponent at the start of a text: an `e`, a sign or none, and digits. Without one the
exponent is zero and nothing is taken. -/
def splitExponent : List Char → Int × List Char
  | [] => (0, [])
  | c :: s =>
    if c = 'e' || c = 'E' then
      let (negative, body) := splitSign s
      match splitGrouped false body with
      | ([], _) => (0, c :: s)
      | (ds, rest) => (if negative then -(numberOf ds : Int) else numberOf ds, rest)
    else (0, c :: s)

/-- An unsigned number at the start of a text: its value, and the rest. Digits stand before the
point or behind it. -/
def splitUnsigned? (s : List Char) : Option (Float × List Char) :=
  let (whole, rest) := splitGrouped false s
  let (part, rest) : List Nat × List Char :=
    match rest with
    | '.' :: behind => splitGrouped false behind
    | _ => ([], rest)
  if whole = [] && part = [] then none
  else
    let (k, rest) := splitExponent rest
    some (nearest (numberOf (whole ++ part)) (k - part.length), rest)

/-! ## Whole texts -/

/-- The names of the doubles that are no decimal number, in lower case. -/
def named? (s : List Char) : Option Float :=
  if s = ['i', 'n', 'f'] || s = ['i', 'n', 'f', 'i', 'n', 'i', 't', 'y'] then some infinity
  else if s = ['n', 'a', 'n'] then some (0.0 / 0.0)
  else none

/-- A whole text as a double: white space around, a sign, and a name or a number in digits of
any script, with single underscores allowed between digits. -/
def read? (s : List Char) : Option Float :=
  let (negative, body) := splitSign (trimMargin s)
  match named? (asciiLowered body) with
  | some x => some (withSign negative x)
  | none =>
    match splitUnsigned? body with
    | some (x, []) => some (withSign negative x)
    | _ => none
where
  /-- ASCII letters in lower case. -/
  asciiLowered (s : List Char) : List Char := s.map Char.toLower

/-! ## Numbers in front of a text -/

namespace Leading

/-- The digits in front of a text as they stand, and the rest. -/
def digits (s : List Char) : List Char × List Char := (s.takeWhile isDecimal, s.dropWhile isDecimal)

/-- The exponent in front of a text, if there is a complete one. -/
def exponent (s : List Char) : List Char × List Char :=
  match s with
  | e :: s' =>
    if e = 'e' || e = 'E' then
      let (sign, body) : List Char × List Char :=
        match s' with
        | c :: t => if c = '+' || c = '-' then ([c], t) else ([], s')
        | [] => ([], s')
      match digits body with
      | ([], _) => ([], s)
      | (ds, rest) => (e :: sign ++ ds, rest)
    else ([], s)
  | [] => ([], s)

/-- The digits, point and digits in front of a text. -/
def mantissa? (s : List Char) : Option (List Char × List Char) :=
  match digits s with
  | ([], '.' :: behind) =>
    match digits behind with
    | ([], _) => none
    | (ds, rest) => some ('.' :: ds, rest)
  | ([], _) => none
  | (whole, '.' :: behind) =>
    let (ds, rest) := digits behind
    some (whole ++ '.' :: ds, rest)
  | (whole, rest) => some (whole, rest)

/-- The name of infinity, with its capital. -/
def infinityName : List Char := ['I', 'n', 'f', 'i', 'n', 'i', 't', 'y']

/-- The longest number in front of a text, and the rest: a sign or none, then a decimal number
with or without exponent, or the name of infinity. -/
def split? (s : List Char) : Option (List Char × List Char) :=
  let (sign, body) : List Char × List Char :=
    match s with
    | c :: t => if c = '+' || c = '-' then ([c], t) else ([], s)
    | [] => ([], s)
  match mantissa? body with
  | some (m, rest) =>
    let (e, rest) := exponent rest
    some (sign ++ m ++ e, rest)
  | none =>
    if infinityName.isPrefixOf body then
      some (sign ++ infinityName, body.drop infinityName.length)
    else none

end Leading

/-- The double that the longest number in front of a text stands for, after white space. -/
def leading? (s : List Char) : Option Float :=
  match Leading.split? (trimLeft s) with
  | none => none
  | some (lexeme, _) => read? lexeme

end Toolpath.Decimal
