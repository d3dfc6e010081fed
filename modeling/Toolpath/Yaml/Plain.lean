import Toolpath.Calendar
import Toolpath.Text.Blank
/-!
# What plain scalars mean

A scalar without a tag of its own is a truth value, a number, a date, nothing, or else a text, by
the way it is written.

## Main definitions

* `Toolpath.Yaml.Plain.tagOf` — the tag of a scalar by its text.
* `Toolpath.Yaml.Plain.Stamp`, `Stamp.ofText?` — the parts of a date with or without time.
-/

namespace Toolpath.Yaml.Plain

open Text

/-! ## Tags -/

/-- The beginning of the standard tags. -/
def standard : String := "tag:yaml.org,2002:"

/-- The tag of texts. -/
def textTag : String := standard ++ "str"

/-- The tag of lists. -/
def listTag : String := standard ++ "seq"

/-- The tag of mappings. -/
def mapTag : String := standard ++ "map"

/-- The tag of nothing. -/
def nullTag : String := standard ++ "null"

/-- The tag of truth values. -/
def boolTag : String := standard ++ "bool"

/-- The tag of whole numbers. -/
def intTag : String := standard ++ "int"

/-- The tag of doubles. -/
def floatTag : String := standard ++ "float"

/-- The tag of dates. -/
def dateTag : String := standard ++ "timestamp"

/-- The tag of the key that merges other mappings. -/
def mergeTag : String := standard ++ "merge"

/-- The tag of the key for a mapping's main value. -/
def mainTag : String := standard ++ "value"

/-- The tag of the signs that have no meaning as a scalar. -/
def signTag : String := standard ++ "yaml"

/-- The tag of bytes. -/
def bytesTag : String := standard ++ "binary"

/-- The tag of sets. -/
def setTag : String := standard ++ "set"

/-- The tag of mappings with an order. -/
def orderedTag : String := standard ++ "omap"

/-- The tag of lists of pairs. -/
def pairsTag : String := standard ++ "pairs"

/-! ## Words -/

/-- The words for truth. -/
def trueWords : List String := ["yes", "true", "on"]

/-- The words for falsehood. -/
def falseWords : List String := ["no", "false", "off"]

/-- A word in its three spellings: small, with a capital, and in capitals. -/
def spellings (word : String) : List (List Char) :=
  let s := word.toList
  let capital : List Char :=
    match s with
    | [] => []
    | c :: rest => c.toUpper :: rest
  [s, capital, s.map Char.toUpper]

/-- A truth value. -/
def isBool (s : List Char) : Bool := ((trueWords ++ falseWords).flatMap spellings).contains s

/-- Nothing. -/
def isNull (s : List Char) : Bool := s.isEmpty || s == ['~'] || (spellings "null").contains s

/-! ## Numbers -/

/-- A text without a sign in front. -/
def unsigned : List Char → List Char
  | '+' :: s => s
  | '-' :: s => s
  | s => s

/-- A digit or an underscore. -/
def isDigitOr (c : Char) : Bool := c.isDigit || c == '_'

/-- Digits and underscores that start with a digit. -/
def isDigits : List Char → Bool
  | [] => false
  | c :: s => c.isDigit && s.all isDigitOr

/-- Digits and underscores that start with a digit other than zero. -/
def isCounting : List Char → Bool
  | [] => false
  | c :: s => c.isDigit && c != '0' && s.all isDigitOr

/-- A part of a number to the base of sixty: one or two digits below sixty. -/
def isSixtieth (s : List Char) : Bool :=
  match s with
  | [d] => d.isDigit
  | [t, d] => '0' ≤ t && t ≤ '5' && d.isDigit
  | _ => false

/-- Whether characters of one kind, at least one, follow zero and a letter. -/
def isPrefixed (letter : Char) (p : Char → Bool) : List Char → Bool
  | '0' :: c :: s => c == letter && !s.isEmpty && s.all p
  | _ => false

/-- A hexadecimal digit. -/
def isHex (c : Char) : Bool := c.isDigit || ('a' ≤ c && c ≤ 'f') || ('A' ≤ c && c ≤ 'F')

/-- A whole number: binary, octal, hexadecimal, decimal, or to the base of sixty. -/
def isInt (s : List Char) : Bool :=
  let s := unsigned s
  isPrefixed 'b' (fun c => c == '0' || c == '1' || c == '_') s
    || (match s with
      | '0' :: t => !t.isEmpty && t.all fun c => ('0' ≤ c && c ≤ '7') || c == '_'
      | _ => false)
    || s == ['0'] || isCounting s
    || isPrefixed 'x' (fun c => isHex c || c == '_') s
    || (match pieces ':' s with
      | first :: second :: more => isCounting first && (second :: more).all isSixtieth
      | _ => false)

/-- Digits, and an exponent with a sign, or none. -/
def isFraction (s : List Char) : Bool :=
  match s.dropWhile isDigitOr with
  | [] => true
  | e :: sign :: digits =>
    (e == 'e' || e == 'E') && (sign == '+' || sign == '-') && !digits.isEmpty
      && digits.all Char.isDigit
  | _ => false

/-- A double: with a point and perhaps an exponent, to the base of sixty with a point, or one of
the names of infinity and of no number. -/
def isFloat (s : List Char) : Bool :=
  let body := unsigned s
  (match cutAt '.' body with
    | (whole, some part) => isDigits whole && isFraction part
    | _ => false)
    || (match s with
      | '.' :: d :: part => d.isDigit && isFraction part
      | _ => false)
    || (match cutAt '.' body with
      | (whole, some part) =>
        part.all isDigitOr
          && (match pieces ':' whole with
            | first :: second :: more => isDigits first && (second :: more).all isSixtieth
            | _ => false)
      | _ => false)
    || (match body with
      | '.' :: name => (spellings "inf").contains name
      | _ => false)
    || s == ".nan".toList || s == ".NaN".toList || s == ".NAN".toList

/-! ## Dates -/

/-- The parts of a date as they are written. -/
structure Stamp where
  date : Calendar.Day
  /-- The date with a time of day, if there is one. -/
  time : Option Calendar.Time
  /-- Whether month and day have two digits each. -/
  full : Bool
  deriving DecidableEq, Repr

/-- A number of at least `least` and at most `most` digits in front of a text, and the rest. -/
def splitNumber? (least most : Nat) (s : List Char) : Option (Nat × List Char) :=
  let digits := (s.take most).takeWhile Char.isDigit
  if digits.length < least then none
  else some (digits.foldl (fun n d => 10 * n + (d.toNat - 48)) 0, s.drop digits.length)

/-- The text behind a character in front of it. -/
def behind? (c : Char) : List Char → Option (List Char)
  | [] => none
  | d :: s => if d = c then some s else none

/-- A space or a tab. -/
def isGap (c : Char) : Bool := c == ' ' || c == '\t'

/-- The distance of a time zone that makes up a text, perhaps with spaces in front; an empty text
has none. -/
def zone? (s : List Char) : Option (Option Int) :=
  match s.dropWhile isGap with
  | [] => if s.isEmpty then some none else none
  | ['Z'] => some (some 0)
  | c :: s =>
    if c = '+' || c = '-' then do
      let (hours, s) ← splitNumber? 1 2 s
      let minutes ←
        match s with
        | [] => some 0
        | ':' :: s =>
          match splitNumber? 2 2 s with
          | some (n, []) => some n
          | _ => none
        | _ => none
      let size : Int := (60 * hours + minutes : Nat)
      return some (if c = '-' then -size else size)
    else none

/-- The microseconds of the digits behind a point, of which the first six count. -/
def microsOf (digits : List Char) : Nat :=
  let six := (digits ++ List.replicate 6 '0').take 6
  six.foldl (fun n d => 10 * n + (d.toNat - 48)) 0

/-- The time of day that makes up a text, with a fraction of a second and a time zone behind it. -/
def time? (date : Calendar.Day) (s : List Char) : Option Calendar.Time := do
  let (hour, s) ← splitNumber? 1 2 s
  let s ← behind? ':' s
  let (minute, s) ← splitNumber? 2 2 s
  let s ← behind? ':' s
  let (second, s) ← splitNumber? 2 2 s
  let (fraction, s) : List Char × List Char :=
    match s with
    | '.' :: t => (t.takeWhile Char.isDigit, t.dropWhile Char.isDigit)
    | _ => ([], s)
  let zone ← zone? s
  return ⟨date, hour, minute, second, microsOf fraction, zone⟩

/-- The parts of a date. -/
def Stamp.ofText? (s : List Char) : Option Stamp := do
  let (year, s) ← splitNumber? 4 4 s
  let s ← behind? '-' s
  let (month, s') ← splitNumber? 1 2 s
  let s' ← behind? '-' s'
  let (day, rest) ← splitNumber? 1 2 s'
  let date : Calendar.Day := ⟨year, month, day⟩
  match rest with
  | [] => some ⟨date, none, s.length = 5⟩
  | c :: t =>
    let t ← if c = 'T' || c = 't' then some t else if isGap c then some (t.dropWhile isGap) else none
    let time ← time? date t
    some ⟨date, some time, false⟩

/-- A date: in full with two digits for month and day, or with a time of day. -/
def isDate (s : List Char) : Bool :=
  match Stamp.ofText? s with
  | some stamp => stamp.full || stamp.time.isSome
  | none => false

/-! ## The tag -/

/-- The signs that mean nothing as a scalar. -/
def isSign (s : List Char) : Bool := s == ['!'] || s == ['&'] || s == ['*']

/-- The tag of a line. -/
def tagOfLine (s : List Char) : String :=
  if isBool s then boolTag
  else if isFloat s then floatTag
  else if isInt s then intTag
  else if s = ['<', '<'] then mergeTag
  else if isNull s then nullTag
  else if isDate s then dateTag
  else if s = ['='] then mainTag
  else if isSign s then signTag
  else textTag

/-- A text without the line feed at its end. -/
def withoutLineFeed (s : List Char) : List Char :=
  if s.getLast? = some '\n' then s.dropLast else s

/-- The tag of a scalar, if nothing but its text says what it is. A line feed at the end counts for
nothing, unless there is nothing else. -/
def tagOf (s : List Char) : String :=
  if s = ['\n'] then textTag else tagOfLine (withoutLineFeed s)

end Toolpath.Yaml.Plain
