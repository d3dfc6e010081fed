import Toolpath.Text.Blank
import Toolpath.Text.Case
import Toolpath.Text.Digit
import Toolpath.Text.Quoted
/-!
# Reading whole numbers

A whole text as a whole number in some base: white space around it, a sign, the mark of the base,
and digits of any script or letters, with single underscores between them.

## Main definitions

* `Toolpath.Decimal.Whole.read` — a whole text as a number.
* `Toolpath.Decimal.Whole.Fault` — why a text is no number.
-/

namespace Toolpath.Decimal.Whole

open Text

/-- Why a text is no whole number. -/
inductive Fault where
  | invalid (base : Nat) (text : List Char)
  | tooLong (digits : Nat)
  deriving DecidableEq, Repr

/-- The most decimal digits that are read. -/
def digitLimit : Nat := 4300

/-- The most characters of a text that a message quotes. -/
def quoteLimit : Nat := 200

/-- The wording of a fault. -/
def Fault.message : Fault → String
  | invalid base text =>
    let shown := String.ofList ((quoted text).take quoteLimit)
    s!"invalid literal for int() with base {base}: {shown}"
  | tooLong digits =>
    s!"Exceeds the limit ({digitLimit} digits) for integer string conversion: value has {digits} digits; use sys.set_int_max_str_digits() to increase the limit"

/-- The value of a digit or a letter. -/
def digit? (c : Char) : Option Nat :=
  match digitValue? c with
  | some d => some d
  | none => if c.isAlpha then some (c.toLower.toNat - 87) else none

/-- The digits of a base and the underscores in front of a text: the digits, nothing if an
underscore has no digit at its side, and the rest. -/
def splitDigits (base : Nat) : List Char → Option (List Nat) × List Char
  | [] => (some [], [])
  | c :: s =>
    match (digit? c).filter (· < base) with
    | some d =>
      let (ds, rest) := splitDigits base s
      (ds.map (d :: ·), rest)
    | none =>
      if c = '_' then
        match s with
        | e :: _ =>
          if ((digit? e).filter (· < base)).isSome then splitDigits base s else (none, s)
        | [] => (none, s)
      else (some [], c :: s)

/-- The letter that marks a base behind a zero. -/
def mark? (base : Nat) : Option Char :=
  if base = 2 then some 'b' else if base = 8 then some 'o' else if base = 16 then some 'x' else none

/-- A text without the mark of its base. -/
def withoutMark (base : Nat) : List Char → List Char
  | '0' :: c :: s =>
    if mark? base == some c.toLower then
      match s with
      | '_' :: t => t
      | _ => s
    else '0' :: c :: s
  | s => s

/-- A whole text as a number in a base. Too many digits are refused before it is known what
follows them. -/
def read (base : Nat) (s : List Char) : Except Fault Int :=
  let (negative, body) : Bool × List Char :=
    match trimMargin s with
    | '-' :: t => (true, t)
    | '+' :: t => (false, t)
    | t => (false, t)
  let body := withoutMark base body
  match splitDigits base body with
  | (some ds, rest) =>
    if body.head? == some '_' then .error (.invalid base s)
    else if base = 10 && digitLimit < ds.length then .error (.tooLong ds.length)
    else if ds.isEmpty || !rest.isEmpty then .error (.invalid base s)
    else
      let n : Nat := ds.foldl (fun n d => base * n + d) 0
      .ok (if negative then -(n : Int) else n)
  | (none, _) => .error (.invalid base s)

end Toolpath.Decimal.Whole
