import Toolpath.Decimal.Reader
import Toolpath.Encoding.Base64
import Toolpath.Text.Case
import Toolpath.Value
import Toolpath.Yaml.Plain
import Toolpath.Yaml.Fault
/-!
# Values of scalars

The value of a text by its tag: nothing, a truth value, a number, a date, bytes, or the text itself.
A tag is taken at its word, so that a text may fail to be what it says.

## Main definitions

* `Toolpath.Yaml.Kind`, `Kind.ofTag?` — the kinds of scalars by their tags.
* `Toolpath.Yaml.Kind.value` — the value of a text of a kind.
-/

namespace Toolpath.Yaml

open Text

/-- The kinds of scalars. -/
inductive Kind where
  | text
  | null
  | bool
  | int
  | float
  | date
  | bytes
  deriving DecidableEq, Repr

namespace Kind

/-- The kind of a tag, if it is the tag of scalars. -/
def ofTag? (tag : String) : Option Kind :=
  if tag = Plain.textTag then some text
  else if tag = Plain.nullTag then some null
  else if tag = Plain.boolTag then some bool
  else if tag = Plain.intTag then some int
  else if tag = Plain.floatTag then some float
  else if tag = Plain.dateTag then some date
  else if tag = Plain.bytesTag then some bytes
  else none

/-! ## Truth values -/

/-- A truth value, in any case of letters. -/
def boolValue (s : List Char) : Except Fault Value :=
  let word := lower s
  if Plain.trueWords.contains (String.ofList word) then .ok (.bool true)
  else if Plain.falseWords.contains (String.ofList word) then .ok (.bool false)
  else .error (.bool word)

/-! ## Numbers -/

/-- A text without underscores, whether it has a minus sign, and what follows the sign. -/
def signSplit? (s : List Char) : Option (Bool × List Char) :=
  match s.filter (· != '_') with
  | [] => none
  | '-' :: t => some (true, t)
  | '+' :: t => some (false, t)
  | t => some (false, t)

/-- A number to the base of sixty: each digit, the last one first, is added at its place. -/
def sixties {α : Type} (add : α → Nat → α → Except Fault α) (sum : α) (place : Nat) :
    (digits : List α) → Except Fault α
  | [] => .ok sum
  | d :: ds => do sixties add (← add sum place d) (place * 60) ds

/-- A whole number without its sign, in one of its five forms. -/
def wholeValue (s : List Char) : Except Fault Int := do
  let read (base : Nat) (s : List Char) : Except Fault Int :=
    (Decimal.Whole.read base s).mapError .whole
  match s with
  | ['0'] => return 0
  | '0' :: 'b' :: t => read 2 t
  | '0' :: 'x' :: t => read 16 t
  | '0' :: _ => read 8 s
  | _ =>
    if s.contains ':' then
      let digits ← (pieces ':' s).mapM (read 10)
      sixties (fun sum place d => .ok (sum + d * place)) 0 1 digits.reverse
    else read 10 s

/-- A whole number. -/
def intValue (s : List Char) : Except Fault Value :=
  match signSplit? s with
  | none => .error .noDigits
  | some (_, []) => .error .noDigits
  | some (negative, t) => do
    let n ← wholeValue t
    return .int (if negative then -n else n)

/-- A decimal number as a double. -/
def decimalValue (s : List Char) : Except Fault Float :=
  match Decimal.read? s with
  | some x => .ok x
  | none => .error (.float s)

/-- A double with a digit added at a place of a number to the base of sixty. -/
def addPlace (sum : Float) (place : Nat) (digit : Float) : Except Fault Float :=
  let size := Decimal.nearest place 0
  if Decimal.isFinite size then .ok (sum + digit * size) else .error .placeTooLarge

/-- The name of the double that is no number. -/
def nanName : List Char := ".nan".toList

/-- The size of a double as it is written, in small letters and without its sign. -/
def sizeValue (t : List Char) : Except Fault Float := do
  if t == ".inf".toList then return Decimal.infinity
  else if t == nanName then return 0.0 / 0.0
  else if t.contains ':' then
    let digits ← (pieces ':' t).mapM decimalValue
    sixties addPlace 0.0 1 digits.reverse
  else decimalValue t

/-- A double. -/
def floatValue (s : List Char) : Except Fault Value :=
  match signSplit? (lower s) with
  | none => .error .noDigits
  | some (negative, t) => do return .float (Decimal.withSign negative (← sizeValue t))

/-- Whether a text is the name of the double that is no number. -/
def isNanName (s : List Char) : Bool := (signSplit? (lower s)).any fun (_, t) => t == nanName

/-! ## Dates and bytes -/

/-- A date, with a time of day or without. -/
def dateValue (s : List Char) : Except Fault Value :=
  match Plain.Stamp.ofText? (Plain.withoutLineFeed s) with
  | none => .error .noDate
  | some stamp =>
    match stamp.time with
    | none =>
      match stamp.date.fault? with
      | some fault => .error (.date fault)
      | none => .ok (.day stamp.date)
    | some t =>
      match t.fault? with
      | some fault => .error (.date fault)
      | none => .ok (.time t)

/-- Bytes written to the base of 64. -/
def bytesValue (s : List Char) : Except Fault Value :=
  if s.any (128 ≤ ·.toNat) then .error .malformed
  else
    match Encoding.Base64.decode? s with
    | some data => .ok (.bytes data)
    | none => .error .malformed

/-! ## All kinds -/

/-- The value of a text of a kind. -/
def value : Kind → List Char → Except Fault Value
  | text, s => .ok (.str (String.ofList s))
  | null, _ => .ok .null
  | bool, s => boolValue s
  | int, s => intValue s
  | float, s => floatValue s
  | date, s => dateValue s
  | bytes, s => bytesValue s

end Kind

end Toolpath.Yaml
