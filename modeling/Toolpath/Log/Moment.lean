import Toolpath.Decimal.Binary
import Toolpath.Text.Digit
/-!
# Moments

A moment as seconds since the start of 1970, rounded to microseconds, and as a date and a time of
day at Greenwich.

## Main definitions

* `Toolpath.Log.Moment.micros` — seconds as whole microseconds.
* `Toolpath.Log.Moment`, `Moment.ofMicros` — the date and the time of day.
* `Toolpath.Log.Moment.iso`, `Moment.short` — the two forms in which moments are written.
-/

namespace Toolpath.Log

open Text

/-- A date and a time of day at Greenwich. -/
structure Moment where
  year : Int
  month : Nat
  day : Nat
  hour : Nat
  minute : Nat
  second : Nat
  micro : Nat
  deriving DecidableEq, Repr

namespace Moment

/-- Why seconds are no moment. -/
inductive Fault where
  | notNumber
  /-- The seconds do not fit into 64 bits. -/
  | tooManySeconds
  /-- The years since 1900 do not fit into 32 bits. -/
  | tooManyYears
  | yearOutOfRange (year : Int)
  deriving DecidableEq, Repr

/-- The wording of a fault. -/
def Fault.message : Fault → String
  | notNumber => "Invalid value NaN (not a number)"
  | tooManySeconds => "timestamp out of range for platform time_t"
  | tooManyYears => "[Errno 75] Value too large for defined data type"
  | yearOutOfRange year => s!"year {year} is out of range"

/-- Seconds as whole microseconds: the whole seconds, and the part of a second multiplied as a
double and rounded, with ties to even. -/
def micros (seconds : Float) : Except Fault Int :=
  match Decimal.decode seconds with
  | .nan => .error .notNumber
  | .infinite _ => .error .tooManySeconds
  | .finite negative m e =>
    let (n, d) := Decimal.fraction m e
    let whole := n / d
    let part : Float := Float.ofNat (n % d) / Float.ofNat d * 1000000.0
    let rounded :=
      match Decimal.decode part with
      | .finite _ m e =>
        let (n, d) := Decimal.fraction m e
        Decimal.roundDiv n d
      | _ => 0
    let size : Int := (whole * 1000000 + rounded : Nat)
    .ok (if negative then -size else size)

/-- The date a number of days after the start of March of the year zero. -/
def dateOf (days : Int) : Int × Nat × Nat :=
  let era := days.fdiv 146097
  let inEra := (days - era * 146097).toNat
  let yearOfEra := (inEra - inEra / 1460 + inEra / 36524 - inEra / 146096) / 365
  let inYear := inEra - (365 * yearOfEra + yearOfEra / 4 - yearOfEra / 100)
  let march := (5 * inYear + 2) / 153
  let day := inYear - (153 * march + 2) / 5 + 1
  let month := if march < 10 then march + 3 else march - 9
  (yearOfEra + era * 400 + (if month ≤ 2 then 1 else 0), month, day)

/-- The days from the start of March of the year zero to the start of 1970. -/
def epochDays : Int := 719468

/-- The moment a number of microseconds after the start of 1970. -/
def ofMicros (micros : Int) : Moment :=
  let seconds := micros.fdiv 1000000
  let days := seconds.fdiv 86400
  let inDay := (seconds - days * 86400).toNat
  let (year, month, day) := dateOf (days + epochDays)
  ⟨year, month, day, inDay / 3600, inDay / 60 % 60, inDay % 60,
    (micros - seconds * 1000000).toNat⟩

/-- Whether a whole number fits into a word of `2 * half` values. -/
def inWord (half : Nat) (n : Int) : Bool := -(half : Int) ≤ n && n < half

/-- The moment a number of seconds after the start of 1970. Years have four digits at most; the
year of a fault is a number of 32 bits. -/
def ofSeconds (seconds : Float) : Except Fault Moment := do
  let micros ← micros seconds
  let m := ofMicros micros
  if !inWord 0x8000000000000000 (micros.fdiv 1000000) then throw .tooManySeconds
  else if !inWord 0x80000000 (m.year - 1900) then throw .tooManyYears
  else if 1 ≤ m.year && m.year ≤ 9999 then return m
  else throw (.yearOutOfRange (m.year.bmod 0x100000000))

/-! ## Writing -/

/-- A number with zeros in front, up to a width. -/
def padded (width n : Nat) : List Char :=
  let digits := ofNat n
  List.replicate (width - digits.length) '0' ++ digits

/-- Month, day and time of day as they follow the year. -/
def sinceYear (m : Moment) : List Char :=
  '-' :: padded 2 m.month ++ '-' :: padded 2 m.day ++ 'T' :: padded 2 m.hour
    ++ ':' :: padded 2 m.minute ++ ':' :: padded 2 m.second

/-- A moment with its distance from Greenwich; microseconds are left out if there are none. -/
def iso (m : Moment) : List Char :=
  padded 4 m.year.toNat ++ m.sinceYear
    ++ (if m.micro = 0 then [] else '.' :: padded 6 m.micro) ++ "+00:00".toList

/-- A moment to the millisecond, cut off. -/
def short (m : Moment) : List Char :=
  ofNat m.year.toNat ++ m.sinceYear ++ '.' :: padded 3 (m.micro / 1000) ++ ['Z']

end Moment

end Toolpath.Log
