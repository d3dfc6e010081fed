import Toolpath.Text.Blank
import Toolpath.Text.Digit
/-!
# The calendar

Days of the calendar that has leap years of three kinds, and days with a time of day that may know
its distance from Greenwich. Two times that know their distances are the same if they are the same
moment, however far apart their places are.

## Main definitions

* `Toolpath.Calendar.Day`, `Day.number` — a day, and the count of days up to it.
* `Toolpath.Calendar.Time`, `Time.isSame` — a day with a time of day, and when two are the same.
* `Toolpath.Calendar.Day.fault?`, `Time.fault?` — what is wrong with a day or a time.
* `Toolpath.Calendar.Day.shown`, `Time.shown` — how days and times show in messages.
-/

namespace Toolpath.Calendar

open Text

/-! ## Days -/

/-- A day of the calendar. -/
structure Day where
  year : Nat
  month : Nat
  day : Nat
  deriving DecidableEq, Repr

/-- Whether a year has a day more than others. -/
def isLeap (year : Nat) : Bool := year % 4 = 0 && (year % 100 != 0 || year % 400 = 0)

/-- The number of days of a month. -/
def daysOf (year month : Nat) : Nat :=
  if month = 2 then if isLeap year then 29 else 28
  else if month = 4 || month = 6 || month = 9 || month = 11 then 30
  else 31

/-- The number of days of a year in front of a month. -/
def daysBefore (year month : Nat) : Nat :=
  (List.range month).foldl (fun sum m => if m = 0 then sum else sum + daysOf year m) 0

/-- The number of days up to a day, the first day of the year one being the first. -/
def Day.number (d : Day) : Nat :=
  let years := d.year - 1
  365 * years + years / 4 - years / 100 + years / 400 + daysBefore d.year d.month + d.day

/-! ## Times -/

/-- A day with a time of day. -/
structure Time where
  date : Day
  hour : Nat
  minute : Nat
  second : Nat
  micro : Nat
  /-- The distance from Greenwich in minutes, positive to the east, if it is known. -/
  zone : Option Int
  deriving DecidableEq, Repr

/-- The microseconds up to a time at its own place. -/
def Time.micros (t : Time) : Int :=
  let seconds := ((t.date.number * 24 + t.hour) * 60 + t.minute) * 60 + t.second
  (seconds * 1000000 + t.micro : Nat)

/-- Whether two times are the same: the same moment if both know their distance from Greenwich,
the same reading if neither does. -/
def Time.isSame (s t : Time) : Bool :=
  match s.zone, t.zone with
  | none, none => s == t
  | some x, some y => s.micros - x * 60000000 == t.micros - y * 60000000
  | _, _ => false

/-! ## Faults -/

/-- What a time cannot have. -/
inductive Fault where
  | year
  | month
  | day
  | hour
  | minute
  | second
  /-- A distance from Greenwich of a day or more. -/
  | zone (minutes : Int)
  deriving DecidableEq, Repr

/-- How a stretch of minutes shows in messages: whole days, and the seconds that are left. -/
def stretchShown (minutes : Int) : List Char :=
  let days := minutes.fdiv 1440
  let seconds := (minutes - days * 1440) * 60
  let part (name : String) (n : Int) : List (List Char) :=
    if n = 0 then [] else [name.toList ++ '=' :: ofInt n]
  let parts := part "days" days ++ part "seconds" seconds
  "datetime.timedelta(".toList ++ (if parts.isEmpty then ['0'] else joined [',', ' '] parts) ++ [')']

/-- The wording of a fault. -/
def Fault.message : Fault → String
  | year => "year 0 is out of range"
  | month => "month must be in 1..12"
  | day => "day is out of range for month"
  | hour => "hour must be in 0..23"
  | minute => "minute must be in 0..59"
  | second => "second must be in 0..59"
  | zone minutes =>
    s!"offset must be a timedelta strictly between -timedelta(hours=24) and timedelta(hours=24), not {String.ofList (stretchShown minutes)}."

/-- What is wrong with a day, if anything. -/
def Day.fault? (d : Day) : Option Fault :=
  if d.year = 0 then some .year
  else if d.month = 0 || 12 < d.month then some .month
  else if d.day = 0 || daysOf d.year d.month < d.day then some .day
  else none

/-- What is wrong with a time, if anything; its distance from Greenwich comes first. -/
def Time.fault? (t : Time) : Option Fault :=
  match t.zone.filter fun minutes => 1440 ≤ minutes.natAbs with
  | some minutes => some (.zone minutes)
  | none =>
    match t.date.fault? with
    | some fault => some fault
    | none =>
      if 23 < t.hour then some .hour
      else if 59 < t.minute then some .minute
      else if 59 < t.second then some .second
      else none

/-! ## Showing -/

/-- The numbers of a day. -/
def Day.numbers (d : Day) : List Nat := [d.year, d.month, d.day]

/-- How a day shows in messages. -/
def Day.shown (d : Day) : List Char :=
  "datetime.date(".toList ++ joined [',', ' '] (d.numbers.map ofNat) ++ [')']

/-- How a distance from Greenwich shows in messages. -/
def zoneShown (minutes : Int) : List Char :=
  if minutes = 0 then "datetime.timezone.utc".toList
  else "datetime.timezone(".toList ++ stretchShown minutes ++ [')']

/-- How a time shows in messages: seconds and microseconds are left out if there are none. -/
def Time.shown (t : Time) : List Char :=
  let small : List Nat :=
    if t.micro ≠ 0 then [t.second, t.micro] else if t.second ≠ 0 then [t.second] else []
  let numbers := (t.date.numbers ++ [t.hour, t.minute] ++ small).map ofNat
  let zone : List (List Char) := t.zone.toList.map fun z => "tzinfo=".toList ++ zoneShown z
  "datetime.datetime(".toList ++ joined [',', ' '] (numbers ++ zone) ++ [')']

end Toolpath.Calendar
