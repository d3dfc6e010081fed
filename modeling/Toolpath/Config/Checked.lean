import Toolpath.Encoding.Decode
import Toolpath.Value
/-!
# Checked values

The outcome of checking a value that has parts: a result, or all that is wrong, in order. Checks
of parts are put together so that no issue is lost.

## Main definitions

* `Toolpath.Complaint`, `Toolpath.Issue` — what is wrong, and where.
* `Toolpath.Checked` — a result or the issues.
* `Toolpath.Checked.under` — issues put under the place of the part.
-/

namespace Toolpath

/-- What is wrong with a value. -/
inductive Complaint where
  | notText
  /-- Bytes that are no text. -/
  | notUnicode
  | notNumber
  /-- A text that is no number. -/
  | notNumeric
  | notBool
  /-- A text or a number that is no truth value. -/
  | notTruth
  | notMapping
  | notSection (name : String)
  | notPositive
  | unknownEncoding (name : String)
  /-- A text that is no name at all. -/
  | noName (fault : Encoding.Fault)
  | unknownVersion (expected got : String)
  | unknownLevel (allowed : List String) (got : String)
  deriving DecidableEq, Repr

namespace Complaint

/-- The short name of a complaint. -/
def kind : Complaint → String
  | notText => "string_type"
  | notUnicode => "string_unicode"
  | notNumber => "float_type"
  | notNumeric => "float_parsing"
  | notBool => "bool_type"
  | notTruth => "bool_parsing"
  | notMapping => "dict_type"
  | notSection _ => "model_type"
  | notPositive => "greater_than"
  | unknownEncoding _ => "value_error"
  | noName _ => "value_error"
  | unknownVersion _ _ => "value_error"
  | unknownLevel _ _ => "value_error"

/-- A text as a complaint shows it. -/
def legible (s : String) : String := String.ofList (Text.withoutHalves s.toList)

/-- The wording of a complaint. -/
def message : Complaint → String
  | notText => "Input should be a valid string"
  | notUnicode =>
    "Input should be a valid string, unable to parse raw data as a unicode string"
  | notNumber => "Input should be a valid number"
  | notNumeric => "Input should be a valid number, unable to parse string as a number"
  | notBool => "Input should be a valid boolean"
  | notTruth => "Input should be a valid boolean, unable to interpret input"
  | notMapping => "Input should be a valid dictionary"
  | notSection name => s!"Input should be a valid dictionary or instance of {name}"
  | notPositive => "Input should be greater than 0"
  | unknownEncoding name => s!"Value error, Unknown encoding '{name}'"
  | noName fault => s!"Value error, {fault.message}"
  | unknownVersion expected got =>
    s!"Value error, Expected schema '{expected}', got '{legible got}'"
  | unknownLevel allowed got =>
    let names := String.ofList (Value.list (allowed.map Value.str)).shown
    s!"Value error, Log level must be one of {names}, got '{legible got}'"

end Complaint

/-- A complaint and the place of what it is about, from the outside in. -/
structure Issue where
  place : List Value
  complaint : Complaint
  deriving Repr

/-- A result, or all that is wrong. -/
inductive Checked (α : Type) where
  | sound (a : α)
  | faulty (issues : List Issue)
  deriving Repr

namespace Checked

/-- A complaint about a value as a whole. -/
def complain {α : Type} (c : Complaint) : Checked α := faulty [⟨[], c⟩]

/-- A result changed. -/
def map {α β : Type} (f : α → β) : Checked α → Checked β
  | sound a => sound (f a)
  | faulty issues => faulty issues

/-- Two checks put together: the issues of the first come first. -/
def both {α β : Type} (f : Checked (α → β)) (x : Checked α) : Checked β :=
  match f, x with
  | sound f, sound a => sound (f a)
  | sound _, faulty issues => faulty issues
  | faulty issues, sound _ => faulty issues
  | faulty issues, faulty more => faulty (issues ++ more)

instance : Applicative Checked where
  pure := sound
  map := map
  seq f x := both f (x ())

/-- A check that follows another and needs its result. -/
def andThen {α β : Type} (x : Checked α) (f : α → Checked β) : Checked β :=
  match x with
  | sound a => f a
  | faulty issues => faulty issues

/-- The issues put under the place of the part that they are about. -/
def under {α : Type} (place : Value) : Checked α → Checked α
  | sound a => sound a
  | faulty issues => faulty (issues.map fun i => { i with place := place :: i.place })

/-- Checks of several values put together. -/
def all {α : Type} : List (Checked α) → Checked (List α)
  | [] => sound []
  | x :: xs => List.cons <$> x <*> all xs

end Checked

end Toolpath
