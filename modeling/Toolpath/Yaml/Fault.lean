import Toolpath.Calendar
import Toolpath.Decimal.Whole
/-!
# Faults of documents

Why a document has no value: the text is none, or a scalar is not what its tag says.

## Main definitions

* `Toolpath.Yaml.Fault` — the faults and their wording.
-/

namespace Toolpath.Yaml

open Text

/-- Why a document has no value. -/
inductive Fault where
  /-- The text is not a document, or uses tags in a way that means nothing. -/
  | malformed
  /-- An escape gives a number beyond the last character. -/
  | noCharacter
  /-- An escape gives a number beyond 31 bits. -/
  | codeTooLarge
  | whole (fault : Decimal.Whole.Fault)
  /-- A text tagged as a double is none. -/
  | float (text : List Char)
  /-- A place of a number to the base of sixty is beyond the doubles. -/
  | placeTooLarge
  /-- A text tagged as a number is empty. -/
  | noDigits
  /-- A text tagged as a truth value is none. -/
  | bool (text : List Char)
  /-- A text tagged as a date is none. -/
  | noDate
  /-- A mapping is tagged as a date. -/
  | dateOfMap
  | date (fault : Calendar.Fault)
  /-- Too many nodes lie in each other, or a mapping that is tagged as a scalar is its own main
  value. -/
  | tooDeep
  deriving DecidableEq, Repr

/-- The wording of a fault; that of a malformed text is left to the caller. -/
def Fault.message : Fault → String
  | malformed => ""
  | noCharacter => "chr() arg not in range(0x110000)"
  | codeTooLarge => "Python int too large to convert to C int"
  | whole fault => fault.message
  | float text => s!"could not convert string to float: {String.ofList (quoted text)}"
  | placeTooLarge => "int too large to convert to float"
  | noDigits => "string index out of range"
  | bool text => String.ofList (quoted text)
  | noDate => "'NoneType' object has no attribute 'groupdict'"
  | dateOfMap => "expected string or bytes-like object, got 'list'"
  | date fault => fault.message
  | tooDeep => "maximum recursion depth exceeded"

end Toolpath.Yaml
