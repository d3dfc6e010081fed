import Toolpath.Calendar
import Toolpath.Decimal.Layout
import Toolpath.Text.Blank
import Toolpath.Text.Quoted
/-!
# Values

The values that configuration files, context fields and answers are made of, and how they show in
messages.

## Main definitions

* `Toolpath.Value` — nothing, truth values, whole numbers, doubles, texts, bytes, days, times,
  pairs, lists, sets and mappings in the order of their keys.
* `Toolpath.Value.kind` — the name of a value's kind.
* `Toolpath.Value.firstForeign?` — the first part that has no place in an answer.
* `Toolpath.Value.isTrue` — whether a value counts as something.
* `Toolpath.Value.shown`, `Toolpath.Value.display` — a value inside another and on its own.
-/

namespace Toolpath

/-- The values of configuration files, context fields and answers. -/
inductive Value where
  | null
  | bool (b : Bool)
  | int (n : Int)
  | float (x : Float)
  | str (s : String)
  | bytes (data : List UInt8)
  | day (d : Calendar.Day)
  | time (t : Calendar.Time)
  | pair (first second : Value)
  | list (items : List Value)
  | set (items : List Value)
  | map (entries : List (Value × Value))
  /-- A part that is left out, because it lies too deep or has no end. -/
  | deep
  deriving Repr, Inhabited

namespace Value

/-- The name of a value's kind. -/
def kind : Value → String
  | null => "NoneType"
  | bool _ => "bool"
  | int _ => "int"
  | float _ => "float"
  | str _ => "str"
  | bytes _ => "bytes"
  | day _ => "date"
  | time _ => "datetime"
  | pair .. => "tuple"
  | list _ => "list"
  | set _ => "set"
  | map _ => "dict"
  | deep => "object"

/-- The name of a value's kind with the name of its family. -/
def fullKind : Value → String
  | day _ => "datetime.date"
  | time _ => "datetime.datetime"
  | v => v.kind

/-- Whether a value counts as something: empty values, zeros, `false` and nothing do not. -/
def isTrue : Value → Bool
  | null => false
  | bool b => b
  | int n => n ≠ 0
  | float x => !(x == 0.0)
  | str s => !s.isEmpty
  | bytes data => !data.isEmpty
  | day _ => true
  | time _ => true
  | pair .. => true
  | list items => !items.isEmpty
  | set items => !items.isEmpty
  | map entries => !entries.isEmpty
  | deep => true

open Text

/-- A byte inside quotes. -/
def quotedByte (b : UInt8) : List Char :=
  let n := b.toNat
  if n = 9 then ['\\', 't'] else if n = 10 then ['\\', 'n'] else if n = 13 then ['\\', 'r']
  else if n = 92 then ['\\', '\\']
  else if n < 32 || 127 ≤ n then '\\' :: 'x' :: hex 2 n
  else [Char.ofNat n]

mutual

/-- A value as it shows inside another one. -/
def shown : Value → List Char
  | null => "None".toList
  | bool b => (if b then "True" else "False").toList
  | int n => ofInt n
  | float x => Decimal.text x
  | str s => quoted s.toList
  | bytes data => 'b' :: singleQuote :: data.flatMap quotedByte ++ [singleQuote]
  | day d => d.shown
  | time t => t.shown
  | pair a b => '(' :: shown a ++ ',' :: ' ' :: shown b ++ [')']
  | list items => '[' :: joined [',', ' '] (shownAll items) ++ [']']
  | set items =>
    if items.isEmpty then "set()".toList
    else '\x7b' :: joined [',', ' '] (shownAll items) ++ ['\x7d']
  | map entries => '\x7b' :: joined [',', ' '] (shownEntries entries) ++ ['\x7d']
  | deep => "...".toList

/-- Values as they show inside another one. -/
def shownAll : List Value → List (List Char)
  | [] => []
  | v :: vs => shown v :: shownAll vs

/-- Entries as they show inside a mapping. -/
def shownEntries : List (Value × Value) → List (List Char)
  | [] => []
  | (k, v) :: rest => (shown k ++ ':' :: ' ' :: shown v) :: shownEntries rest

end

/-- A value as it shows on its own: a text shows itself. -/
def display : Value → List Char
  | str s => s.toList
  | v => shown v

mutual

/-- The first part of a value, keys before their values, that has no place in an answer: neither
nothing nor a truth value, a number, a text, a list or a mapping. -/
def firstForeign? : Value → Option Value
  | null => none
  | bool _ => none
  | int _ => none
  | float _ => none
  | str _ => none
  | list items => firstForeignOf? items
  | map entries => firstForeignIn? entries
  | v => some v

/-- The first part of values that has no place in an answer. -/
def firstForeignOf? : List Value → Option Value
  | [] => none
  | v :: vs =>
    match firstForeign? v with
    | some part => some part
    | none => firstForeignOf? vs

/-- The first part of entries that has no place in an answer. -/
def firstForeignIn? : List (Value × Value) → Option Value
  | [] => none
  | (k, v) :: rest =>
    match firstForeign? k with
    | some part => some part
    | none =>
      match firstForeign? v with
      | some part => some part
      | none => firstForeignIn? rest

end

/-- A mapping whose keys are texts. -/
def record (fields : List (String × Value)) : Value := map (fields.map fun (k, v) => (str k, v))

end Value

end Toolpath
