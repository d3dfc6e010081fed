import Toolpath.Entries
import Toolpath.Json.Printer
import Toolpath.Log.Moment
import Toolpath.Log.Record
/-!
# Lines of a log

A record as a line of text, for people or as JSON. Both show the fields of the context; in JSON a
field of the context replaces one of the record with the same name.

## Main definitions

* `Toolpath.Log.Context`, `Context.push`, `Context.pop` — the fields that go with every record.
* `Toolpath.Log.Stamped` — a record with its moment and the failure it tells of.
* `Toolpath.Log.Style` — how records are written.
* `Toolpath.Log.Stamped.fields`, `Stamped.written` — a record as fields and as a line.
-/

namespace Toolpath.Log

open Text

/-! ## The context -/

/-- The fields that go with every record. -/
abbrev Context := List (String × Value)

/-- The context with fields added or changed. -/
def Context.push (c : Context) (fields : List (String × Value)) : Context := Entries.putAll c fields

/-- The context without some fields, or without any. -/
def Context.pop (c : Context) : Option (List String) → Context
  | none => []
  | some keys => keys.foldl Entries.remove c

/-! ## Records -/

/-- A record with its moment, the number of the process, and the failure it tells of. -/
structure Stamped where
  record : Record
  moment : Moment
  /-- The number of the process that writes the line, which is asked for only then; a record that
  comes from another process has a number of its own, which is not shown. -/
  process : Nat
  failure : Option (List Char) := none

/-- The text of a failure: its kind, and its message if there is one. -/
def failureText (kind message : List Char) : List Char :=
  if message.isEmpty then kind else kind ++ ':' :: ' ' :: message

/-- How records are written. -/
structure Style where
  /-- Whether a line is JSON. -/
  json : Bool := false
  /-- Whether levels are colored. -/
  color : Bool := false
  deriving DecidableEq, Repr

/-- The fields of a record in the order of a JSON line, with the context and the failure. -/
def Stamped.fields (s : Stamped) (c : Context) : List (String × Value) :=
  let own : List (String × Value) :=
    [("t", .str (String.ofList s.moment.iso)), ("lvl", .str (levelName s.record.level)),
      ("name", .str s.record.logger), ("pid", .int s.process), ("msg", .str s.record.message)]
  let all := Entries.putAll own c
  match s.failure with
  | none => all
  | some failure => Entries.put all "exc" (.str (String.ofList failure))

/-- The color of a level. -/
def colorOf (level : String) : List Char :=
  let code? : Option String :=
    match level with
    | "DEBUG" => some "36"
    | "INFO" => some "32"
    | "WARNING" => some "33"
    | "ERROR" => some "31"
    | "CRITICAL" => some "35"
    | _ => none
  match code? with
  | some code => '\x1b' :: '[' :: code.toList ++ ['m']
  | none => []

/-- The end of a color. -/
def plainColor : List Char := ['\x1b', '[', '0', 'm']

/-- The name of a level in eight columns. -/
def levelText (color : Bool) (level : String) : List Char :=
  let name := padRight 8 level.toList
  if color then colorOf level ++ name ++ plainColor else name

/-- A field of the context. -/
def fieldText (field : String × Value) : List Char := field.1.toList ++ '=' :: field.2.display

/-- A record as a line for people. -/
def Stamped.human (s : Stamped) (color : Bool) (c : Context) : List Char :=
  let context := joined [' '] (c.map fieldText)
  let line := joined [' '] <|
    [s.moment.short, ['|'], levelText color (levelName s.record.level), ['|']]
      ++ (if context.isEmpty then [] else [context, ['|']])
      ++ [s.record.message.toList]
  match s.failure with
  | none => line
  | some failure => line ++ '\n' :: failure

/-- A record as a line of JSON, or why it has none. -/
def Stamped.json (s : Stamped) (c : Context) : Except Json.Refusal (List Char) :=
  Json.text (.record (s.fields c))

/-- A record as a line in a style, or why it has none. -/
def Stamped.written (s : Stamped) (style : Style) (c : Context) :
    Except Json.Refusal (List Char) :=
  if style.json then s.json c else .ok (s.human style.color c)

/-- A record as a line in a style; one that is refused shows nothing. -/
def Stamped.line (s : Stamped) (style : Style) (c : Context) : List Char :=
  (s.written style c).toOption.getD []

end Toolpath.Log
