import Toolpath.Value
/-!
# Writing JSON

Values as JSON text in ASCII. Characters beyond ASCII are written as one or two sixteen-bit units.
Doubles that are not finite have names that JSON itself does not know. A pair is written as a list;
bytes, days, times, sets and parts without end have no text, so that a value that holds one is
refused. Limits of resources are none of a value: whole numbers may have any number of digits, and
parts may lie in each other to any depth.

## Main definitions

* `Toolpath.Json.quoted` — a text as a JSON string.
* `Toolpath.Json.Refusal`, `Toolpath.Json.refusal?` — why a value has no text.
* `Toolpath.Json.render` — a value on one line; `Toolpath.Json.text` — or why it is refused.
* `Toolpath.Json.renderIndented` — a value on several lines.
-/

namespace Toolpath.Json

open Text

/-! ## Strings and numbers -/

/-- The sixteen-bit units of a character, each as an escape; half of a pair is one unit. -/
def unitEscapes (c : Char) : List Char :=
  let unit (n : Nat) : List Char := '\\' :: 'u' :: hex 4 n
  let n := (halfUnit? c).getD c.toNat
  if n < 0x10000 then unit n
  else unit (0xD800 + (n - 0x10000) / 0x400) ++ unit (0xDC00 + (n - 0x10000) % 0x400)

/-- A character inside a string. -/
def stringChar (c : Char) : List Char :=
  if c = '"' then ['\\', '"']
  else if c = '\\' then ['\\', '\\']
  else if c = '\n' then ['\\', 'n']
  else if c = '\r' then ['\\', 'r']
  else if c = '\t' then ['\\', 't']
  else if c.toNat = 8 then ['\\', 'b']
  else if c.toNat = 12 then ['\\', 'f']
  else if 32 ≤ c.toNat && c.toNat < 127 then [c]
  else unitEscapes c

/-- A text as a JSON string. -/
def quoted (s : List Char) : List Char := '"' :: s.flatMap stringChar ++ ['"']

/-- A double: the fewest digits, or a name if it is not finite. -/
def number (x : Float) : List Char :=
  match Decimal.decode x with
  | .nan => "NaN".toList
  | .infinite negative => Decimal.signed negative "Infinity".toList
  | .finite .. => Decimal.text x

/-- A value without parts. Nothing is written for one that is refused. -/
def atom : Value → List Char
  | .null => "null".toList
  | .bool b => (if b then "true" else "false").toList
  | .int n => ofInt n
  | .float x => number x
  | .str s => quoted s.toList
  | _ => []

/-- A key: texts stand for themselves, and other values for their text. -/
def key : Value → List Char
  | .str s => quoted s.toList
  | v => quoted (atom v)

/-! ## Refusals -/

/-- Why a value has no text. -/
inductive Refusal where
  /-- A part is of a kind that JSON does not know. -/
  | foreign (kind : String)
  /-- A key cannot be written as a string. -/
  | key (kind : String)
  /-- A part has no end. -/
  | endless
  deriving DecidableEq, Repr

/-- The wording of a refusal. -/
def Refusal.message : Refusal → String
  | foreign kind => s!"Object of type {kind} is not JSON serializable"
  | key kind => s!"keys must be str, int, float, bool or None, not {kind}"
  | endless => "Circular reference detected"

/-- Why a value is no key: it is neither nothing nor a truth value, a number or a text. -/
def keyRefusal? : Value → Option Refusal
  | .null | .bool _ | .int _ | .float _ | .str _ => none
  | v => some (.key v.fullKind)

mutual

/-- Why a value has no text: the first part that is refused, keys before their values. -/
def refusal? : Value → Option Refusal
  | .null | .bool _ | .int _ | .float _ | .str _ => none
  | .pair a b => (refusal? a).or (refusal? b)
  | .list items => refusalOf? items
  | .map entries => refusalIn? entries
  | .deep => some .endless
  | v => some (.foreign v.kind)

/-- Why values have no text. -/
def refusalOf? : List Value → Option Refusal
  | [] => none
  | v :: vs => (refusal? v).or (refusalOf? vs)

/-- Why entries have no text. -/
def refusalIn? : List (Value × Value) → Option Refusal
  | [] => none
  | (k, v) :: rest => (keyRefusal? k).or ((refusal? v).or (refusalIn? rest))

end

/-! ## One line -/

mutual

/-- A value on one line, with a space behind commas and colons. -/
def render : Value → List Char
  | .pair a b => '[' :: joined [',', ' '] [render a, render b] ++ [']']
  | .list items => '[' :: joined [',', ' '] (renderAll items) ++ [']']
  | .map entries => '\x7b' :: joined [',', ' '] (renderEntries entries) ++ ['\x7d']
  | v => atom v

/-- Values, each on one line. -/
def renderAll : List Value → List (List Char)
  | [] => []
  | v :: vs => render v :: renderAll vs

/-- Entries, each on one line. -/
def renderEntries : List (Value × Value) → List (List Char)
  | [] => []
  | (k, v) :: rest => (key k ++ ':' :: ' ' :: render v) :: renderEntries rest

end

/-- The text of a value, or why it is refused. -/
def text (v : Value) : Except Refusal (List Char) :=
  match refusal? v with
  | some refusal => .error refusal
  | none => .ok (render v)

/-! ## Several lines -/

/-- A line feed and the indentation of a depth, two spaces each. -/
def newline (depth : Nat) : List Char := '\n' :: List.replicate (2 * depth) ' '

/-- Parts between brackets, each on a line of its own. -/
def block (opening closing : Char) (depth : Nat) (parts : List (List Char)) : List Char :=
  if parts.isEmpty then [opening, closing]
  else
    opening :: newline (depth + 1) ++ joined (',' :: newline (depth + 1)) parts
      ++ newline depth ++ [closing]

mutual

/-- A value on several lines, at a depth. -/
def renderAt (depth : Nat) : Value → List Char
  | .pair a b => block '[' ']' depth [renderAt (depth + 1) a, renderAt (depth + 1) b]
  | .list items => block '[' ']' depth (renderAllAt (depth + 1) items)
  | .map entries => block '\x7b' '\x7d' depth (renderEntriesAt (depth + 1) entries)
  | v => atom v

/-- Values on several lines, at a depth. -/
def renderAllAt (depth : Nat) : List Value → List (List Char)
  | [] => []
  | v :: vs => renderAt depth v :: renderAllAt depth vs

/-- Entries on several lines, at a depth. -/
def renderEntriesAt (depth : Nat) : List (Value × Value) → List (List Char)
  | [] => []
  | (k, v) :: rest => (key k ++ ':' :: ' ' :: renderAt depth v) :: renderEntriesAt depth rest

end

/-- A value on several lines. -/
def renderIndented (v : Value) : List Char := renderAt 0 v

end Toolpath.Json
