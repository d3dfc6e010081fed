import Toolpath.Config.Checked
import Toolpath.Config.Settings
import Toolpath.Decimal.Reader
import Toolpath.Encoding.Decode
import Toolpath.Encoding.Utf8
import Toolpath.Entries
import Toolpath.Text.Case
import Toolpath.Text.Half
/-!
# Checking settings

A mapping read as settings. Fields may be written in several ways: truth values as words or
numbers, numbers as texts. Unknown keys are ignored, and a missing field has its default.

## Main definitions

* `Toolpath.Check.truth`, `number`, `text`, … — values read as what a field holds.
* `Toolpath.Check.field` — a field of a section, by the first of its names that is there.
* `Toolpath.LoaderSettings.check`, `ParserSettings.check`, `LogSettings.check`,
  `Settings.check` — mappings read as settings.
-/

namespace Toolpath

open Text

namespace Check

/-! ## Values -/

/-- Bytes as a text, if they are one in UTF-8. -/
def textOfBytes? (data : List UInt8) : Option String :=
  if (Encoding.Utf8.firstFault? data).isSome then none
  else some (String.ofList (Encoding.Utf8.decode data))

/-- A text, or bytes that are one. -/
def text : Value → Checked String
  | .str s => .sound s
  | .bytes data =>
    match textOfBytes? data with
    | some s => .sound s
    | none => .complain .notUnicode
  | _ => .complain .notText

/-- A text, or nothing. -/
def optionalText : Value → Checked (Option String)
  | .null => .sound none
  | v => (text v).map some

/-- The words for truth. -/
def trueWords : List String := ["1", "on", "t", "true", "y", "yes"]

/-- The words for falsehood. -/
def falseWords : List String := ["0", "off", "f", "false", "n", "no"]

/-- A word as a truth value, in any case of letters. -/
def truthOfWord (s : String) : Checked Bool :=
  let word := String.ofList (asciiLower s.toList)
  if trueWords.contains word then .sound true
  else if falseWords.contains word then .sound false
  else .complain .notTruth

/-- Whether a whole number fits into 64 bits. -/
def fits (n : Int) : Bool := -0x8000000000000000 ≤ n && n < 0x8000000000000000

/-- The whole number that a double is, if it is one. -/
def wholeOf? (x : Float) : Option Int :=
  match Decimal.decode x with
  | .finite negative m e =>
    let (num, den) := Decimal.fraction m e
    if num % den = 0 then
      some (if negative then -((num / den : Nat) : Int) else (num / den : Nat))
    else none
  | _ => none

/-- A whole number as a truth value: zero and one are. -/
def truthOfInt (n : Int) : Checked Bool :=
  if n = 0 then .sound false
  else if n = 1 then .sound true
  else .complain (if fits n then .notTruth else .notBool)

/-- A text that is read as something else: it must not hold half of a pair. -/
def wholeText {α : Type} (check : String → Checked α) (s : String) : Checked α :=
  if hasHalf s.toList then .complain .notUnicode else check s

/-- Bytes that are read as something else; `c` is the complaint if they are no text. -/
def bytesAs {α : Type} (check : String → Checked α) (c : Complaint) (data : List UInt8) : Checked α :=
  match textOfBytes? data with
  | some s => check s
  | none => .complain c

/-- A truth value, or a word or a number for one. -/
def truth : Value → Checked Bool
  | .bool b => .sound b
  | .str s => wholeText truthOfWord s
  | .bytes data => bytesAs truthOfWord .notTruth data
  | .int n => truthOfInt n
  | .float x =>
    match wholeOf? x with
    | some n => truthOfInt n
    | none => .complain .notBool
  | _ => .complain .notBool

/-- A number in ASCII without underscores. -/
def plainNumber? (s : List Char) : Option Float :=
  if s.all fun c => 32 < c.toNat && c.toNat < 127 && c != '_' then Decimal.read? s else none

/-- Whether a text holds underscores, none of them at an end and no two together. -/
def hasSingleUnderscores (s : List Char) : Bool :=
  s.contains '_' && (pieces '_' s).all (!·.isEmpty)

/-- A text as a number, with white space around it or with single underscores in it. -/
def numberOfText (s : String) : Checked Float :=
  let cs := s.toList
  let body := trimMargin cs
  let grouped? : Option Float :=
    if hasSingleUnderscores cs then plainNumber? (cs.filter (· != '_')) else none
  match (plainNumber? body).or grouped? with
  | some x => .sound x
  | none => .complain .notNumeric

/-- A number, or a truth value or a text for one. Whole numbers beyond the doubles are none. -/
def number : Value → Checked Float
  | .float x => .sound x
  | .int n =>
    let x := Decimal.withSign (n < 0) (Decimal.nearest n.natAbs 0)
    if Decimal.isFinite x then .sound x else .complain .notNumber
  | .bool b => .sound (if b then 1.0 else 0.0)
  | .str s => wholeText numberOfText s
  | .bytes data => bytesAs numberOfText .notNumeric data
  | _ => .complain .notNumber

/-- A number above zero. -/
def positive (v : Value) : Checked Float :=
  (number v).andThen fun x => if 0.0 < x then .sound x else .complain .notPositive

/-- The name of an encoding. -/
def encodingName (v : Value) : Checked String :=
  (text v).andThen fun s =>
    match Encoding.nameFault? s with
    | some fault => .complain (.noName fault)
    | none => if Encoding.isKnown s then .sound s else .complain (.unknownEncoding s)

/-- The name of a level, in any case of letters. -/
def levelName (v : Value) : Checked Log.Level :=
  (text v).andThen fun s =>
    match Log.Level.ofName? (String.ofList (upper s.toList)) with
    | some l => .sound l
    | none => .complain (.unknownLevel (Log.Level.all.map Log.Level.name) s)

/-- The version that settings are written for. -/
def versionText (v : Value) : Checked Unit :=
  (text v).andThen fun s =>
    if s = Settings.version then .sound () else .complain (.unknownVersion Settings.version s)

/-- A key as a place: texts and small whole numbers stand for themselves, and other keys for
what they show as. -/
def placeOf : Value → Value
  | .str s => .str (Complaint.legible s)
  | .int n => if fits n then .int n else .str (String.ofList (Value.shown (.int n)))
  | .bool b => .int (if b then 1 else 0)
  | v => .str (String.ofList v.shown)

/-- An entry of texts. -/
def textEntry (k v : Value) : Checked (String × String) :=
  Prod.mk <$> ((text k).under (.str "[key]")).under (placeOf k) <*> (text v).under (placeOf k)

/-- A mapping of texts to texts. Of keys that are read as the same text, the last one counts. -/
def textMap : Value → Checked (List (String × String))
  | .map es => (Checked.all (es.map fun (k, v) => textEntry k v)).map (Entries.putAll [])
  | _ => .complain .notMapping

/-! ## Fields and sections -/

/-- The entries of a mapping. -/
abbrev Entries := List (Value × Value)

/-- The value under a text key. -/
def find? (es : Entries) (name : String) : Option Value :=
  (es.find? fun (k, _) => match k with
    | .str s => s == name
    | _ => false).map (·.2)

/-- A field, under the first of its names that is there; its default if there is none. -/
def field {α : Type} (es : Entries) (default : α) (check : Value → Checked α) :
    (names : List String) → Checked α
  | [] => .sound default
  | name :: names =>
    match find? es name with
    | some v => (check v).under (.str name)
    | none => field es default check names

/-- A section, which is a mapping. -/
def sectionOf {α : Type} (name : String) (check : Entries → Checked α) : Value → Checked α
  | .map es => check es
  | _ => .complain (.notSection name)

end Check

open Check

/-- A mapping read as settings. -/
def LoaderSettings.check (es : Entries) : Checked LoaderSettings :=
  LoaderSettings.mk
    <$> field es "" text ["base_path"]
    <*> field es [] textMap ["request_headers"]
    <*> field es false truth ["with_credentials"]
    <*> field es 30.0 positive ["timeout_s"]
    <*> field es "utf-8" encodingName ["encoding"]

/-- A mapping read as settings. -/
def ParserSettings.check (es : Entries) : Checked ParserSettings :=
  ParserSettings.mk <$> field es false truth ["instrument"]

/-- A mapping read as settings. -/
def LogSettings.check (es : Entries) : Checked LogSettings :=
  LogSettings.mk
    <$> field es .info levelName ["level"]
    <*> field es none optionalText ["file"]
    <*> field es false truth ["json", "json_lines"]
    <*> field es true truth ["color"]

/-- A mapping read as settings. -/
def Settings.check (es : Entries) : Checked Settings :=
  (fun _ => Settings.mk)
    <$> field es () versionText ["schema", "schema_version"]
    <*> field es {} (sectionOf "LoaderConfig" LoaderSettings.check) ["loader"]
    <*> field es {} (sectionOf "ParserConfig" ParserSettings.check) ["parser"]
    <*> field es {} (sectionOf "LoggingConfig" LogSettings.check) ["logging"]

end Toolpath
