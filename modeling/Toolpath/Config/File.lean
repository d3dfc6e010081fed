import Toolpath.Config.Check
import Toolpath.Files.Tree
import Toolpath.Yaml.Reader
/-!
# Settings from files

Values and settings read from files in a tree. A file without a value, and one whose value counts
as nothing, stands for an empty mapping.

## Main definitions

* `Toolpath.Config.loadValue`, `loadAnswer` — the value of a file, and one that can be answered.
* `Toolpath.Config.load` — the settings of a file, or the default settings.
-/

namespace Toolpath.Config

open Files Text

/-- The wording of bytes that are no text. -/
def misfitMessage (m : Encoding.Utf8.Misfit) : String :=
  let reason := m.fault.message
  match m.bytes with
  | [b] =>
    let byte := String.ofList (hex 2 b.toNat)
    s!"'utf-8' codec can't decode byte 0x{byte} in position {m.place}: {reason}"
  | bytes =>
    s!"'utf-8' codec can't decode bytes in position {m.place}-{m.place + bytes.length - 1}: {reason}"

/-! ## Values -/

/-- Why a file has no value. -/
inductive ValueFault where
  | file (fault : Files.Fault)
  | encoding (misfit : Encoding.Utf8.Misfit)
  | content (path : FilePath) (fault : Yaml.Fault)
  /-- A part of the value has no place in an answer. -/
  | foreign (part : Value)
  deriving Repr

/-- A remark behind a mark, if there is one. -/
def remarked (mark : String) (remark : Option String) : String := remark.elim "" (mark ++ ·)

/-- The wording of a fault. The remark is what the reader of YAML says of a malformed text. -/
def ValueFault.message (fault : ValueFault) (remark : Option String := none) : String :=
  match fault with
  | file fault => fault.message
  | encoding misfit => misfitMessage misfit
  | content path .malformed =>
    s!"Failed to parse YAML file {String.ofList path.text}" ++ remarked ": " remark
  | content _ fault => fault.message
  | foreign .deep => "maximum recursion depth exceeded in __instancecheck__"
  | foreign part => s!"'{part.fullKind}' object has no attribute 'items'"

/-- The value of a file, as `view` shows it. `what` names the kind of file that is missing if it
does not exist. -/
def loadValue (what : String) (view : Yaml.Graph → Value) (t : Tree) (path : FilePath) :
    Except ValueFault Value :=
  match t.openToRead what path with
  | .error fault => .error (.file fault)
  | .ok data =>
    match Encoding.Utf8.firstFault? data with
    | some misfit => .error (.encoding misfit)
    | none =>
      match Yaml.read (Encoding.Utf8.decode data) with
      | .error fault => .error (.content path fault)
      | .ok none => .ok (.map [])
      | .ok (some g) =>
        let v := view g
        .ok (if v.isTrue then v else .map [])

/-- The whole value of a file, if it can be answered. -/
def loadAnswer (what : String) (t : Tree) (path : FilePath) : Except ValueFault Value := do
  let v ← loadValue what Yaml.Graph.value t path
  match v.firstForeign? with
  | some part => throw (.foreign part)
  | none => return v

/-! ## Settings -/

/-- Why a file has no settings. -/
inductive Fault where
  | value (fault : ValueFault)
  | malformed (path : FilePath)
  | notMapping (path : FilePath) (kind : String)
  | keyNotText
  | invalid (path : FilePath) (issues : List Issue)
  deriving Repr

/-- A number of issues in words. -/
def countIssues (n : Nat) : String :=
  if n = 1 then "1 validation error" else s!"{n} validation errors"

/-- The wording of a fault. The remark is what the reader of YAML says of a malformed text, or the
lines that list the issues of settings. -/
def Fault.message (fault : Fault) (remark : Option String := none) : String :=
  match fault with
  | value fault => fault.message remark
  | malformed path =>
    let cause := (ValueFault.content path .malformed).message remark
    s!"Config at {String.ofList path.text} is not valid YAML"
      ++ remarked ": " (remark.map fun _ => cause)
  | notMapping path kind => s!"Config at {String.ofList path.text} must be a mapping, got {kind}"
  | keyNotText => "keywords must be strings"
  | invalid path issues =>
    let count := countIssues issues.length
    s!"Config validation failed at {String.ofList path.text}: {count} for ViewerConfigV1"
      ++ remarked "\n" remark

/-- Whether a key is a text. -/
def isText : Value → Bool
  | .str _ => true
  | _ => false

/-- The settings that the value of a file stands for. -/
def ofValue (path : FilePath) (v : Value) : Except Fault Settings :=
  match v with
  | .map es =>
    if es.all (isText ·.1) then
      match Settings.check es with
      | .sound s => .ok s
      | .faulty issues => .error (.invalid path issues)
    else .error .keyNotText
  | v => .error (.notMapping path v.kind)

/-- The depth down to which settings are looked at: sections, their fields, and the entries of
those. -/
def depth : Nat := 3

/-- The settings of a file. -/
def loadFile (t : Tree) (path : FilePath) : Except Fault Settings :=
  match loadValue "Config" (·.valueTo depth) t path with
  | .ok v => ofValue path v
  | .error (.content path .malformed) => .error (.malformed path)
  | .error fault => .error (.value fault)

/-- The settings of a file, or the default settings if no file is named. -/
def load (t : Tree) (path : Option (List Char)) : Except Fault Settings :=
  match path with
  | none => .ok {}
  | some path => loadFile t (.ofText path)

end Toolpath.Config
