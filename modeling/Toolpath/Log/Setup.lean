import Toolpath.Files.Tree
import Toolpath.Log.Line
import Toolpath.Text.Case
/-!
# Where the log goes

Records above a level go to handlers, which write lines to the console or to a file. A setup
replaces the handlers of the setup before and leaves all others alone, even if it fails on the
way.

## Main definitions

* `Toolpath.Log.Handler` — a place where lines are written, and their style.
* `Toolpath.Log.Logging` — the level, the handlers and the context.
* `Toolpath.Log.Options` — what a setup asks for.
* `Toolpath.Log.Logging.setup` — the handlers replaced.
* `Toolpath.Log.Logging.emit` — a record written by all handlers.
-/

namespace Toolpath.Log

open Files Text

/-! ## Handlers -/

/-- Where lines are written. -/
inductive Target where
  | console
  | file (way : Way)
  deriving DecidableEq, Repr

/-- A place where lines are written. -/
structure Handler where
  /-- What tells a handler from all others. -/
  number : Nat
  target : Target
  style : Style
  deriving DecidableEq, Repr

/-- The state of the log. -/
structure Logging where
  /-- The least level that is written. -/
  level : Int := 30
  /-- All handlers, in the order in which they were added. -/
  handlers : List Handler := []
  /-- The handlers of the last setup. -/
  installed : List Handler := []
  /-- The number of the next handler. -/
  next : Nat := 0
  context : Context := []

/-! ## What a setup asks for -/

/-- What a setup asks for. Its level, its file and its context are values, because a caller may give
any. -/
structure Options where
  level : Value := .str "INFO"
  file : Value := .null
  /-- Whether the file holds JSON. -/
  json : Bool := false
  /-- Whether levels are colored on a terminal. -/
  color : Bool := true
  /-- Whether lines go to the console. -/
  console : Bool := true
  context : Value := .null

/-- Why arguments are no options. -/
inductive ArgumentFault where
  | unknown (name : String)
  | repeated (name : String)
  /-- More values without a name than the level and the file, beside values that need their name. -/
  | tooMany (given named : Nat)
  deriving DecidableEq, Repr

/-- The end of a noun that is counted. -/
def plural (n : Nat) : String := if n = 1 then "" else "s"

/-- The wording of a fault. -/
def ArgumentFault.message : ArgumentFault → String
  | unknown name => s!"setup_logging() got an unexpected keyword argument '{name}'"
  | repeated name => s!"setup_logging() got multiple values for argument '{name}'"
  | tooMany given named =>
    let count := if named = 0 then s!"{given}"
      else s!"{given} positional arguments (and {named} keyword-only argument{plural named})"
    s!"setup_logging() takes from 0 to 2 positional arguments but {count} were given"

namespace Options

/-- The names of the arguments that need no name when they are given in order. -/
def orderedNames : List String := ["level", "file"]

/-- The options with an argument given by its name. -/
def give? (o : Options) (name : String) (v : Value) : Option Options :=
  match name with
  | "level" => some { o with level := v }
  | "file" => some { o with file := v }
  | "json" => some { o with json := v.isTrue }
  | "color" => some { o with color := v.isTrue }
  | "to_stderr" => some { o with console := v.isTrue }
  | "capture_warnings" => some o
  | "context" => some { o with context := v }
  | _ => none

/-- The options with the arguments that are given by name, where `taken` are the names of those
that are given in order. -/
def giveAll (o : Options) (taken : List String) :
    List (String × Value) → Except ArgumentFault Options
  | [] => .ok o
  | (name, v) :: rest =>
    match o.give? name v with
    | none => .error (.unknown name)
    | some o => if taken.contains name then .error (.repeated name) else giveAll o taken rest

/-- The options of arguments that are given in order and by name. -/
def ofArguments (ordered : List Value) (named : List (String × Value)) :
    Except ArgumentFault Options := do
  let start : Options := { level := ordered[0]?.getD (.str "INFO"), file := ordered[1]?.getD .null }
  let o ← start.giveAll (orderedNames.take ordered.length) named
  if orderedNames.length < ordered.length then
    .error (.tooMany ordered.length (named.filter fun (k, _) => !orderedNames.contains k).length)
  else .ok o

end Options

/-! ## Faults -/

/-- The levels that have a name in a setup. -/
def namedLevels : List (String × Int) := [
  ("DEBUG", 10), ("INFO", 20), ("WARNING", 30), ("WARN", 30), ("ERROR", 40), ("CRITICAL", 50),
  ("FATAL", 50), ("NOTSET", 0)]

/-- The name of the layout of a line, which is no level. -/
def layoutName : String := "BASIC_FORMAT"

/-- The name of the table of layouts, which is no level. -/
def layoutTableName : String := "_STYLES"

/-- Why a setup fails. -/
inductive SetupFault where
  | unknownLevel (name : String)
  /-- The name of the layout of a line is given as a level. -/
  | layoutAsLevel
  /-- The name of the table of layouts is given as a level. -/
  | layoutTableAsLevel
  | levelNotText (kind : String)
  /-- Bytes have an upper case too, but do not name a level. -/
  | levelOfBytes
  | fileNotText (kind : String)
  | contextNotMap (kind : String)
  /-- A name of a field of the context is no text. -/
  | fieldNotText
  | file (fault : Files.Fault)
  deriving DecidableEq, Repr

/-- The layout of a line, where `part` writes the name of a part. -/
def layout (part : String → String) : String :=
  ":".intercalate (["levelname", "name", "message"].map part)

/-- The parts of a layout behind a percent sign, as in a template. -/
def percentLayout : String := layout fun name => s!"%({name})s"

/-- A row of the table of layouts: its sign, its kind and its layout. -/
def layoutRow (sign kind text : String) : String :=
  s!"'{sign}': (<class 'logging.{kind}'>, '{text}')"

/-- The table of layouts. -/
def layoutTable : String :=
  let rows := [
    layoutRow "%" "PercentStyle" percentLayout,
    layoutRow "\x7b" "StrFormatStyle" (layout fun name => s!"\x7b{name}\x7d"),
    layoutRow "$" "StringTemplateStyle" (layout fun name => s!"$\x7b{name}\x7d")]
  let inside := ", ".intercalate rows
  s!"\x7b{inside}\x7d"

/-- The wording of a fault. -/
def SetupFault.message : SetupFault → String
  | unknownLevel name => s!"module 'logging' has no attribute '{name}'"
  | layoutAsLevel => s!"Unknown level: '{percentLayout}'"
  | layoutTableAsLevel => s!"Level not an integer or a valid string: {layoutTable}"
  | levelNotText kind => s!"'{kind}' object has no attribute 'upper'"
  | levelOfBytes => "attribute name must be string, not 'bytes'"
  | fileNotText kind => s!"expected str, bytes or os.PathLike object, not {kind}"
  | contextNotMap kind =>
    "gcode_layers.utils.logging_config.push_context() argument after ** must be a mapping, not "
      ++ kind
  | fieldNotText => "keywords must be strings"
  | file fault => fault.message

/-- The level that a value names. -/
def levelOf : Value → Except SetupFault Int
  | .str s =>
    let name := String.ofList (upper s.toList)
    match namedLevels.find? (·.1 == name) with
    | some (_, level) => .ok level
    | none =>
      .error (if name == layoutName then .layoutAsLevel
        else if name == layoutTableName then .layoutTableAsLevel
        else .unknownLevel name)
  | .bytes _ => .error .levelOfBytes
  | v => .error (.levelNotText v.kind)

/-- The fields that a value adds to the context. A value that counts as nothing adds none. -/
def fieldsOf : Value → Except SetupFault Context
  | .map entries =>
    entries.mapM fun
      | (.str k, v) => .ok (k, v)
      | _ => .error .fieldNotText
  | v => if v.isTrue then .error (.contextNotMap v.kind) else .ok []

/-! ## Setups -/

namespace Logging

/-- The log without the handlers of the last setup. They are closed without a fault: lines are
flushed as they are written, and a stream that fails all the same when it is closed is not
modelled. -/
def drop (l : Logging) : Logging :=
  { l with
    handlers := l.handlers.filter fun h => !l.installed.any (·.number == h.number)
    installed := [] }

/-- The log with a handler of a setup added. -/
def install (l : Logging) (target : Target) (style : Style) : Logging :=
  let h : Handler := ⟨l.next, target, style⟩
  { l with
    handlers := l.handlers ++ [h]
    installed := l.installed ++ [h]
    next := l.next + 1 }

/-- The log with a handler for the console, if it is asked for. -/
def installConsole (l : Logging) (terminal : Bool) (o : Options) : Logging :=
  if o.console then l.install .console ⟨false, o.color && terminal⟩ else l

/-- The log with a handler for a file, if one is asked for. A value that counts as nothing asks for
none. -/
def installFile (l : Logging) (t : Tree) (o : Options) :
    Option SetupFault × Logging × Tree :=
  if o.file.isTrue then
    match o.file with
    | .str name =>
      match t.openToWrite (.ofText name.toList) with
      | (.ok way, t) => (none, l.install (.file way) ⟨o.json, false⟩, t)
      | (.error fault, t) => (some (.file fault), l, t)
    | v => (some (.fileNotText v.kind), l, t)
  else (none, l, t)

/-- The outcome of a setup. -/
structure Outcome where
  fault : Option SetupFault
  logging : Logging
  tree : Tree

/-- The handlers replaced by those that a setup asks for. `terminal` says whether the console
shows colors. -/
def setup (l : Logging) (t : Tree) (terminal : Bool) (o : Options) : Outcome :=
  let l := l.drop
  match levelOf o.level with
  | .error fault => ⟨some fault, l, t⟩
  | .ok level =>
    let l := { l with level }.installConsole terminal o
    match l.installFile t o with
    | (some fault, l, t) => ⟨some fault, l, t⟩
    | (none, l, t) =>
      match fieldsOf o.context with
      | .error fault => ⟨some fault, l, t⟩
      | .ok fields => ⟨none, { l with context := l.context.push fields }, t⟩

/-! ## Writing -/

/-- What handlers write to. -/
structure Sinks where
  /-- The lines on the console. -/
  console : List Char := []
  tree : Tree := {}

/-- A line written by a handler. -/
def Sinks.write (s : Sinks) (target : Target) (line : List Char) : Sinks :=
  match target with
  | .console => { s with console := s.console ++ line ++ ['\n'] }
  | .file way => { s with tree := s.tree.append way (Encoding.Utf8.encode (line ++ ['\n'])) }

/-- Whether records of a level are written. -/
def accepts (l : Logging) (level : Int) : Bool := 0 < level && l.level ≤ level

/-- A record written by a handler. One that is refused writes nothing; what the handler reports of
that on the console is left out. -/
def handle (l : Logging) (r : Stamped) (s : Sinks) (h : Handler) : Sinks :=
  match r.written h.style l.context with
  | .ok line => s.write h.target line
  | .error _ => s

/-- A record written by all handlers. -/
def emit (l : Logging) (s : Sinks) (r : Stamped) : Sinks :=
  if l.accepts r.record.level then l.handlers.foldl (l.handle r) s else s

end Logging

end Toolpath.Log
