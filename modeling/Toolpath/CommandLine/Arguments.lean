import Toolpath.Log.Record
import Toolpath.Text.Blank
import Toolpath.Text.Case
import Toolpath.Text.Digit
import Toolpath.Text.Quoted
/-!
# Arguments

The arguments of the program: a source and options. Long options may be cut short as long as they
are told apart, short options may be written together, and a value follows its option in the same
argument or in the next. Behind two dashes nothing is an option.

## Main definitions

* `Toolpath.CommandLine.Flag` — the options.
* `Toolpath.CommandLine.Item`, `Item.ofText` — an argument and what it can be.
* `Toolpath.CommandLine.Arguments` — what the arguments ask for.
* `Toolpath.CommandLine.Request.ofArguments` — the arguments understood.
-/

namespace Toolpath.CommandLine

open Text

/-! ## Options -/

/-- The options. -/
inductive Flag where
  | help
  | config
  | layers
  | json
  | logLevel
  deriving DecidableEq, Repr

namespace Flag

/-- The names of an option. -/
def names : Flag → List String
  | help => ["-h", "--help"]
  | config => ["--config", "-c"]
  | layers => ["--layers", "-l"]
  | json => ["--json"]
  | logLevel => ["--log-level"]

/-- Whether a value belongs to an option. -/
def takesValue : Flag → Bool
  | config => true
  | logLevel => true
  | _ => false

/-- All options. -/
def all : List Flag := [help, config, layers, json, logLevel]

/-- All names, each with its option. -/
def table : List (List Char × Flag) :=
  all.flatMap fun f => f.names.map fun n => (n.toList, f)

/-- The option of a name. -/
def ofName? (name : List Char) : Option Flag := (table.find? (·.1 == name)).map (·.2)

/-- The option as messages name it. -/
def title (f : Flag) : String := String.intercalate "/" f.names

end Flag

/-! ## Faults -/

/-- Why arguments are not understood. -/
inductive Fault where
  | ambiguous (argument : List Char) (names : List (List Char))
  | noValue (flag : Flag)
  | unwantedValue (flag : Flag) (value : List Char)
  | unknownLevel (level : List Char)
  | noSource
  | unrecognized (arguments : List (List Char))
  deriving DecidableEq, Repr

/-- Texts with a separator between them. -/
def listed (sep : String) (texts : List (List Char)) : String :=
  String.ofList (joined sep.toList texts)

/-- The wording of a fault. -/
def Fault.message : Fault → String
  | ambiguous argument names =>
    let names := listed ", " names
    s!"ambiguous option: {String.ofList argument} could match {names}"
  | noValue flag => s!"argument {flag.title}: expected one argument"
  | unwantedValue flag value =>
    s!"argument {flag.title}: ignored explicit argument {String.ofList (quoted value)}"
  | unknownLevel level =>
    let choices := listed ", " (Log.Level.all.map fun l => quoted l.name.toList)
    s!"argument --log-level: invalid choice: {String.ofList (quoted level)} (choose from {choices})"
  | noSource => "the following arguments are required: source"
  | unrecognized arguments =>
    let arguments := listed " " arguments
    s!"unrecognized arguments: {arguments}"

/-! ## What an argument can be -/

/-- An option as it is written. -/
structure Spelling where
  /-- The option, unless there is none of this name. -/
  flag : Option Flag
  /-- Whether the name starts with two dashes. -/
  long : Bool
  /-- The value in the same argument. -/
  value : Option (List Char)
  deriving Repr

/-- What an argument can be. -/
inductive Kind where
  | option (s : Spelling)
  | plain
  /-- The two dashes behind which nothing is an option. -/
  | dashes
  deriving Repr

/-- An argument and what it can be. -/
structure Item where
  text : List Char
  kind : Kind
  deriving Repr

namespace Item

/-- Whether a name starts with two dashes. -/
def isLong (name : List Char) : Bool := ['-', '-'].isPrefixOf name

/-- Whether a text is a negative number, with a line feed behind it or without. -/
def isNegative : List Char → Bool
  | '-' :: s =>
    let s := if s.getLast? = some '\n' then s.dropLast else s
    match cutAt '.' s with
    | (whole, none) => !whole.isEmpty && whole.all isDecimal
    | (whole, some part) => whole.all isDecimal && !part.isEmpty && part.all isDecimal
  | _ => false

/-- The options that an argument can stand for by the beginning of its name, with their names. -/
def candidates (s : List Char) : List (List Char × Spelling) :=
  if isLong s then
    let (start, value) := cutAt '=' s
    (Flag.table.filter fun (name, _) => start.isPrefixOf name).map fun (name, flag) =>
      (name, ⟨some flag, true, value⟩)
  else
    Flag.table.filterMap fun (name, flag) =>
      if name = s.take 2 then some (name, ⟨some flag, false, some (s.drop 2)⟩)
      else if s.isPrefixOf name then some (name, ⟨some flag, isLong name, none⟩)
      else none

/-- What an argument in front of the two dashes can be. -/
def kindOf (s : List Char) : Except Fault Kind :=
  match s with
  | '-' :: _ :: _ =>
    let (name, value) := cutAt '=' s
    match Flag.ofName? s, Flag.ofName? name with
    | some flag, _ => .ok (.option ⟨some flag, isLong s, none⟩)
    | none, some flag => .ok (.option ⟨some flag, isLong name, value⟩)
    | none, none =>
      match candidates s with
      | [(_, spelling)] => .ok (.option spelling)
      | [] =>
        if isNegative s || s.contains ' ' then .ok .plain
        else .ok (.option ⟨none, isLong s, none⟩)
      | several => .error (.ambiguous s (several.map (·.1)))
  | _ => .ok .plain

/-- Arguments and what they can be. -/
def ofTexts : List (List Char) → Except Fault (List Item)
  | [] => .ok []
  | s :: rest =>
    if s = ['-', '-'] then .ok (⟨s, .dashes⟩ :: rest.map (⟨·, .plain⟩))
    else do
      let kind ← kindOf s
      return ⟨s, kind⟩ :: (← ofTexts rest)

/-- Whether an argument is an option. -/
def isOption (i : Item) : Bool :=
  match i.kind with
  | .option _ => true
  | _ => false

end Item

/-! ## What arguments ask for -/

/-- What the arguments ask for. -/
structure Arguments where
  source : List Char
  /-- The configuration file, if the option is given; nothing inside if its value is dropped. -/
  config : Option (Option (List Char)) := none
  layers : Bool := false
  json : Bool := false
  level : Option Log.Level := none
  deriving DecidableEq, Repr

/-- What is known of the arguments so far. -/
structure Draft where
  source : Option (List Char) := none
  config : Option (Option (List Char)) := none
  layers : Bool := false
  json : Bool := false
  level : Option Log.Level := none
  /-- The arguments that mean nothing. -/
  extras : List (List Char) := []

/-- What the program is asked to do. -/
inductive Request where
  | help
  | run (arguments : Arguments)
  deriving DecidableEq, Repr

/-- Why the reading of arguments stops: there is a fault, or help is asked for. -/
inductive Stop where
  | fault (f : Fault)
  | help
  deriving DecidableEq, Repr

namespace Draft

/-- The value of an option; two dashes are dropped wherever they stand. -/
def kept? (value : List Char) : Option (List Char) :=
  if value = ['-', '-'] then none else some value

/-- The draft with an option noted. -/
def note (d : Draft) (flag : Flag) (value : List Char) : Except Stop Draft :=
  match flag with
  | .help => .error .help
  | .config => .ok { d with config := some (kept? value) }
  | .layers => .ok { d with layers := true }
  | .json => .ok { d with json := true }
  | .logLevel =>
    match kept? value with
    | none => .ok { d with level := none }
    | some value =>
      let level := upper value
      match Log.Level.ofName? (String.ofList level) with
      | some l => .ok { d with level := some l }
      | none => .error (.fault (.unknownLevel level))

/-- The draft with options noted one after the other. -/
def noteAll (d : Draft) (flags : List (Flag × List Char)) : Except Stop Draft :=
  flags.foldlM (fun d (flag, value) => d.note flag value) d

/-- The draft with more arguments that mean nothing. -/
def addExtras (d : Draft) (texts : List (List Char)) : Draft :=
  { d with extras := d.extras ++ texts }

/-- The options in one argument, with their values, and the arguments after those that were
used. -/
structure Cluster where
  flags : List (Flag × List Char)
  rest : List Item

/-- The options in one argument. Short options without values may be written together, and one that
is none is a value that the option in front of it does not take. -/
def cluster : (fuel : Nat) → Flag → Spelling → List Item → Except Stop Cluster
  | 0, flag, _, _ => .error (.fault (.noValue flag))
  | fuel + 1, flag, s, rest =>
    match s.value with
    | none =>
      if flag.takesValue then
        match rest with
        | ⟨value, .plain⟩ :: rest => .ok ⟨[(flag, value)], rest⟩
        | _ => .error (.fault (.noValue flag))
      else .ok ⟨[(flag, [])], rest⟩
    | some value =>
      if flag.takesValue then .ok ⟨[(flag, value)], rest⟩
      else
        match s.long, value with
        | false, c :: more =>
          match Flag.ofName? ['-', c] with
          | none => .error (.fault (.unwantedValue flag value))
          | some next => do
            let spelling : Spelling := ⟨some next, false, if more.isEmpty then none else some more⟩
            let k ← cluster fuel next spelling rest
            return { k with flags := (flag, []) :: k.flags }
        | _, _ => .error (.fault (.unwantedValue flag value))

/-- The draft after the option at the head of arguments, and the arguments after it. -/
def takeOption (d : Draft) (text : List Char) (s : Spelling) (rest : List Item) :
    Except Stop (Draft × List Item) :=
  match s.flag with
  | none => .ok (d.addExtras [text], rest)
  | some flag => do
    let k ← cluster (text.length + 1) flag s rest
    return (← d.noteAll k.flags, k.rest)

/-- The source at the head of arguments, and the arguments after it. Two dashes may stand on
either side. -/
def splitSource? (items : List Item) : Option (List Char × List Item) :=
  match items with
  | ⟨_, .dashes⟩ :: ⟨s, .plain⟩ :: rest => some (s, rest)
  | ⟨s, .plain⟩ :: ⟨_, .dashes⟩ :: rest => some (s, rest)
  | ⟨s, .plain⟩ :: rest => some (s, rest)
  | _ => none

/-- The draft after arguments. -/
def read : (fuel : Nat) → Draft → List Item → Except Stop Draft
  | 0, d, _ => .ok d
  | _, d, [] => .ok d
  | fuel + 1, d, items@(⟨text, kind⟩ :: rest) =>
    match kind with
    | .option s => do
      let (d, rest) ← d.takeOption text s rest
      read fuel d rest
    | _ =>
      match d.source, splitSource? items with
      | none, some (s, rest) => read fuel { d with source := some s } rest
      | _, _ =>
        let extras := items.takeWhile (!·.isOption)
        read fuel (d.addExtras (extras.map Item.text)) (items.dropWhile (!·.isOption))

end Draft

/-- The arguments understood. -/
def Request.ofArguments (texts : List (List Char)) : Except Fault Request := do
  let items ← Item.ofTexts texts
  match Draft.read (items.length + 1) {} items with
  | .error .help => return .help
  | .error (.fault f) => throw f
  | .ok d =>
    match d.source with
    | none => throw .noSource
    | some source =>
      if d.extras.isEmpty then return .run ⟨source, d.config, d.layers, d.json, d.level⟩
      else throw (.unrecognized d.extras)

/-! ## Help -/

/-- The name of the program. -/
def programName : String := "gcode-layers"

/-- The options in short. -/
def usage : String :=
  "usage: gcode-layers [-h] [--config CONFIG] [--layers] [--json]\n" ++
  "                    [--log-level \x7bDEBUG,INFO,WARNING,ERROR,CRITICAL\x7d]\n" ++
  "                    source\n"

/-- The options explained. -/
def helpText : String :=
  usage ++
  "\nParse a G-code file and summarize its layers\n" ++
  "\npositional arguments:\n" ++
  "  source                G-code file path or http(s) URL\n" ++
  "\noptions:\n" ++
  "  -h, --help            show this help message and exit\n" ++
  "  --config CONFIG, -c CONFIG\n" ++
  "                        Configuration file path (default: packaged\n" ++
  "                        default.yaml)\n" ++
  "  --layers, -l          Print one row per layer\n" ++
  "  --json                Print the summary as JSON\n" ++
  "  --log-level \x7bDEBUG,INFO,WARNING,ERROR,CRITICAL\x7d\n" ++
  "                        Override the configured log level\n"

end Toolpath.CommandLine
