import Toolpath.Log.Record
import Toolpath.Value
/-!
# Settings

What can be set in a configuration: how documents are fetched, whether runs are measured, and what
is logged where. Everything has a default.

## Main definitions

* `Toolpath.LoaderSettings`, `ParserSettings`, `LogSettings`, `Settings` — the settings.
* `Toolpath.Settings.value` — the settings as a mapping in which nothing is left out.
-/

namespace Toolpath

/-- How documents are fetched. -/
structure LoaderSettings where
  /-- What relative sources are joined to. -/
  basePath : String := ""
  /-- The headers of requests. -/
  headers : List (String × String) := []
  /-- Whether requests share a session. -/
  withCredentials : Bool := false
  /-- How long a request may take, in seconds. -/
  timeout : Float := 30.0
  /-- The name of the encoding of documents. -/
  encoding : String := "utf-8"
  deriving DecidableEq, Repr

/-- How documents are interpreted. -/
structure ParserSettings where
  /-- Whether runs are measured. -/
  instrument : Bool := false
  deriving DecidableEq, Repr

/-- What is logged where. -/
structure LogSettings where
  level : Log.Level := .info
  /-- The log file, if there is one. -/
  file : Option String := none
  /-- Whether the log file holds JSON. -/
  jsonLines : Bool := false
  /-- Whether levels are colored on a terminal. -/
  color : Bool := true
  deriving DecidableEq, Repr

/-- The settings of the program. -/
structure Settings where
  loader : LoaderSettings := {}
  parser : ParserSettings := {}
  log : LogSettings := {}
  deriving DecidableEq, Repr

/-- The version of the settings that is understood. -/
def Settings.version : String := "gcode_layers.v1"

/-! ## As mappings -/

/-- The settings as a mapping. -/
def LoaderSettings.value (s : LoaderSettings) : Value :=
  .record
    [("base_path", .str s.basePath),
      ("request_headers", .record (s.headers.map fun (k, v) => (k, .str v))),
      ("with_credentials", .bool s.withCredentials), ("timeout_s", .float s.timeout),
      ("encoding", .str s.encoding)]

/-- The settings as a mapping. -/
def ParserSettings.value (s : ParserSettings) : Value :=
  .record [("instrument", .bool s.instrument)]

/-- The settings as a mapping. -/
def LogSettings.value (s : LogSettings) : Value :=
  .record
    [("level", .str s.level.name), ("file", s.file.elim .null .str),
      ("json_lines", .bool s.jsonLines), ("color", .bool s.color)]

/-- The settings as a mapping. -/
def Settings.value (s : Settings) : Value :=
  .record
    [("schema_version", .str Settings.version), ("loader", s.loader.value),
      ("parser", s.parser.value), ("logging", s.log.value)]

end Toolpath
