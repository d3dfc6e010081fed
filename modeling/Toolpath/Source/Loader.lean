import Toolpath.Config.Settings
import Toolpath.Encoding.Decode
import Toolpath.Files.Path
import Toolpath.Url.Join
/-!
# The loader

Where documents come from: the path or URL that relative sources are joined to, and how requests
are made.

## Main definitions

* `Toolpath.Loader`, `Loader.ofSettings` — the state of a loader.
* `Toolpath.Loader.resolve` — the place that a source stands for.
-/

namespace Toolpath

open Files Text

/-- The state of a loader. -/
structure Loader where
  /-- What relative sources are joined to; nothing if it is empty. -/
  basePath : String := ""
  /-- The headers of requests. -/
  headers : List (String × String) := []
  /-- Whether requests share a session. -/
  withCredentials : Bool := false
  /-- How long a request may take, in seconds. -/
  timeout : Float := 30.0
  /-- The name of the encoding of documents. -/
  encoding : String := "utf-8"
  /-- What reads the encodings that have no reader of their own. -/
  readers : Encoding.Readers := {}
  /-- Whether runs are measured. -/
  instrument : Bool := false
  /-- Whether a session is open. -/
  session : Bool := false

namespace Loader

/-- A loader with settings. -/
def ofSettings (s : LoaderSettings) (instrument : Bool) : Loader where
  basePath := s.basePath
  headers := s.headers
  withCredentials := s.withCredentials
  timeout := s.timeout
  encoding := s.encoding
  instrument := instrument

/-- A source below a path of files. -/
def belowPath (base source : List Char) : List Char :=
  let p := FilePath.ofText source
  if p.isAbsolute then source else ((FilePath.ofText base).join p).text

/-- A base URL that ends in a slash. -/
def asFolder (base : List Char) : List Char :=
  if base.getLast? = some '/' then base else base ++ ['/']

/-- The place that a source stands for. Absolute URLs and paths stand for themselves, and so does
everything if there is no base. -/
def resolve (l : Loader) (source : List Char) : Except Url.Fault (List Char) :=
  let base := l.basePath.toList
  if base.isEmpty then .ok source
  else do
    if ← Url.isHttp source then return source
    else if ← Url.isHttp base then Url.join (asFolder base) source
    else return belowPath base source

end Loader

end Toolpath
