import Toolpath.Url.Host
/-!
# URLs

A URL in its parts: scheme, authority, path, query and fragment. Every text has these parts, and
most of them may be empty; only the authority can be at fault.

## Main definitions

* `Toolpath.Url`, `Url.split` — the parts of a text.
* `Toolpath.Url.text` — the text of the parts.
* `Toolpath.Url.isHttp` — whether a text is a URL of the web.
-/

namespace Toolpath

open Text

/-- A URL in its parts. -/
structure Url where
  scheme : List Char
  /-- What stands between two slashes and the path. -/
  authority : List Char
  path : List Char
  query : List Char
  fragment : List Char
  deriving DecidableEq, Repr

namespace Url

/-! ## Parts -/

/-- A text without spaces and control characters in front, and without tabs and line ends. -/
def cleaned (s : List Char) : List Char :=
  (s.dropWhile (·.toNat ≤ 32)).filter fun c => c != '\t' && c != '\r' && c != '\n'

/-- The characters of schemes. -/
def isSchemeChar (c : Char) : Bool := c.isAlphanum || c == '+' || c == '-' || c == '.'

/-- The scheme in front of a text, in lower case, and the rest; `default` if there is none. -/
def splitScheme (default s : List Char) : List Char × List Char :=
  match cutAt ':' s with
  | (c :: more, some rest) =>
    if c.isAlpha && (c :: more).all isSchemeChar then ((c :: more).map Char.toLower, rest)
    else (default, s)
  | _ => (default, s)

/-- The authority in front of a text, and the rest. -/
def splitAuthority : List Char → List Char × List Char
  | '/' :: '/' :: s => cutBefore (fun c => c == '/' || c == '?' || c == '#') s
  | s => ([], s)

/-- The parts of a text whose scheme, if it has none, is `default`. -/
def splitWith (default s : List Char) : Except Fault Url := do
  let (scheme, rest) := splitScheme default (cleaned s)
  let (authority, rest) := splitAuthority rest
  checkAuthority authority
  let (rest, fragment) := cutAt '#' rest
  let (path, query) := cutAt '?' rest
  return ⟨scheme, authority, path, query.getD [], fragment.getD []⟩

/-- The parts of a text. -/
def split (s : List Char) : Except Fault Url := splitWith [] s

/-- The schemes of the web. -/
def isWeb (scheme : List Char) : Bool := scheme == "http".toList || scheme == "https".toList

/-- Whether a text is a URL of the web. -/
def isHttp (s : List Char) : Except Fault Bool := do return isWeb (← split s).scheme

/-! ## Text -/

/-- The schemes whose URLs have an authority. -/
def withAuthority : List String := [
  "", "ftp", "http", "gopher", "nntp", "telnet", "imap", "wais", "file", "mms", "https", "shttp",
  "snews", "prospero", "rtsp", "rtsps", "rtspu", "rsync", "svn", "svn+ssh", "sftp", "nfs", "git",
  "git+ssh", "ws", "wss"]

/-- The schemes whose URLs can be relative. -/
def withRelative : List String := [
  "", "ftp", "http", "gopher", "nntp", "imap", "wais", "file", "https", "shttp", "mms",
  "prospero", "rtsp", "rtsps", "rtspu", "sftp", "svn", "svn+ssh", "ws", "wss"]

/-- The schemes whose paths can end in parameters. -/
def withParameters : List String := [
  "", "ftp", "hdl", "prospero", "http", "imap", "https", "shttp", "rtsp", "rtsps", "rtspu", "sip",
  "sips", "mms", "sftp", "tel"]

/-- Whether a scheme is one of a list. -/
def isIn (schemes : List String) (scheme : List Char) : Bool :=
  schemes.contains (String.ofList scheme)

/-- A part behind its sign; nothing if the part is empty. -/
def behindSign (sign : Char) (s : List Char) : List Char := if s.isEmpty then [] else sign :: s

/-- Whether two slashes are written in front of the authority. An empty one is not told from a path
that starts with two slashes itself. -/
def showsAuthority (u : Url) : Bool :=
  !u.authority.isEmpty
    || (!u.scheme.isEmpty && isIn withAuthority u.scheme && !(['/', '/'].isPrefixOf u.path))

/-- The text of the parts. -/
def text (u : Url) : List Char :=
  let body :=
    if u.showsAuthority then
      let path := if u.path.isEmpty || u.path.head? = some '/' then u.path else '/' :: u.path
      '/' :: '/' :: u.authority ++ path
    else u.path
  (if u.scheme.isEmpty then [] else u.scheme ++ [':'])
    ++ body ++ behindSign '?' u.query ++ behindSign '#' u.fragment

end Url

end Toolpath
