import Toolpath.Encoding.Utf8
import Toolpath.Entries
import Toolpath.Files.Path
import Toolpath.Text.Digit
import Toolpath.Text.Quoted
/-!
# Trees of files

Files and folders below a root, one of which is the working folder. A path is followed name by
name, so that it fails at the first name that leads nowhere.

## Main definitions

* `Toolpath.Files.Tree`, `Tree.ofFiles` — files and folders by their way from the root.
* `Toolpath.Files.Tree.find` — what a path leads to.
* `Toolpath.Files.Tree.readFile`, `Tree.openToRead`, `Tree.openToWrite`, `Tree.append` — the
  operations on files.
* `Toolpath.Files.Fault` — why a file cannot be used.
-/

namespace Toolpath.Files

open Text

/-! ## Faults -/

/-- Why the system does not do what it is asked for. -/
inductive Cause where
  | exists
  | notFolder
  | isFolder
  | nameTooLong
  deriving DecidableEq, Repr

/-- The number of a cause. -/
def Cause.number : Cause → Nat
  | .exists => 17
  | .notFolder => 20
  | .isFolder => 21
  | .nameTooLong => 36

/-- The wording of a cause. -/
def Cause.message : Cause → String
  | .exists => "File exists"
  | .notFolder => "Not a directory"
  | .isFolder => "Is a directory"
  | .nameTooLong => "File name too long"

/-- Why a file cannot be used. -/
inductive Fault where
  /-- There is no file of the wanted kind. -/
  | notFound (what : String) (path : FilePath)
  /-- The system refuses. -/
  | refused (cause : Cause) (path : FilePath)
  /-- The path holds a character that ends paths. -/
  | nullInPath
  deriving DecidableEq, Repr

/-- The wording of a fault. -/
def Fault.message : Fault → String
  | notFound what path => s!"{what} not found: {String.ofList path.text}"
  | refused cause path =>
    s!"[Errno {cause.number}] {cause.message}: {String.ofList (quoted path.text)}"
  | nullInPath => "embedded null byte"

/-! ## Trees -/

/-- A file with its bytes, or a folder. -/
inductive Node where
  | file (data : List UInt8)
  | folder
  deriving DecidableEq, Repr

/-- The names on the way from the root. -/
abbrev Way := List (List Char)

/-- Files and folders by their way from the root. -/
structure Tree where
  /-- The working folder. A single empty name is no part of any path, so that a folder of that
  name can be left but not be entered. -/
  here : Way := [[]]
  nodes : List (Way × Node) := []
  deriving Repr

namespace Tree

/-- The folders that a way passes through, the outermost first. -/
def foldersOn : Way → List Way
  | [] => []
  | [_] => []
  | name :: rest => [name] :: (foldersOn rest).map (name :: ·)

/-- The tree with a node at a way. -/
def set (t : Tree) (way : Way) (node : Node) : Tree :=
  { t with nodes := Entries.put t.nodes way node }

/-- The tree with a node and the folders on the way to it. -/
def put (t : Tree) (way : Way) (node : Node) : Tree :=
  let missing := (foldersOn way).filter fun w => (Entries.find? t.nodes w).isNone
  (missing.foldl (fun t w => t.set w .folder) t).set way node

/-- Where a path starts. -/
def start (t : Tree) (p : FilePath) : Way := if p.isAbsolute then [] else t.here

/-- The way that a path names; two points lead up. -/
def wayOf (t : Tree) (p : FilePath) : Way :=
  p.names.foldl (fun way name => if name = ['.', '.'] then way.dropLast else way ++ [name])
    (t.start p)

/-- The tree of named files and folders, with a working folder. -/
def ofFiles (here : Way) (files : List (List Char × Node)) : Tree :=
  files.foldl (fun t (name, node) => t.put (t.wayOf (.ofText name)) node)
    (({ here } : Tree).put here .folder)

/-! ## Following paths -/

/-- What a path leads to. -/
inductive Target where
  | file (way : Way) (data : List UInt8)
  | folder (way : Way)
  /-- Nothing; the way is known if there is a folder that would hold it. -/
  | missing (way : Option Way)
  /-- A way through a file. -/
  | blocked
  | tooLong
  deriving DecidableEq, Repr

/-- The number of bytes from which on a name is too long. -/
def nameLimit : Nat := 256

/-- The number of bytes from which on a path is too long. -/
def pathLimit : Nat := 4096

/-- The number of bytes of a text. -/
def byteLength (s : List Char) : Nat := (Encoding.Utf8.encode s).length

/-- What names lead to from a folder. -/
def follow (t : Tree) (here : Way) : Way → Target
  | [] => .folder here
  | name :: rest =>
    if nameLimit ≤ byteLength name then .tooLong
    else if name = ['.', '.'] then follow t here.dropLast rest
    else
      let way := here ++ [name]
      match Entries.find? t.nodes way with
      | some .folder => follow t way rest
      | some (.file data) => if rest.isEmpty then .file way data else .blocked
      | none => .missing (if rest.isEmpty then some way else none)

/-- What a path leads to. -/
def find (t : Tree) (p : FilePath) : Target :=
  if pathLimit ≤ byteLength p.text then .tooLong else t.follow (t.start p) p.names

/-- Whether a path holds the character that ends paths. -/
def hasNull (p : FilePath) : Bool := p.text.contains '\x00'

/-! ## Reading -/

/-- What can be found under a path. -/
inductive Content where
  | file (data : List UInt8)
  | folder

/-- What lies under a path. A path that is not understood leads nowhere. -/
def content? (t : Tree) (what : String) (p : FilePath) : Except Fault Content :=
  if hasNull p then .error (.notFound what p)
  else
    match t.find p with
    | .file _ data => .ok (.file data)
    | .folder _ => .ok .folder
    | .tooLong => .error (.refused .nameTooLong p)
    | .missing _ => .error (.notFound what p)
    | .blocked => .error (.notFound what p)

/-- The bytes of a file; a folder is none. -/
def readFile (t : Tree) (what : String) (p : FilePath) : Except Fault (List UInt8) :=
  match t.content? what p with
  | .ok (.file data) => .ok data
  | .ok .folder => .error (.notFound what p)
  | .error fault => .error fault

/-- The bytes of what is there, which has to be a file. -/
def openToRead (t : Tree) (what : String) (p : FilePath) : Except Fault (List UInt8) :=
  match t.content? what p with
  | .ok (.file data) => .ok data
  | .ok .folder => .error (.refused .isFolder p)
  | .error fault => .error fault

/-! ## Writing -/

/-- A folder made at a path, in a folder that has to be there: why it is not, and the tree. -/
def makeFolder (t : Tree) (p : FilePath) : Option Fault × Tree :=
  match t.find p with
  | .folder _ => (none, t)
  | .missing (some way) => (none, t.set way .folder)
  | .missing none => (some (.notFound "Folder" p), t)
  | .file .. => (some (.refused .exists p), t)
  | .blocked => (some (.refused .notFolder p), t)
  | .tooLong => (some (.refused .nameTooLong p), t)

/-- A folder made at a path, with the folders on the way to it. Those that were made stay even if
one cannot be. -/
def makeFolders (t : Tree) (p : FilePath) : Option Fault × Tree :=
  match t.find p, _h : p.names with
  | .missing none, _ :: _ =>
    match makeFolders t p.parent with
    | (none, t) => t.makeFolder p
    | (some fault, t) => (some fault, t)
  | _, _ => t.makeFolder p
termination_by p.names.length
decreasing_by simp [FilePath.parent, _h]

/-- The way to the file at a path, and the tree with that file, which is empty if it is new. The
folders on the way to it are made first, and stay even if the file cannot be opened. -/
def openToWrite (t : Tree) (p : FilePath) : Except Fault Way × Tree :=
  if hasNull p.parent then (.error .nullInPath, t)
  else
    match t.makeFolders p.parent with
    | (some fault, t) => (.error fault, t)
    | (none, t) =>
      if hasNull p then (.error .nullInPath, t)
      else
        match t.find p with
        | .file way _ => (.ok way, t)
        | .missing (some way) => (.ok way, t.set way (.file []))
        | .missing none => (.error (.notFound "Folder" p), t)
        | .folder _ => (.error (.refused .isFolder p), t)
        | .blocked => (.error (.refused .notFolder p), t)
        | .tooLong => (.error (.refused .nameTooLong p), t)

/-- The tree with bytes added at the end of a file. -/
def append (t : Tree) (way : Way) (data : List UInt8) : Tree :=
  match Entries.find? t.nodes way with
  | some (.file old) => t.set way (.file (old ++ data))
  | _ => t.set way (.file data)

/-- The files below the working folder that are in a tree and not in an earlier one, by name. -/
def newFiles (earlier t : Tree) : List (List Char × List UInt8) :=
  t.nodes.filterMap fun (way, node) =>
    match node, Entries.find? earlier.nodes way with
    | .file data, none =>
      if t.here.isPrefixOf way then some (joined ['/'] (way.drop t.here.length), data) else none
    | _, _ => none

/-- The files of a tree that an earlier one lacks or holds with other bytes, by their paths from
the root. -/
def changedFiles (earlier t : Tree) : List (FilePath × List UInt8) :=
  t.nodes.filterMap fun (way, node) =>
    match node with
    | .file data =>
      if Entries.find? earlier.nodes way = some node then none else some (⟨['/'], way⟩, data)
    | .folder => none

end Tree

end Toolpath.Files
