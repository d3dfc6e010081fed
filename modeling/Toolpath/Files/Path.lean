import Toolpath.Text.Blank
/-!
# Paths of files

A path is a root, which may be empty, and the names on the way. Names that are empty or a single
point lead nowhere and are dropped; a pair of points stays, because it leads up.

## Main definitions

* `Toolpath.Files.FilePath`, `FilePath.ofText` — paths.
* `Toolpath.Files.FilePath.text` — a path as text.
* `Toolpath.Files.FilePath.join`, `FilePath.parent` — a path below another, and the folder of a
  path.
-/

namespace Toolpath.Files

open Text

/-- A path: its root, empty for a path that starts in the working folder, and the names on the
way. -/
structure FilePath where
  root : List Char
  names : List (List Char)
  deriving DecidableEq, Repr

namespace FilePath

/-- The root in front of a text. Two slashes are a root of their own, and any other number counts
as one. -/
def rootOf (s : List Char) : List Char :=
  match (s.takeWhile (· == '/')).length with
  | 0 => []
  | 2 => ['/', '/']
  | _ => ['/']

/-- Whether a name leads nowhere. -/
def isIdle (name : List Char) : Bool := name.isEmpty || name == ['.']

/-- The path of a text. -/
def ofText (s : List Char) : FilePath := ⟨rootOf s, (pieces '/' s).filter (!isIdle ·)⟩

/-- A path as text; the working folder is a point. -/
def text (p : FilePath) : List Char :=
  if p.root.isEmpty && p.names.isEmpty then ['.'] else p.root ++ joined ['/'] p.names

/-- A path that does not depend on the working folder. -/
def isAbsolute (p : FilePath) : Bool := !p.root.isEmpty

/-- A path followed by another; an absolute one stands for itself. -/
def join (p q : FilePath) : FilePath := if q.isAbsolute then q else ⟨p.root, p.names ++ q.names⟩

/-- The folder of a path. -/
def parent (p : FilePath) : FilePath := { p with names := p.names.dropLast }

end FilePath

end Toolpath.Files
