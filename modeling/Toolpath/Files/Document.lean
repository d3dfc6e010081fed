import Toolpath.Encoding.Decode
import Toolpath.Files.Tree
/-!
# Documents in files

A whole file read as text in an encoding.

## Main definitions

* `Toolpath.Files.Reading` — what a reading reports and what it yields.
* `Toolpath.Files.Tree.readText` — the text of a file.
-/

namespace Toolpath.Files

/-- Why a file has no text. -/
inductive TextFault where
  | file (fault : Fault)
  | encoding (fault : Encoding.Fault)
  deriving DecidableEq, Repr

/-- The wording of a fault. -/
def TextFault.message : TextFault → String
  | file fault => fault.message
  | encoding fault => fault.message

/-- The reading of a file: the number of bytes read, if there was something to read, and the
text. -/
structure Reading where
  size : Option Nat
  text : Except TextFault (List Char)

/-- The text of a file. -/
def Tree.readText (t : Tree) (path : FilePath) (encoding : String)
    (readers : Encoding.Readers := {}) : Reading :=
  match t.readFile "File" path with
  | .error fault => ⟨none, .error (.file fault)⟩
  | .ok data => ⟨some data.length, (Encoding.decode readers encoding data).mapError .encoding⟩

end Toolpath.Files
