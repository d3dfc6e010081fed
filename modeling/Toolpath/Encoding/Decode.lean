import Toolpath.Encoding.Halves
import Toolpath.Encoding.Name
import Toolpath.Encoding.SingleByte
import Toolpath.Encoding.Utf16
/-!
# Bytes as text

Bytes are read in an encoding that is given by name. Most encodings replace bytes that mean nothing,
so that only the name can be at fault; a few refuse to. The name of an encoding is not looked at
when there is nothing to read.

The encodings of documents have their readers here. All others that are registered are read by
readers from outside, which are a parameter: each yields a text or fails as a whole.

## Main definitions

* `Toolpath.Encoding.Fault` — why bytes have no text.
* `Toolpath.Encoding.Readers` — the readers of the encodings that have none here.
* `Toolpath.Encoding.decode` — bytes as text.
-/

namespace Toolpath.Encoding

/-- Why bytes have no text. -/
inductive Fault where
  | unknown (name : String)
  /-- The name of a transformation that yields no text. -/
  | noText (name : String)
  /-- The name holds a character that ends names. -/
  | nullInName
  | halvesInName (halves : Halves)
  /-- The encoding does not replace what means nothing. -/
  | unreadable (message : String)
  deriving DecidableEq, Repr

/-- The most characters of a name that a message shows. -/
def shownLimit : Nat := 400

/-- The wording of a fault. -/
def Fault.message : Fault → String
  | unknown name => s!"unknown encoding: {name}"
  | noText name =>
    let name := String.ofList (name.toList.take shownLimit)
    s!"'{name}' is not a text encoding; use codecs.decode() to handle arbitrary codecs"
  | nullInName => "embedded null character"
  | halvesInName halves => halves.message
  | unreadable message => message

/-- Bytes without the mark that may stand in front of UTF-8. -/
def withoutMark : List UInt8 → List UInt8
  | 0xEF :: 0xBB :: 0xBF :: rest => rest
  | data => data

/-- The reader of an encoding that replaces what means nothing, if it has one here. -/
def reader? (own : String) : Option (List UInt8 → List Char) :=
  match own with
  | "ascii" => some (SingleByte.decode SingleByte.ascii)
  | "utf_8" => some Utf8.decode
  | "utf_8_sig" => some fun data => Utf8.decode (withoutMark data)
  | "utf_16" => some Utf16.decode
  | "utf_16_le" => some (Utf16.decodeIn .lowFirst)
  | "utf_16_be" => some (Utf16.decodeIn .highFirst)
  | "latin_1" => some (SingleByte.decode SingleByte.latin1)
  | "cp1252" => some (SingleByte.decode SingleByte.windows1252)
  | _ => none

/-- The wording of the refusal of an encoding that reads nothing at all where bytes that mean
nothing are to be replaced. -/
def refusal? (own : String) : Option String :=
  match own with
  | "idna" =>
    some "decoding with 'idna' codec failed (UnicodeError: Unsupported error handling replace)"
  | "undefined" => some "decoding with 'undefined' codec failed (UnicodeError: undefined encoding)"
  | _ => none

/-- The readers of the registered encodings that have none here: the register's own name and the
bytes lead to a text, or to the wording of a failure. There need be none. -/
structure Readers where
  read : String → List UInt8 → Except String (List Char) :=
    fun own _ => .error s!"no reader for the encoding {own}"

/-- Bytes as text in a registered encoding, or the wording of a failure. -/
def Readers.text (readers : Readers) (own : String) (data : List UInt8) :
    Except String (List Char) :=
  match reader? own, refusal? own with
  | some reader, _ => .ok (reader data)
  | none, some message => .error message
  | none, none => readers.read own data

/-- What keeps a text from being a name at all. -/
def nameFault? (name : String) : Option Fault :=
  match firstHalves? name with
  | some halves => some (.halvesInName halves)
  | none => if name.toList.contains '\x00' then some .nullInName else none

/-- Bytes as text in the encoding of a name. -/
def decode (readers : Readers) (name : String) (data : List UInt8) : Except Fault (List Char) :=
  match nameFault? name with
  | some fault => .error fault
  | none =>
    if data.isEmpty then .ok []
    else
      match canonical? name with
      | some own => (readers.text own data).mapError .unreadable
      | none => .error (if isTransform name then .noText name else .unknown name)

end Toolpath.Encoding
