import Toolpath.Encoding.Utf8
/-!
# Encodings of one byte for each character

A byte is a character by itself. The encodings differ in the bytes from 128 on; one that means
nothing is read as a replacement character.

## Main definitions

* `Toolpath.Encoding.SingleByte.ascii`, `latin1`, `windows1252` — a byte as a character.
* `Toolpath.Encoding.SingleByte.decode` — bytes as text.
-/

namespace Toolpath.Encoding.SingleByte

/-- The characters of ASCII; the upper half means nothing. -/
def ascii (b : UInt8) : Char := if b.toNat < 128 then Char.ofNat b.toNat else replacement

/-- The first 256 characters. -/
def latin1 (b : UInt8) : Char := Char.ofNat b.toNat

/-- The characters of the bytes from 128 to 159 in western Windows; zero means nothing. -/
def windows1252Block : List Nat := [
  0x20AC, 0, 0x201A, 0x0192, 0x201E, 0x2026, 0x2020, 0x2021, 0x02C6, 0x2030, 0x0160, 0x2039,
  0x0152, 0, 0x017D, 0, 0, 0x2018, 0x2019, 0x201C, 0x201D, 0x2022, 0x2013, 0x2014, 0x02DC,
  0x2122, 0x0161, 0x203A, 0x0153, 0, 0x017E, 0x0178]

/-- The characters of western Windows. -/
def windows1252 (b : UInt8) : Char :=
  if 128 ≤ b.toNat && b.toNat < 160 then
    match windows1252Block[b.toNat - 128]? with
    | some n => if n = 0 then replacement else Char.ofNat n
    | none => replacement
  else latin1 b

/-- Bytes as text. -/
def decode (character : UInt8 → Char) (data : List UInt8) : List Char := data.map character

end Toolpath.Encoding.SingleByte
