/-!
# UTF-8

A character is written in one to four bytes. The first byte tells how many follow and limits the
second one, so that no character has two forms and no half of a pair has any. Bytes that start no
character are a fault: it takes the first byte and those that could still have followed it, and it
is read as one replacement character or reported.

## Main definitions

* `Toolpath.Encoding.Utf8.Lead`, `lead?` — what a first byte tells.
* `Toolpath.Encoding.Utf8.head` — the character or the fault at the start of bytes.
* `Toolpath.Encoding.Utf8.decode` — bytes as text with every fault replaced.
* `Toolpath.Encoding.Utf8.firstFault?` — the first fault and its place in a block.
* `Toolpath.Encoding.Utf8.encode` — text as bytes.
-/

namespace Toolpath.Encoding

/-- What stands for bytes that are no character. -/
def replacement : Char := Char.ofNat 0xFFFD

namespace Utf8

/-! ## The start of bytes -/

/-- What the first byte of a character of several bytes tells. -/
structure Lead where
  /-- The number of bytes that follow, less one. -/
  more : Nat
  /-- The part of the character's number that the first byte holds. -/
  payload : Nat
  /-- The least second byte. -/
  low : Nat
  /-- The greatest second byte. -/
  high : Nat
  deriving DecidableEq, Repr

/-- What a byte from 128 on tells as a first byte, if it is one. -/
def lead? (b : Nat) : Option Lead :=
  if b < 0xC2 then none
  else if b < 0xE0 then some ⟨0, b - 0xC0, 0x80, 0xBF⟩
  else if b < 0xF0 then
    some ⟨1, b - 0xE0, if b = 0xE0 then 0xA0 else 0x80, if b = 0xED then 0x9F else 0xBF⟩
  else if b < 0xF5 then
    some ⟨2, b - 0xF0, if b = 0xF0 then 0x90 else 0x80, if b = 0xF4 then 0x8F else 0xBF⟩
  else none

/-- Why bytes start no character. -/
inductive Fault where
  | invalidStart
  | invalidContinuation
  | unexpectedEnd
  deriving DecidableEq, Repr

/-- The wording of a fault. -/
def Fault.message : Fault → String
  | invalidStart => "invalid start byte"
  | invalidContinuation => "invalid continuation byte"
  | unexpectedEnd => "unexpected end of data"

/-- The bytes that follow a first byte, of which the next lies between `low` and `high` and `more`
others follow: the number of the character or the fault, and the rest. -/
def follow (low high : Nat) (more number : Nat) : List UInt8 → Except Fault Nat × List UInt8
  | [] => (.error .unexpectedEnd, [])
  | b :: rest =>
    if low ≤ b.toNat && b.toNat ≤ high then
      let number := number * 64 + (b.toNat - 0x80)
      match more with
      | 0 => (.ok number, rest)
      | more + 1 => follow 0x80 0xBF more number rest
    else (.error .invalidContinuation, b :: rest)

/-- The character or the fault at the start of bytes, and the bytes after it. -/
def head (b : UInt8) (rest : List UInt8) : Except Fault Char × List UInt8 :=
  if b.toNat < 0x80 then (.ok (Char.ofNat b.toNat), rest)
  else
    match lead? b.toNat with
    | none => (.error .invalidStart, rest)
    | some l =>
      let (r, rest) := follow l.low l.high l.more l.payload rest
      (r.map Char.ofNat, rest)

/-- What follows a first byte is no longer than what stood there. -/
theorem length_follow_le (low high more number : Nat) (s : List UInt8) :
    (follow low high more number s).2.length ≤ s.length := by
  induction s generalizing low high more number with
  | nil => simp [follow]
  | cons b rest ih =>
    unfold follow
    split
    · cases more with
      | zero => simp
      | succ more =>
        have h := ih 0x80 0xBF more (number * 64 + (b.toNat - 0x80))
        simp only [List.length_cons]
        omega
    · simp

/-- A character or a fault takes at least its first byte. -/
theorem length_head_le (b : UInt8) (rest : List UInt8) :
    (head b rest).2.length ≤ rest.length := by
  unfold head
  split
  · simp
  · split
    · simp
    · exact length_follow_le ..

/-! ## Whole texts -/

/-- Bytes as text, with a replacement character for every fault. -/
def decode : List UInt8 → List Char
  | [] => []
  | b :: rest =>
    (match (head b rest).1 with
      | .ok c => c
      | .error _ => replacement)
      :: decode (head b rest).2
termination_by s => s.length
decreasing_by
  have h := length_head_le b rest
  simp only [List.length_cons]
  omega

/-- A fault: the place and the bytes, and why they are one. -/
structure Misfit where
  place : Nat
  bytes : List UInt8
  fault : Fault
  deriving DecidableEq, Repr

/-- The number of bytes that are read at once. -/
def blockSize : Nat := 8192

/-- A block of bytes: where it starts and where it ends. -/
structure Block where
  start : Nat := 0
  stop : Nat := blockSize

/-- The block of `size` bytes at a place that follow those of a block. What the end of a block cuts
off goes with the next one. -/
def Block.of (block : Block) (place size : Nat) : Block :=
  if block.stop < place + size then ⟨place, block.stop + blockSize⟩ else block

/-- Whether bytes start with two of three that would be half of a pair. -/
def startsHalf (b : UInt8) : List UInt8 → Bool
  | c :: _ => b == 0xED && 0xA0 ≤ c && c ≤ 0xBF
  | [] => false

/-- The first fault in bytes that start at `place`, which counts from the start of its block. Bytes
that the end cuts off are kept until it is known, and are then a block of their own. -/
def firstFaultIn (block : Block) (place : Nat) : List UInt8 → Option Misfit
  | [] => none
  | b :: rest =>
    match (head b rest).1 with
    | .ok c => firstFaultIn (block.of place c.utf8Size) (place + c.utf8Size) (head b rest).2
    | .error .unexpectedEnd => some ⟨0, b :: rest, .unexpectedEnd⟩
    | .error fault =>
      let taken := 1 + (rest.length - (head b rest).2.length)
      let seen := if fault = .invalidStart then 1 else if startsHalf b rest then 3 else taken + 1
      let place := if rest.length + 1 < seen then 0 else place - (block.of place seen).start
      some ⟨place, (b :: rest).take taken, fault⟩
termination_by s => s.length
decreasing_by
  have h := length_head_le b rest
  simp only [List.length_cons]
  omega

/-- The first fault in bytes. -/
def firstFault? (s : List UInt8) : Option Misfit := firstFaultIn {} 0 s

/-- The bytes of a character. -/
def encodeChar (c : Char) : List UInt8 :=
  let n := c.toNat
  let more (n : Nat) : UInt8 := (0x80 + n % 0x40).toUInt8
  if n < 0x80 then [n.toUInt8]
  else if n < 0x800 then [(0xC0 + n / 0x40).toUInt8, more n]
  else if n < 0x10000 then [(0xE0 + n / 0x1000).toUInt8, more (n / 0x40), more n]
  else [(0xF0 + n / 0x40000).toUInt8, more (n / 0x1000), more (n / 0x40), more n]

/-- Text as bytes. -/
def encode (s : List Char) : List UInt8 := s.flatMap encodeChar

end Utf8

end Toolpath.Encoding
