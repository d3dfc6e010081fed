/-!
# White space, trimming and cutting

Texts are handled as lists of characters. This module holds the class of white space that
surrounds words and numbers, the trimming of both ends, and the cutting of a text at a separator.

## Main definitions

* `Toolpath.Text.isBlank` — white space: the Unicode spaces and the control characters that
  separate lines, fields and records.
* `Toolpath.Text.trimLeft`, `trimRight`, `trim` — a text without the white space at its ends.
* `Toolpath.Text.isMargin`, `trimMargin` — the white space that may surround a number.
* `Toolpath.Text.pieces` — the pieces of a text between the occurrences of a separator.
* `Toolpath.Text.joined` — pieces put together again with a separator between them.
-/

namespace Toolpath.Text

/-! ## White space -/

/-- White space: tab to carriage return, the four information separators, the space, the next
line, and the Unicode characters of width but without ink. -/
def isBlank (c : Char) : Bool :=
  let n := c.toNat
  (9 ≤ n && n ≤ 13) || (28 ≤ n && n ≤ 32) || n == 0x85 || n == 0xA0 || n == 0x1680
    || (0x2000 ≤ n && n ≤ 0x200A) || n == 0x2028 || n == 0x2029 || n == 0x202F || n == 0x205F
    || n == 0x3000

/-- A text without the white space in front. -/
def trimLeft (s : List Char) : List Char := s.dropWhile isBlank

/-- A text without the white space behind. -/
def trimRight (s : List Char) : List Char := (s.reverse.dropWhile isBlank).reverse

/-- A text without the white space at both ends. -/
def trim (s : List Char) : List Char := trimRight (trimLeft s)

/-- The white space around numbers: the information separators are none. -/
def isMargin (c : Char) : Bool := isBlank c && !(28 ≤ c.toNat && c.toNat ≤ 31)

/-- A text without the white space around a number. -/
def trimMargin (s : List Char) : List Char :=
  ((s.dropWhile isMargin).reverse.dropWhile isMargin).reverse

/-! ## Cutting and joining -/

/-- The pieces of a text between the occurrences of `sep`: one more than there are
separators, so the empty text has one empty piece. -/
def pieces (sep : Char) : List Char → List (List Char)
  | [] => [[]]
  | c :: s =>
    if c = sep then [] :: pieces sep s
    else
      match pieces sep s with
      | [] => [[c]]
      | p :: ps => (c :: p) :: ps

/-- Pieces put together with `sep` between neighbours. -/
def joined (sep : List Char) : List (List Char) → List Char
  | [] => []
  | [p] => p
  | p :: ps => p ++ sep ++ joined sep ps

/-- A text has at least one piece. -/
theorem pieces_ne_nil (sep : Char) (s : List Char) : pieces sep s ≠ [] := by
  cases s with
  | nil => simp [pieces]
  | cons c s =>
    unfold pieces
    split
    · simp
    · split <;> simp

/-- A text cut before the first character with the property: the part in front, and the
character with all that follows it. -/
def cutBefore (p : Char → Bool) (s : List Char) : List Char × List Char :=
  (s.takeWhile (fun c => !p c), s.dropWhile (fun c => !p c))

/-- A text cut at the first occurrence of `sep`, which is left out; `none` behind if there is
no such character. -/
def cutAt (sep : Char) (s : List Char) : List Char × Option (List Char) :=
  match cutBefore (· == sep) s with
  | (front, []) => (front, none)
  | (front, _ :: rest) => (front, some rest)

/-- A text padded with spaces behind to a width. -/
def padRight (width : Nat) (s : List Char) : List Char :=
  s ++ List.replicate (width - s.length) ' '

/-- A text padded with spaces in front to a width. -/
def padLeft (width : Nat) (s : List Char) : List Char :=
  List.replicate (width - s.length) ' ' ++ s

end Toolpath.Text
