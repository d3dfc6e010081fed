import Toolpath.Text.Half
import Toolpath.Text.Printable
/-!
# Quoted texts

A text between quotes on one line, as diagnostics show it. The quotes are single unless the text
holds a single quote and no double quote; what would end the text or not show is escaped.

## Main definitions

* `Toolpath.Text.quoted` — the quoted form of a text.
* `Toolpath.Text.hex` — a number in a fixed count of hexadecimal digits.
-/

namespace Toolpath.Text

/-- The last `count` hexadecimal digits of a number, in lower case. -/
def hex : (count : Nat) → Nat → List Char
  | 0, _ => []
  | count + 1, n => hex count (n / 16) ++ [Nat.digitChar (n % 16)]

/-- The code of a character that is not printable; half of a pair shows as what it is. -/
def escapedCode (c : Char) : List Char :=
  let n := (halfUnit? c).getD c.toNat
  if n < 0x100 then '\\' :: 'x' :: hex 2 n
  else if n < 0x10000 then '\\' :: 'u' :: hex 4 n
  else '\\' :: 'U' :: hex 8 n

/-- A character inside a quoted text: the backslash and the quote itself take a backslash, the
three common controls their letters, and what is not printable its code. -/
def quotedChar (quote c : Char) : List Char :=
  if c = quote || c = '\\' then ['\\', c]
  else if c = '\t' then ['\\', 't']
  else if c = '\n' then ['\\', 'n']
  else if c = '\r' then ['\\', 'r']
  else if isPrintable c then [c]
  else escapedCode c

/-- The single quote. -/
def singleQuote : Char := Char.ofNat 39

/-- The quoted form of a text. -/
def quoted (s : List Char) : List Char :=
  let quote := if s.contains singleQuote && !s.contains '"' then '"' else singleQuote
  quote :: s.flatMap (quotedChar quote) ++ [quote]

end Toolpath.Text
