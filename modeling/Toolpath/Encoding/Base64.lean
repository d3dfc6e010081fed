/-!
# Base 64

Bytes written as text, six bits to a character. Characters outside of the alphabet are skipped,
and padding counts only where it fills a group of four.

## Main definitions

* `Toolpath.Encoding.Base64.decode?` — the bytes that a text spells.
-/

namespace Toolpath.Encoding.Base64

/-- The six bits of a character. -/
def sextet? (c : Char) : Option Nat :=
  let n := c.toNat
  if 65 ≤ n && n ≤ 90 then some (n - 65)
  else if 97 ≤ n && n ≤ 122 then some (n - 71)
  else if 48 ≤ n && n ≤ 57 then some (n + 4)
  else if n = 43 then some 62
  else if n = 47 then some 63
  else none

/-- The bytes of the characters to come, when `held` are the sextets of the group that is open
and `pads` the padding signs behind them. Padding that fills a group ends the text; other padding
is skipped, and so are the characters outside of the alphabet. -/
def bytes? (held : List Nat) (pads : Nat) : List Char → Option (List UInt8)
  | [] => if held.isEmpty then some [] else none
  | c :: s =>
    if c = '=' then
      if held.length < 2 then bytes? held pads s
      else if 4 ≤ held.length + pads + 1 then some []
      else bytes? held (pads + 1) s
    else
      match sextet? c, held with
      | none, _ => bytes? held pads s
      | some d, [] => bytes? [d] 0 s
      | some d, [a] => ((a * 4 + d / 16).toUInt8 :: ·) <$> bytes? [a, d] 0 s
      | some d, [a, b] => ((b % 16 * 16 + d / 4).toUInt8 :: ·) <$> bytes? [a, b, d] 0 s
      | some d, _ :: _ :: c :: _ => ((c % 4 * 64 + d).toUInt8 :: ·) <$> bytes? [] 0 s

/-- The bytes that a text spells. -/
def decode? (s : List Char) : Option (List UInt8) := bytes? [] 0 s

end Toolpath.Encoding.Base64
