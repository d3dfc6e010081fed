import Mathlib.Tactic.Lemma
import Toolpath.Encoding.Utf8
/-!
# Text in UTF-8

A text written in UTF-8 is read back as it was. The bytes of a character say by themselves where it
ends, so what stands behind them does not matter to it, and a text is read character by character.

## Main results

* `Toolpath.Encoding.Utf8.encodeChar_eq` — the bytes of a character are those of the core library.
* `Toolpath.Encoding.Utf8.decode_encodeChar_append` — a character in front of bytes is read first.
* `Toolpath.Encoding.Utf8.decode_encode` — a text is read back from its bytes.
-/

namespace Toolpath.Encoding.Utf8

/-- The number of a character is that of no half of a pair. -/
lemma toNat_scalar (c : Char) : c.toNat < 0xD800 ∨ 0xDFFF < c.toNat ∧ c.toNat < 0x110000 := c.valid

/-- A number below 256 is that of a byte. -/
lemma toNat_toUInt8 {n : Nat} (h : n < 256) : n.toUInt8.toNat = n := by
  rw [Nat.toUInt8, UInt8.toNat_ofNat']
  exact Nat.mod_eq_of_lt h

/-! ## Bytes of a character -/

/-- The bytes of a character are those of the core library. -/
theorem encodeChar_eq (c : Char) : encodeChar c = String.utf8EncodeChar c := by
  have hscalar := toNat_scalar c
  have hval : c.val.toNat = c.toNat := rfl
  unfold encodeChar String.utf8EncodeChar
  simp only [hval, Nat.toUInt8]
  by_cases h1 : c.toNat < 0x80
  · rw [if_pos h1, if_pos (show c.toNat ≤ 0x7f by omega)]
  · rw [if_neg h1, if_neg (show ¬ c.toNat ≤ 0x7f by omega)]
    by_cases h2 : c.toNat < 0x800
    · have hlead : 0xC0 + c.toNat / 0x40 = c.toNat / 64 % 0x20 + 0xc0 := by omega
      rw [if_pos h2, if_pos (show c.toNat ≤ 0x7ff by omega), hlead, Nat.add_comm 0x80]
    · rw [if_neg h2, if_neg (show ¬ c.toNat ≤ 0x7ff by omega)]
      by_cases h3 : c.toNat < 0x10000
      · have hlead : 0xE0 + c.toNat / 0x1000 = c.toNat / 4096 % 0x10 + 0xe0 := by omega
        rw [if_pos h3, if_pos (show c.toNat ≤ 0xffff by omega), hlead, Nat.add_comm 0x80,
          Nat.add_comm 0x80]
      · have hlead : 0xF0 + c.toNat / 0x40000 = c.toNat / 262144 % 0x08 + 0xf0 := by omega
        rw [if_neg h3, if_neg (show ¬ c.toNat ≤ 0xffff by omega), hlead, Nat.add_comm 0x80,
          Nat.add_comm 0x80, Nat.add_comm 0x80]

/-! ## Reading a character back -/

/-- A byte in its limits is taken, and the others follow. -/
lemma follow_cons {low high number x : Nat} (more : Nat) (rest : List UInt8) (hx : x < 256)
    (hlow : low ≤ x) (hhigh : x ≤ high) :
    follow low high more number (x.toUInt8 :: rest) =
      match more with
      | 0 => (.ok (number * 64 + (x - 0x80)), rest)
      | more + 1 => follow 0x80 0xBF more (number * 64 + (x - 0x80)) rest := by
  rw [follow, toNat_toUInt8 hx]
  exact if_pos (by simp [hlow, hhigh])

/-- The last byte of a character ends its number. -/
lemma follow_last {low high number n : Nat} (rest : List UInt8)
    (hlow : low ≤ 0x80 + n % 0x40) (hhigh : 0x80 + n % 0x40 ≤ high) :
    follow low high 0 number ((0x80 + n % 0x40).toUInt8 :: rest) =
      (.ok (number * 64 + n % 0x40), rest) := by
  rw [follow_cons 0 rest (by omega) hlow hhigh, Nat.add_sub_cancel_left]

/-- A byte in the middle of a character adds to its number. -/
lemma follow_next {low high number n more : Nat} (rest : List UInt8)
    (hlow : low ≤ 0x80 + n % 0x40) (hhigh : 0x80 + n % 0x40 ≤ high) :
    follow low high (more + 1) number ((0x80 + n % 0x40).toUInt8 :: rest) =
      follow 0x80 0xBF more (number * 64 + n % 0x40) rest := by
  rw [follow_cons (more + 1) rest (by omega) hlow hhigh, Nat.add_sub_cancel_left]

/-- A first byte that announces others leaves the rest to them. -/
lemma head_lead {x more payload low high : Nat} (rest : List UInt8) (hx : x < 256)
    (hlarge : 0x80 ≤ x) (hlead : lead? x = some ⟨more, payload, low, high⟩) :
    head x.toUInt8 rest =
      ((follow low high more payload rest).1.map Char.ofNat,
        (follow low high more payload rest).2) := by
  rw [head, toNat_toUInt8 hx, if_neg (by omega), hlead]

/-- **The bytes of a character are read as the character**, whatever stands behind them. -/
theorem head_encodeChar (c : Char) (rest : List UInt8) :
    ∃ b bytes, encodeChar c = b :: bytes ∧ head b (bytes ++ rest) = (.ok c, rest) := by
  have hscalar := toNat_scalar c
  have hchar : ∀ n, n = c.toNat → (.ok n : Except Fault Nat).map Char.ofNat = .ok c := by
    rintro n rfl
    simp [Except.map]
  by_cases h1 : c.toNat < 0x80
  · refine ⟨c.toNat.toUInt8, [], by rw [encodeChar, if_pos h1], ?_⟩
    rw [head, toNat_toUInt8 (by omega), if_pos h1, Char.ofNat_toNat]
    rfl
  by_cases h2 : c.toNat < 0x800
  · have hlead : lead? (0xC0 + c.toNat / 0x40) = some ⟨0, c.toNat / 0x40, 0x80, 0xBF⟩ := by
      rw [lead?, if_neg (by omega), if_pos (by omega), Nat.add_sub_cancel_left]
    refine ⟨_, _, by rw [encodeChar, if_neg h1, if_pos h2], ?_⟩
    rw [head_lead _ (by omega) (by omega) hlead, List.cons_append,
      follow_last _ (by omega) (by omega), hchar _ (by omega)]
    rfl
  by_cases h3 : c.toNat < 0x10000
  · have hlead : lead? (0xE0 + c.toNat / 0x1000) =
        some ⟨1, c.toNat / 0x1000, if 0xE0 + c.toNat / 0x1000 = 0xE0 then 0xA0 else 0x80,
          if 0xE0 + c.toNat / 0x1000 = 0xED then 0x9F else 0xBF⟩ := by
      rw [lead?, if_neg (by omega), if_neg (by omega), if_pos (by omega), Nat.add_sub_cancel_left]
    refine ⟨_, _, by rw [encodeChar, if_neg h1, if_neg h2, if_pos h3], ?_⟩
    rw [head_lead _ (by omega) (by omega) hlead, List.cons_append, List.cons_append,
      follow_next _ (by split <;> omega) (by split <;> omega),
      follow_last _ (by omega) (by omega), hchar _ (by omega)]
    rfl
  · have hlead : lead? (0xF0 + c.toNat / 0x40000) =
        some ⟨2, c.toNat / 0x40000, if 0xF0 + c.toNat / 0x40000 = 0xF0 then 0x90 else 0x80,
          if 0xF0 + c.toNat / 0x40000 = 0xF4 then 0x8F else 0xBF⟩ := by
      rw [lead?, if_neg (by omega), if_neg (by omega), if_neg (by omega), if_pos (by omega),
        Nat.add_sub_cancel_left]
    refine ⟨_, _, by rw [encodeChar, if_neg h1, if_neg h2, if_neg h3], ?_⟩
    rw [head_lead _ (by omega) (by omega) hlead, List.cons_append, List.cons_append,
      List.cons_append, follow_next _ (by split <;> omega) (by split <;> omega),
      follow_next _ (by omega) (by omega), follow_last _ (by omega) (by omega), hchar _ (by omega)]
    rfl

/-! ## Whole texts -/

/-- A character in front of bytes is read first. -/
theorem decode_encodeChar_append (c : Char) (rest : List UInt8) :
    decode (encodeChar c ++ rest) = c :: decode rest := by
  obtain ⟨b, bytes, hbytes, hhead⟩ := head_encodeChar c rest
  rw [hbytes, List.cons_append, decode, hhead]

/-- **A text is read back** from its bytes. -/
theorem decode_encode (s : List Char) : decode (s.flatMap String.utf8EncodeChar) = s := by
  induction s with
  | nil => rw [List.flatMap_nil, decode]
  | cons c s ih => rw [List.flatMap_cons, ← encodeChar_eq, decode_encodeChar_append, ih]

end Toolpath.Encoding.Utf8
