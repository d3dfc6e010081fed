import Mathlib.Tactic.Lemma
import Toolpath.Decimal.Reader
import Toolpath.Proofs.Digits
import Toolpath.Proofs.Rounding
/-!
# The double nearest to a decimal

A whole number times a power of ten is read in one of two ways. With few digits and a small power,
two doubles that are exact are multiplied or divided, which rounds once. Otherwise the number is
taken in whole numbers and rounded. Both ways end in the double that owns the number, and a positive
double is packed in 64 bits without loss.

## Main definitions

* `Toolpath.Decimal.Rounding.Canonical.double` — the double with a mantissa and an exponent.
* `Toolpath.Decimal.Rounding.ofNat`, `Rounding.powerOfTen` — whole numbers below `2 ^ 53` and the
  powers of ten that are doubles.

## Main results

* `Toolpath.Decimal.Rounding.unpack_pack` — a positive double is packed without loss.
* `Toolpath.Decimal.Rounding.mul_eq`, `Rounding.div_eq` — a product and a quotient of doubles are
  rounded to the double that owns them.
* `Toolpath.Decimal.Rounding.nearest_eq` — the nearest double is the one that owns the number.
* `Toolpath.Decimal.withSign_nearest` — the same for a double with a sign.
-/

namespace Toolpath

namespace Decimal

open Float.Model (UnpackedFloat Format totalExponent)
open Float.Model.UnpackedFloat (unpackExponent unpackMantissa unpackSign packComponents
  unpackExponent_packComponents unpackMantissa_packComponents roundWithAccuracy accuracyOfFraction)

/-! ## Doubles as packed numbers -/

/-- Doubles with the same bits are the same. -/
lemma eq_of_toBits_eq {x y : Float} (h : x.toBits.toNat = y.toBits.toNat) : x = y := by
  obtain ⟨⟨bits, valid⟩⟩ := x
  obtain ⟨⟨bits', valid'⟩⟩ := y
  obtain rfl : bits = bits' := UInt64.toNat_inj.mp h
  rfl

/-- The bits of a double: its sign, its exponent and its mantissa. -/
lemma toNat_packComponents (s : UnpackedFloat.Sign) (e : BitVec 11) (m : BitVec 52) :
    (packComponents .binary64 s e m).toNat =
      s.toBitVec.toNat * 2 ^ 63 + e.toNat * 2 ^ 52 + m.toNat := by
  have happend : packComponents .binary64 s e m = s.toBitVec ++ e ++ m := rfl
  have he := e.isLt
  have hm := m.isLt
  rw [happend, BitVec.toNat_append, ← Nat.shiftLeft_add_eq_or_of_lt hm, BitVec.toNat_append,
    ← Nat.shiftLeft_add_eq_or_of_lt he, Nat.shiftLeft_eq, Nat.shiftLeft_eq]
  omega

/-- The sign of a double, read as a number. -/
lemma toNat_unpackSign (b : BitVec Format.binary64.numBits) :
    (unpackSign b).toNat = b.toNat / 2 ^ 63 % 2 := by
  have hshift : (unpackSign b).toNat = b.toNat >>> 63 % 2 := rfl
  rw [hshift, Nat.shiftRight_eq_div_pow]

/-- A mantissa with its first bit in front. -/
lemma toNat_append_one (m : BitVec 52) : (1#1 ++ m).toNat = 2 ^ 52 + m.toNat := by
  rw [BitVec.toNat_append, ← Nat.shiftLeft_add_eq_or_of_lt m.isLt]
  rfl

/-- The sign of a packed number. -/
lemma ofBitVec_unpackSign_packComponents (s : UnpackedFloat.Sign) (e : BitVec 11)
    (m : BitVec 52) :
    UnpackedFloat.Sign.ofBitVec (unpackSign (packComponents .binary64 s e m)) = s := by
  have hsign : unpackSign (packComponents .binary64 s e m) = s.toBitVec := by
    apply BitVec.eq_of_toNat_eq
    have hs := s.toBitVec.isLt
    have he := e.isLt
    have hm := m.isLt
    rw [toNat_unpackSign, toNat_packComponents]
    omega
  rw [hsign]
  cases s <;> rfl

namespace Rounding

variable {r : Rounding} {v : ℚ}

/-- The exponent of a double as it is packed. -/
def biased (r : Rounding) : ℕ := if 2 ^ 52 ≤ r.mantissa then (r.exponent + 1075).toNat else 0

/-- A positive double is packed with its mantissa but for the first bit. -/
lemma pack_eq (hr : r.Canonical) (s : UnpackedFloat.Sign) :
    UnpackedFloat.pack .binary64 (.finite s r.mantissa r.exponent hr.pos) =
      packComponents .binary64 s (.ofNat 11 r.biased) (.ofNat 52 r.mantissa) := by
  have hpack : UnpackedFloat.pack .binary64 (.finite s r.mantissa r.exponent hr.pos) =
      if 2 ^ 11 ≤ (r.exponent + 1023 + 52).toNat + 1 then UnpackedFloat.packedInfinity .binary64 s
      else if r.mantissa.log2 + 1 = 53 then
        packComponents .binary64 s (.ofNat 11 (r.exponent + 1023 + 52).toNat)
          (.ofNat 52 r.mantissa)
      else packComponents .binary64 s 0#11 (.ofNat 52 r.mantissa) := rfl
  have hgreatest := hr.greatest
  have hlog : r.mantissa.log2 < 53 := (Nat.log2_lt hr.pos.ne').mpr hr.lt
  have hfirst : 52 ≤ r.mantissa.log2 ↔ 2 ^ 52 ≤ r.mantissa := Nat.le_log2 hr.pos.ne'
  rw [hpack, if_neg (by omega), biased]
  by_cases hfull : 2 ^ 52 ≤ r.mantissa
  · have hexp : (r.exponent + 1023 + 52).toNat = (r.exponent + 1075).toNat := by omega
    rw [if_pos (by omega), if_pos hfull, hexp]
  · rw [if_neg (by omega), if_neg hfull]

/-- Bits with a middling exponent are those of a mantissa with its first bit in front. -/
lemma unpack_of_exponent {b : BitVec Format.binary64.numBits} (htop : unpackExponent b ≠ -1#11)
    (hleast : unpackExponent b ≠ 0#11) :
    ∃ h, UnpackedFloat.unpack .binary64 b =
      .finite (.ofBitVec (unpackSign b)) (1#1 ++ unpackMantissa b).toNat
        ((unpackExponent b).toNat - 1075) h := by
  refine ⟨?_, ?_⟩
  · have hfirst := toNat_append_one (unpackMantissa b)
    omega
  · unfold UnpackedFloat.unpack
    dsimp only
    rw [if_neg htop, if_neg hleast]
    rfl

/-- Bits with the least exponent are those of a mantissa without a bit in front. -/
lemma unpack_of_least {b : BitVec Format.binary64.numBits} (hleast : unpackExponent b = 0#11)
    (hzero : unpackMantissa b ≠ 0#52) :
    ∃ h, UnpackedFloat.unpack .binary64 b =
      .finite (.ofBitVec (unpackSign b)) (unpackMantissa b).toNat (-1074) h := by
  have htop : unpackExponent b ≠ -1#11 := by
    rw [hleast]
    decide
  refine ⟨?_, ?_⟩
  · exact Nat.pos_of_ne_zero fun h => hzero (BitVec.eq_of_toNat_eq h)
  · unfold UnpackedFloat.unpack
    dsimp only
    rw [if_neg htop, if_pos hleast, dif_neg hzero, UnpackedFloat.finite.injEq]
    refine ⟨rfl, rfl, ?_⟩
    rw [hleast]
    rfl

/-- **A positive double is unpacked as it was packed.** -/
lemma unpack_pack (hr : r.Canonical) (s : UnpackedFloat.Sign) :
    (Float.Model.pack (.finite s r.mantissa r.exponent hr.pos)).unpack =
      .finite s r.mantissa r.exponent hr.pos := by
  have hlt := hr.lt
  have hleast := hr.least
  have hgreatest := hr.greatest
  have hpos := hr.pos
  have hbits : (Float.Model.pack (.finite s r.mantissa r.exponent hr.pos)).unpack =
      UnpackedFloat.unpack .binary64
        (UnpackedFloat.pack .binary64 (.finite s r.mantissa r.exponent hr.pos)) := rfl
  rw [hbits, pack_eq hr]
  have hbiased : r.biased < 2047 := by
    unfold biased
    split <;> omega
  obtain ⟨b, hb⟩ : ∃ b, b = packComponents .binary64 s (.ofNat 11 r.biased) (.ofNat 52 r.mantissa) :=
    ⟨_, rfl⟩
  have hsign : UnpackedFloat.Sign.ofBitVec (unpackSign b) = s := by
    rw [hb, ofBitVec_unpackSign_packComponents]
  have hexponent : unpackExponent b = BitVec.ofNat 11 r.biased := by
    rw [hb, unpackExponent_packComponents]
  have hmantissa : unpackMantissa b = BitVec.ofNat 52 r.mantissa := by
    rw [hb, unpackMantissa_packComponents]
  have hexponentNat : (unpackExponent b).toNat = r.biased % 2 ^ 11 :=
    congrArg BitVec.toNat hexponent
  have hmantissaNat : (unpackMantissa b).toNat = r.mantissa % 2 ^ 52 :=
    congrArg BitVec.toNat hmantissa
  rw [← hb]
  by_cases hfull : 2 ^ 52 ≤ r.mantissa
  · have hexp : r.biased = (r.exponent + 1075).toNat := if_pos hfull
    have hne : ∀ n < 2048, n ≠ r.biased → unpackExponent b ≠ BitVec.ofNat 11 n := by
      intro n hn hdiffer h
      have htoNat : r.biased % 2 ^ 11 = n % 2 ^ 11 := congrArg BitVec.toNat (hexponent.symm.trans h)
      omega
    obtain ⟨_, hunpack⟩ := unpack_of_exponent (hne 2047 (by omega) (by omega))
      (hne 0 (by omega) (by omega))
    rw [hunpack, UnpackedFloat.finite.injEq, toNat_append_one, hmantissaNat, hexponentNat]
    exact ⟨hsign, by omega, by omega⟩
  · have hexp : r.biased = 0 := if_neg hfull
    have hleastExponent := hr.full.resolve_left hfull
    have hzero : unpackMantissa b ≠ 0#52 := by
      rw [hmantissa]
      intro h
      have htoNat : r.mantissa % 2 ^ 52 = 0 := congrArg BitVec.toNat h
      omega
    obtain ⟨_, hunpack⟩ := unpack_of_least (hexponent.trans (congrArg (BitVec.ofNat 11) hexp)) hzero
    rw [hunpack, UnpackedFloat.finite.injEq, hmantissaNat, hleastExponent]
    exact ⟨hsign, Nat.mod_eq_of_lt (by omega), rfl⟩

/-- The double of a mantissa and an exponent, with a sign. -/
def Canonical.double (hr : r.Canonical) (negative : Bool) : Float :=
  .ofModel (.pack (.finite (if negative then .negative else .positive) r.mantissa r.exponent hr.pos))

lemma unpack_double (hr : r.Canonical) (negative : Bool) :
    (hr.double negative).toModel.unpack =
      .finite (if negative then .negative else .positive) r.mantissa r.exponent hr.pos :=
  unpack_pack hr _

end Rounding

/-- The bits of a finite double: its sign, its exponent, and its mantissa but for the first bit. -/
lemma bits_of_decode {x : Float} {negative : Bool} {m : ℕ} {e : ℤ}
    (h : decode x = .finite negative m e) :
    ∃ biased < 2047,
      x.toBits.toNat = (if negative then 1 else 0) * 2 ^ 63 + biased * 2 ^ 52 + m % 2 ^ 52 ∧
        (biased = 0 ∧ m < 2 ^ 52 ∧ e = -1074 ∨
          0 < biased ∧ 2 ^ 52 ≤ m ∧ m < 2 ^ 53 ∧ e = biased - 1075) := by
  have hbits : x.toBits.toNat < 2 ^ 64 := x.toBits.toNat_lt
  have hhidden : hiddenBit = 2 ^ 52 := rfl
  have hleast : leastExponent = -1074 := rfl
  have hsign : ∀ b : Bool, (x.toBits.toNat / 0x8000000000000000 == 1) = b →
      x.toBits.toNat / 2 ^ 63 = if b then 1 else 0 := by
    rintro (_ | _) hb
    · have hne := beq_eq_false_iff_ne.mp hb
      show x.toBits.toNat / 2 ^ 63 = 0
      omega
    · exact beq_iff_eq.mp hb
  unfold decode at h
  dsimp only at h
  rw [hhidden] at h
  by_cases htop : x.toBits.toNat / 2 ^ 52 % 2048 = 2047
  · rw [if_pos htop] at h
    split at h <;> cases h
  rw [if_neg htop] at h
  refine ⟨x.toBits.toNat / 2 ^ 52 % 2048, by omega, ?_⟩
  by_cases hzero : x.toBits.toNat / 2 ^ 52 % 2048 = 0
  · rw [if_pos hzero, Binary.finite.injEq] at h
    have hnegative := hsign _ h.1
    rw [← hnegative]
    omega
  · rw [if_neg hzero, Binary.finite.injEq] at h
    have hnegative := hsign _ h.1
    rw [← hnegative]
    omega

/-- What is read from the bits of a positive double is its mantissa and its exponent. -/
lemma canonical_of_decode {x : Float} {negative : Bool} {m : ℕ} {e : ℤ}
    (h : decode x = .finite negative m e) (hm : 0 < m) : Rounding.Canonical ⟨m, e⟩ := by
  obtain ⟨biased, hbiased, -, hparts⟩ := bits_of_decode h
  constructor <;> dsimp only <;> omega

/-- A double is the one with the mantissa and the exponent that are read from its bits. -/
lemma eq_double {x : Float} {negative : Bool} {m : ℕ} {e : ℤ}
    (h : decode x = .finite negative m e) (hm : 0 < m) :
    x = (canonical_of_decode h hm).double negative := by
  obtain ⟨biased, hbiased, hbits, hparts⟩ := bits_of_decode h
  have hr := canonical_of_decode h hm
  apply eq_of_toBits_eq
  have hdouble : (hr.double negative).toBits.toNat =
      (UnpackedFloat.pack .binary64
        (.finite (if negative then .negative else .positive) m e hm)).toNat := rfl
  have hexp : Rounding.biased ⟨m, e⟩ = biased := by
    show (if 2 ^ 52 ≤ m then (e + 1075).toNat else 0) = biased
    split <;> omega
  rw [hdouble, Rounding.pack_eq hr, toNat_packComponents, hexp, hbits, BitVec.toNat_ofNat,
    BitVec.toNat_ofNat, Nat.mod_eq_of_lt (by omega : biased < 2 ^ 11)]
  cases negative <;> rfl

/-! ## Quotients and products -/

namespace Rounding

variable {r : Rounding} {v : ℚ}

/-- A double owns the number that it stands for. -/
lemma owns_self (r : Rounding) : r.Owns (r.mantissa * 2 ^ r.exponent) := by
  have hne : (2 : ℚ) ^ r.exponent ≠ 0 := (zpow_pos (by norm_num) _).ne'
  have hbelow : (0 : ℚ) < r.below := by
    rcases r.below_eq with ⟨h, -⟩ | h <;> rw [h] <;> norm_num
  have hself : (r.mantissa * 2 ^ r.exponent : ℚ) / 2 ^ r.exponent = r.mantissa :=
    mul_div_cancel_right₀ _ hne
  refine ⟨?_, ?_, fun _ => ⟨?_, ?_⟩⟩ <;> rw [hself] <;> linarith

/-- What a double owns is positive, and not below half of the least double. -/
lemma Owns.two_zpow_least_le (hr : r.Canonical) (h : r.Owns v) : (2 : ℚ) ^ (-1075 : ℤ) ≤ v := by
  have hm : (1 : ℚ) ≤ r.mantissa := by exact_mod_cast hr.pos
  have hq : (1 / 2 : ℚ) ≤ v / 2 ^ r.exponent := by linarith [h.lower, r.below_le]
  rw [le_div_iff₀ (zpow_pos (by norm_num) _)] at hq
  have hpow : (2 : ℚ) ^ (-1074 : ℤ) ≤ 2 ^ r.exponent :=
    zpow_le_zpow_right₀ (by norm_num) hr.least
  have hhalf : (2 : ℚ) ^ (-1075 : ℤ) = 1 / 2 * 2 ^ (-1074 : ℤ) := by
    rw [show (-1074 : ℤ) = -1075 + 1 from rfl, zpow_add₀ (by norm_num), zpow_one]
    ring
  rw [hhalf]
  linarith

lemma Owns.pos (hr : r.Canonical) (h : r.Owns v) : 0 < v :=
  lt_of_lt_of_le (zpow_pos (by norm_num) _) (h.two_zpow_least_le hr)

/-- **A product is the double that owns it.** -/
lemma mul_eq (hr : r.Canonical) {m m' : ℕ} {e e' : ℤ} (hm : 0 < m) (hm' : 0 < m')
    (h : r.Owns ((m * 2 ^ e) * (m' * 2 ^ e'))) (he : e + e' ≤ r.exponent) :
    UnpackedFloat.mul .binary64 (.finite .positive m e hm) (.finite .positive m' e' hm') =
      .finite .positive r.mantissa r.exponent hr.pos := by
  refine roundWithAccuracy_eq hr h .positive ?_ he
  have hproduct : (m * 2 ^ e * (m' * 2 ^ e') : ℚ) / 2 ^ (e + e') = (m * m' : ℕ) := by
    rw [zpow_add₀ (by norm_num)]
    field_simp
    push_cast
    ring
  rw [hproduct]
  exact Stands.ofExact _

/-- **A quotient is the double that owns it.** -/
lemma div_eq (hr : r.Canonical) {m m' : ℕ} {e e' : ℤ} (hm : 0 < m) (hm' : 0 < m')
    (h : r.Owns ((m * 2 ^ e) / (m' * 2 ^ e'))) :
    UnpackedFloat.div .binary64 (.finite .positive m e hm) (.finite .positive m' e' hm') =
      .finite .positive r.mantissa r.exponent hr.pos := by
  have hdiv : UnpackedFloat.div .binary64 (.finite .positive m e hm) (.finite .positive m' e' hm') =
      let low := min (e - e') (max (totalExponent m e - totalExponent m' e' - 53) (-1074))
      let k := (e - e' - low).toNat
      roundWithAccuracy .binary64 .positive (m <<< k / m') low
        (accuracyOfFraction (m <<< k % m') m') := rfl
  rw [hdiv]
  extract_lets low k
  have hm'' : (0 : ℚ) < m' := by exact_mod_cast hm'
  have hquotient : (m * 2 ^ e / (m' * 2 ^ e') : ℚ) = m / m' * 2 ^ (e - e') := by
    rw [zpow_sub₀ (by norm_num)]
    field_simp
  have hfirst : (2 : ℚ) ^ ((m.log2 : ℤ) - (m'.log2 + 1) + (e - e')) <
      m * 2 ^ e / (m' * 2 ^ e') := by
    have hlog : (2 : ℚ) ^ m.log2 ≤ m := by exact_mod_cast Nat.log2_self_le hm.ne'
    have hlog' : (m' : ℚ) < 2 ^ (m'.log2 + 1) := by exact_mod_cast Nat.lt_log2_self
    rw [hquotient, zpow_add₀ (by norm_num), zpow_sub₀ (by norm_num)]
    refine mul_lt_mul_of_pos_right ?_ (zpow_pos (by norm_num) _)
    exact_mod_cast div_lt_div₀' hlog hlog' (by positivity) hm''
  have hlow : low ≤ r.exponent := by
    have hlt := (zpow_lt_zpow_iff_right₀ (by norm_num)).mp (hfirst.trans (h.lt_two_zpow hr))
    have hleast := hr.least
    have hdef : low = min (e - e') (max (totalExponent m e - totalExponent m' e' - 53) (-1074)) :=
      rfl
    unfold totalExponent at hdef
    omega
  refine roundWithAccuracy_eq hr h .positive ?_ hlow
  have hk : e - e' = low + (k : ℤ) := by
    have hle : low ≤ e - e' := min_le_left _ _
    have hdef : k = (e - e' - low).toNat := rfl
    omega
  have hscaled : (m * 2 ^ e / (m' * 2 ^ e') : ℚ) / 2 ^ low = (m <<< k : ℕ) / m' := by
    rw [hquotient, hk, zpow_add₀ (by norm_num), Nat.shiftLeft_eq, zpow_natCast]
    push_cast
    field_simp
  rw [hscaled]
  exact Stands.ofFraction _ hm'

end Rounding

/-! ## Whole numbers and powers of ten -/

namespace Rounding

/-- A whole number of at most 53 bits as a double. -/
def ofNat (n : ℕ) : Rounding := ⟨n <<< (52 - n.log2), -((52 - n.log2 : ℕ) : ℤ)⟩

/-- A power of ten as a double. -/
def powerOfTen (k : ℕ) : Rounding :=
  ⟨10 ^ k * 2 ^ 52 / 2 ^ (10 ^ k).log2, ((10 ^ k).log2 : ℤ) - 52⟩

variable {n : ℕ}

lemma canonical_ofNat (hn : 0 < n) (hlt : n < 2 ^ 53) : (ofNat n).Canonical := by
  have hlog : n.log2 < 53 := (Nat.log2_lt hn.ne').mpr hlt
  have hself := Nat.log2_self_le hn.ne'
  have hlt' : n < 2 ^ (n.log2 + 1) := Nat.lt_log2_self
  have hpow : 2 ^ n.log2 * 2 ^ (52 - n.log2) = 2 ^ 52 := by
    rw [← Nat.pow_add]
    congr 1
    omega
  have hmantissa : (ofNat n).mantissa = n * 2 ^ (52 - n.log2) := Nat.shiftLeft_eq _ _
  have hfull : 2 ^ 52 ≤ (ofNat n).mantissa := by
    rw [hmantissa, ← hpow]
    exact Nat.mul_le_mul_right _ hself
  have hupper : (ofNat n).mantissa < 2 ^ 53 := by
    rw [hmantissa, show 2 ^ 53 = 2 ^ 52 * 2 from rfl, ← hpow, Nat.mul_right_comm]
    exact Nat.mul_lt_mul_of_pos_right hlt' (Nat.two_pow_pos _)
  refine ⟨by omega, hupper, ?_, ?_, .inl hfull⟩
  · show -1074 ≤ -((52 - n.log2 : ℕ) : ℤ)
    omega
  · show -((52 - n.log2 : ℕ) : ℤ) ≤ 971
    omega

lemma value_ofNat (n : ℕ) : ((ofNat n).mantissa : ℚ) * 2 ^ (ofNat n).exponent = n := by
  rw [ofNat, Nat.shiftLeft_eq, zpow_neg, zpow_natCast]
  push_cast
  field_simp

/-- A whole number of at most 53 bits is a double. -/
lemma toFloat_eq (hn : 0 < n) (hlt : n < 2 ^ 53) :
    n.toUInt64.toFloat = (canonical_ofNat hn hlt).double false := by
  have hr := canonical_ofNat hn hlt
  have htoNat : n.toUInt64.toNat = n := Nat.mod_eq_of_lt (by omega)
  have hfloat : n.toUInt64.toFloat =
      .ofModel (.pack (UnpackedFloat.ofNat .binary64 n.toUInt64.toNat)) := rfl
  have hcompare : compare (n : ℤ) 0 = .gt := compare_gt_iff_gt.mpr (by omega)
  have htarget : (0 - max (totalExponent n 0 - 53) (-1074)).toNat = 52 - n.log2 := by
    have hlog : n.log2 < 53 := (Nat.log2_lt hn.ne').mpr hlt
    unfold totalExponent
    omega
  have hround : UnpackedFloat.round .binary64 .positive n 0 =
      roundWithAccuracy .binary64 .positive (n <<< (52 - n.log2)) (0 - ((52 - n.log2 : ℕ) : ℤ))
        .exact := by
    unfold UnpackedFloat.round UnpackedFloat.decreaseExponent
    rw [targetExponent_eq]
    dsimp only
    rw [htarget]
  have hunpacked : UnpackedFloat.ofNat .binary64 n =
      .finite .positive (ofNat n).mantissa (ofNat n).exponent hr.pos := by
    unfold UnpackedFloat.ofNat UnpackedFloat.ofInt UnpackedFloat.normalize
    rw [hcompare]
    dsimp only
    rw [Int.toNat_natCast, hround, Int.zero_sub]
    refine roundWithAccuracy_eq hr (owns_self _) .positive ?_ (le_refl _)
    show Stands _ ((ofNat n).mantissa * 2 ^ (ofNat n).exponent / 2 ^ (ofNat n).exponent)
    rw [mul_div_cancel_right₀ _ (zpow_pos (by norm_num) _).ne']
    exact Stands.ofExact _
  rw [hfloat, htoNat, hunpacked]
  rfl

/-- The powers of ten in the table are read from their bits. -/
lemma decode_powersOfTen : ∀ k : Fin 23,
    decode Float.exactlyRepresentablePowersOfTen[k] =
      .finite false (powerOfTen k).mantissa (powerOfTen k).exponent := by
  decide +kernel

lemma value_powerOfTen {k : ℕ} (hk : k < 23) :
    ((powerOfTen k).mantissa : ℚ) * 2 ^ (powerOfTen k).exponent = (10 : ℚ) ^ k := by
  have hexact : ∀ k : Fin 23, 10 ^ k.val * 2 ^ 52 / 2 ^ (10 ^ k.val).log2 * 2 ^ (10 ^ k.val).log2 =
      10 ^ k.val * 2 ^ 52 := by decide +kernel
  have hk' : ((10 ^ k * 2 ^ 52 / 2 ^ (10 ^ k).log2 : ℕ) : ℚ) * 2 ^ (10 ^ k).log2 =
      10 ^ k * 2 ^ 52 := by exact_mod_cast hexact ⟨k, hk⟩
  rw [powerOfTen, zpow_sub₀ (by norm_num), zpow_natCast, ← mul_div_assoc, hk']
  norm_num

lemma canonical_powerOfTen {k : ℕ} (hk : k < 23) : (powerOfTen k).Canonical := by
  have hpos : ∀ k : Fin 23, 0 < (powerOfTen k).mantissa := by decide +kernel
  exact canonical_of_decode (decode_powersOfTen ⟨k, hk⟩) (hpos ⟨k, hk⟩)

/-- The powers of ten in the table are doubles. -/
lemma powersOfTen_eq {k : ℕ} (hk : k < 23) :
    Float.exactlyRepresentablePowersOfTen[(⟨k, hk⟩ : Fin 23)] =
      (canonical_powerOfTen hk).double false :=
  eq_double (decode_powersOfTen ⟨k, hk⟩) (canonical_powerOfTen hk).pos

/-! ## Decimals -/

variable {r : Rounding} {v : ℚ} {m : ℕ}

/-- The exponent of a decimal that a double owns is not too large. -/
lemma exponent_le (hr : r.Canonical) (hm : 0 < m) {k : ℤ} (h : r.Owns (m * 10 ^ k)) : k < 1024 := by
  by_contra hk
  have hk : 1024 ≤ k := Int.not_lt.mp hk
  have hone : (1 : ℚ) ≤ m := by exact_mod_cast hm
  have hgreatest : (2 : ℚ) ^ (r.exponent + 53) ≤ 2 ^ (1024 : ℤ) :=
    zpow_le_zpow_right₀ (by norm_num) (by linarith [hr.greatest])
  have hten : (2 : ℚ) ^ (1024 : ℤ) ≤ 10 ^ k :=
    calc (2 : ℚ) ^ (1024 : ℤ) ≤ 10 ^ (1024 : ℤ) :=
        zpow_le_zpow_left₀ (by norm_num) (by norm_num) (by norm_num)
      _ ≤ 10 ^ k := zpow_le_zpow_right₀ (by norm_num) hk
  have hlt := h.lt_two_zpow hr
  have hle : (10 : ℚ) ^ k ≤ m * 10 ^ k := le_mul_of_one_le_left (by positivity) hone
  linarith

/-- The exponent of a decimal that a double owns is not too small for its mantissa. -/
lemma le_exponent (hr : r.Canonical) (hm : 0 < m) {k : ℤ} (h : r.Owns (m * 10 ^ k)) :
    -(2048 + (m.log2 : ℤ)) ≤ k := by
  by_contra hk
  obtain ⟨n, rfl⟩ : ∃ n : ℕ, k = -(n : ℤ) := ⟨(-k).toNat, by omega⟩
  have hpow : ((10 : ℚ) ^ n)⁻¹ ≤ (2 ^ n)⁻¹ :=
    inv_anti₀ (by positivity) (pow_le_pow_left₀ (by norm_num) (by norm_num) n)
  have hlog : (m : ℚ) < 2 ^ (m.log2 + 1) := by exact_mod_cast Nat.lt_log2_self
  have hsmall : (2 : ℚ) ^ (m.log2 + 1) * (2 ^ n)⁻¹ ≤ 2 ^ (-1075 : ℤ) := by
    rw [← zpow_natCast, ← zpow_natCast, ← zpow_neg, ← zpow_add₀ (by norm_num)]
    exact zpow_le_zpow_right₀ (by norm_num) (by push_cast; omega)
  have hlt : (m : ℚ) * 10 ^ (-(n : ℤ)) < 2 ^ (m.log2 + 1) * (2 ^ n)⁻¹ := by
    rw [zpow_neg, zpow_natCast]
    exact mul_lt_mul_of_lt_of_le_of_nonneg_of_pos hlog hpow (by positivity) (by positivity)
  have hle := h.two_zpow_least_le hr
  linarith

/-- **A decimal is converted to the double that owns it.** -/
lemma unpacked_ofScientific (hr : r.Canonical) (hm : 0 < m) {k : ℤ} (h : r.Owns (m * 10 ^ k)) :
    UnpackedFloat.ofScientific .binary64 m k = .finite .positive r.mantissa r.exponent hr.pos := by
  have hupper := exponent_le hr hm h
  have hlower := le_exponent hr hm h
  have hbits : (2 : ℤ) ^ Format.binary64.exponentBits = 2048 := by decide
  unfold UnpackedFloat.ofScientific
  rw [dif_neg hm.ne', if_neg (by omega), if_neg (by omega)]
  by_cases hk : 0 ≤ k
  · rw [if_pos hk]
    obtain ⟨n, rfl⟩ := Int.eq_ofNat_of_zero_le hk
    have hone : (1 : ℚ) ≤ m * 10 ^ (n : ℤ) := by
      rw [zpow_natCast]
      exact_mod_cast Nat.mul_pos hm (Nat.pow_pos (by decide))
    have hexp := (zpow_lt_zpow_iff_right₀ (by norm_num)).mp
      ((zpow_zero (2 : ℚ)).trans_le hone |>.trans_lt (h.lt_two_zpow hr))
    refine mul_eq hr _ _ ?_ (by show (-53 : ℤ) + 0 ≤ _; omega)
    have hvalue : (m * 10 ^ (n : ℤ) : ℚ) =
        ((m <<< 53 : ℕ) * 2 ^ (-53 : ℤ)) * ((10 ^ n : ℕ) * 2 ^ (0 : ℤ)) := by
      rw [Nat.shiftLeft_eq]
      push_cast
      norm_num
      ring
    rw [hvalue] at h
    exact h
  · rw [if_neg hk]
    obtain ⟨n, rfl⟩ : ∃ n : ℕ, k = -(n : ℤ) := ⟨(-k).toNat, by omega⟩
    refine div_eq hr _ _ ?_
    rw [zpow_neg, zpow_natCast] at h
    simpa [div_eq_mul_inv] using h

/-- A double above the least exponent is at least a power of two. -/
lemma Canonical.two_zpow_le {a : Rounding} (ha : a.Canonical) (he : a.exponent ≠ -1074) :
    (2 : ℚ) ^ (52 + a.exponent) ≤ a.mantissa * 2 ^ a.exponent := by
  have hfull : (2 : ℚ) ^ 52 ≤ a.mantissa := by exact_mod_cast ha.full.resolve_right he
  rw [zpow_add₀ (by norm_num)]
  exact mul_le_mul_of_nonneg_right (by exact_mod_cast hfull) (zpow_pos (by norm_num) _).le

/-- The product of doubles above the least exponent is the double that owns it. -/
lemma double_mul {a b : Rounding} (hr : r.Canonical) (ha : a.Canonical) (hb : b.Canonical)
    (h : r.Owns ((a.mantissa * 2 ^ a.exponent) * (b.mantissa * 2 ^ b.exponent)))
    (hea : a.exponent ≠ -1074) (heb : b.exponent ≠ -1074) :
    ha.double false * hb.double false = hr.double false := by
  have hmul : ha.double false * hb.double false =
      .ofModel (.pack (UnpackedFloat.mul .binary64 (ha.double false).toModel.unpack
        (hb.double false).toModel.unpack)) := rfl
  have he : a.exponent + b.exponent ≤ r.exponent := by
    have hle := mul_le_mul (ha.two_zpow_le hea) (hb.two_zpow_le heb) (zpow_pos (by norm_num) _).le
      (by positivity)
    rw [← zpow_add₀ (by norm_num)] at hle
    have hlt := (zpow_lt_zpow_iff_right₀ (by norm_num)).mp (hle.trans_lt (h.lt_two_zpow hr))
    omega
  rw [hmul, unpack_double, unpack_double]
  exact congrArg (fun u => Float.ofModel (.pack u)) (mul_eq hr ha.pos hb.pos h he)

/-- The quotient of doubles is the double that owns it. -/
lemma double_div {a b : Rounding} (hr : r.Canonical) (ha : a.Canonical) (hb : b.Canonical)
    (h : r.Owns ((a.mantissa * 2 ^ a.exponent) / (b.mantissa * 2 ^ b.exponent))) :
    ha.double false / hb.double false = hr.double false := by
  have hdiv : ha.double false / hb.double false =
      .ofModel (.pack (UnpackedFloat.div .binary64 (ha.double false).toModel.unpack
        (hb.double false).toModel.unpack)) := rfl
  rw [hdiv, unpack_double, unpack_double]
  exact congrArg (fun u => Float.ofModel (.pack u)) (div_eq hr ha.pos hb.pos h)

/-- A whole number times a power of ten is converted to the double that owns it. -/
lemma ofScientific_times (hr : r.Canonical) (hm : 0 < m) {k : ℕ}
    (h : r.Owns (m * 10 ^ (k : ℤ))) : Float.ofScientific m false k = hr.double false := by
  unfold Float.ofScientific
  split
  · next hsmall =>
    obtain ⟨hlt, hk⟩ := hsmall
    have hk : k < 23 := Nat.lt_succ_iff.mpr hk
    have hvalue : r.Owns (((ofNat m).mantissa * 2 ^ (ofNat m).exponent) *
        ((powerOfTen k).mantissa * 2 ^ (powerOfTen k).exponent)) := by
      rwa [value_ofNat, value_powerOfTen hk, ← zpow_natCast]
    refine Eq.trans ?_ (double_mul hr (canonical_ofNat hm hlt) (canonical_powerOfTen hk) hvalue
      ?_ ?_)
    · rw [← toFloat_eq hm hlt, ← powersOfTen_eq hk]
      rfl
    · show -((52 - m.log2 : ℕ) : ℤ) ≠ -1074
      omega
    · show ((10 ^ k).log2 : ℤ) - 52 ≠ -1074
      omega
  · exact congrArg (fun u => Float.ofModel (.pack u)) (unpacked_ofScientific hr hm h)

/-- A whole number over a power of ten is converted to the double that owns it. -/
lemma ofScientific_over (hr : r.Canonical) (hm : 0 < m) {k : ℕ}
    (h : r.Owns (m * 10 ^ (-(k : ℤ)))) : Float.ofScientific m true k = hr.double false := by
  unfold Float.ofScientific
  split
  · next hsmall =>
    obtain ⟨hlt, hk⟩ := hsmall
    have hk : k < 23 := Nat.lt_succ_iff.mpr hk
    have hvalue : r.Owns (((ofNat m).mantissa * 2 ^ (ofNat m).exponent) /
        ((powerOfTen k).mantissa * 2 ^ (powerOfTen k).exponent)) := by
      rwa [value_ofNat, value_powerOfTen hk, div_eq_mul_inv, ← zpow_natCast, ← zpow_neg]
    refine Eq.trans ?_ (double_div hr (canonical_ofNat hm hlt) (canonical_powerOfTen hk) hvalue)
    rw [← toFloat_eq hm hlt, ← powersOfTen_eq hk]
    rfl
  · have hneg : Int.negOfNat k = -(k : ℤ) := Int.negOfNat_eq
    have hunpacked := unpacked_ofScientific hr hm h
    rw [← hneg] at hunpacked
    exact congrArg (fun u => Float.ofModel (.pack u)) hunpacked

/-- Three powers of two are less than one of ten. -/
lemma two_pow_le_ten_pow (n : ℕ) : (2 : ℚ) ^ (3 * n) ≤ 10 ^ n := by
  rw [pow_mul]
  exact pow_le_pow_left₀ (by norm_num) (by norm_num) n

/-- The places of a decimal that a double owns are not far from the point. -/
lemma magnitude_bounds (hr : r.Canonical) (hm : 0 < m) {k : ℤ} (h : r.Owns (m * 10 ^ k)) :
    -400 ≤ ((Text.ofNat m).length : ℤ) + k ∧ ((Text.ofNat m).length : ℤ) + k ≤ 400 := by
  obtain ⟨n, hn, hlower, hupper⟩ := Text.exists_length_ofNat hm
  have hlower' : (10 : ℚ) ^ ((n : ℤ) + k) ≤ m * 10 ^ k := by
    rw [zpow_add₀ (by norm_num), zpow_natCast]
    exact mul_le_mul_of_nonneg_right (by exact_mod_cast hlower) (by positivity)
  have hupper' : (m * 10 ^ k : ℚ) < 10 ^ ((n : ℤ) + 1 + k) := by
    rw [zpow_add₀ (by norm_num)]
    exact mul_lt_mul_of_pos_right (by exact_mod_cast hupper) (by positivity)
  have hgreatest : (2 : ℚ) ^ (r.exponent + 53) ≤ 10 ^ (399 : ℤ) :=
    calc (2 : ℚ) ^ (r.exponent + 53) ≤ 2 ^ ((3 * 399 : ℕ) : ℤ) :=
          zpow_le_zpow_right₀ (by norm_num) (by have := hr.greatest; omega)
      _ ≤ 10 ^ (399 : ℤ) := by exact_mod_cast two_pow_le_ten_pow 399
  have hleast : (10 : ℚ) ^ (-400 : ℤ) ≤ 2 ^ (-1075 : ℤ) :=
    calc (10 : ℚ) ^ (-400 : ℤ) ≤ (2 ^ (3 * 400))⁻¹ := by
          rw [zpow_neg]
          exact inv_anti₀ (by positivity) (by exact_mod_cast two_pow_le_ten_pow 400)
      _ = 2 ^ (-(3 * 400 : ℕ) : ℤ) := by rw [zpow_neg, zpow_natCast]
      _ ≤ 2 ^ (-1075 : ℤ) := zpow_le_zpow_right₀ (by norm_num) (by norm_num)
  have hsmall := (zpow_lt_zpow_iff_right₀ (by norm_num)).mp
    (hlower'.trans_lt ((h.lt_two_zpow hr).trans_le hgreatest))
  have hlarge := (zpow_lt_zpow_iff_right₀ (by norm_num)).mp
    ((hleast.trans (h.two_zpow_least_le hr)).trans_lt hupper')
  omega

/-- **The double nearest to a decimal is the one that owns it.** -/
theorem nearest_eq (hr : r.Canonical) (hm : 0 < m) {k : ℤ} (h : r.Owns (m * 10 ^ k)) :
    nearest m k = hr.double false := by
  obtain ⟨hlower, hupper⟩ := magnitude_bounds hr hm h
  have hguard : ¬ (decide (m = 0) || decide (((Text.ofNat m).length : ℤ) + k < -400)) = true := by
    simp only [Bool.or_eq_true, decide_eq_true_eq]
    omega
  unfold nearest
  dsimp only
  rw [if_neg hguard, if_neg (by omega)]
  split
  · next hk =>
    obtain ⟨n, rfl⟩ := Int.eq_ofNat_of_zero_le hk
    exact ofScientific_times hr hm h
  · next hk =>
    obtain ⟨n, rfl⟩ : ∃ n : ℕ, k = -(n : ℤ) := ⟨(-k).toNat, by omega⟩
    rw [Int.neg_neg, Int.toNat_natCast]
    exact ofScientific_over hr hm h

end Rounding

/-- A double with the other sign. -/
lemma neg_double {r : Rounding} (hr : r.Canonical) : -hr.double false = hr.double true := by
  have hneg : -hr.double false = .ofModel (.pack (hr.double false).toModel.unpack.neg) := rfl
  rw [hneg, Rounding.unpack_double]
  rfl

/-- **A decimal that a double owns is read back as the double.** -/
theorem withSign_nearest {x : Float} {negative : Bool} {m : ℕ} {e : ℤ}
    (hx : decode x = .finite negative m e) (hm : 0 < m) {d : ℕ} (hd : 0 < d) {t : ℤ}
    (h : Rounding.Owns ⟨m, e⟩ (d * 10 ^ t)) : withSign negative (nearest d t) = x := by
  have hr := canonical_of_decode hx hm
  rw [eq_double hx hm, Rounding.nearest_eq hr hd h]
  cases negative with
  | false => rfl
  | true => exact neg_double hr

end Decimal

end Toolpath
