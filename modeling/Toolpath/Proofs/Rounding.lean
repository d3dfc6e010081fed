import Mathlib.Algebra.Order.Field.Basic
import Mathlib.Algebra.Order.Field.Power
import Mathlib.Algebra.Order.Ring.Abs
import Mathlib.Tactic.FieldSimp
import Mathlib.Tactic.Linarith
import Mathlib.Tactic.NormNum
import Mathlib.Tactic.Positivity
import Mathlib.Tactic.Ring
import Toolpath.Decimal.Shortest
import Toolpath.Proofs.Finite
/-!
# Numbers that round to a double

A positive double owns the numbers between its two half-way neighbours, ends included iff its
mantissa is even. Arithmetic works on a mantissa that is cut off, with two bits for what was lost.
These bits tell where a number lies between two mantissas, so every number that a double owns is
rounded to it, whatever the exponent at which it was cut off.

## Main definitions

* `Toolpath.Decimal.Rounding.Canonical` — the mantissa and the exponent of a positive double.
* `Toolpath.Decimal.Rounding.Owns` — a number rounds to a double.
* `Toolpath.Decimal.Stands` — a mantissa with two bits stands for a number.

## Main results

* `Toolpath.Decimal.Stands.shiftRight`, `Stands.rounded` — cutting off a bit, and rounding.
* `Toolpath.Decimal.Rounding.roundWithAccuracy_eq` — a number is rounded to the double that owns it.
-/

namespace Toolpath.Decimal

open Float.Model (UnpackedFloat totalExponent)
open Float.Model.UnpackedFloat (Accuracy ExtendedMantissa roundWithAccuracy shiftToTargetExponent
  accuracyOfFraction)

/-! ## What a double owns -/

namespace Rounding

/-- The mantissa and the exponent of a positive double: 53 bits with the first one set, or fewer at
the least exponent. -/
structure Canonical (r : Rounding) : Prop where
  pos : 0 < r.mantissa
  lt : r.mantissa < 2 ^ 53
  least : -1074 ≤ r.exponent
  greatest : r.exponent ≤ 971
  full : 2 ^ 52 ≤ r.mantissa ∨ r.exponent = -1074

/-- A number rounds to a double: it lies between the half-way neighbours, and on one of them only if
the mantissa is even. -/
structure Owns (r : Rounding) (v : ℚ) : Prop where
  lower : (r.mantissa : ℚ) - r.below / 4 ≤ v / 2 ^ r.exponent
  upper : v / 2 ^ r.exponent ≤ r.mantissa + 1 / 2
  inside : r.mantissa % 2 = 1 →
    (r.mantissa : ℚ) - r.below / 4 < v / 2 ^ r.exponent ∧ v / 2 ^ r.exponent < r.mantissa + 1 / 2

end Rounding

/-! ## Mantissas that are cut off -/

/-- A mantissa with a bit for the half and a bit for what is below stands for a number. -/
structure Stands (em : ExtendedMantissa) (q : ℚ) : Prop where
  exact : em.stickyBit = false → q = em.mantissa + if em.roundBit then 1 / 2 else 0
  between : em.stickyBit = true → (em.mantissa : ℚ) + (if em.roundBit then 1 / 2 else 0) < q ∧
    q < em.mantissa + (if em.roundBit then 1 / 2 else 0) + 1 / 2

namespace Stands

variable {em : ExtendedMantissa} {q : ℚ}

/-- A number is at least its mantissa, and less than the next one. -/
lemma bounds (h : Stands em q) : (em.mantissa : ℚ) ≤ q ∧ q < em.mantissa + 1 := by
  obtain ⟨m, half, rest⟩ := em
  cases rest with
  | false =>
    have hq := h.exact rfl
    cases half <;> norm_num at hq <;> constructor <;> dsimp only <;> linarith
  | true =>
    have hq := h.between rfl
    cases half <;> norm_num at hq <;> constructor <;> dsimp only <;> linarith

/-- Where one bit is cut off, the mantissa stands for half the number. -/
lemma shiftRightOne (h : Stands em q) : Stands em.shiftRightOne (q / 2) := by
  obtain ⟨m, half, rest⟩ := em
  have hbits : (m : ℚ) / 2 = (m / 2 : ℕ) + if (m % 2 != 0) = true then 1 / 2 else 0 := by
    have hdiv : (m : ℚ) = 2 * (m / 2 : ℕ) + (m % 2 : ℕ) := by exact_mod_cast (Nat.div_add_mod m 2).symm
    rcases Nat.mod_two_eq_zero_or_one m with hm | hm <;>
      (rw [hm] at hdiv ⊢; rw [hdiv]; norm_num; try ring)
  constructor
  · intro hexact
    have hhalf : half = false ∧ rest = false := by
      simpa [ExtendedMantissa.shiftRightOne] using hexact
    have hq := h.exact hhalf.2
    rw [hhalf.1] at hq
    rw [ExtendedMantissa.shiftRightOne]
    dsimp only
    rw [← hbits, hq]
    norm_num
  · intro hbetween
    have hq := h.bounds
    dsimp only at hq
    have hstrict : (m : ℚ) < q := by
      cases rest with
      | true =>
        have hlt := (h.between rfl).1
        cases half <;> norm_num at hlt <;> linarith
      | false =>
        have hhalf : half = true := by simpa [ExtendedMantissa.shiftRightOne] using hbetween
        have heq := h.exact rfl
        rw [hhalf] at heq
        norm_num at heq
        linarith
    rw [ExtendedMantissa.shiftRightOne]
    dsimp only
    rw [← hbits]
    constructor <;> linarith

/-- Where some bits are cut off, the mantissa stands for the number over a power of two. -/
lemma shiftRight (h : Stands em q) (k : ℕ) : Stands (em >>> k) (q / 2 ^ k) := by
  induction k with
  | zero =>
    rw [pow_zero, div_one]
    exact h
  | succ k ih =>
    rw [pow_succ, ← div_div]
    exact ih.shiftRightOne

/-- A number is rounded to the whole number that it is nearest to, a tie to the even one. -/
lemma rounded (h : Stands em q) {n : ℕ} (hlower : (n : ℚ) - 1 / 2 ≤ q) (hupper : q ≤ n + 1 / 2)
    (hodd : n % 2 = 1 → (n : ℚ) - 1 / 2 < q ∧ q < n + 1 / 2) : em.roundedMantissa = n := by
  obtain ⟨m, half, rest⟩ := em
  have hcast : ∀ {a b : ℕ}, (a : ℚ) < b + 1 → a ≤ b := fun hab =>
    Nat.lt_succ_iff.mp (by exact_mod_cast hab)
  cases rest with
  | false =>
    have hq := h.exact rfl
    cases half with
    | false =>
      norm_num at hq
      have h1 : m ≤ n := hcast (by linarith)
      have h2 : n ≤ m := hcast (by linarith)
      exact Nat.le_antisymm h1 h2
    | true =>
      norm_num at hq
      have h1 : m ≤ n := hcast (by linarith)
      have h2 : n ≤ m + 1 := hcast (by push_cast; linarith)
      have heven : n % 2 = 0 := by
        by_contra hne
        obtain ⟨hlt, hgt⟩ := hodd (by omega)
        have h3 : n ≤ m := hcast (by linarith)
        have h4 : m < n := by
          have : (m : ℚ) < n := by linarith
          exact_mod_cast this
        omega
      show m + m % 2 = n
      omega
  | true =>
    obtain ⟨hq, hq'⟩ := h.between rfl
    cases half with
    | false =>
      norm_num at hq hq'
      have h1 : m ≤ n := hcast (by linarith)
      have h2 : n ≤ m := hcast (by linarith)
      exact Nat.le_antisymm h1 h2
    | true =>
      norm_num at hq hq'
      have h1 : m + 1 ≤ n := hcast (by push_cast; linarith)
      have h2 : n ≤ m + 1 := hcast (by push_cast; linarith)
      exact Nat.le_antisymm h1 h2

/-- A whole number stands for itself. -/
lemma ofExact (m : ℕ) : Stands (.ofMantissaAndAccuracy m .exact) m where
  exact := by
    intro _
    show (m : ℚ) = m + if false = true then 1 / 2 else 0
    norm_num
  between := fun h => nomatch h

/-- A quotient that is cut off stands for the exact one, with its remainder as accuracy. -/
lemma ofFraction (n : ℕ) {d : ℕ} (hd : 0 < d) :
    Stands (.ofMantissaAndAccuracy (n / d) (accuracyOfFraction (n % d) d)) (n / d : ℚ) := by
  have hd' : (0 : ℚ) < d := by exact_mod_cast hd
  have hn : (n : ℚ) = d * (n / d : ℕ) + (n % d : ℕ) := by exact_mod_cast (Nat.div_add_mod n d).symm
  have hlt : n % d < d := Nat.mod_lt n hd
  have hq : (n / d : ℚ) = (n / d : ℕ) + (n % d : ℕ) / d := by
    rw [hn]
    field_simp
  rw [hq]
  generalize n / d = m
  generalize n % d = r at hlt
  unfold accuracyOfFraction
  by_cases hr : r = 0
  · rw [if_pos hr, hr]
    simpa using ofExact m
  · have hpos : (0 : ℚ) < r / d := div_pos (by exact_mod_cast Nat.pos_of_ne_zero hr) hd'
    have hone : (r / d : ℚ) < 1 := (div_lt_one hd').mpr (by exact_mod_cast hlt)
    rw [if_neg hr]
    rcases lt_trichotomy (2 * r) d with hcmp | hcmp | hcmp
    · have hhalf : (r / d : ℚ) < 1 / 2 := by
        rw [div_lt_iff₀ hd']
        have : (2 * r : ℚ) < d := by exact_mod_cast hcmp
        linarith
      rw [compare_lt_iff_lt.mpr hcmp]
      refine ⟨(fun h => nomatch h), fun _ => ?_⟩
      show (m : ℚ) + (if false = true then 1 / 2 else 0) < _ ∧
        _ < (m : ℚ) + (if false = true then 1 / 2 else 0) + 1 / 2
      norm_num
      constructor <;> linarith
    · have hhalf : (r / d : ℚ) = 1 / 2 := by
        rw [div_eq_iff hd'.ne']
        have : (2 * r : ℚ) = d := by exact_mod_cast hcmp
        linarith
      rw [compare_eq_iff_eq.mpr hcmp]
      refine ⟨fun _ => ?_, fun h => nomatch h⟩
      show (m : ℚ) + r / d = m + if true = true then 1 / 2 else 0
      norm_num
      linarith
    · have hhalf : 1 / 2 < (r / d : ℚ) := by
        rw [lt_div_iff₀ hd']
        have : (d : ℚ) < 2 * r := by exact_mod_cast hcmp
        linarith
      rw [compare_gt_iff_gt.mpr hcmp]
      refine ⟨(fun h => nomatch h), fun _ => ?_⟩
      show (m : ℚ) + (if true = true then 1 / 2 else 0) < _ ∧
        _ < (m : ℚ) + (if true = true then 1 / 2 else 0) + 1 / 2
      norm_num
      constructor <;> linarith

end Stands

/-! ## Rounding -/

/-- A number is cut off at an exponent that depends on its first bit, and at none below it. -/
lemma shiftToTargetExponent_eq (m : ℕ) (e : ℤ) (a : Accuracy) :
    shiftToTargetExponent .binary64 m e a =
      (ExtendedMantissa.ofMantissaAndAccuracy m a >>>
          (max (totalExponent m e - 53) (-1074) - e).toNat,
        e + (max (totalExponent m e - 53) (-1074) - e).toNat) := rfl

/-- A mantissa of at most 53 bits is left alone. -/
lemma shiftToTargetExponent_of_lt {m : ℕ} {e : ℤ} (hm : m < 2 ^ 53) (he : -1074 ≤ e) :
    shiftToTargetExponent .binary64 m e .exact = (.ofMantissaAndAccuracy m .exact, e) := by
  have hlog : m.log2 ≤ 52 := by
    by_cases hzero : m = 0
    · rw [hzero]
      decide
    · exact Nat.lt_succ_iff.mp ((Nat.log2_lt hzero).mpr hm)
  have hshift : (max (totalExponent m e - 53) (-1074) - e).toNat = 0 := by
    unfold totalExponent
    omega
  rw [shiftToTargetExponent_eq, hshift, Int.natCast_zero, Int.add_zero]
  rfl

/-- A mantissa that has grown to 54 bits loses the last one. -/
lemma shiftToTargetExponent_carry {e : ℤ} (he : -1074 ≤ e) :
    shiftToTargetExponent .binary64 (2 ^ 53) e .exact =
      (.ofMantissaAndAccuracy (2 ^ 52) .exact, e + 1) := by
  have hshift : (max (totalExponent (2 ^ 53) e - 53) (-1074) - e).toNat = 1 := by
    unfold totalExponent
    rw [Nat.log2_two_pow]
    omega
  rw [shiftToTargetExponent_eq, hshift]
  rfl

namespace Rounding

variable {r : Rounding} {v : ℚ}

/-- Half a unit lies below a double, or a quarter below a power of two. -/
lemma below_eq (r : Rounding) : r.below = 1 ∧ r.mantissa = 2 ^ 52 ∨ r.below = 2 := by
  unfold below
  split
  · next h => exact .inl ⟨rfl, h.1⟩
  · exact .inr rfl

lemma below_le (r : Rounding) : (r.below : ℚ) ≤ 2 := by
  rcases r.below_eq with ⟨h, -⟩ | h <;> rw [h] <;> norm_num

/-- A double owns less than the next power of two. -/
lemma Owns.lt_two_zpow (hr : r.Canonical) (h : r.Owns v) : v < 2 ^ (r.exponent + 53) := by
  have hm : (r.mantissa : ℚ) + 1 ≤ 2 ^ 53 := by exact_mod_cast hr.lt
  have hq : v / 2 ^ r.exponent < 2 ^ 53 := by linarith [h.upper]
  rw [div_lt_iff₀ (by positivity)] at hq
  rw [zpow_add₀ (by norm_num), mul_comm]
  exact_mod_cast hq

/-- A double above the least exponent owns at least a power of two, but for one quarter of a unit
if it is one itself. -/
lemma Owns.two_zpow_le (hr : r.Canonical) (h : r.Owns v) (he : r.exponent ≠ -1074) :
    2 ^ (r.exponent + 52) ≤ v ∨
      r.mantissa = 2 ^ 52 ∧ (2 ^ 52 - 1 / 4 : ℚ) ≤ v / 2 ^ r.exponent ∧
        v < 2 ^ (r.exponent + 52) := by
  rw [or_iff_not_imp_left, not_le]
  intro hv
  have hq : v / 2 ^ r.exponent < 2 ^ 52 := by
    rw [div_lt_iff₀ (by positivity)]
    rw [zpow_add₀ (by norm_num), mul_comm] at hv
    exact_mod_cast hv
  have hfull := hr.full.resolve_right he
  have hm : r.mantissa = 2 ^ 52 := by
    refine Nat.le_antisymm ?_ hfull
    have hlower := h.lower
    have hbelow := r.below_le
    have : (r.mantissa : ℚ) < 2 ^ 52 + 1 := by linarith
    exact Nat.lt_succ_iff.mp (by exact_mod_cast this)
  have hbelow : r.below = 1 := by
    have hleast := hr.least
    rw [below, if_pos]
    exact ⟨hm, lt_of_le_of_ne hleast (Ne.symm he)⟩
  have hlower := h.lower
  rw [hm, hbelow] at hlower
  refine ⟨hm, ?_, hv⟩
  push_cast at hlower
  exact hlower

/-- A power of two below a number is seen in the mantissa of the number. -/
lemma le_log2_of_two_zpow_le {j e : ℤ} {m : ℕ} (hj : 2 ^ j ≤ v) (he : e ≤ j)
    (hm : v / 2 ^ e < m + 1) : j - e ≤ m.log2 := by
  obtain ⟨n, hn⟩ := Int.eq_ofNat_of_zero_le (Int.sub_nonneg.mpr he)
  have hpow : (2 : ℚ) ^ n ≤ v / 2 ^ e := by
    rw [le_div_iff₀ (zpow_pos (by norm_num) e), ← zpow_natCast, ← zpow_add₀ (by norm_num), ← hn,
      Int.sub_add_cancel]
    exact hj
  have hle : 2 ^ n ≤ m := Nat.lt_succ_iff.mp (by exact_mod_cast hpow.trans_lt hm)
  have hne : m ≠ 0 := fun h => absurd hle (by rw [h]; exact not_le.mpr (Nat.two_pow_pos n))
  rw [hn]
  exact_mod_cast (Nat.le_log2 hne).mpr hle

/-- The first bit of a mantissa is a power of two that the number reaches. -/
lemma log2_add_lt {j e : ℤ} {m : ℕ} (hv : v < 2 ^ j) (hm : (m : ℚ) ≤ v / 2 ^ e) (hne : m ≠ 0) :
    (m.log2 : ℤ) + e < j := by
  have hlog : (2 : ℚ) ^ m.log2 ≤ m := by exact_mod_cast Nat.log2_self_le hne
  have hpow := hlog.trans hm
  rw [le_div_iff₀ (zpow_pos (by norm_num) e), ← zpow_natCast, ← zpow_add₀ (by norm_num)] at hpow
  exact (zpow_lt_zpow_iff_right₀ (by norm_num)).mp (hpow.trans_lt hv)

/-- Where a mantissa is cut off for the double that owns the number: at the exponent of the double
or, right below a power of two, one bit later. -/
lemma exponent_eq (hr : r.Canonical) (h : r.Owns v) {m : ℕ} {e : ℤ} (he : e ≤ r.exponent)
    (hm : (m : ℚ) ≤ v / 2 ^ e) (hm' : v / 2 ^ e < m + 1) :
    let e' := e + (max (totalExponent m e - 53) (-1074) - e).toNat
    e' = r.exponent ∨ e' = r.exponent - 1 ∧ r.mantissa = 2 ^ 52 ∧
      (2 ^ 52 - 1 / 4 : ℚ) ≤ v / 2 ^ r.exponent ∧ v < 2 ^ (r.exponent + 52) := by
  intro e'
  have he' : e' = e + (max ((m.log2 : ℤ) + 1 + e - 53) (-1074) - e).toNat := rfl
  have hupper : (m.log2 : ℤ) + e < r.exponent + 53 := by
    by_cases hne : m = 0
    · have hlog : m.log2 = 0 := by rw [hne]; decide
      omega
    · exact log2_add_lt (h.lt_two_zpow hr) hm hne
  have hleast := hr.least
  by_cases hmin : r.exponent = -1074
  · exact .inl (by omega)
  rcases h.two_zpow_le hr hmin with hv | ⟨hpower, hlower, hv⟩
  · have hlog := le_log2_of_two_zpow_le hv (by omega) hm'
    exact .inl (by omega)
  · have hhalf : 2 ^ (r.exponent + 51) ≤ v := by
      rw [le_div_iff₀ (zpow_pos (by norm_num) _)] at hlower
      rw [zpow_add₀ (by norm_num), mul_comm]
      refine le_trans (mul_le_mul_of_nonneg_right ?_ (zpow_pos (by norm_num) _).le) hlower
      norm_num
    have hlog := le_log2_of_two_zpow_le hhalf (by omega) hm'
    by_cases hexp : e' = r.exponent
    · exact .inl hexp
    · exact .inr ⟨by omega, hpower, hlower, hv⟩

/-- **A number is rounded to the double that owns it**, if a mantissa that stands for it is cut off
no later than the mantissa of the double.

**Proof sketch.** The first bit of the number decides where it is cut off (`exponent_eq`). There it
is within half a unit of the mantissa of the double, so that is what it is rounded to
(`Stands.rounded`). Right below a power of two one more bit is kept; rounding carries into a new
first bit, and the last one is dropped. -/
lemma roundWithAccuracy_eq (hr : r.Canonical) (h : r.Owns v) (s : UnpackedFloat.Sign) {m : ℕ} {e : ℤ}
    {a : Accuracy} (hstands : Stands (.ofMantissaAndAccuracy m a) (v / 2 ^ e))
    (he : e ≤ r.exponent) :
    roundWithAccuracy .binary64 s m e a = .finite s r.mantissa r.exponent hr.pos := by
  have hmantissa : (ExtendedMantissa.ofMantissaAndAccuracy m a).mantissa = m := by
    unfold ExtendedMantissa.ofMantissaAndAccuracy
    split <;> rfl
  have hbounds := hstands.bounds
  rw [hmantissa] at hbounds
  have hexp := exponent_eq hr h he hbounds.1 hbounds.2
  generalize hk : (max (totalExponent m e - 53) (-1074) - e).toNat = k at hexp
  dsimp only at hexp
  have hshifted : Stands (ExtendedMantissa.ofMantissaAndAccuracy m a >>> k) (v / 2 ^ (e + k)) := by
    rw [zpow_add₀ (by norm_num), zpow_natCast, ← div_div]
    exact hstands.shiftRight k
  unfold roundWithAccuracy
  rw [shiftToTargetExponent_eq, hk]
  dsimp only
  rcases hexp with hexp | ⟨hexp, hpower, hlower, hv⟩
  · rw [hexp] at hshifted ⊢
    have hbelow := r.below_le
    have hrounded : (ExtendedMantissa.ofMantissaAndAccuracy m a >>> k).roundedMantissa =
        r.mantissa := by
      refine hshifted.rounded ?_ h.upper ?_
      · linarith [h.lower]
      · intro hodd
        have hinside := h.inside hodd
        exact ⟨by linarith, hinside.2⟩
    rw [hrounded, shiftToTargetExponent_of_lt hr.lt hr.least]
    exact dif_neg hr.pos.ne'
  · have hdouble : v / 2 ^ (e + k) = 2 * (v / 2 ^ r.exponent) := by
      rw [hexp, zpow_sub₀ (by norm_num), zpow_one]
      field_simp
    have hv' : v / 2 ^ r.exponent < 2 ^ 52 := by
      rw [div_lt_iff₀ (zpow_pos (by norm_num) _)]
      rw [zpow_add₀ (by norm_num), mul_comm] at hv
      exact_mod_cast hv
    have hrounded : (ExtendedMantissa.ofMantissaAndAccuracy m a >>> k).roundedMantissa =
        2 ^ 53 := by
      have heven : ¬ 2 ^ 53 % 2 = 1 := by decide
      refine hshifted.rounded ?_ ?_ (fun hodd => absurd hodd heven)
      · rw [hdouble]
        push_cast
        linarith
      · rw [hdouble]
        push_cast
        linarith
    rw [hrounded, shiftToTargetExponent_carry (by omega)]
    have hne : (2 : ℕ) ^ 52 ≠ 0 := by decide
    refine (dif_neg hne).trans ?_
    rw [UnpackedFloat.finite.injEq]
    exact ⟨rfl, hpower.symm, by omega⟩

end Rounding

end Toolpath.Decimal
