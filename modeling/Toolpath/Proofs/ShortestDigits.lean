import Toolpath.Proofs.Nearest
/-!
# The fewest digits

The fewest digits of a double are searched for in decimal grids, each ten times as fine as the one
before. What is found in a grid is owned by the double. In a grid of 17 digits a number is found
whatever the double is, since the distance of two numbers of the grid is below what the double owns,
so the search ends with an answer. Zeros at the end are cut off, which changes nothing.

## Main results

* `Toolpath.Decimal.Rounding.owns_of_onGrid` — what is found in a grid is owned by the double.
* `Toolpath.Decimal.Rounding.isSome_onGrid` — in a grid of 17 digits a number is found.
* `Toolpath.Decimal.Rounding.search_spec` — the search ends with an answer.
* `Toolpath.Decimal.owns_shortest` — the fewest digits are owned by the double.
-/

namespace Toolpath.Decimal

/-! ## Fractions -/

/-- A fraction stands for its number. -/
lemma fraction_spec (m : ℕ) (e : ℤ) :
    0 < (fraction m e).2 ∧ ((fraction m e).1 : ℚ) / (fraction m e).2 = m * 2 ^ e := by
  unfold fraction
  split
  · next he =>
    obtain ⟨n, rfl⟩ := Int.eq_ofNat_of_zero_le he
    refine ⟨Nat.one_pos, ?_⟩
    rw [Int.toNat_natCast, Nat.shiftLeft_eq, zpow_natCast]
    push_cast
    ring
  · next he =>
    obtain ⟨n, rfl⟩ : ∃ n : ℕ, e = -(n : ℤ) := ⟨(-e).toNat, by omega⟩
    rw [Int.neg_neg, Int.toNat_natCast, Nat.shiftLeft_eq, Nat.one_mul, zpow_neg, zpow_natCast,
      ← div_eq_mul_inv]
    exact ⟨Nat.two_pow_pos n, by push_cast; rfl⟩

/-- A decimal exponent is not too large. -/
lemma ten_zpow_log10_le {n d : ℕ} (hn : 0 < n) (hd : 0 < d) :
    (10 : ℚ) ^ log10 n d ≤ n / d := by
  have hd' : (0 : ℚ) < d := by exact_mod_cast hd
  unfold log10
  split
  · next h =>
    obtain ⟨k, hk, hle, -⟩ := Text.exists_length_ofNat (Nat.div_pos h hd)
    have hcount : (digitCount (n / d) : ℤ) - 1 = k := by
      have hdef : digitCount (n / d) = k + 1 := hk
      omega
    rw [hcount, zpow_natCast, le_div_iff₀ hd']
    exact_mod_cast (Nat.mul_le_mul_right d hle).trans (Nat.div_mul_le_self n d)
  · next h =>
    have hn' : (0 : ℚ) < n := by exact_mod_cast hn
    have hlt : (d - 1) / n < 10 ^ digitCount ((d - 1) / n) :=
      (Nat.length_toDigits_le_iff (by decide) Nat.length_toDigits_pos).mp (le_refl _)
    have hle : d ≤ n * 10 ^ digitCount ((d - 1) / n) := by
      have := (Nat.div_lt_iff_lt_mul hn).mp hlt
      rw [Nat.mul_comm]
      omega
    rw [zpow_neg, zpow_natCast, le_div_iff₀ hd', inv_mul_le_iff₀ (by positivity), mul_comm]
    exact_mod_cast hle

namespace Rounding

variable {r : Rounding}

/-! ## The grid -/

/-- Measured in quarters of its unit, a double and a decimal grid are whole numbers. -/
lemma exists_quarter (r : Rounding) (t : ℤ) :
    ∃ quarter unit : ℕ, 0 < quarter ∧ 0 < unit ∧
      scale (4 * r.mantissa * (fraction 1 r.exponent).1) (4 * (fraction 1 r.exponent).2) (-t) =
        (4 * r.mantissa * quarter, unit) ∧
      (unit : ℚ) * 2 ^ r.exponent = 4 * quarter * 10 ^ t := by
  obtain ⟨hdown, hvalue⟩ := fraction_spec 1 r.exponent
  generalize (fraction 1 r.exponent).1 = up at hvalue
  generalize (fraction 1 r.exponent).2 = down at hvalue hdown
  have hdown' : (down : ℚ) ≠ 0 := by exact_mod_cast hdown.ne'
  have hup : (up : ℚ) = down * 2 ^ r.exponent := by
    rw [div_eq_iff hdown', Nat.cast_one, one_mul, mul_comm] at hvalue
    exact hvalue
  have hpos : 0 < up := by
    have hup' : (0 : ℚ) < up := by
      rw [hup]
      exact mul_pos (by exact_mod_cast hdown) (zpow_pos (by norm_num) _)
    exact_mod_cast hup'
  unfold scale
  split
  · next ht =>
    obtain ⟨n, hn⟩ := Int.eq_ofNat_of_zero_le ht
    refine ⟨up * 10 ^ n, 4 * down, Nat.mul_pos hpos (Nat.pow_pos (by decide)), by omega, ?_, ?_⟩
    · rw [hn, Int.toNat_natCast, Nat.mul_assoc]
      rfl
    · obtain rfl : t = -(n : ℤ) := by omega
      rw [zpow_neg, zpow_natCast]
      push_cast
      rw [hup]
      field_simp
  · next ht =>
    obtain ⟨n, rfl⟩ : ∃ n : ℕ, t = n := ⟨t.toNat, by omega⟩
    refine ⟨up, 4 * down * 10 ^ n, hpos, Nat.mul_pos (by omega) (Nat.pow_pos (by decide)), ?_, ?_⟩
    · rw [Int.neg_neg, Int.toNat_natCast]
      rfl
    · rw [zpow_natCast]
      push_cast
      rw [hup]
      ring

/-- A point of a grid is owned by a double if it is in the interval, in quarters of the unit. -/
lemma owns_of_quarters {quarter unit d : ℕ} {t : ℤ} (hquarter : 0 < quarter)
    (hunit : (unit : ℚ) * 2 ^ r.exponent = 4 * quarter * 10 ^ t)
    (hlower : 4 * r.mantissa * quarter ≤ d * unit + r.below * quarter)
    (hupper : d * unit ≤ 4 * r.mantissa * quarter + 2 * quarter)
    (hodd : r.mantissa % 2 = 1 → 4 * r.mantissa * quarter < d * unit + r.below * quarter ∧
      d * unit < 4 * r.mantissa * quarter + 2 * quarter) : r.Owns (d * 10 ^ t) := by
  have hq : (0 : ℚ) < 4 * quarter := by exact_mod_cast Nat.mul_pos (by decide) hquarter
  have hscaled : (d * 10 ^ t : ℚ) / 2 ^ r.exponent = d * unit / (4 * quarter) := by
    rw [div_eq_div_iff (zpow_pos (by norm_num) _).ne' hq.ne', mul_assoc, mul_assoc, hunit]
    ring
  constructor
  · rw [hscaled, le_div_iff₀ hq]
    have : (4 * r.mantissa * quarter : ℚ) ≤ d * unit + r.below * quarter := by exact_mod_cast hlower
    linarith
  · rw [hscaled, div_le_iff₀ hq]
    have : (d * unit : ℚ) ≤ 4 * r.mantissa * quarter + 2 * quarter := by exact_mod_cast hupper
    linarith
  · intro h
    rw [hscaled, lt_div_iff₀ hq, div_lt_iff₀ hq]
    obtain ⟨h1, h2⟩ := hodd h
    have h1' : (4 * r.mantissa * quarter : ℚ) < d * unit + r.below * quarter := by exact_mod_cast h1
    have h2' : (d * unit : ℚ) < 4 * r.mantissa * quarter + 2 * quarter := by exact_mod_cast h2
    constructor <;> linarith

/-- The point of a grid that is chosen, in quarters of the unit. -/
lemma onGrid_eq {quarter unit : ℕ} {t : ℤ} (hr : r.Canonical)
    (hscale : scale (4 * r.mantissa * (fraction 1 r.exponent).1)
      (4 * (fraction 1 r.exponent).2) (-t) = (4 * r.mantissa * quarter, unit)) :
    r.onGrid t =
      let value := 4 * r.mantissa * quarter
      let low := value - r.below * quarter
      let high := value + 2 * quarter
      let d := value / unit
      let lower := if r.closed then low ≤ d * unit else low < d * unit
      let upper := if r.closed then (d + 1) * unit ≤ high else (d + 1) * unit < high
      if lower && upper then
        let less := value - d * unit
        let more := (d + 1) * unit - value
        some (if less < more || (less == more && d % 2 == 0) then d else d + 1)
      else if lower then some d
      else if upper then some (d + 1)
      else none := by
  have hquarter : 4 * r.mantissa * quarter / (4 * r.mantissa) = quarter :=
    Nat.mul_div_cancel_left _ (Nat.mul_pos (by decide) hr.pos)
  unfold onGrid
  simp only [hscale, hquarter]

/-- **A point of a grid that is chosen is owned by the double.** -/
lemma owns_of_onGrid (hr : r.Canonical) {t : ℤ} {d : ℕ} (h : r.onGrid t = some d) :
    r.Owns (d * 10 ^ t) := by
  obtain ⟨quarter, unit, hquarter, hunit, hscale, hgrid⟩ := r.exists_quarter t
  rw [onGrid_eq hr hscale] at h
  extract_lets value low high d₀ lower upper less more at h
  have hone : 1 ≤ r.below ∧ r.below ≤ 2 := by
    rcases r.below_eq with ⟨h, -⟩ | h <;> omega
  have hvalue : 4 * quarter ≤ value :=
    Nat.mul_le_mul_right quarter (Nat.mul_le_mul_left 4 hr.pos)
  have hbelow : quarter ≤ r.below * quarter ∧ r.below * quarter ≤ 2 * quarter :=
    ⟨Nat.le_mul_of_pos_left _ hone.1, Nat.mul_le_mul_right _ hone.2⟩
  have hfloor : d₀ * unit ≤ value := Nat.div_mul_le_self _ _
  have hceil : value < (d₀ + 1) * unit := by
    rw [Nat.mul_comm]
    exact Nat.lt_mul_div_succ _ hunit
  have hclosed : r.closed = true ↔ r.mantissa % 2 = 0 := beq_iff_eq
  have hlower : lower → r.Owns (d₀ * 10 ^ t) := by
    intro hl
    unfold lower at hl
    by_cases hc : r.closed = true
    · rw [if_pos hc] at hl
      have heven := hclosed.mp hc
      exact owns_of_quarters hquarter hgrid (by omega) (by omega) (by omega)
    · rw [if_neg hc] at hl
      exact owns_of_quarters hquarter hgrid (by omega) (by omega) (by omega)
  have hupper : upper → r.Owns ((d₀ + 1 : ℕ) * 10 ^ t) := by
    intro hu
    unfold upper at hu
    by_cases hc : r.closed = true
    · rw [if_pos hc] at hu
      have heven := hclosed.mp hc
      exact owns_of_quarters hquarter hgrid (by omega) (by omega) (by omega)
    · rw [if_neg hc] at hu
      exact owns_of_quarters hquarter hgrid (by omega) (by omega) (by omega)
  by_cases hl : lower
  · by_cases hu : upper
    · rw [if_pos (by simp [hl, hu]), Option.some.injEq] at h
      rw [← h]
      split
      · exact hlower hl
      · exact hupper hu
    · rw [if_neg (by simp [hu]), if_pos hl, Option.some.injEq] at h
      rw [← h]
      exact hlower hl
  · rw [if_neg (by simp [hl]), if_neg hl] at h
    by_cases hu : upper
    · rw [if_pos hu, Option.some.injEq] at h
      rw [← h]
      exact hupper hu
    · rw [if_neg hu] at h
      cases h

/-- **Seventeen digits have a point in every interval.**

**Proof sketch.** The unit of the grid is less than four quarters of the unit of the mantissa, as
`2 ^ 55 < 4 * 10 ^ 16`. So the grid has a point within two quarters of the value, on one side or the
other; below a power of two the unit is less than two quarters, and the point above is one. -/
lemma isSome_onGrid (hr : r.Canonical) {k : ℤ}
    (hk : (10 : ℚ) ^ k ≤ r.mantissa * 2 ^ r.exponent) : (r.onGrid (k - 16)).isSome = true := by
  obtain ⟨quarter, unit, hquarter, hunit, hscale, hgrid⟩ := r.exists_quarter (k - 16)
  rw [onGrid_eq hr hscale]
  extract_lets value low high d lower upper less more
  have hunitPos : (0 : ℚ) < 2 ^ r.exponent := zpow_pos (by norm_num) _
  have hfine : 10 ^ 16 * unit ≤ value := by
    have hpow : (10 : ℚ) ^ (k - 16) * 10 ^ 16 = 10 ^ k := by
      rw [← zpow_natCast, ← zpow_add₀ (by norm_num)]
      congr 1
      omega
    have hscaled : (10 ^ 16 * unit : ℚ) * 2 ^ r.exponent ≤ value * 2 ^ r.exponent :=
      calc (10 ^ 16 * unit : ℚ) * 2 ^ r.exponent = 4 * quarter * (10 ^ (k - 16) * 10 ^ 16) := by
            rw [mul_assoc, hgrid]
            ring
        _ ≤ 4 * quarter * (r.mantissa * 2 ^ r.exponent) := by
            rw [hpow]
            exact mul_le_mul_of_nonneg_left hk (by positivity)
        _ = value * 2 ^ r.exponent := by
            unfold value
            push_cast
            ring
    exact_mod_cast le_of_mul_le_mul_right hscaled hunitPos
  have hcoarse : value < 2 ^ 55 * quarter :=
    Nat.mul_lt_mul_of_pos_right (by have := hr.lt; omega) hquarter
  have hfloor : d * unit ≤ value := Nat.div_mul_le_self _ _
  have hceil : value < d * unit + unit := by
    rw [← Nat.succ_mul, Nat.mul_comm]
    exact Nat.lt_mul_div_succ _ hunit
  have hnear : value < d * unit + r.below * quarter ∨ d * unit + unit < value + 2 * quarter := by
    rcases r.below_eq with ⟨hbelow, hm⟩ | hbelow
    · have hvalue : value = 2 ^ 54 * quarter := by
        unfold value
        rw [hm]
        rfl
      omega
    · rw [hbelow]
      omega
  have hsome : lower ∨ upper := by
    unfold lower upper low high
    rw [Nat.succ_mul]
    split <;> omega
  by_cases hl : lower
  · by_cases hu : upper
    · rw [if_pos (by simp [hl, hu])]
      rfl
    · rw [if_neg (by simp [hu]), if_pos hl]
      rfl
  · rw [if_neg (by simp [hl]), if_neg hl, if_pos (hsome.resolve_left hl)]
    rfl

/-! ## The search -/

/-- A search ends at a grid with a point in the interval, if there is one on the way. -/
lemma search_spec {k : ℤ} {fuel count last : ℕ} (hle : count ≤ last) (hlt : last < count + fuel)
    (hlast : (r.onGrid (k - last + 1)).isSome = true) :
    r.onGrid (search r k fuel count).2 = some (search r k fuel count).1 := by
  induction fuel generalizing count with
  | zero => omega
  | succ fuel ih =>
    unfold search
    dsimp only
    cases hgrid : r.onGrid (k - count + 1) with
    | some d => exact hgrid
    | none =>
      refine ih ?_ (by omega)
      by_contra hlater
      obtain rfl : count = last := by omega
      rw [hgrid] at hlast
      cases hlast

end Rounding

/-- Zeros at the end go into the exponent. -/
lemma stripZeros_spec (fuel : ℕ) {d : ℕ} (hd : 0 < d) (t : ℤ) :
    0 < (stripZeros fuel d t).1 ∧
      ((stripZeros fuel d t).1 : ℚ) * 10 ^ (stripZeros fuel d t).2 = d * 10 ^ t := by
  induction fuel generalizing d t with
  | zero => exact ⟨hd, rfl⟩
  | succ fuel ih =>
    unfold stripZeros
    split
    · next h =>
      obtain ⟨hpos, hvalue⟩ := ih (by omega : 0 < d / 10) (t + 1)
      refine ⟨hpos, hvalue.trans ?_⟩
      have hten : (d : ℚ) = (d / 10 : ℕ) * 10 := by
        exact_mod_cast (Nat.div_mul_cancel (Nat.dvd_of_mod_eq_zero h.2)).symm
      rw [hten, zpow_add₀ (by norm_num), zpow_one]
      ring
    · exact ⟨hd, rfl⟩

/-- **The fewest digits are owned by the double.** -/
theorem owns_shortest {r : Rounding} (hr : r.Canonical) :
    0 < (shortest r.mantissa r.exponent).1 ∧
      r.Owns ((shortest r.mantissa r.exponent).1 * 10 ^ (shortest r.mantissa r.exponent).2) := by
  obtain ⟨hden, hvalue⟩ := fraction_spec r.mantissa r.exponent
  have hpos : (0 : ℚ) < r.mantissa * 2 ^ r.exponent :=
    mul_pos (by exact_mod_cast hr.pos) (zpow_pos (by norm_num) _)
  have hnum : 0 < (fraction r.mantissa r.exponent).1 := by
    by_contra hzero
    rw [Nat.eq_zero_of_not_pos hzero, Nat.cast_zero, zero_div] at hvalue
    exact hpos.ne hvalue
  have hk := ten_zpow_log10_le hnum hden
  rw [hvalue] at hk
  obtain ⟨k, hlog⟩ : ∃ k, k = log10 (fraction r.mantissa r.exponent).1
      (fraction r.mantissa r.exponent).2 := ⟨_, rfl⟩
  rw [← hlog] at hk
  have hlast : (r.onGrid (k - (17 : ℕ) + 1)).isSome = true := by
    rw [show k - (17 : ℕ) + 1 = k - 16 by omega]
    exact Rounding.isSome_onGrid hr hk
  have hfound : r.onGrid (Rounding.search r k 17 1).2 = some (Rounding.search r k 17 1).1 :=
    Rounding.search_spec (by decide) (by decide) hlast
  have howns := Rounding.owns_of_onGrid hr hfound
  unfold shortest
  dsimp only
  rw [← hlog]
  generalize Rounding.search _ _ _ _ = found at howns
  have hd : 0 < found.1 := by
    by_contra hzero
    rw [Nat.eq_zero_of_not_pos hzero, Nat.cast_zero, zero_mul] at howns
    exact (howns.pos hr).false
  obtain ⟨hstripped, hsame⟩ := stripZeros_spec 20 hd found.2
  exact ⟨hstripped, by rwa [hsame]⟩

end Toolpath.Decimal
