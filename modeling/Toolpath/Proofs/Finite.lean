import Toolpath.Proofs.Bounds
/-!
# Finite numbers

What is finite is made of what is finite: no sum, difference, product or root leads back from an
infinity or NaN to a number. So a finite length of all lines leaves only finite ends. The other way
round, rounding to three places gives a finite number whenever it is given one, since it stays far
below the greatest double.

## Main definitions

* `Toolpath.fits` — an unpacked number is packed into a finite one.
* `Toolpath.Point.Finite` — all coordinates of a point are finite.

## Main results

* `Toolpath.isFinite_pack` — what is packed is finite iff it fits.
* `Toolpath.Geometry.isFinite_of_pairwiseSum` — numbers with a finite sum are finite.
* `Toolpath.Geometry.finite_of_length` — lines of a finite length in all have finite ends.
* `Toolpath.fits_roundWithAccuracy` — what is small enough fits when it is rounded.
* `Toolpath.Decimal.isFinite_roundTo` — a number is finite iff it is in three places.
-/

namespace Toolpath

open Float.Model (UnpackedFloat Format totalExponent)
open Float.Model.UnpackedFloat (unpackExponent unpackMantissa packedInfinity
  packComponents unpackExponent_packComponents Sign Accuracy ExtendedMantissa roundWithAccuracy
  shiftToTargetExponent decreaseExponent)

/-! ## Unpacked numbers -/

/-- Whether an unpacked number is packed into a finite one: the greatest exponent is 971. -/
def fits : UnpackedFloat → Bool
  | .zero _ => true
  | .finite _ _ e _ => e ≤ 971
  | .infinity _ | .notANumber => false

/-- Bits are those of a finite number iff not all bits of the exponent are set. -/
lemma isFinite_unpack (b : BitVec Format.binary64.numBits) :
    (UnpackedFloat.unpack .binary64 b).isFinite = decide (unpackExponent b ≠ -1#11) := by
  unfold UnpackedFloat.unpack
  dsimp only
  by_cases h : unpackExponent b = -1#11
  · rw [if_pos h, decide_eq_false (not_not.mpr h)]
    by_cases hzero : unpackMantissa b = 0#52
    · rw [if_pos hzero]
      rfl
    · rw [if_neg hzero]
      rfl
  · rw [if_neg h, decide_eq_true h]
    by_cases hleast : unpackExponent b = 0#11
    · rw [if_pos hleast]
      by_cases hzero : unpackMantissa b = 0#52
      · rw [dif_pos hzero]
        rfl
      · rw [dif_neg hzero]
        rfl
    · rw [if_neg hleast]
      rfl

/-- A number is packed into a finite one iff it fits. -/
lemma isFinite_pack (u : UnpackedFloat) : (Float.ofModel (.pack u)).isFinite = fits u := by
  have hbits : (Float.ofModel (.pack u)).isFinite =
    (UnpackedFloat.unpack .binary64 (u.pack .binary64)).isFinite := rfl
  rw [hbits, isFinite_unpack]
  cases u with
  | infinity s => cases s <;> decide +kernel
  | notANumber => decide +kernel
  | zero s => cases s <;> decide +kernel
  | finite s m e hm =>
    have hpack : UnpackedFloat.pack .binary64 (.finite s m e hm) =
        if 2 ^ 11 ≤ (e + 1023 + 52).toNat + 1 then packedInfinity .binary64 s
        else if m.log2 + 1 = 53 then
          packComponents .binary64 s (BitVec.ofNat _ (e + 1023 + 52).toNat) (BitVec.ofNat _ m)
        else packComponents .binary64 s 0#11 (BitVec.ofNat _ m) := rfl
    have hfits : fits (.finite s m e hm) = decide (e ≤ 971) := rfl
    rw [hpack, hfits]
    split
    · rename_i h
      have hlt : ¬ e ≤ 971 := by omega
      have hexp : unpackExponent (packedInfinity .binary64 s) = -1#11 := by cases s <;> decide
      rw [decide_eq_false (not_not.mpr hexp), decide_eq_false hlt]
    · rename_i h
      have hle : e ≤ 971 := by omega
      rw [decide_eq_true hle, decide_eq_true_eq]
      split
      · rw [unpackExponent_packComponents]
        intro hexp
        have hbiased : (e + 1023 + 52).toNat % 2 ^ 11 = 2047 := congrArg BitVec.toNat hexp
        omega
      · rw [unpackExponent_packComponents]
        decide

/-! ## Operations -/

section Operations

variable {u v : UnpackedFloat}

/-- Only finite numbers have a sum that fits. -/
lemma isFinite_of_fits_add (h : fits (u.add .binary64 v) = true) :
    u.isFinite = true ∧ v.isFinite = true := by
  cases u with
  | notANumber => cases v <;> cases h
  | infinity s =>
    cases v with
    | infinity t => cases s <;> cases t <;> cases h
    | notANumber | zero | finite => cases h
  | zero | finite =>
    cases v with
    | notANumber | infinity => cases h
    | zero | finite => exact ⟨rfl, rfl⟩

/-- Only finite numbers have a difference that fits. -/
lemma isFinite_of_fits_sub (h : fits (u.sub .binary64 v) = true) :
    u.isFinite = true ∧ v.isFinite = true := by
  cases u with
  | notANumber => cases v <;> cases h
  | infinity s =>
    cases v with
    | infinity t => cases s <;> cases t <;> cases h
    | notANumber | zero | finite => cases h
  | zero | finite =>
    cases v with
    | notANumber | infinity => cases h
    | zero | finite => exact ⟨rfl, rfl⟩

/-- Only finite numbers have a product that fits. -/
lemma isFinite_of_fits_mul (h : fits (u.mul .binary64 v) = true) :
    u.isFinite = true ∧ v.isFinite = true := by
  cases u with
  | notANumber => cases v <;> cases h
  | infinity s => cases v <;> cases h
  | zero | finite =>
    cases v with
    | notANumber | infinity => cases h
    | zero | finite => exact ⟨rfl, rfl⟩

/-- Only a finite number has a square root that fits. -/
lemma isFinite_of_fits_sqrt (h : fits (u.sqrt .binary64) = true) : u.isFinite = true := by
  cases u with
  | notANumber => cases h
  | infinity s => cases s <;> cases h
  | zero | finite => rfl

variable {a b : Float}

/-- Only finite numbers have a finite sum. -/
lemma isFinite_of_add (h : (a + b).isFinite = true) : a.isFinite = true ∧ b.isFinite = true :=
  isFinite_of_fits_add ((isFinite_pack _).symm.trans h)

/-- Only finite numbers have a finite difference. -/
lemma isFinite_of_sub (h : (a - b).isFinite = true) : a.isFinite = true ∧ b.isFinite = true :=
  isFinite_of_fits_sub ((isFinite_pack _).symm.trans h)

/-- Only finite numbers have a finite product. -/
lemma isFinite_of_mul (h : (a * b).isFinite = true) : a.isFinite = true ∧ b.isFinite = true :=
  isFinite_of_fits_mul ((isFinite_pack _).symm.trans h)

/-- Only a finite number has a finite square root. -/
lemma isFinite_of_sqrt (h : a.sqrt.isFinite = true) : a.isFinite = true :=
  isFinite_of_fits_sqrt ((isFinite_pack _).symm.trans h)

end Operations

/-! ## Lengths and sums -/

/-- A point all of whose coordinates are finite. -/
structure Point.Finite (p : Point) : Prop where
  x : p.x.isFinite = true
  y : p.y.isFinite = true
  z : p.z.isFinite = true

/-- A line of finite length has finite ends. -/
lemma Segment.finite_of_length {line : Segment} (h : line.length.isFinite = true) :
    line.start.Finite ∧ line.stop.Finite := by
  obtain ⟨hxy, hzz⟩ := isFinite_of_add (isFinite_of_sqrt h)
  obtain ⟨hxx, hyy⟩ := isFinite_of_add hxy
  obtain ⟨hx, hx'⟩ := isFinite_of_sub (isFinite_of_mul hxx).1
  obtain ⟨hy, hy'⟩ := isFinite_of_sub (isFinite_of_mul hyy).1
  obtain ⟨hz, hz'⟩ := isFinite_of_sub (isFinite_of_mul hzz).1
  exact ⟨⟨hx', hy', hz'⟩, hx, hy, hz⟩

namespace Geometry

/-- Numbers with a finite sum from a start on are finite, and so is the start. -/
lemma isFinite_of_foldl {a : Float} {xs : List Float}
    (h : (xs.foldl (· + ·) a).isFinite = true) :
    a.isFinite = true ∧ ∀ x ∈ xs, x.isFinite = true := by
  induction xs generalizing a with
  | nil => exact ⟨h, by simp⟩
  | cons x xs ih =>
    obtain ⟨hadd, hxs⟩ := ih h
    obtain ⟨ha, hx⟩ := isFinite_of_add hadd
    exact ⟨ha, List.forall_mem_cons.mpr ⟨hx, hxs⟩⟩

/-- Numbers of two lists of one length whose sums in pairs are finite are finite. -/
lemma isFinite_of_zipWith {xs ys : List Float} (hlength : xs.length = ys.length)
    (h : ∀ s ∈ List.zipWith (· + ·) xs ys, s.isFinite = true) :
    (∀ x ∈ xs, x.isFinite = true) ∧ ∀ y ∈ ys, y.isFinite = true := by
  induction xs generalizing ys with
  | nil =>
    obtain rfl := List.length_eq_zero_iff.mp hlength.symm
    simp
  | cons x xs ih =>
    cases ys with
    | nil => cases hlength
    | cons y ys =>
      rw [List.zipWith_cons_cons, List.forall_mem_cons] at h
      obtain ⟨hx, hy⟩ := isFinite_of_add h.1
      obtain ⟨hxs, hys⟩ := ih (Nat.succ.inj hlength) h.2
      exact ⟨List.forall_mem_cons.mpr ⟨hx, hxs⟩, List.forall_mem_cons.mpr ⟨hy, hys⟩⟩

/-- The sums side by side stay eight. -/
lemma length_laneSums (lanes xs : List Float) (h : lanes.length = 8) :
    (laneSums lanes xs).1.length = 8 := by
  induction lanes, xs using laneSums.induct with
  | case1 lanes xs hlong ih =>
    rw [laneSums, dif_pos hlong]
    refine ih ?_
    rw [List.length_zipWith, List.length_take]
    omega
  | case2 lanes xs hshort => rwa [laneSums, dif_neg hshort]

/-- Numbers whose eight sums side by side are finite, as is what is left of them, are finite. -/
lemma isFinite_of_laneSums {lanes xs : List Float} (h : lanes.length = 8)
    (hlanes : ∀ s ∈ (laneSums lanes xs).1, s.isFinite = true)
    (hrest : ∀ x ∈ (laneSums lanes xs).2, x.isFinite = true) :
    (∀ s ∈ lanes, s.isFinite = true) ∧ ∀ x ∈ xs, x.isFinite = true := by
  induction lanes, xs using laneSums.induct with
  | case1 lanes xs hlong ih =>
    rw [laneSums, dif_pos hlong] at hlanes hrest
    have hlength : lanes.length = (xs.take 8).length := by
      rw [List.length_take]
      omega
    have hsums : (List.zipWith (· + ·) lanes (xs.take 8)).length = 8 := by
      rw [List.length_zipWith, ← hlength, h]
      rfl
    obtain ⟨hzip, hdrop⟩ := ih hsums hlanes hrest
    obtain ⟨hstart, htake⟩ := isFinite_of_zipWith hlength hzip
    refine ⟨hstart, fun x hx => ?_⟩
    rw [← List.take_append_drop 8 xs] at hx
    exact (List.mem_append.mp hx).elim (htake x) (hdrop x)
  | case2 lanes xs hshort =>
    rw [laneSums, dif_neg hshort] at hlanes hrest
    exact ⟨hlanes, hrest⟩

/-- Eight numbers whose sum in pairs is finite are finite. -/
lemma isFinite_of_addLanes {lanes : List Float} (h : lanes.length = 8)
    (hsum : (addLanes lanes).isFinite = true) : ∀ s ∈ lanes, s.isFinite = true := by
  match lanes, h with
  | [a, b, c, d, e, f, g, i], _ =>
    obtain ⟨hfirst, hsecond⟩ := isFinite_of_add hsum
    obtain ⟨hab, hcd⟩ := isFinite_of_add hfirst
    obtain ⟨hef, hgi⟩ := isFinite_of_add hsecond
    obtain ⟨ha, hb⟩ := isFinite_of_add hab
    obtain ⟨hc, hd⟩ := isFinite_of_add hcd
    obtain ⟨he, hf⟩ := isFinite_of_add hef
    obtain ⟨hg, hi⟩ := isFinite_of_add hgi
    simp only [List.forall_mem_cons]
    exact ⟨ha, hb, hc, hd, he, hf, hg, hi, by simp⟩

/-- Numbers of a block with a finite sum are finite. -/
lemma isFinite_of_blockSum {xs : List Float} (h : (blockSum xs).isFinite = true) :
    ∀ x ∈ xs, x.isFinite = true := by
  unfold blockSum at h
  split at h
  · exact (isFinite_of_foldl h).2
  · have hstart : (xs.take 8).length = 8 := by
      rw [List.length_take]
      omega
    obtain ⟨hlanes, hrest⟩ := isFinite_of_foldl h
    have hlanes := isFinite_of_addLanes (length_laneSums _ _ hstart) hlanes
    obtain ⟨htake, hdrop⟩ := isFinite_of_laneSums hstart hlanes hrest
    intro x hx
    rw [← List.take_append_drop 8 xs] at hx
    exact (List.mem_append.mp hx).elim (htake x) (hdrop x)

/-- **Numbers with a finite sum are finite.** -/
lemma isFinite_of_pairwiseSum {xs : List Float} (h : (pairwiseSum xs).isFinite = true) :
    ∀ x ∈ xs, x.isFinite = true := by
  induction xs using pairwiseSum.induct with
  | case1 xs hshort =>
    rw [pairwiseSum, dif_pos hshort] at h
    exact isFinite_of_blockSum h
  | case2 xs hlong ihtake ihdrop =>
    rw [pairwiseSum, dif_neg hlong] at h
    obtain ⟨htake, hdrop⟩ := isFinite_of_add h
    intro x hx
    rw [← List.take_append_drop (cut xs.length) xs] at hx
    exact (List.mem_append.mp hx).elim (ihtake htake x) (ihdrop hdrop x)

/-- Lines of a finite length in all have finite ends. -/
lemma finite_of_length {layers : List Layer} (h : (length layers).isFinite = true) :
    ∀ line ∈ segments layers, line.start.Finite ∧ line.stop.Finite := by
  intro line hline
  exact Segment.finite_of_length (isFinite_of_pairwiseSum h _ (List.mem_map_of_mem hline))

end Geometry

/-! ## Rounding -/

/-- Shifting a mantissa drops its last bits. -/
lemma mantissa_shiftRight (em : ExtendedMantissa) (k : ℕ) :
    (em >>> k).mantissa = em.mantissa / 2 ^ k := by
  induction k with
  | zero => exact (Nat.div_one _).symm
  | succ k ih =>
    have hstep : (em >>> (k + 1)).mantissa = (em >>> k).mantissa / 2 := rfl
    rw [hstep, ih, Nat.div_div_eq_div_mul, Nat.pow_succ]

/-- Rounding adds at most one to a mantissa. -/
lemma roundedMantissa_le (em : ExtendedMantissa) : em.roundedMantissa ≤ em.mantissa + 1 := by
  obtain ⟨m, r, s⟩ := em
  have hodd := Nat.mod_lt m (Nat.succ_pos 1)
  cases r <;> cases s <;>
    simp only [ExtendedMantissa.roundedMantissa, ExtendedMantissa.accuracy,
      Accuracy.roundToNearestEven] <;> omega

/-- What is left of a number without its last bits is shorter by as many, but for a carry. -/
lemma log2_le_of_le_div {r m k : ℕ} (h : r ≤ m / 2 ^ k + 1) : r.log2 ≤ m.log2 + 1 - k := by
  have hm : m < 2 ^ (m.log2 + 1 - k) * 2 ^ k := by
    refine Nat.lt_of_lt_of_le Nat.lt_log2_self ?_
    rw [← Nat.pow_add]
    exact Nat.pow_le_pow_right (Nat.succ_pos 1) (by omega)
  have hdiv : m / 2 ^ k < 2 ^ (m.log2 + 1 - k) := Nat.div_lt_of_lt_mul (by rwa [Nat.mul_comm])
  by_cases hr : r = 0
  · rw [hr]
    exact Nat.zero_le _
  · refine Nat.lt_succ_iff.mp ((Nat.log2_lt hr).mpr ?_)
    rw [Nat.pow_succ]
    omega

/-- A number with bits appended is longer by as many. -/
lemma log2_shiftLeft_le (m k : ℕ) : (m <<< k).log2 ≤ m.log2 + k := by
  by_cases hm : m = 0
  · rw [hm, Nat.zero_shiftLeft]
    exact Nat.zero_le _
  · have hshift : m <<< k ≠ 0 := by
      rw [Nat.shiftLeft_eq]
      exact Nat.mul_ne_zero hm (Nat.two_pow_pos k).ne'
    refine Nat.lt_succ_iff.mp ((Nat.log2_lt hshift).mpr ?_)
    rw [Nat.shiftLeft_eq, Nat.succ_eq_add_one, Nat.add_right_comm, Nat.pow_add]
    exact Nat.mul_lt_mul_of_pos_right Nat.lt_log2_self (Nat.two_pow_pos k)

/-- The exponent at which a double with a given leading place is kept. -/
lemma targetExponent_eq (t : ℤ) : Format.binary64.targetExponent t = max (t - 53) (-1074) := rfl

/-- A number with a mantissa or without one fits if its exponent is small enough. -/
lemma fits_dite (s : Sign) (m : ℕ) {e : ℤ} (he : e ≤ 971) :
    fits (if h : m = 0 then .zero s else .finite s m e (Nat.pos_of_ne_zero h)) = true := by
  by_cases h : m = 0
  · rw [dif_pos h]
    rfl
  · rw [dif_neg h]
    exact decide_eq_true he

/-- A number below `2 ^ 1023` is rounded to one that fits. -/
lemma fits_roundWithAccuracy (s : Sign) {m : ℕ} {e : ℤ} (a : Accuracy)
    (htotal : totalExponent m e ≤ 1023) (he : e ≤ 970) :
    fits (roundWithAccuracy .binary64 s m e a) = true := by
  have hfirst : ∀ m e a, shiftToTargetExponent .binary64 m e a =
      (ExtendedMantissa.ofMantissaAndAccuracy m a >>>
        (max (totalExponent m e - 53) (-1074) - e).toNat,
        e + (max (totalExponent m e - 53) (-1074) - e).toNat) := fun _ _ _ => rfl
  have hmantissa : (ExtendedMantissa.ofMantissaAndAccuracy m a).mantissa = m := by
    unfold ExtendedMantissa.ofMantissaAndAccuracy
    split <;> rfl
  unfold roundWithAccuracy
  rw [hfirst]
  dsimp only
  rw [hfirst]
  dsimp only
  generalize hk : (max (totalExponent m e - 53) (-1074) - e).toNat = k
  have hr : (ExtendedMantissa.ofMantissaAndAccuracy m a >>> k).roundedMantissa ≤
      m / 2 ^ k + 1 := by
    refine (roundedMantissa_le _).trans_eq ?_
    rw [mantissa_shiftRight, hmantissa]
  generalize (ExtendedMantissa.ofMantissaAndAccuracy m a >>> k).roundedMantissa = r at hr
  have hlog := log2_le_of_le_div hr
  refine fits_dite s _ ?_
  unfold totalExponent at *
  omega

/-- A number below `2 ^ 1023` is normalized to one that fits. -/
lemma fits_round (s : Sign) {m : ℕ} {e : ℤ} (htotal : totalExponent m e ≤ 1023) (he : e ≤ 970) :
    fits (UnpackedFloat.round .binary64 s m e) = true := by
  unfold UnpackedFloat.round decreaseExponent
  rw [targetExponent_eq]
  dsimp only
  generalize hk : (e - max (totalExponent m e - 53) (-1074)).toNat = k
  have hlog := log2_shiftLeft_le m k
  refine fits_roundWithAccuracy s _ ?_ (by omega)
  unfold totalExponent at *
  omega

/-- A natural number below `2 ^ 1000` is a finite number. -/
lemma fits_ofNat {n : ℕ} (h : n.log2 ≤ 1000) : fits (UnpackedFloat.ofNat .binary64 n) = true := by
  unfold UnpackedFloat.ofNat UnpackedFloat.ofInt UnpackedFloat.normalize
  split
  · exact fits_round _ (by unfold totalExponent; simp) (by omega)
  · rfl
  · exact fits_round _ (by unfold totalExponent; simp; omega) (by omega)

/-- A quotient below `2 ^ 1021` is rounded to one that fits. -/
lemma fits_div (s t : Sign) {m m' : ℕ} {e e' : ℤ} (hm : 0 < m) (hm' : 0 < m')
    (h : totalExponent m e ≤ totalExponent m' e' + 1021) :
    fits (UnpackedFloat.div .binary64 (.finite s m e hm) (.finite t m' e' hm')) = true := by
  have hdiv : UnpackedFloat.div .binary64 (.finite s m e hm) (.finite t m' e' hm') =
      let low := min (e - e') (max (totalExponent m e - totalExponent m' e' - 53) (-1074))
      let k := (e - e' - low).toNat
      roundWithAccuracy .binary64 (s / t) (m <<< k / m') low
        (UnpackedFloat.accuracyOfFraction (m <<< k % m') m') := rfl
  rw [hdiv]
  extract_lets low k
  have hlow : low = min (e - e') (max (totalExponent m e - totalExponent m' e' - 53) (-1074)) := rfl
  have hk : k = (e - e' - low).toNat := rfl
  clear_value low k
  have hquotient : m <<< k / m' ≤ m <<< k / 2 ^ m'.log2 + 1 :=
    (Nat.div_le_div_left (Nat.log2_self_le hm'.ne') (Nat.two_pow_pos _)).trans (Nat.le_succ _)
  have hlog := log2_le_of_le_div hquotient
  have hshift := log2_shiftLeft_le m k
  unfold totalExponent at *
  refine fits_roundWithAccuracy _ _ ?_ (by omega)
  unfold totalExponent
  omega

/-- The mantissa and the exponent of a finite number are those of a double. -/
lemma bounds_of_unpack_eq {b : BitVec Format.binary64.numBits} {s : Sign} {m : ℕ} {e : ℤ}
    {hm : 0 < m} (h : UnpackedFloat.unpack .binary64 b = .finite s m e hm) :
    m < 2 ^ 53 ∧ e ≤ 971 := by
  have hbias : Format.binary64.exponentBias = 1023 := rfl
  have hmantissa : (unpackMantissa b).toNat < 2 ^ 52 := (unpackMantissa b).isLt
  have hfull : (1#1 ++ unpackMantissa b).toNat < 2 ^ 53 := (1#1 ++ unpackMantissa b).isLt
  have hexponent : (unpackExponent b).toNat < 2 ^ 11 := (unpackExponent b).isLt
  unfold UnpackedFloat.unpack at h
  dsimp only at h
  rw [hbias] at h
  by_cases htop : unpackExponent b = -1#11
  · rw [if_pos htop] at h
    by_cases hzero : unpackMantissa b = 0#52
    · rw [if_pos hzero] at h
      cases h
    · rw [if_neg hzero] at h
      cases h
  · have hne : (unpackExponent b).toNat ≠ 2047 := fun heq => htop (BitVec.eq_of_toNat_eq heq)
    rw [if_neg htop] at h
    by_cases hleast : unpackExponent b = 0#11
    · have hexponent : (unpackExponent b).toNat = 0 := by
        rw [hleast]
        rfl
      rw [if_pos hleast] at h
      by_cases hzero : unpackMantissa b = 0#52
      · rw [dif_pos hzero] at h
        cases h
      · rw [dif_neg hzero, UnpackedFloat.finite.injEq] at h
        omega
    · rw [if_neg hleast, UnpackedFloat.finite.injEq] at h
      omega

/-- A number fits iff it is finite. -/
lemma fits_unpack {x : Float} : fits x.toModel.unpack = x.isFinite := by
  have hx : x.isFinite = x.toModel.unpack.isFinite := rfl
  rw [hx]
  cases h : x.toModel.unpack with
  | finite s m e hm => exact decide_eq_true (bounds_of_unpack_eq h).2
  | infinity | notANumber | zero => rfl

/-- A number is finite iff it is with the other sign. -/
lemma isFinite_neg (x : Float) : (-x).isFinite = x.isFinite := by
  have hneg : (-x).isFinite = fits x.toModel.unpack.neg := isFinite_pack _
  rw [hneg, ← fits_unpack]
  cases x.toModel.unpack <;> rfl

/-! ## Numbers rounded to three places -/

/-- A number of at most 64 bits is far below the greatest double. -/
lemma log2_le_of_lt {n : ℕ} (h : n < 2 ^ 64) : n.log2 ≤ 1000 := by
  by_cases hn : n = 0
  · rw [hn]
    exact Nat.zero_le _
  · exact ((Nat.log2_lt hn).mpr h).le.trans (by decide)

/-- A natural number that is a word is a finite number. -/
lemma isFinite_toFloat (n : UInt64) : n.toFloat.isFinite = true := by
  have hfloat : n.toFloat.isFinite = fits (UnpackedFloat.ofNat .binary64 n.toNat) :=
    isFinite_pack _
  rw [hfloat, fits_ofNat (log2_le_of_lt n.toNat_lt)]

/-- A thousand, unpacked. -/
lemma unpack_thousand : (Float.ofBits 0x408F400000000000).toModel.unpack =
    .finite .positive 8796093022208000 (-43) (by decide) := rfl

/-- A finite number is finite in thousandths. -/
lemma isFinite_div_thousand {x : Float} (h : x.isFinite = true) :
    (x / Float.ofBits 0x408F400000000000).isFinite = true := by
  have hdiv : (x / Float.ofBits 0x408F400000000000).isFinite = fits (x.toModel.unpack.div .binary64
      (Float.ofBits 0x408F400000000000).toModel.unpack) := isFinite_pack _
  rw [hdiv, unpack_thousand]
  have hx : x.isFinite = x.toModel.unpack.isFinite := rfl
  rw [hx] at h
  cases hu : x.toModel.unpack with
  | notANumber | infinity =>
    rw [hu] at h
    cases h
  | zero => rfl
  | finite s m e hm =>
    obtain ⟨hlt, he⟩ := bounds_of_unpack_eq hu
    have hlog : m.log2 < 53 := (Nat.log2_lt hm.ne').mpr hlt
    have hthousand : totalExponent 8796093022208000 (-43) = 10 := by decide
    refine fits_div _ _ _ _ ?_
    rw [hthousand]
    unfold totalExponent
    omega

/-- A number of thousandths below `2 ^ 1000` is finite. -/
lemma isFinite_ofScientific {n : ℕ} (h : n.log2 ≤ 1000) :
    (Float.ofScientific n true 3).isFinite = true := by
  unfold Float.ofScientific
  split
  · exact isFinite_div_thousand (isFinite_toFloat _)
  · have hpack : (Float.ofModel (Float.Model.ofScientific n (-3))).isFinite =
        fits (UnpackedFloat.ofScientific .binary64 n (-3)) := isFinite_pack _
    refine hpack.trans ?_
    unfold UnpackedFloat.ofScientific
    by_cases hzero : n = 0
    · rw [dif_pos hzero]
      rfl
    · rw [dif_neg hzero, if_neg (by decide)]
      by_cases hsmall : (-3 : ℤ) < -(2 ^ Format.binary64.exponentBits + n.log2)
      · rw [if_pos hsmall]
        rfl
      · rw [if_neg hsmall, if_neg (by decide)]
        refine fits_div _ _ _ _ ?_
        have hthousand : totalExponent (10 ^ (- -3 : ℤ).toNat) 0 = 10 := by decide
        rw [hthousand]
        unfold totalExponent
        omega

namespace Decimal

/-- The exponent of a double, read as a number. -/
lemma toNat_unpackExponent (x : Float) :
    (@unpackExponent .binary64 x.toBits.toBitVec).toNat =
      x.toBits.toNat / hiddenBit % 0x800 := by
  have hshift : (@unpackExponent .binary64 x.toBits.toBitVec).toNat =
      x.toBits.toNat >>> 52 % 2 ^ 11 := rfl
  rw [hshift, Nat.shiftRight_eq_div_pow]
  rfl

/-- Bits are read as a finite number iff the number is finite. -/
lemma isFinite_eq (x : Float) : isFinite x = x.isFinite := by
  have hx : x.isFinite = (UnpackedFloat.unpack .binary64 x.toBits.toBitVec).isFinite := rfl
  have hexponent := toNat_unpackExponent x
  rw [hx, isFinite_unpack]
  unfold isFinite decode
  dsimp only
  by_cases h : x.toBits.toNat / hiddenBit % 0x800 = 2047
  · have htop : @unpackExponent .binary64 x.toBits.toBitVec = -1#11 :=
      BitVec.eq_of_toNat_eq (hexponent.trans h)
    rw [if_pos h, decide_eq_false (not_not.mpr htop)]
    split
    · rename_i hfinite
      split at hfinite <;> cases hfinite
    · rfl
  · have htop : @unpackExponent .binary64 x.toBits.toBitVec ≠ -1#11 :=
      fun heq => h (hexponent.symm.trans (congrArg BitVec.toNat heq))
    rw [if_neg h, decide_eq_true htop]
    split
    · rfl
    · rename_i hother
      split at hother
      · exact (hother _ _ _ rfl).elim
      · exact (hother _ _ _ rfl).elim

/-- A mantissa has at most 53 bits. -/
lemma lt_of_decode_eq {x : Float} {negative : Bool} {m : ℕ} {e : ℤ}
    (h : decode x = .finite negative m e) : m < 2 ^ 53 := by
  have hfraction : x.toBits.toNat % hiddenBit < 2 ^ 52 := Nat.mod_lt _ (by decide)
  have hhidden : hiddenBit = 2 ^ 52 := rfl
  unfold decode at h
  dsimp only at h
  split at h
  · split at h <;> cases h
  · split at h
    · rw [Binary.finite.injEq] at h
      omega
    · rw [Binary.finite.injEq] at h
      omega

/-- The thousandths of a finite number without a whole exponent are few. -/
lemma log2_units_le {m : ℕ} {e : ℤ} (hm : m < 2 ^ 53) (he : ¬ 0 ≤ e) :
    (units 3 m e).log2 ≤ 1000 := by
  have hround : ∀ n d, roundDiv n d ≤ n + 1 := by
    intro n d
    have hdiv := Nat.div_le_self n d
    unfold roundDiv
    dsimp only
    split <;> omega
  have hunits : units 3 m e ≤ m * 1000 + 1 := by
    unfold units fraction
    rw [if_neg he]
    exact hround _ _
  exact log2_le_of_lt (by omega)

/-- **A number is finite iff it is when rounded to three places.** -/
lemma isFinite_roundTo (x : Float) : (roundTo 3 x).isFinite = x.isFinite := by
  unfold roundTo
  split
  · rename_i negative m e hdecode
    split
    · rfl
    · rename_i he
      have hunits := log2_units_le (lt_of_decode_eq hdecode) he
      rw [← isFinite_eq x, isFinite, hdecode]
      dsimp only
      split
      · rw [isFinite_neg, isFinite_ofScientific hunits]
      · exact isFinite_ofScientific hunits
  · rfl

end Decimal

end Toolpath
