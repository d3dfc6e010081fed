import Toolpath.Decimal.Layout
import Toolpath.Proofs.Numeral
import Toolpath.Proofs.ShortestDigits
/-!
# Doubles are read back

The fewest digits of a double are laid out with a point, or with an exponent, and with a sign. The
layout stands for the number that the digits stand for. The double owns this number, and what it
owns is read as the double. So a finite double is read back from its text, the sign of a zero
included.

## Main definitions

* `Toolpath.Decimal.Written` — digits, places and an exponent as a number is written.
* `Toolpath.Decimal.Shows` — a text is a number with a point or an exponent, and stands for a value.

## Main results

* `Toolpath.Decimal.Written.read?_eq` — what a written number is read as.
* `Toolpath.Decimal.shows_write` — digits with an exponent are laid out as a number.
* `Toolpath.Decimal.text_spec` — a finite double is read back from its text.
-/

namespace Toolpath.Decimal

open Text

/-! ## Written numbers -/

/-- A point and digits, or nothing. -/
inductive Places : List Char → Prop where
  | none : Places []
  | point {ds : List Char} (hne : ds ≠ []) (h : ∀ c ∈ ds, c.isDigit = true) : Places ('.' :: ds)

/-- An `e`, a sign and digits, or nothing. -/
inductive Power : List Char → Prop where
  | none : Power []
  | some {sign : Char} {ds : List Char} (hsign : sign = '+' ∨ sign = '-') (hne : ds ≠ [])
      (h : ∀ c ∈ ds, c.isDigit = true) : Power ('e' :: sign :: ds)

lemma Places.isDigit_of_mem_tail {part : List Char} (h : Places part) :
    ∀ c ∈ part.tail, c.isDigit = true := by
  cases h with
  | none => simp
  | point hne h => exact h

/-- An exponent as it is written is one as it is read. -/
lemma Power.exponent {e : List Char} (h : Power e) : Exponent e := by
  cases h with
  | none => exact .none
  | @some sign ds hsign hne hds =>
    have hdigits : Digits ds := ⟨hne, fun c hc => isDecimal_of_isDigit (hds c hc)⟩
    rcases hsign with rfl | rfl
    · exact .some (.inl rfl) .plus hdigits
    · exact .some (.inl rfl) .minus hdigits

/-- A number as it is written: digits without a zero in front, a point with digits behind it, and an
exponent. -/
structure Written (whole part e : List Char) : Prop where
  ne_nil : whole ≠ []
  isDigit : ∀ c ∈ whole, c.isDigit = true
  lead : whole.head? = some '0' → whole.length = 1
  places : Places part
  power : Power e

namespace Written

variable {whole part e : List Char}

/-- The whole number that the digits of a written number spell. -/
def significand (whole part : List Char) : ℕ := Nat.ofDigitChars 10 (whole ++ part.tail) 0

/-- The number that a written one stands for. -/
def value (whole part e : List Char) : ℚ :=
  significand whole part * 10 ^ (Decimal.power e - part.tail.length)

lemma digits (h : Written whole part e) : Digits whole :=
  ⟨h.ne_nil, fun c hc => isDecimal_of_isDigit (h.isDigit c hc)⟩

/-- Digits with places are a mantissa. -/
lemma mantissa (h : Written whole part e) : Mantissa (whole ++ part) := by
  cases h.places with
  | none =>
    rw [List.append_nil]
    exact .whole h.digits
  | point hne hds => exact .point h.digits fun c hc => isDecimal_of_isDigit (hds c hc)

/-- What the digits of a mantissa spell. -/
lemma numberOf_mantissa (h : Written whole part e) :
    numberOf (digitValues (whole ++ part)) = significand whole part := by
  have hdigits : ∀ c ∈ whole ++ part.tail, c.isDigit = true := by
    intro c hc
    rcases List.mem_append.mp hc with hc | hc
    · exact h.isDigit c hc
    · exact h.places.isDigit_of_mem_tail c hc
  rw [significand, ← numberOf_filterMap_digitValue? hdigits]
  cases h.places with
  | none => rfl
  | point hne hds =>
    have hpoint : digitValue? '.' = none := by decide
    rw [digitValues, List.filterMap_append, List.filterMap_append, List.filterMap_cons, hpoint,
      List.tail_cons]

/-- The places of a mantissa are the digits behind its point. -/
lemma places_mantissa (h : Written whole part e) :
    Decimal.places (whole ++ part) = part.tail.length := by
  have hwhole : ∀ c ∈ whole, decide (c ≠ '.') = true := by
    intro c hc
    exact decide_eq_true (ne_of_isDecimal (isDecimal_of_isDigit (h.isDigit c hc)) (by decide))
  rw [Decimal.places, List.dropWhile_append_of_pos hwhole]
  cases h.places with
  | none => rfl
  | point hne hds => rfl

/-- **A written number is read**: the double nearest to what it stands for. -/
lemma read?_eq (h : Written whole part e) (negative : Bool) :
    read? (signed negative (whole ++ part ++ e)) =
      some (withSign negative
        (nearest (significand whole part) (Decimal.power e - part.tail.length))) := by
  have hread : ∀ sign, Sign sign → read? (sign ++ (whole ++ part ++ e)) =
      some (withSign (sign == ['-'])
        (nearest (significand whole part) (Decimal.power e - part.tail.length))) := by
    intro sign hsign
    rw [read?_signed hsign h.mantissa h.power.exponent, h.numberOf_mantissa, h.places_mantissa]
  cases negative with
  | false => exact hread [] .none
  | true => exact hread ['-'] .minus

end Written

/-! ## Layouts -/

/-- A zero in front of digits does not matter. -/
lemma ofDigitChars_zero_cons (s : List Char) :
    Nat.ofDigitChars 10 ('0' :: s) 0 = Nat.ofDigitChars 10 s 0 := Nat.ofDigitChars_cons

/-- An exponent with a sign and digits. -/
lemma power_cons {sign : Char} {ds : List Char} (hsign : sign = '+' ∨ sign = '-')
    (hds : ∀ c ∈ ds, c.isDigit = true) :
    power ('e' :: sign :: ds) =
      if sign = '-' then -(Nat.ofDigitChars 10 ds 0 : ℤ) else Nat.ofDigitChars 10 ds 0 := by
  have hvalues : digitValues ('e' :: sign :: ds) = ds.filterMap digitValue? := by
    have he : digitValue? 'e' = none := by decide
    have hs : digitValue? sign = none := by rcases hsign with rfl | rfl <;> decide
    rw [digitValues, List.filterMap_cons, he, List.filterMap_cons, hs]
  have hminus : '-' ∈ 'e' :: sign :: ds ↔ sign = '-' := by
    have hnot : '-' ∉ ds := fun hmem => absurd (hds '-' hmem) (by decide)
    simp [hnot, eq_comm]
  unfold power
  rw [hvalues, numberOf_filterMap_digitValue? hds]
  simp only [hminus]

lemma power_nil : power [] = 0 := rfl

/-- The exponent part is read as the exponent. -/
lemma power_exponentText (k : ℤ) : Power (exponentText k) ∧ power (exponentText k) = k := by
  obtain ⟨ds, hds⟩ : ∃ ds, ds = if (ofNat k.natAbs).length < 2 then '0' :: ofNat k.natAbs
      else ofNat k.natAbs := ⟨_, rfl⟩
  have htext : exponentText k = 'e' :: (if k < 0 then '-' else '+') :: ds := by
    rw [hds]
    rfl
  have hdigits : ∀ c ∈ ds, c.isDigit = true := by
    intro c hc
    rw [hds] at hc
    split at hc
    · rcases List.mem_cons.mp hc with rfl | hc
      · decide
      · exact isDigit_of_mem_ofNat hc
    · exact isDigit_of_mem_ofNat hc
  have hne : ds ≠ [] := by
    rw [hds]
    split
    · exact List.cons_ne_nil _ _
    · exact ofNat_ne_nil _
  have hspelled : Nat.ofDigitChars 10 ds 0 = k.natAbs := by
    rw [hds]
    split
    · rw [ofDigitChars_zero_cons, ofDigitChars_ofNat]
    · exact ofDigitChars_ofNat _
  rw [htext]
  by_cases hk : k < 0
  · rw [if_pos hk]
    refine ⟨.some (.inr rfl) hne hdigits, ?_⟩
    rw [power_cons (.inr rfl) hdigits, if_pos rfl, hspelled]
    omega
  · rw [if_neg hk]
    refine ⟨.some (.inl rfl) hne hdigits, ?_⟩
    rw [power_cons (.inl rfl) hdigits, if_neg (by decide), hspelled]
    omega

/-- A text is a number with a point or an exponent, and stands for a value. -/
def Shows (s : List Char) (v : ℚ) : Prop :=
  ∃ whole part e, Written whole part e ∧ (part ≠ [] ∨ e ≠ []) ∧ s = whole ++ part ++ e ∧
    Written.value whole part e = v

section Layouts

variable {d : ℕ} {t : ℤ}

/-- Digits behind a point and zeros. -/
lemma shows_small (d : ℕ) (ht : t + (ofNat d).length ≤ 0) :
    Shows (place (ofNat d) (t + (ofNat d).length) true) (d * 10 ^ t) := by
  obtain ⟨zeros, hzeros⟩ : ∃ zeros : ℕ, t + (ofNat d).length = -(zeros : ℤ) :=
    ⟨(-(t + (ofNat d).length)).toNat, by omega⟩
  have hall : ∀ c ∈ List.replicate zeros '0' ++ ofNat d, c.isDigit = true := by
    intro c hc
    rcases List.mem_append.mp hc with hc | hc
    · rw [List.eq_of_mem_replicate hc]
      decide
    · exact isDigit_of_mem_ofNat hc
  have hne : List.replicate zeros '0' ++ ofNat d ≠ [] :=
    List.append_ne_nil_of_right_ne_nil _ (ofNat_ne_nil d)
  have hlength : (List.replicate zeros '0' ++ ofNat d).length = zeros + (ofNat d).length := by
    rw [List.length_append, List.length_replicate]
  refine ⟨['0'], '.' :: (List.replicate zeros '0' ++ ofNat d), [], ?_, .inl (List.cons_ne_nil _ _),
    ?_, ?_⟩
  · exact ⟨List.cons_ne_nil _ _, by simp, fun _ => rfl, .point hne hall, .none⟩
  · rw [place, if_pos ht, hzeros, Int.neg_neg, Int.toNat_natCast, List.append_nil]
    rfl
  · have hspelled : Written.significand ['0'] ('.' :: (List.replicate zeros '0' ++ ofNat d)) = d := by
      rw [Written.significand, List.tail_cons, List.singleton_append, ofDigitChars_zero_cons,
        Nat.ofDigitChars_append, Nat.ofDigitChars_replicate_zero, Nat.mul_zero, ofDigitChars_ofNat]
    rw [Written.value, hspelled, List.tail_cons, hlength, power_nil]
    congr 2
    push_cast
    omega

/-- Digits in front of zeros and a point. -/
lemma shows_large (hd : 0 < d) (ht : 0 ≤ t) :
    Shows (place (ofNat d) (t + (ofNat d).length) true) (d * 10 ^ t) := by
  obtain ⟨zeros, rfl⟩ := Int.eq_ofNat_of_zero_le ht
  have hpos : 0 < (ofNat d).length := Nat.length_toDigits_pos
  have hpoint : ((zeros : ℤ) + (ofNat d).length).toNat = zeros + (ofNat d).length := by omega
  have hall : ∀ c ∈ ofNat d ++ List.replicate zeros '0', c.isDigit = true := by
    intro c hc
    rcases List.mem_append.mp hc with hc | hc
    · exact isDigit_of_mem_ofNat hc
    · rw [List.eq_of_mem_replicate hc]
      decide
  refine ⟨ofNat d ++ List.replicate zeros '0', ['.', '0'], [], ?_, .inl (List.cons_ne_nil _ _),
    ?_, ?_⟩
  · refine ⟨List.append_ne_nil_of_left_ne_nil (ofNat_ne_nil d) _, hall, ?_,
      .point (List.cons_ne_nil _ _) (by simp), .none⟩
    intro hlead
    rw [List.head?_append, Option.or_of_isSome (List.isSome_head?.mpr (ofNat_ne_nil d))] at hlead
    exact absurd hlead (head_ofNat_ne hd)
  · rw [place, if_neg (by omega)]
    dsimp only
    rw [hpoint, if_pos (by omega), Nat.add_sub_cancel, List.append_nil]
    rfl
  · have hspelled : Written.significand (ofNat d ++ List.replicate zeros '0') ['.', '0'] =
        10 * (10 ^ zeros * d) := by
      rw [Written.significand, Nat.ofDigitChars_append, Nat.ofDigitChars_append, ofDigitChars_ofNat,
        Nat.ofDigitChars_replicate_zero]
      rfl
    rw [Written.value, hspelled, power_nil, zpow_natCast]
    push_cast
    simp only [List.tail_cons, List.length_singleton]
    norm_num
    ring

/-- Digits on both sides of a point. -/
lemma shows_between (hd : 0 < d) (ht : t < 0) (ht' : 0 < t + (ofNat d).length) :
    Shows (place (ofNat d) (t + (ofNat d).length) true) (d * 10 ^ t) := by
  obtain ⟨n, hn⟩ : ∃ n : ℕ, t + (ofNat d).length = n := ⟨(t + (ofNat d).length).toNat, by omega⟩
  have hlt : n < (ofNat d).length := by omega
  have hall : ∀ c ∈ ofNat d, c.isDigit = true := fun c hc => isDigit_of_mem_ofNat hc
  have hdrop : (ofNat d).drop n ≠ [] := by
    rw [ne_eq, List.drop_eq_nil_iff]
    omega
  refine ⟨(ofNat d).take n, '.' :: (ofNat d).drop n, [], ?_, .inl (List.cons_ne_nil _ _), ?_, ?_⟩
  · refine ⟨?_, fun c hc => hall c (List.mem_of_mem_take hc), ?_,
      .point hdrop fun c hc => hall c (List.mem_of_mem_drop hc), .none⟩
    · rw [ne_eq, List.take_eq_nil_iff]
      rintro (hzero | hnil)
      · omega
      · exact absurd hnil (ofNat_ne_nil d)
    · intro hlead
      rw [List.head?_take, if_neg (by omega)] at hlead
      exact absurd hlead (head_ofNat_ne hd)
  · rw [place, if_neg (by omega)]
    dsimp only
    rw [hn, Int.toNat_natCast, if_neg (by omega), List.append_nil]
  · have hspelled : Written.significand ((ofNat d).take n) ('.' :: (ofNat d).drop n) = d := by
      rw [Written.significand, List.tail_cons, List.take_append_drop, ofDigitChars_ofNat]
    rw [Written.value, hspelled, List.tail_cons, List.length_drop, power_nil]
    congr 2
    omega

/-- Digits with a point behind the first one, and an exponent. -/
lemma shows_power (d : ℕ) (t : ℤ) :
    Shows (match ofNat d with
      | [] => exponentText (t + (ofNat d).length - 1)
      | [c] => c :: exponentText (t + (ofNat d).length - 1)
      | c :: cs => c :: '.' :: cs ++ exponentText (t + (ofNat d).length - 1)) (d * 10 ^ t) := by
  obtain ⟨hpower, hvalue⟩ := power_exponentText (t + (ofNat d).length - 1)
  have hall : ∀ c ∈ ofNat d, c.isDigit = true := fun c hc => isDigit_of_mem_ofNat hc
  have hspelled := ofDigitChars_ofNat d
  have hne : exponentText (t + (ofNat d).length - 1) ≠ [] := List.cons_ne_nil _ _
  generalize exponentText (t + (ofNat d).length - 1) = e at hpower hvalue hne
  have hnil := ofNat_ne_nil d
  generalize ofNat d = ds at hall hspelled hvalue hnil
  match ds with
  | [] => exact absurd rfl hnil
  | [c] =>
    refine ⟨[c], [], e, ⟨hnil, hall, fun _ => rfl, .none, hpower⟩, .inr hne, rfl, ?_⟩
    have hsignificand : Written.significand [c] [] = d := hspelled
    rw [Written.value, hsignificand, hvalue]
    congr 2
    simp
  | c :: c' :: cs =>
    have hcs : ∀ a ∈ c' :: cs, a.isDigit = true := fun a ha => hall a (List.mem_cons_of_mem _ ha)
    refine ⟨[c], '.' :: c' :: cs, e, ?_, .inr hne, rfl, ?_⟩
    · exact ⟨List.cons_ne_nil _ _, fun a ha => hall a (by simp_all), fun _ => rfl,
        .point (List.cons_ne_nil _ _) hcs, hpower⟩
    · have hsignificand : Written.significand [c] ('.' :: c' :: cs) = d := hspelled
      rw [Written.value, hsignificand, hvalue, List.tail_cons]
      congr 2
      rw [List.length_cons]
      push_cast
      omega

/-- **Digits with an exponent are laid out as a number** that stands for them. -/
lemma shows_write (hd : 0 < d) (t : ℤ) :
    Shows (Layout.answer.write (ofNat d) (t + (ofNat d).length - 1)) (d * 10 ^ t) := by
  unfold Layout.write
  split
  · rw [Int.sub_add_cancel]
    by_cases ht : 0 ≤ t
    · exact shows_large hd ht
    · by_cases ht' : t + (ofNat d).length ≤ 0
      · exact shows_small d ht'
      · exact shows_between hd (by omega) (by omega)
  · exact shows_power d t

end Layouts

/-! ## Texts of doubles -/

/-- A double that stands for nothing is zero, with a sign. -/
lemma eq_withSign_zero {x : Float} {negative : Bool} {e : ℤ}
    (h : decode x = .finite negative 0 e) : x = withSign negative 0.0 := by
  obtain ⟨biased, -, hbits, hparts⟩ := bits_of_decode h
  have hzero : biased = 0 := by omega
  apply eq_of_toBits_eq
  rw [hbits, hzero]
  cases negative <;> decide +kernel

/-- The text of zero. -/
lemma shows_zero : Shows ['0', '.', '0'] 0 := by
  refine ⟨['0'], ['.', '0'], [], ?_, .inl (List.cons_ne_nil _ _), rfl, ?_⟩
  · exact ⟨List.cons_ne_nil _ _, by simp, fun _ => rfl, .point (List.cons_ne_nil _ _) (by simp),
      .none⟩
  · have hspelled : Written.significand ['0'] ['.', '0'] = 0 := rfl
    rw [Written.value, hspelled, Nat.cast_zero, zero_mul]

/-- A text that stands for zero is read as zero. -/
lemma read?_of_shows_zero {s : List Char} (h : Shows s 0) (negative : Bool) :
    read? (signed negative s) = some (withSign negative 0.0) := by
  obtain ⟨whole, part, e, hwritten, -, rfl, hvalue⟩ := h
  have hzero : Written.significand whole part = 0 := by
    have hpow : (10 : ℚ) ^ (power e - part.tail.length) ≠ 0 := (zpow_pos (by norm_num) _).ne'
    exact_mod_cast (mul_eq_zero.mp hvalue).resolve_right hpow
  rw [hwritten.read?_eq, hzero]
  rfl

/-- A text that stands for a number that a double owns is read as the double. -/
lemma read?_of_shows {x : Float} {negative : Bool} {m : ℕ} {e : ℤ}
    (hx : decode x = .finite negative m e) (hm : 0 < m) {s : List Char} {v : ℚ}
    (h : Shows s v) (howns : Rounding.Owns ⟨m, e⟩ v) :
    read? (signed negative s) = some x := by
  obtain ⟨whole, part, e', hwritten, -, rfl, rfl⟩ := h
  have hpos : 0 < Written.significand whole part := by
    have hvalue := howns.pos (canonical_of_decode hx hm)
    rcases Nat.eq_zero_or_pos (Written.significand whole part) with hzero | hpos
    · rw [Written.value, hzero, Nat.cast_zero, zero_mul] at hvalue
      exact absurd hvalue (lt_irrefl 0)
    · exact hpos
  rw [hwritten.read?_eq, withSign_nearest hx hm hpos howns]

/-- **The text of a finite double** is a number with a point or an exponent, and is read back as the
double. -/
theorem text_spec {x : Float} (hx : isFinite x = true) :
    (∃ negative s v, text x = signed negative s ∧ Shows s v) ∧ read? (text x) = some x := by
  cases hdecode : decode x with
  | nan | infinite =>
    rw [isFinite, hdecode] at hx
    cases hx
  | finite negative m e =>
    rcases Nat.eq_zero_or_pos m with rfl | hm
    · have htext : text x = signed negative ['0', '.', '0'] := by
        unfold text
        rw [hdecode]
        rfl
      refine ⟨⟨negative, _, 0, htext, shows_zero⟩, ?_⟩
      rw [htext, read?_of_shows_zero shows_zero, ← eq_withSign_zero hdecode]
    · have htext : text x = signed negative (Layout.answer.write (ofNat (shortest m e).1)
          ((shortest m e).2 + (ofNat (shortest m e).1).length - 1)) := by
        unfold text
        rw [hdecode]
        dsimp only
        rw [if_neg hm.ne']
      obtain ⟨hpos, howns⟩ := owns_shortest (canonical_of_decode hdecode hm)
      have hshows := shows_write hpos (shortest m e).2
      refine ⟨⟨negative, _, _, htext, hshows⟩, ?_⟩
      rw [htext, read?_of_shows hdecode hm hshows howns]

end Toolpath.Decimal
