import Mathlib.Tactic.Lemma
import Toolpath.Proofs.Numeral
import Toolpath.Source.Fetch
/-!
# Announced lengths

The length of a body is read from its header by two tests that do not agree: a header of digit signs
is taken for a number, and then only decimal digits are read, and not too many of them. Between the
two lie the headers that are misleading, such as a superscript.

## Main definitions

* `Toolpath.Misleading` — texts of digit signs that are read as no number.
* `Toolpath.Response.Misleads` — responses whose length is misleading.

## Main results

* `Toolpath.Decimal.Whole.read_of_digitSigns` — a text of digit signs as a whole number.
* `Toolpath.exists_announcedLength_eq_error` — a length is refused iff it is misleading.
* `Toolpath.Response.not_misleads` — plain digits do not mislead.
-/

namespace Toolpath

open Text

/-! ## Digit signs among the characters -/

namespace Text

/-- The signs without place value lie apart from ASCII and from white space. -/
lemma digitSignRanges_apart : ∀ range ∈ digitSignRanges,
    160 < range.1 ∧ (range.2 < 0x1680 ∨ 0x1680 < range.1) ∧
      (range.2 < 0x2000 ∨ 0x205F < range.1) ∧ (range.2 < 0x3000 ∨ 0x3000 < range.1) := by
  decide

/-- A digit sign that is no decimal digit is none of ASCII, and no white space. -/
lemma apart_of_isDigitSign {c : Char} (h : isDigitSign c = true) (hd : isDecimal c = false) :
    128 ≤ c.toNat ∧ isBlank c = false := by
  simp only [isDigitSign, hd, Bool.false_or, List.any_eq_true, Bool.and_eq_true,
    decide_eq_true_eq] at h
  obtain ⟨range, hmem, hlow, hhigh⟩ := h
  have hapart := digitSignRanges_apart range hmem
  have hblank : ¬ isBlank c = true := by
    simp only [isBlank, Bool.or_eq_true, Bool.and_eq_true, decide_eq_true_eq, beq_iff_eq]
    omega
  exact ⟨by omega, by simpa using hblank⟩

/-- A digit sign is no white space. -/
lemma isBlank_of_isDigitSign {c : Char} (h : isDigitSign c = true) : isBlank c = false := by
  cases hd : isDecimal c with
  | true => exact isBlank_of_isDecimal hd
  | false => exact (apart_of_isDigitSign h hd).2

/-- A digit sign is no other character of ASCII than a digit. -/
lemma ne_of_isDigitSign {c d : Char} (h : isDigitSign c = true) (hd : isDigitSign d = false) :
    c ≠ d := by
  rintro rfl
  exact absurd h (by simp [hd])

/-- A decimal digit has a value below ten. -/
lemma exists_digitValue?_lt {c : Char} (h : isDecimal c = true) :
    ∃ d, digitValue? c = some d ∧ d < 10 := by
  obtain ⟨d, hd⟩ := Option.isSome_iff_exists.mp h
  refine ⟨d, hd, ?_⟩
  unfold digitValue? at hd
  dsimp only at hd
  split at hd
  · split at hd
    · rename_i hrange
      simp only [Bool.and_eq_true, decide_eq_true_eq] at hrange
      have := Option.some.inj hd
      omega
    · exact absurd hd (by simp)
  · obtain ⟨first, hfirst, rfl⟩ := Option.map_eq_some_iff.mp hd
    have hrange := List.find?_some hfirst
    simp only [Bool.and_eq_true, decide_eq_true_eq] at hrange
    omega

end Text

/-! ## Whole numbers in digit signs -/

namespace Decimal.Whole

/-- A decimal digit is a digit of base ten. -/
lemma digit?_of_isDecimal {c : Char} (h : isDecimal c = true) :
    ∃ d, digitValue? c = some d ∧ (digit? c).filter (· < 10) = some d := by
  obtain ⟨d, hd, hlt⟩ := exists_digitValue?_lt h
  refine ⟨d, hd, ?_⟩
  rw [digit?, hd]
  simp [hlt]

/-- A digit sign that is no decimal digit is no digit. -/
lemma digit?_of_isDigitSign {c : Char} (h : isDigitSign c = true) (hd : isDecimal c = false) :
    digit? c = none := by
  have hvalue : digitValue? c = none := by
    simpa [isDecimal] using hd
  have halpha : ¬ c.isAlpha = true := by
    intro halpha
    have hlarge := (apart_of_isDigitSign h hd).1
    have hletter : c.val ≤ 'Z'.val ∨ c.val ≤ 'z'.val := by
      rcases Bool.or_eq_true_iff.mp halpha with hupper | hlower
      · have hrange : c.val ≥ 'A'.val ∧ c.val ≤ 'Z'.val := of_decide_eq_true hupper
        exact .inl hrange.2
      · have hrange : (decide (c.val ≥ 'a'.val) && decide (c.val ≤ 'z'.val)) = true := hlower
        exact .inr (of_decide_eq_true (Bool.and_eq_true_iff.mp hrange).2)
    rw [UInt32.le_iff_toNat_le, UInt32.le_iff_toNat_le] at hletter
    have hnat : c.val.toNat = c.toNat := rfl
    have hZ : ('Z'.val).toNat = 90 := rfl
    have hz : ('z'.val).toNat = 122 := rfl
    omega
  rw [digit?, hvalue]
  simp [halpha]

/-- The digits in front of digit signs are the decimal ones. -/
lemma splitDigits_of_digitSigns {s : List Char} (h : ∀ c ∈ s, isDigitSign c = true) :
    splitDigits 10 s =
      (some ((s.takeWhile isDecimal).filterMap digitValue?), s.dropWhile isDecimal) := by
  induction s with
  | nil => rfl
  | cons c s ih =>
    have hc := h c List.mem_cons_self
    unfold splitDigits
    cases hd : isDecimal c with
    | true =>
      obtain ⟨d, hvalue, hdigit⟩ := digit?_of_isDecimal hd
      rw [hdigit, ih fun c' hc' => h c' (List.mem_cons_of_mem c hc')]
      simp [hd, hvalue]
    | false =>
      have hne : c ≠ '_' := ne_of_isDigitSign hc (by decide)
      rw [digit?_of_isDigitSign hc hd]
      simp [hd, hne]

/-- **A text of digit signs as a whole number.** It is the number that its digits spell, unless they
are too many or some sign is no decimal digit. -/
theorem read_of_digitSigns {s : List Char} (hne : s ≠ []) (h : ∀ c ∈ s, isDigitSign c = true) :
    read 10 s =
      if digitLimit < (s.takeWhile isDecimal).length then
        .error (.tooLong (s.takeWhile isDecimal).length)
      else if s.all isDecimal then .ok (numberOf (s.filterMap digitValue?) : Nat)
      else .error (.invalid 10 s) := by
  have htrim : trimMargin s = s :=
    dropWhile_ends_eq_self fun c hc => by simp [isMargin, isBlank_of_isDigitSign (h c hc)]
  have hlength : ((s.takeWhile isDecimal).filterMap digitValue?).length =
      (s.takeWhile isDecimal).length :=
    length_filterMap_digitValue? fun c hc => List.mem_takeWhile_imp hc
  obtain ⟨c, s', rfl⟩ := List.exists_cons_of_ne_nil hne
  have hc := h c List.mem_cons_self
  have hminus : c ≠ '-' := ne_of_isDigitSign hc (by decide)
  have hplus : c ≠ '+' := ne_of_isDigitSign hc (by decide)
  have hline : c ≠ '_' := ne_of_isDigitSign hc (by decide)
  have hmark : withoutMark 10 (c :: s') = c :: s' := by
    unfold withoutMark
    split <;> simp_all [mark?]
  unfold read
  rw [htrim]
  split
  rename_i negative body hbody
  have hunsigned : negative = false ∧ body = c :: s' := by
    split at hbody <;> simp_all
  obtain ⟨rfl, rfl⟩ := hunsigned
  simp only [hmark, splitDigits_of_digitSigns h, hlength]
  have hhead : ((c :: s').head? == some '_') = false := by simp [hline]
  rw [hhead]
  simp only [Bool.false_eq_true, if_false, decide_true, Bool.true_and, decide_eq_true_eq]
  by_cases hall : (c :: s').all isDecimal = true
  · -- nothing is left behind the digits
    have htake : (c :: s').takeWhile isDecimal = c :: s' :=
      List.takeWhile_eq_self_iff.mpr fun d hd => List.all_eq_true.mp hall d hd
    have hdrop : (c :: s').dropWhile isDecimal = [] :=
      List.dropWhile_eq_nil_iff.mpr fun d hd => List.all_eq_true.mp hall d hd
    have hvalues : ((c :: s').filterMap digitValue?).isEmpty = false := by
      rw [htake, List.length_cons] at hlength
      cases hv : (c :: s').filterMap digitValue? with
      | nil => rw [hv] at hlength; exact absurd hlength (by simp)
      | cons d ds => rfl
    rw [hall, htake, hdrop, hvalues]
    rfl
  · have hdrop : ((c :: s').dropWhile isDecimal).isEmpty = false := by
      cases hd : (c :: s').dropWhile isDecimal with
      | nil => exact absurd (List.all_eq_true.mpr (List.dropWhile_eq_nil_iff.mp hd)) hall
      | cons d ds => rfl
    rw [hdrop, if_neg hall]
    simp

end Decimal.Whole

/-! ## Misleading lengths -/

/-- A text is misleading if it is made of digit signs but is read as no number: some sign is no
decimal digit, or there are too many of them. -/
def Misleading (s : List Char) : Prop :=
  s ≠ [] ∧ (∀ c ∈ s, isDigitSign c = true) ∧
    ((∃ c ∈ s, isDecimal c = false) ∨ Decimal.Whole.digitLimit < s.length)

/-- A response misleads if its length is misleading. -/
def Response.Misleads (r : Response) : Prop :=
  ∃ s, r.header? "Content-Length" = some s ∧ Misleading s.toList

/-- Digit signs are read as no number iff they are misleading. -/
lemma Decimal.Whole.exists_read_eq_error {s : List Char} (hne : s ≠ [])
    (h : ∀ c ∈ s, isDigitSign c = true) :
    (∃ fault, read 10 s = .error fault) ↔ Misleading s := by
  rw [read_of_digitSigns hne h]
  by_cases hall : s.all isDecimal = true
  · have hdecimal : ∀ c ∈ s, isDecimal c = true := fun c hc => List.all_eq_true.mp hall c hc
    have htake : s.takeWhile isDecimal = s := List.takeWhile_eq_self_iff.mpr hdecimal
    rw [htake, if_pos hall]
    constructor
    · rintro ⟨fault, hfault⟩
      split at hfault
      · rename_i hlong
        exact ⟨hne, h, .inr hlong⟩
      · exact absurd hfault (by simp)
    · rintro ⟨-, -, ⟨c, hc, hd⟩ | hlong⟩
      · exact absurd (hdecimal c hc) (by simp [hd])
      · exact ⟨_, if_pos hlong⟩
  · have hsign : ∃ c ∈ s, isDecimal c = false := by
      simpa using hall
    rw [if_neg hall]
    refine iff_of_true ?_ ⟨hne, h, .inl hsign⟩
    split <;> exact ⟨_, rfl⟩

/-- What stands in the way of a length is a value. -/
lemma exists_value_of_announcedLength {r : Response} {fault : FetchFault}
    (h : announcedLength r = .error fault) : ∃ message, fault = .value message := by
  unfold announcedLength at h
  split at h
  · exact absurd h (by simp)
  · split at h
    · exact absurd h (by simp)
    · split at h
      · exact absurd h (by simp)
      · exact ⟨_, (Except.error.inj h).symm⟩

/-- **A length is refused** iff it is misleading. -/
theorem exists_announcedLength_eq_error (r : Response) :
    (∃ fault, announcedLength r = .error fault) ↔ r.Misleads := by
  unfold announcedLength Response.Misleads
  cases hheader : r.header? "Content-Length" with
  | none => simp
  | some s =>
    have hmisleads : (∃ s', some s = some s' ∧ Misleading s'.toList) ↔ Misleading s.toList := by
      simp
    rw [hmisleads]
    dsimp only
    split
    · -- the header is empty, or holds another character than digit signs
      rename_i hother
      refine iff_of_false (by simp) fun ⟨hne, hsigns, _⟩ => ?_
      have hall : s.toList.all isDigitSign = true := List.all_eq_true.mpr hsigns
      have hnil : s.isEmpty = true := by simpa [hall] using hother
      exact hne (by simp [String.isEmpty_iff.mp hnil])
    · rename_i hsigns
      simp only [Bool.or_eq_true, Bool.not_eq_true', not_or, Bool.not_eq_true,
        Bool.not_eq_false] at hsigns
      obtain ⟨hempty, hall⟩ := hsigns
      have hne : s.toList ≠ [] := by
        intro hnil
        have : s = "" := String.toList_eq_nil_iff.mp hnil
        simp [this] at hempty
      rw [← Decimal.Whole.exists_read_eq_error hne (List.all_eq_true.mp hall)]
      cases Decimal.Whole.read 10 s.toList <;> simp

/-- A length that is read, or none, does not mislead. -/
lemma not_misleads_of_announcedLength {r : Response} {total : Option Nat}
    (h : announcedLength r = .ok total) : ¬ r.Misleads := by
  intro hmisleads
  obtain ⟨fault, hfault⟩ := (exists_announcedLength_eq_error r).mpr hmisleads
  rw [h] at hfault
  exact absurd hfault (by simp)

/-- A response does not mislead if it tells no length, or one in digits of core that are not too
many. -/
theorem Response.not_misleads {r : Response}
    (h : ∀ s, r.header? "Content-Length" = some s →
      (∀ c ∈ s.toList, c.isDigit = true) ∧ s.toList.length ≤ Decimal.Whole.digitLimit) :
    ¬ r.Misleads := by
  rintro ⟨s, hs, -, -, ⟨c, hc, hdecimal⟩ | hlong⟩
  · rw [isDecimal_of_isDigit ((h s hs).1 c hc)] at hdecimal
    exact absurd hdecimal (by decide)
  · exact absurd (h s hs).2 (Nat.not_le.mpr hlong)

end Toolpath
