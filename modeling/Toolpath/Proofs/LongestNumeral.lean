import Mathlib.Data.List.Forall2
import Toolpath.Proofs.Numeral
/-!
# The longest number in front of a text

What is found in front of a text is a numeral. Here it is shown to be the longest one, whatever the
text goes on with: an exponent without digits, a second point or a name cut short end the number in
front of them. The number that is read is the one that its digits spell, so neither what follows it
nor the script of its digits matters.

## Main definitions

* `Toolpath.Decimal.LongestNumeral` — the longest numeral in front of a text.
* `Toolpath.Decimal.Denotes` — the double that a numeral stands for, by the values of its digits.
* `Toolpath.Decimal.SameDigits` — texts that differ in the script of their digits at most.

## Main results

* `Toolpath.Decimal.Leading.prefix_of_split?` — every numeral in front of a text is in front of the
  one that is found.
* `Toolpath.Decimal.Denotes.read?` — a numeral is read as what it stands for.
* `Toolpath.Decimal.SameDigits.denotes` — the script of the digits does not matter.
* `Toolpath.Decimal.leading?_longest` — the longest number in front of a text is read.
-/

namespace Toolpath.Decimal

open Text

/-! ## Nothing longer is found -/

namespace Leading

/-- Digits in front of what does not go on with them are found as they stand. -/
lemma digits_append {ds rest : List Char} (hds : ∀ c ∈ ds, isDecimal c = true)
    (hrest : ∀ c ∈ rest.head?, isDecimal c = false) : digits (ds ++ rest) = (ds, rest) := by
  have htake : rest.takeWhile isDecimal = [] ∧ rest.dropWhile isDecimal = rest := by
    cases rest with
    | nil => exact ⟨rfl, rfl⟩
    | cons c rest =>
      have hc := hrest c rfl
      exact ⟨List.takeWhile_cons_of_neg (by simp [hc]), List.dropWhile_cons_of_neg (by simp [hc])⟩
  rw [digits, List.takeWhile_append_of_pos hds, List.dropWhile_append_of_pos hds, htake.1, htake.2,
    List.append_nil]

/-- Digits in front of a text are in front of those that are found. -/
lemma prefix_digits {ds s : List Char} (hds : ∀ c ∈ ds, isDecimal c = true) (h : ds <+: s) :
    ds <+: (digits s).1 := by
  obtain ⟨rest, rfl⟩ := h
  rw [digits, List.takeWhile_append_of_pos hds]
  exact List.prefix_append _ _

/-- An exponent in front of a text is in front of the one that is found. -/
lemma prefix_exponent {e s : List Char} (he : Exponent e) (h : e <+: s) : e <+: (exponent s).1 := by
  cases he with
  | none => exact List.nil_prefix
  | @some c sgn ds hc hsign hds =>
    obtain ⟨rest, rfl⟩ := h
    have hletter : (decide (c = 'e') || decide (c = 'E')) = true := by simpa using hc
    have hsplit : sign (sgn ++ (ds ++ rest)) = (sgn, ds ++ rest) := by
      refine sign_append hsign fun d hd => ?_
      obtain ⟨d', ds', rfl⟩ := List.exists_cons_of_ne_nil hds.1
      obtain rfl := Option.some.inj hd
      have hdecimal := hds.2 d' List.mem_cons_self
      exact ⟨ne_of_isDecimal hdecimal (by decide), ne_of_isDecimal hdecimal (by decide)⟩
    have hfound : ds <+: (digits (ds ++ rest)).1 := prefix_digits hds.2 (List.prefix_append _ _)
    rw [List.cons_append, List.append_assoc, exponent_cons, if_pos hletter, hsplit]
    split
    · rename_i hnone
      rw [hnone, List.prefix_nil] at hfound
      exact absurd hfound hds.1
    · rename_i hdigits
      rw [hdigits] at hfound
      exact (List.prefix_cons_inj c).mpr ((List.prefix_append_right_inj sgn).mpr hfound)

/-- Digits and an exponent in front of a text are in front of those that are found: if more digits
are there, the exponent is missing. -/
lemma prefix_digits_exponent {ds e s : List Char} (hds : ∀ c ∈ ds, isDecimal c = true)
    (he : Exponent e) (h : ds ++ e <+: s) :
    ds ++ e <+: (digits s).1 ++ (exponent (digits s).2).1 := by
  obtain ⟨rest, rfl⟩ := h
  by_cases hmore : ∃ c ∈ (e ++ rest).head?, isDecimal c = true
  · have hnil : e = [] := by
      cases he with
      | none => rfl
      | some hc =>
        obtain ⟨c, hhead, hdecimal⟩ := hmore
        obtain rfl := Option.some.inj hhead
        rcases hc with rfl | rfl <;> exact absurd hdecimal (by decide)
    subst hnil
    rw [List.append_nil]
    exact (prefix_digits hds (List.prefix_append _ _)).trans (List.prefix_append _ _)
  · have hsplit : digits (ds ++ (e ++ rest)) = (ds, e ++ rest) :=
      digits_append hds fun c hc => by
        by_contra hdecimal
        exact hmore ⟨c, hc, by simpa using hdecimal⟩
    rw [List.append_assoc, hsplit]
    exact (List.prefix_append_right_inj ds).mpr (prefix_exponent he (List.prefix_append _ _))

/-- Behind digits and a point, more digits are found. -/
lemma mantissa?_point {ds : List Char} (hds : Digits ds) (s : List Char) :
    mantissa? (ds ++ '.' :: s) = some (ds ++ '.' :: (digits s).1, (digits s).2) := by
  have hdigits : digits (ds ++ '.' :: s) = (ds, '.' :: s) :=
    digits_append hds.2 fun c hc => by
      obtain rfl := Option.some.inj hc
      decide
  obtain ⟨d, ds', rfl⟩ := List.exists_cons_of_ne_nil hds.1
  rw [mantissa?, hdigits]
  rfl

/-- Behind a point in front, digits are found. -/
lemma mantissa?_fraction {fs : List Char} (hfs : Digits fs) (s : List Char) :
    mantissa? ('.' :: (fs ++ s)) = some ('.' :: (digits (fs ++ s)).1, (digits (fs ++ s)).2) := by
  have hpoint : digits ('.' :: (fs ++ s)) = ([], '.' :: (fs ++ s)) := rfl
  obtain ⟨c, found, rest, hdigits⟩ := exists_digits_append hfs s
  rw [mantissa?, hpoint]
  simp only [hdigits]

/-- A number in digits in front of a text is in front of the one that is found. -/
lemma prefix_mantissa {m e s m' rest : List Char} (hm : Mantissa m) (he : Exponent e)
    (h : m ++ e <+: s) (hfound : mantissa? s = some (m', rest)) :
    m ++ e <+: m' ++ (exponent rest).1 := by
  cases hm with
  | whole hds =>
    have hprefix := prefix_digits_exponent hds.2 he h
    unfold mantissa? at hfound
    split at hfound
    · -- digits are in front, so the text does not start with a point
      rename_i hdigits
      have hnil := prefix_digits hds.2 ((List.prefix_append m e).trans h)
      rw [hdigits, List.prefix_nil] at hnil
      exact absurd hnil hds.1
    · exact absurd hfound (by simp)
    · -- a point behind the digits is no exponent
      rename_i whole behind hne hdigits
      obtain ⟨rfl, rfl⟩ := Prod.mk.inj (Option.some.inj hfound)
      rw [hdigits] at hprefix
      have hpoint : (exponent ('.' :: behind)).1 = [] := by
        rw [exponent_cons]
        rfl
      rw [hpoint, List.append_nil] at hprefix
      rw [List.append_assoc]
      exact hprefix.trans (List.prefix_append _ _)
    · rename_i hdigits
      obtain ⟨rfl, rfl⟩ := Prod.mk.inj (Option.some.inj hfound)
      rwa [hdigits] at hprefix
  | @point ds fs hds hfs =>
    obtain ⟨rest', rfl⟩ := h
    have hprefix := prefix_digits_exponent hfs he (List.prefix_append (fs ++ e) rest')
    have hshape : ds ++ '.' :: fs ++ e ++ rest' = ds ++ '.' :: (fs ++ e ++ rest') := by simp
    rw [hshape, mantissa?_point hds] at hfound
    obtain ⟨rfl, rfl⟩ := Prod.mk.inj (Option.some.inj hfound)
    rw [List.append_assoc, List.append_assoc, List.cons_append, List.cons_append]
    exact (List.prefix_append_right_inj ds).mpr ((List.prefix_cons_inj '.').mpr hprefix)
  | @fraction fs hfs =>
    obtain ⟨rest', rfl⟩ := h
    have hprefix := prefix_digits_exponent hfs.2 he (List.prefix_append (fs ++ e) rest')
    have hshape : '.' :: fs ++ e ++ rest' = '.' :: (fs ++ (e ++ rest')) := by simp
    rw [hshape, mantissa?_fraction hfs, ← List.append_assoc] at hfound
    obtain ⟨rfl, rfl⟩ := Prod.mk.inj (Option.some.inj hfound)
    exact (List.prefix_cons_inj '.').mpr hprefix

/-- **Nothing longer is found**: every numeral in front of a text is in front of the one that is
found. -/
theorem prefix_of_split? {s lexeme rest numeral : List Char}
    (hfound : split? s = some (lexeme, rest)) (hnumeral : Numeral numeral) (h : numeral <+: s) :
    numeral <+: lexeme := by
  obtain ⟨rest', rfl⟩ := h
  obtain ⟨hsign, hbody⟩ := hnumeral
  rename_i sgn body
  obtain ⟨c, tail, hcons, hc⟩ := hbody.head_ne_sign
  have hsplit : sign (sgn ++ (body ++ rest')) = (sgn, body ++ rest') := by
    refine sign_append hsign fun d hd => ?_
    rw [hcons] at hd
    obtain rfl := Option.some.inj hd
    exact hc
  rw [List.append_assoc, split?_eq, hsplit] at hfound
  cases hbody with
  | @number m e hm he =>
    split at hfound
    · rename_i m' rest'' hmantissa
      obtain ⟨rfl, rfl⟩ := Prod.mk.inj (Option.some.inj hfound)
      rw [List.append_assoc]
      refine (List.prefix_append_right_inj sgn).mpr ?_
      exact prefix_mantissa hm he (List.prefix_append _ _) hmantissa
    · rename_i hnone
      have hsome := isSome_mantissa?_append hm (e ++ rest')
      rw [← List.append_assoc, hnone] at hsome
      exact absurd hsome (by simp)
  | infinity =>
    have hnone : mantissa? (infinityName ++ rest') = none := rfl
    have hname : infinityName.isPrefixOf (infinityName ++ rest') = true :=
      List.isPrefixOf_iff_prefix.mpr (List.prefix_append _ _)
    simp only [hnone, hname, if_true] at hfound
    obtain ⟨rfl, -⟩ := Prod.mk.inj (Option.some.inj hfound)
    exact List.prefix_rfl

end Leading

/-- The longest numeral in front of a text. -/
structure LongestNumeral (lexeme s : List Char) : Prop where
  numeral : Numeral lexeme
  front : lexeme <+: s
  longest : ∀ other, Numeral other → other <+: s → other.length ≤ lexeme.length

/-- What is found in front of a text is the longest numeral there. -/
lemma longestNumeral_of_split? {s lexeme rest : List Char}
    (h : Leading.split? s = some (lexeme, rest)) : LongestNumeral lexeme s := by
  obtain ⟨hnumeral, happend⟩ := Leading.numeral_of_split? h
  refine ⟨hnumeral, ⟨rest, happend⟩, fun other hother hfront => ?_⟩
  exact (Leading.prefix_of_split? h hother hfront).length_le

/-- There is one longest numeral in front of a text at most. -/
lemma LongestNumeral.unique {s numeral numeral' : List Char} (h : LongestNumeral numeral s)
    (h' : LongestNumeral numeral' s) : numeral = numeral' := by
  have hle := h.longest numeral' h'.numeral h'.front
  have hle' := h'.longest numeral h.numeral h.front
  exact (List.prefix_of_prefix_length_le h.front h'.front hle').eq_of_length (by omega)

/-! ## What a numeral stands for -/

/-- The double that a numeral stands for: the one nearest to what its digits spell, shifted by its
places and its exponent, with its sign. -/
inductive Denotes : List Char → Float → Prop where
  | number {sign m e : List Char} (hsign : Sign sign) (hm : Mantissa m) (he : Exponent e) :
      Denotes (sign ++ (m ++ e))
        (withSign (sign == ['-']) (nearest (numberOf (digitValues m)) (power e - places m)))
  | infinity {sign : List Char} (hsign : Sign sign) :
      Denotes (sign ++ Leading.infinityName) (withSign (sign == ['-']) infinity)

/-- What stands for a double is a numeral. -/
lemma Denotes.numeral {s : List Char} {x : Float} (h : Denotes s x) : Numeral s := by
  cases h with
  | number hsign hm he => exact .signed hsign (.number hm he)
  | infinity hsign => exact .signed hsign .infinity

/-- A numeral is not empty. -/
lemma Numeral.ne_nil {s : List Char} (h : Numeral s) : s ≠ [] := by
  obtain ⟨-, hbody⟩ := h
  obtain ⟨c, tail, hcons, -⟩ := hbody.head_ne_sign
  simp [hcons]

/-- A numeral stands for a double. -/
lemma Numeral.exists_denotes {s : List Char} (h : Numeral s) : ∃ x, Denotes s x := by
  obtain ⟨hsign, hbody⟩ := h
  cases hbody with
  | number hm he => exact ⟨_, .number hsign hm he⟩
  | infinity => exact ⟨_, .infinity hsign⟩

/-- **A numeral is read** as the double that it stands for. -/
theorem Denotes.read? {s : List Char} {x : Float} (h : Denotes s x) : read? s = some x := by
  cases h with
  | number hsign hm he => exact read?_signed hsign hm he
  | infinity hsign => cases hsign <;> rfl

/-- The number in front of a text is what the longest numeral there stands for. -/
lemma leading?_eq_some_iff {s : List Char} {x : Float} :
    leading? s = some x ↔ ∃ numeral, LongestNumeral numeral (trimLeft s) ∧ Denotes numeral x := by
  rw [leading?_eq_bind]
  constructor
  · intro h
    obtain ⟨⟨lexeme, rest⟩, hsplit, hread⟩ := Option.bind_eq_some_iff.mp h
    have hlongest := longestNumeral_of_split? hsplit
    obtain ⟨y, hy⟩ := hlongest.numeral.exists_denotes
    obtain rfl : y = x := Option.some.inj (hy.read?.symm.trans hread)
    exact ⟨lexeme, hlongest, hy⟩
  · rintro ⟨numeral, hlongest, hx⟩
    obtain ⟨rest, hrest⟩ := hlongest.front
    obtain ⟨⟨lexeme, rest'⟩, hsplit⟩ :=
      Option.isSome_iff_exists.mp (hlongest.numeral.isSome_split?_append rest)
    rw [hrest] at hsplit
    obtain rfl := hlongest.unique (longestNumeral_of_split? hsplit)
    rw [hsplit, Option.bind_some, hx.read?]

/-! ## The script of digits -/

/-- Two characters that are the same, or digits of the same value. -/
def SameDigit (c c' : Char) : Prop :=
  c = c' ∨ ∃ d, digitValue? c = some d ∧ digitValue? c' = some d

section SameDigit

variable {c c' : Char}

/-- Digits of the same value may be exchanged. -/
lemma SameDigit.symm (h : SameDigit c c') : SameDigit c' c := by
  rcases h with rfl | ⟨d, hd, hd'⟩
  · exact .inl rfl
  · exact .inr ⟨d, hd', hd⟩

/-- The same digits have the same value. -/
lemma SameDigit.digitValue?_eq (h : SameDigit c c') : digitValue? c = digitValue? c' := by
  rcases h with rfl | ⟨d, hd, hd'⟩
  · rfl
  · rw [hd, hd']

/-- A character that is no digit is itself alone. -/
lemma SameDigit.eq_of_not_isDecimal (h : SameDigit c c') (hc : isDecimal c = false) : c = c' := by
  rcases h with rfl | ⟨d, hd, -⟩
  · rfl
  · simp [isDecimal, hd] at hc

/-- A digit is a digit in every script. -/
lemma SameDigit.isDecimal_eq (h : SameDigit c c') : isDecimal c = isDecimal c' := by
  rw [isDecimal, isDecimal, h.digitValue?_eq]

/-- A digit is no white space in any script. -/
lemma SameDigit.isBlank_eq (h : SameDigit c c') : isBlank c = isBlank c' := by
  cases hc : isDecimal c with
  | false => rw [h.eq_of_not_isDecimal hc]
  | true =>
    have hc' : isDecimal c' = true := h.isDecimal_eq.symm.trans hc
    rw [isBlank_of_isDecimal hc, isBlank_of_isDecimal hc']

/-- A character that is no digit stands on both sides or on none. -/
lemma SameDigit.eq_iff {d : Char} (h : SameDigit c c') (hd : isDecimal d = false) :
    c = d ↔ c' = d := by
  constructor
  · rintro rfl
    exact (h.eq_of_not_isDecimal hd).symm
  · rintro rfl
    exact (h.symm.eq_of_not_isDecimal hd).symm

end SameDigit

/-- Two texts that differ in the script of their digits at most. -/
abbrev SameDigits : List Char → List Char → Prop := List.Forall₂ SameDigit

namespace SameDigits

variable {s s' : List Char}

/-- Texts may be exchanged for each other. -/
lemma symm (h : SameDigits s s') : SameDigits s' s :=
  (List.Forall₂.imp (fun _ _ hc => hc.symm) h).flip

/-- A text that starts with a character starts with a character. -/
lemma exists_cons {c : Char} (h : SameDigits (c :: s) s') :
    ∃ c' rest', s' = c' :: rest' ∧ SameDigit c c' ∧ SameDigits s rest' := by
  obtain ⟨c', rest', hc, hrest, rfl⟩ := List.forall₂_cons_left_iff.mp h
  exact ⟨c', rest', rfl, hc, hrest⟩

/-- A text that is put together stays put together. -/
lemma exists_append {front back : List Char} (h : SameDigits (front ++ back) s') :
    ∃ front' back', s' = front' ++ back' ∧ SameDigits front front' ∧ SameDigits back back' := by
  induction front generalizing s' with
  | nil => exact ⟨[], s', rfl, .nil, h⟩
  | cons c front ih =>
    obtain ⟨c', rest', rfl, hc, hrest⟩ := exists_cons h
    obtain ⟨front', back', rfl, hfront, hback⟩ := ih hrest
    exact ⟨c' :: front', back', rfl, .cons hc hfront, hback⟩

/-- What is dropped in front by a test that no script changes is dropped at the same place. -/
lemma dropWhile {p : Char → Bool} (hp : ∀ c c', SameDigit c c' → p c = p c')
    (h : SameDigits s s') : SameDigits (s.dropWhile p) (s'.dropWhile p) := by
  induction h with
  | nil => exact .nil
  | @cons c c' s s' hc h ih =>
    rw [List.dropWhile_cons, List.dropWhile_cons, hp c c' hc]
    split
    · exact ih
    · exact .cons hc h

/-- White space in front ends at the same place. -/
lemma trimLeft (h : SameDigits s s') : SameDigits (trimLeft s) (trimLeft s') :=
  h.dropWhile fun _ _ hc => hc.isBlank_eq

/-- The values of the digits are the same. -/
lemma digitValues_eq (h : SameDigits s s') : digitValues s = digitValues s' := by
  unfold digitValues
  induction h with
  | nil => rfl
  | cons hc _ ih => rw [List.filterMap_cons, List.filterMap_cons, hc.digitValue?_eq, ih]

/-- A character that is no digit stands in both texts or in none. -/
lemma mem_iff {d : Char} (h : SameDigits s s') (hd : isDecimal d = false) : d ∈ s ↔ d ∈ s' := by
  induction h with
  | nil => rfl
  | cons hc _ ih => rw [List.mem_cons, List.mem_cons, ih, eq_comm, hc.eq_iff hd, eq_comm]

/-- The point is followed by as many places. -/
lemma places_eq (h : SameDigits s s') : places s = places s' := by
  have hpoint : ∀ c c', SameDigit c c' → decide (c ≠ '.') = decide (c' ≠ '.') := by
    intro c c' hc
    exact decide_eq_decide.mpr (not_congr (hc.eq_iff (by decide)))
  have hlength := (h.dropWhile hpoint).length_eq
  rw [places, places, List.length_tail, List.length_tail, hlength]

/-- The power of ten is the same. -/
lemma power_eq (h : SameDigits s s') : power s = power s' := by
  have hminus := h.mem_iff (d := '-') (by decide)
  rw [power, power, h.digitValues_eq]
  simp only [hminus]

/-- A text without digits stays as it is. -/
lemma eq_of_no_digits (h : SameDigits s s') (hs : s.any isDecimal = false) : s' = s := by
  induction h with
  | nil => rfl
  | cons hc _ ih =>
    rw [List.any_cons, Bool.or_eq_false_iff] at hs
    rw [hc.eq_of_not_isDecimal hs.1, ih hs.2]

/-- A text of digits stays one. -/
lemma forall_isDecimal (h : SameDigits s s') (hs : ∀ c ∈ s, isDecimal c = true) :
    ∀ c ∈ s', isDecimal c = true := by
  induction h with
  | nil => exact hs
  | cons hc _ ih =>
    rw [List.forall_mem_cons] at hs ⊢
    exact ⟨hc.isDecimal_eq ▸ hs.1, ih hs.2⟩

/-- Digits stay digits. -/
lemma digits (h : SameDigits s s') (hs : Digits s) : Digits s' := by
  refine ⟨?_, h.forall_isDecimal hs.2⟩
  rintro rfl
  exact hs.1 (List.forall₂_nil_right_iff.mp h)

/-- A sign has no digits, so it stays. -/
lemma sign_eq (h : SameDigits s s') (hs : Sign s) : s' = s :=
  h.eq_of_no_digits (by cases hs <;> decide)

/-- A mantissa stays one. -/
lemma mantissa (h : SameDigits s s') (hs : Mantissa s) : Mantissa s' := by
  cases hs with
  | whole hds => exact .whole (h.digits hds)
  | point hds hfs =>
    obtain ⟨ds', rest', rfl, hds', hrest⟩ := h.exists_append
    obtain ⟨p, fs', rfl, hp, hfs'⟩ := exists_cons hrest
    obtain rfl : p = '.' := (hp.eq_iff (by decide)).mp rfl
    exact .point (hds'.digits hds) (hfs'.forall_isDecimal hfs)
  | fraction hfs =>
    obtain ⟨p, fs', rfl, hp, hfs'⟩ := exists_cons h
    obtain rfl : p = '.' := (hp.eq_iff (by decide)).mp rfl
    exact .fraction (hfs'.digits hfs)

/-- An exponent stays one. -/
lemma exponent (h : SameDigits s s') (hs : Exponent s) : Exponent s' := by
  cases hs with
  | none =>
    rw [List.forall₂_nil_left_iff.mp h]
    exact .none
  | @some c sign ds hc hsign hds =>
    obtain ⟨c', rest', rfl, hc', hrest⟩ := exists_cons h
    obtain ⟨sign', ds', rfl, hsign', hds'⟩ := exists_append hrest
    have hletter : isDecimal c = false := by rcases hc with rfl | rfl <;> decide
    obtain rfl := hc'.eq_of_not_isDecimal hletter
    rw [hsign'.sign_eq hsign]
    exact .some hc hsign (hds'.digits hds)

/-- **The script of the digits does not matter** to what a numeral stands for. -/
theorem denotes {x : Float} (h : SameDigits s s') (hs : Denotes s x) : Denotes s' x := by
  cases hs with
  | number hsign hm he =>
    obtain ⟨sign', rest', rfl, hsign', hrest⟩ := h.exists_append
    obtain ⟨m', e', rfl, hm', he'⟩ := exists_append hrest
    rw [hsign'.sign_eq hsign, hm'.digitValues_eq, hm'.places_eq, he'.power_eq]
    exact .number hsign (hm'.mantissa hm) (he'.exponent he)
  | infinity hsign =>
    obtain ⟨sign', name', rfl, hsign', hname'⟩ := h.exists_append
    rw [hsign'.sign_eq hsign, hname'.eq_of_no_digits (by decide)]
    exact .infinity hsign

/-- A numeral stays one. -/
lemma numeral (h : SameDigits s s') (hs : Numeral s) : Numeral s' := by
  obtain ⟨x, hx⟩ := hs.exists_denotes
  exact (h.denotes hx).numeral

/-- The longest numeral in front stays the longest. -/
lemma exists_longestNumeral {lexeme : List Char} (h : SameDigits s s')
    (hs : LongestNumeral lexeme s) :
    ∃ lexeme', LongestNumeral lexeme' s' ∧ SameDigits lexeme lexeme' := by
  obtain ⟨rest, rfl⟩ := hs.front
  obtain ⟨lexeme', rest', rfl, hlexeme, -⟩ := h.exists_append
  refine ⟨lexeme', ⟨hlexeme.numeral hs.numeral, List.prefix_append _ _, ?_⟩, hlexeme⟩
  rintro other' hother' ⟨more', hmore'⟩
  rw [← hmore'] at h
  obtain ⟨other, more, hsplit, hother, -⟩ := h.symm.exists_append
  have hle := hs.longest other (hother.numeral hother') ⟨more, hsplit.symm⟩
  have hlength := hother.length_eq
  have hlength' := hlexeme.length_eq
  omega

/-- The number in front stays the same. -/
lemma leading?_eq_some {x : Float} (h : SameDigits s s') (hx : leading? s = some x) :
    leading? s' = some x := by
  obtain ⟨lexeme, hlongest, hdenotes⟩ := leading?_eq_some_iff.mp hx
  obtain ⟨lexeme', hlongest', hlexeme⟩ := h.trimLeft.exists_longestNumeral hlongest
  exact leading?_eq_some_iff.mpr ⟨lexeme', hlongest', hlexeme.denotes hdenotes⟩

end SameDigits

/-! ## The number that is read -/

/-- **The longest number in front of a text is read.** Behind the white space in front of a text, no
number is read iff nothing there is a numeral. Otherwise it is the number that the longest numeral
stands for, by the values of its digits: what follows the numeral does not matter, and no digit does
beyond its value.

**Proof sketch.** What is found is a numeral (`Leading.numeral_of_split?`) and every other numeral in
front is in front of it (`Leading.prefix_of_split?`): digits are found as far as they go, and behind
the last of them an exponent as far as it is complete. The value of a numeral is made of the values
of its digits (`Denotes.read?`), and these do not depend on the script (`SameDigits.denotes`). -/
theorem leading?_longest (s : List Char) :
    (leading? s = none ↔ ∀ front, front ≠ [] → front <+: trimLeft s → ¬ Numeral front) ∧
      (∀ x, leading? s = some x ↔
        ∃ lexeme, LongestNumeral lexeme (trimLeft s) ∧ Denotes lexeme x) ∧
      (∀ lexeme, LongestNumeral lexeme (trimLeft s) → leading? s = read? lexeme ∧
        ∀ s', LongestNumeral lexeme (trimLeft s') → leading? s' = leading? s) ∧
      ∀ s', SameDigits s s' → leading? s' = leading? s := by
  have hread : ∀ s lexeme, LongestNumeral lexeme (trimLeft s) → leading? s = read? lexeme := by
    intro s lexeme hlongest
    obtain ⟨x, hx⟩ := hlongest.numeral.exists_denotes
    rw [leading?_eq_some_iff.mpr ⟨lexeme, hlongest, hx⟩, hx.read?]
  refine ⟨?_, fun x => leading?_eq_some_iff, fun lexeme hlongest => ?_, fun s' h => ?_⟩
  · have hnone : leading? s = none ↔ ¬ StartsNumeral s := by
      rw [← isSome_leading?_iff, Bool.not_eq_true, Option.isSome_eq_false_iff,
        Option.isNone_iff_eq_none]
    rw [hnone]
    constructor
    · intro h front _ hfront hnumeral
      exact h ⟨front, hnumeral, hfront⟩
    · rintro h ⟨front, hnumeral, hfront⟩
      refine h front ?_ hfront hnumeral
      rintro rfl
      exact hnumeral.ne_nil rfl
  · refine ⟨hread s lexeme hlongest, fun s' hlongest' => ?_⟩
    rw [hread s lexeme hlongest, hread s' lexeme hlongest']
  · cases hx : leading? s with
    | some x => exact h.leading?_eq_some hx
    | none =>
      cases hx' : leading? s' with
      | none => rfl
      | some x => rw [h.symm.leading?_eq_some hx'] at hx; exact absurd hx (by simp)

/-- Numbers that break off, and a number whose digits are of two scripts. -/
example : ["1e+", ".5.5", "-.5e-", "1.e1mm", "٤2", "Infinit"].map (leading? ·.toList) =
    [some 1.0, some 0.5, some (-0.5), some 10.0, some 42.0, none] := by decide +kernel

end Toolpath.Decimal
