import Mathlib.Data.List.TakeWhile
import Mathlib.Tactic.Lemma
import Toolpath.Decimal.Reader
/-!
# Numbers in front of a text

A number in front of a text is found by one grammar and then read by another, in which infinity has
a shorter name. The first grammar is stated here on its own, without the search for the longest
number. Everything that it describes can be read, so no number that is found is refused.

## Main definitions

* `Toolpath.Decimal.Magnitude`, `Toolpath.Decimal.Numeral` — the numbers that are found in front of
  a text, without and with a sign.
* `Toolpath.Decimal.respelled` — a number with the short name of infinity.
* `Toolpath.Decimal.StartsNumeral` — texts with a numeral in front.

## Main results

* `Toolpath.Decimal.numeral_of_split?` — what is found in front of a text is a numeral.
* `Toolpath.Decimal.Magnitude.exists_read?` — a numeral is read, whatever sign it has.
* `Toolpath.Decimal.leading?_minus` — a minus in front of a number without a sign negates it.
* `Toolpath.Decimal.Numeral.exists_read?_respelled` — so is a numeral with the short name.
* `Toolpath.Decimal.isSome_leading?_iff` — a number is read from a text iff a numeral is in front.
-/

namespace Toolpath

open Text

/-! ## Decimal digits among the characters -/

namespace Text

/-- A decimal digit is one of ASCII, or stands with the zero of another script. -/
lemma toNat_of_isDecimal {c : Char} (h : isDecimal c = true) :
    48 ≤ c.toNat ∧ c.toNat ≤ 57 ∨
      128 ≤ c.toNat ∧ ∃ first ∈ scriptZeros, first ≤ c.toNat ∧ c.toNat ≤ first + 9 := by
  unfold isDecimal digitValue? at h
  by_cases hascii : c.toNat < 128
  · simp only [hascii, if_true] at h
    by_cases hdigit : (decide (48 ≤ c.toNat) && decide (c.toNat ≤ 57)) = true
    · simp only [Bool.and_eq_true, decide_eq_true_eq] at hdigit
      exact .inl hdigit
    · simp [hdigit] at h
  · simp only [hascii, if_false, Option.isSome_map] at h
    obtain ⟨first, hfirst⟩ := Option.isSome_iff_exists.mp h
    have hrange := List.find?_some hfirst
    simp only [Bool.and_eq_true, decide_eq_true_eq] at hrange
    exact .inr ⟨by omega, first, List.mem_of_find?_eq_some hfirst, hrange⟩

/-- No digit of another script is white space. -/
lemma scriptZeros_apart : ∀ first ∈ scriptZeros,
    160 < first ∧ (first + 9 < 0x1680 ∨ 0x1680 < first) ∧
      (first + 9 < 0x2000 ∨ 0x205F < first) ∧ (first + 9 < 0x3000 ∨ 0x3000 < first) := by
  decide

/-- A decimal digit is no white space. -/
lemma isBlank_of_isDecimal {c : Char} (h : isDecimal c = true) : isBlank c = false := by
  have hn : ¬ isBlank c = true := by
    simp only [isBlank, Bool.or_eq_true, Bool.and_eq_true, decide_eq_true_eq, beq_iff_eq]
    rcases toNat_of_isDecimal h with h | ⟨hlarge, first, hfirst, h⟩
    · omega
    · have hapart := scriptZeros_apart first hfirst
      omega
  simpa using hn

/-- A decimal digit has no other case in ASCII. -/
lemma toLower_of_isDecimal {c : Char} (h : isDecimal c = true) : c.toLower = c := by
  have hn : ¬ (c.val ≥ 'A'.val ∧ c.val ≤ 'Z'.val) := by
    have h' : c.toNat ≤ 57 ∨ 128 ≤ c.toNat := by
      rcases toNat_of_isDecimal h with h | ⟨hlarge, -⟩
      · exact .inl h.2
      · exact .inr hlarge
    rintro ⟨hA, hZ⟩
    have hA : 65 ≤ c.toNat := hA
    have hZ : c.toNat ≤ 90 := hZ
    omega
  exact dif_neg hn

/-- A character that is no digit differs from every digit. -/
lemma ne_of_isDecimal {c d : Char} (h : isDecimal c = true) (hd : isDecimal d = false) : c ≠ d := by
  rintro rfl
  rw [h] at hd
  exact absurd hd (by simp)

/-- From a text without characters of a class, none are cut off at the ends. -/
lemma dropWhile_ends_eq_self {p : Char → Bool} {s : List Char} (h : ∀ c ∈ s, p c = false) :
    ((s.dropWhile p).reverse.dropWhile p).reverse = s := by
  have hdrop : ∀ t : List Char, (∀ c ∈ t, p c = false) → t.dropWhile p = t := by
    intro t ht
    cases t with
    | nil => rfl
    | cons c t => rw [List.dropWhile_cons, ht c List.mem_cons_self]; rfl
  have hreverse : ∀ c ∈ s.reverse, p c = false := fun c hc => h c (List.mem_reverse.mp hc)
  rw [hdrop s h, hdrop s.reverse hreverse, List.reverse_reverse]

end Text

namespace Decimal

/-! ## The grammar -/

/-- A sign, or none. -/
inductive Sign : List Char → Prop where
  | none : Sign []
  | plus : Sign ['+']
  | minus : Sign ['-']

/-- Digits of any script, at least one. -/
def Digits (s : List Char) : Prop := s ≠ [] ∧ ∀ c ∈ s, isDecimal c = true

/-- Digits with or without a point; behind a point they may be missing, in front of it too if some
stand behind. -/
inductive Mantissa : List Char → Prop where
  | whole {ds : List Char} (h : Digits ds) : Mantissa ds
  | point {ds fs : List Char} (h : Digits ds) (h' : ∀ c ∈ fs, isDecimal c = true) :
      Mantissa (ds ++ '.' :: fs)
  | fraction {fs : List Char} (h : Digits fs) : Mantissa ('.' :: fs)

/-- An exponent, or none. -/
inductive Exponent : List Char → Prop where
  | none : Exponent []
  | some {e : Char} {sign ds : List Char} (he : e = 'e' ∨ e = 'E') (hsign : Sign sign)
      (h : Digits ds) : Exponent (e :: (sign ++ ds))

/-- A number without a sign: digits with or without an exponent, or the name of infinity. -/
inductive Magnitude : List Char → Prop where
  | number {m e : List Char} (hm : Mantissa m) (he : Exponent e) : Magnitude (m ++ e)
  | infinity : Magnitude Leading.infinityName

/-- A number with a sign or without. -/
inductive Numeral : List Char → Prop where
  | signed {sign body : List Char} (hsign : Sign sign) (hbody : Magnitude body) :
      Numeral (sign ++ body)

/-! ## What is found is a numeral -/

namespace Leading

/-- The digits in front of a text are digits. -/
lemma isDecimal_of_mem_digits {s ds rest : List Char} (h : digits s = (ds, rest)) :
    ∀ c ∈ ds, isDecimal c = true := by
  obtain ⟨rfl, -⟩ := Prod.mk.inj h
  exact fun c hc => List.mem_takeWhile_imp hc

/-- The digits in front of a text and the rest are the text. -/
lemma append_of_digits {s ds rest : List Char} (h : digits s = (ds, rest)) : ds ++ rest = s := by
  obtain ⟨rfl, rfl⟩ := Prod.mk.inj h
  exact List.takeWhile_append_dropWhile

/-- What is found as a mantissa is one. -/
lemma mantissa_of_mantissa? {s m rest : List Char} (h : mantissa? s = some (m, rest)) :
    Mantissa m ∧ m ++ rest = s := by
  unfold mantissa? at h
  split at h
  · -- a point without digits in front
    rename_i behind hs
    split at h
    · exact absurd h (by simp)
    · rename_i ds rest' hne hbehind
      obtain ⟨rfl, rfl⟩ := Prod.mk.inj (Option.some.inj h)
      refine ⟨.fraction ⟨hne, isDecimal_of_mem_digits hbehind⟩, ?_⟩
      rw [List.cons_append, append_of_digits hbehind]
      exact append_of_digits hs
  · exact absurd h (by simp)
  · -- digits in front of a point
    rename_i whole behind hne hs
    obtain ⟨rfl, rfl⟩ := Prod.mk.inj (Option.some.inj h)
    refine ⟨.point ⟨hne, isDecimal_of_mem_digits hs⟩ (isDecimal_of_mem_digits rfl), ?_⟩
    rw [List.append_assoc, List.cons_append, append_of_digits rfl]
    exact append_of_digits hs
  · -- digits without a point
    rename_i whole rest' hne hpoint hs
    obtain ⟨rfl, rfl⟩ := Prod.mk.inj (Option.some.inj h)
    exact ⟨.whole ⟨hne, isDecimal_of_mem_digits hs⟩, append_of_digits hs⟩

/-- A sign in front of a text as it stands, and the rest. -/
def sign : List Char → List Char × List Char
  | c :: s => if c = '+' || c = '-' then ([c], s) else ([], c :: s)
  | [] => ([], [])

/-- What stands in front of a text as its sign is one, and with the rest it is the text. -/
lemma sign_spec (s : List Char) : Sign (sign s).1 ∧ (sign s).1 ++ (sign s).2 = s := by
  unfold sign
  split
  · rename_i c s
    split
    · rename_i hc
      have hc : c = '+' ∨ c = '-' := by simpa using hc
      rcases hc with rfl | rfl
      · exact ⟨.plus, rfl⟩
      · exact ⟨.minus, rfl⟩
    · exact ⟨.none, rfl⟩
  · exact ⟨.none, rfl⟩

/-- The exponent in front of a text, with the sign of the exponent set apart. -/
lemma exponent_cons (e : Char) (s : List Char) :
    exponent (e :: s) =
      if e = 'e' || e = 'E' then
        match digits (sign s).2 with
        | ([], _) => ([], e :: s)
        | (ds, rest) => (e :: ((sign s).1 ++ ds), rest)
      else ([], e :: s) := by
  cases s with
  | nil => rfl
  | cons c s => rfl

/-- The longest number in front of a text, with its sign set apart. -/
lemma split?_eq (s : List Char) :
    split? s =
      match mantissa? (sign s).2 with
      | some (m, rest) => some ((sign s).1 ++ m ++ (exponent rest).1, (exponent rest).2)
      | none =>
        if infinityName.isPrefixOf (sign s).2 then
          some ((sign s).1 ++ infinityName, (sign s).2.drop infinityName.length)
        else none := by
  cases s with
  | nil => rfl
  | cons c s => rfl

/-- What is found as an exponent is one, and with the rest it is the text. -/
lemma exponent_spec (s : List Char) :
    Exponent (exponent s).1 ∧ (exponent s).1 ++ (exponent s).2 = s := by
  cases s with
  | nil => exact ⟨.none, rfl⟩
  | cons e s =>
    rw [exponent_cons]
    split
    · rename_i he
      have he : e = 'e' ∨ e = 'E' := by simpa using he
      obtain ⟨hsign, happend⟩ := sign_spec s
      split
      · exact ⟨.none, rfl⟩
      · rename_i ds rest hne hdigits
        refine ⟨.some he hsign ⟨hne, isDecimal_of_mem_digits hdigits⟩, ?_⟩
        rw [List.cons_append, List.append_assoc, append_of_digits hdigits, happend]
    · exact ⟨.none, rfl⟩

/-- **What is found in front of a text is a numeral**, and with the rest it is the text. -/
theorem numeral_of_split? {s lexeme rest : List Char} (h : split? s = some (lexeme, rest)) :
    Numeral lexeme ∧ lexeme ++ rest = s := by
  obtain ⟨hsign, happend⟩ := sign_spec s
  rw [split?_eq] at h
  split at h
  · rename_i m rest' hm
    obtain ⟨hmantissa, hmappend⟩ := mantissa_of_mantissa? hm
    obtain ⟨hexponent, heappend⟩ := exponent_spec rest'
    obtain ⟨rfl, rfl⟩ := Prod.mk.inj (Option.some.inj h)
    refine ⟨?_, ?_⟩
    · rw [List.append_assoc]
      exact .signed hsign (.number hmantissa hexponent)
    · rw [List.append_assoc, List.append_assoc, heappend, hmappend, happend]
  · split at h
    · rename_i hname
      obtain ⟨rfl, rfl⟩ := Prod.mk.inj (Option.some.inj h)
      obtain ⟨rest, hrest⟩ := List.isPrefixOf_iff_prefix.mp hname
      refine ⟨.signed hsign .infinity, ?_⟩
      rw [← hrest, List.drop_left, List.append_assoc, hrest, happend]
    · exact absurd h (by simp)

end Leading

/-! ## Numerals are read -/

/-- The marks of a number beside its digits. -/
def marks : List Char := ['+', '-', '.', 'e', 'E']

/-- A number in digits consists of digits and marks. -/
lemma isDecimal_or_mem_marks {m e : List Char} (hm : Mantissa m) (he : Exponent e) :
    ∀ c ∈ m ++ e, isDecimal c = true ∨ c ∈ marks := by
  intro c hc
  rcases List.mem_append.mp hc with hc | hc
  · cases hm with
    | whole h => exact .inl (h.2 c hc)
    | point h h' =>
      rcases List.mem_append.mp hc with hc | hc
      · exact .inl (h.2 c hc)
      · rcases List.mem_cons.mp hc with rfl | hc
        · exact .inr (by decide)
        · exact .inl (h' c hc)
    | fraction h =>
      rcases List.mem_cons.mp hc with rfl | hc
      · exact .inr (by decide)
      · exact .inl (h.2 c hc)
  · cases he with
    | none => exact absurd hc List.not_mem_nil
    | some he hsign h =>
      rcases List.mem_cons.mp hc with rfl | hc
      · rcases he with rfl | rfl <;> exact .inr (by decide)
      · rcases List.mem_append.mp hc with hc | hc
        · cases hsign with
          | none => exact absurd hc List.not_mem_nil
          | plus | minus =>
            obtain rfl := List.mem_singleton.mp hc
            exact .inr (by decide)
        · exact .inl (h.2 c hc)

/-- Digits and marks are no white space. -/
lemma isMargin_of_isDecimal_or_mem_marks {c : Char} (h : isDecimal c = true ∨ c ∈ marks) :
    isMargin c = false := by
  rcases h with h | h
  · simp [isMargin, isBlank_of_isDecimal h]
  · simp only [marks, List.mem_cons, List.not_mem_nil, or_false] at h
    rcases h with rfl | rfl | rfl | rfl | rfl <;> decide

/-- Neither white space nor a sign can stand at the ends of a signed number in digits. -/
lemma isMargin_of_mem_signed {sign body : List Char} (hsign : Sign sign)
    (hbody : ∀ c ∈ body, isDecimal c = true ∨ c ∈ marks) :
    ∀ c ∈ sign ++ body, isMargin c = false := by
  intro c hc
  rcases List.mem_append.mp hc with hc | hc
  · cases hsign with
    | none => exact absurd hc List.not_mem_nil
    | plus | minus =>
      obtain rfl := List.mem_singleton.mp hc
      decide
  · exact isMargin_of_isDecimal_or_mem_marks (hbody c hc)

/-- A sign in front of what starts with none is split off. -/
lemma splitSign_append {sign body : List Char} (hsign : Sign sign)
    (hbody : ∀ c ∈ body.head?, c ≠ '+' ∧ c ≠ '-') :
    splitSign (sign ++ body) = (sign == ['-'], body) := by
  cases hsign with
  | plus | minus => rfl
  | none =>
    rw [List.nil_append]
    unfold splitSign
    split
    · exact absurd rfl (hbody '+' rfl).1
    · exact absurd rfl (hbody '-' rfl).2
    · rfl

/-- What follows digits does not go on with them. -/
def Ended (s : List Char) : Prop := ∀ c ∈ s.head?, isDecimal c = false ∧ c ≠ '_'

/-- Digits are read up to what ends them. -/
lemma splitGrouped_append {ds rest : List Char} (hds : ∀ c ∈ ds, isDecimal c = true)
    (hrest : Ended rest) (inside : Bool) :
    splitGrouped inside (ds ++ rest) = (ds.filterMap digitValue?, rest) := by
  induction ds generalizing inside with
  | nil =>
    cases rest with
    | nil => rfl
    | cons c rest =>
      obtain ⟨hc, hunder⟩ := hrest c rfl
      have hvalue : digitValue? c = none := by simpa [isDecimal] using hc
      simp [splitGrouped, hvalue, hunder]
  | cons c ds ih =>
    obtain ⟨d, hd⟩ := Option.isSome_iff_exists.mp (hds c List.mem_cons_self)
    have hrest := ih (fun c' hc' => hds c' (List.mem_cons_of_mem c hc')) true
    rw [List.cons_append, splitGrouped, hd]
    simp [hrest, hd]

/-- Digits have values. -/
lemma Digits.values_ne_nil {ds : List Char} (h : Digits ds) : ds.filterMap digitValue? ≠ [] := by
  obtain ⟨c, ds', rfl⟩ := List.exists_cons_of_ne_nil h.1
  obtain ⟨d, hd⟩ := Option.isSome_iff_exists.mp (h.2 c List.mem_cons_self)
  simp [hd]

/-- The values of digits are as many as the digits. -/
lemma length_filterMap_digitValue? {s : List Char} (h : ∀ c ∈ s, isDecimal c = true) :
    (s.filterMap digitValue?).length = s.length := by
  induction s with
  | nil => rfl
  | cons c s ih =>
    obtain ⟨d, hd⟩ := Option.isSome_iff_exists.mp (h c List.mem_cons_self)
    rw [List.filterMap_cons, hd, List.length_cons, List.length_cons,
      ih fun c' hc' => h c' (List.mem_cons_of_mem c hc')]

/-- An exponent ends digits. -/
lemma Exponent.ended {e : List Char} (h : Exponent e) : Ended e := by
  cases h with
  | none => simp [Ended]
  | some he =>
    intro c hc
    obtain rfl := Option.some.inj hc
    rcases he with rfl | rfl <;> decide

/-- A point ends digits. -/
lemma ended_point (s : List Char) : Ended ('.' :: s) := by
  intro c hc
  obtain rfl := Option.some.inj hc
  decide

/-- The values of the digits in a text. -/
def digitValues (s : List Char) : List Nat := s.filterMap digitValue?

/-- The number of characters behind the point of a mantissa. -/
def places (m : List Char) : Nat := (m.dropWhile (· ≠ '.')).tail.length

/-- The power of ten that an exponent stands for. Without an exponent it is zero. -/
def power (e : List Char) : Int :=
  if '-' ∈ e then -(numberOf (digitValues e) : Int) else numberOf (digitValues e)

/-- An exponent is read to its end. -/
lemma Exponent.splitExponent_eq {e : List Char} (h : Exponent e) :
    splitExponent e = (power e, []) := by
  cases h with
  | none => rfl
  | @some c sign ds he hsign hds =>
    have hhead : ∀ c ∈ ds.head?, c ≠ '+' ∧ c ≠ '-' := by
      intro c hc
      have hdecimal := hds.2 c (List.mem_of_mem_head? hc)
      exact ⟨ne_of_isDecimal hdecimal (by decide), ne_of_isDecimal hdecimal (by decide)⟩
    have hend : Ended [] := by simp [Ended]
    have hdigits := splitGrouped_append hds.2 hend false
    rw [List.append_nil] at hdigits
    have hvalues : digitValues (c :: (sign ++ ds)) = ds.filterMap digitValue? := by
      have hc : digitValue? c = Option.none := by rcases he with rfl | rfl <;> decide
      have hs : sign.filterMap digitValue? = [] := by cases hsign <;> decide
      rw [digitValues, List.filterMap_cons, hc, List.filterMap_append, hs, List.nil_append]
    have hminus : '-' ∈ c :: (sign ++ ds) ↔ (sign == ['-']) = true := by
      have hc : '-' ≠ c := by rcases he with rfl | rfl <;> decide
      have hds : '-' ∉ ds := fun hmem => ne_of_isDecimal (hds.2 '-' hmem) (by decide) rfl
      rw [List.mem_cons, List.mem_append]
      cases hsign <;> simp [hc, hds]
    have he : (decide (c = 'e') || decide (c = 'E')) = true := by simpa using he
    obtain ⟨d, ds', hcons⟩ := List.exists_cons_of_ne_nil hds.values_ne_nil
    rw [splitExponent, if_pos he, splitSign_append hsign hhead, power, hvalues]
    simp only [hminus, hdigits, hcons]

/-- Digits, a point and digits are read to their end, if some digits are there. -/
lemma splitUnsigned?_point {ds fs e : List Char} (hds : ∀ c ∈ ds, isDecimal c = true)
    (hfs : ∀ c ∈ fs, isDecimal c = true)
    (hne : ds.filterMap digitValue? ≠ [] ∨ fs.filterMap digitValue? ≠ []) (he : Exponent e) :
    splitUnsigned? (ds ++ '.' :: (fs ++ e)) =
      some (nearest (numberOf (digitValues (ds ++ '.' :: fs))) (power e - places (ds ++ '.' :: fs)),
        []) := by
  have hwhole := splitGrouped_append hds (ended_point (fs ++ e)) false
  have hpart := splitGrouped_append hfs he.ended false
  have hsome : ¬ ((decide (ds.filterMap digitValue? = []) &&
      decide (fs.filterMap digitValue? = [])) = true) := by
    simp only [Bool.and_eq_true, decide_eq_true_eq]
    rintro ⟨h, h'⟩
    exact hne.elim (· h) (· h')
  have hvalues : digitValues (ds ++ '.' :: fs) =
      ds.filterMap digitValue? ++ fs.filterMap digitValue? := by
    have hpoint : digitValue? '.' = none := by decide
    rw [digitValues, List.filterMap_append, List.filterMap_cons, hpoint]
  have hplaces : places (ds ++ '.' :: fs) = (fs.filterMap digitValue?).length := by
    have hdrop : (ds ++ '.' :: fs).dropWhile (· ≠ '.') = '.' :: fs := by
      have hne : ∀ c ∈ ds, decide (c ≠ '.') = true := fun c hc =>
        decide_eq_true (ne_of_isDecimal (hds c hc) (by decide))
      rw [List.dropWhile_append_of_pos hne]
      rfl
    rw [places, hdrop, List.tail_cons, length_filterMap_digitValue? hfs]
  unfold splitUnsigned?
  simp only [hwhole, hpart, he.splitExponent_eq, if_neg hsome, hvalues, hplaces]

/-- Digits without a point are read to their end. -/
lemma splitUnsigned?_whole {ds e : List Char} (hds : Digits ds) (he : Exponent e) :
    splitUnsigned? (ds ++ e) =
      some (nearest (numberOf (digitValues ds)) (power e - places ds), []) := by
  have hwhole := splitGrouped_append hds.2 he.ended false
  have hplaces : places ds = 0 := by
    have hdrop : ds.dropWhile (· ≠ '.') = [] := List.dropWhile_eq_nil_iff.mpr fun c hc =>
      decide_eq_true (ne_of_isDecimal (hds.2 c hc) (by decide))
    rw [places, hdrop]
    rfl
  unfold splitUnsigned?
  simp only [hwhole]
  split
  · -- an exponent starts with no point
    cases he with
    | some he => exact absurd he (by decide)
  · simp only [hds.values_ne_nil, he.splitExponent_eq, decide_false, Bool.false_and,
      Bool.false_eq_true, if_false, List.append_nil, hplaces, List.length_nil]
    rfl

/-- **A number in digits without a sign is read to its end**: it is what its digits spell, shifted
by its places and its exponent. -/
lemma splitUnsigned?_eq {m e : List Char} (hm : Mantissa m) (he : Exponent e) :
    splitUnsigned? (m ++ e) =
      some (nearest (numberOf (digitValues m)) (power e - places m), []) := by
  cases hm with
  | whole h => exact splitUnsigned?_whole h he
  | point h h' =>
    rw [List.append_assoc]
    exact splitUnsigned?_point h.2 h' (.inl h.values_ne_nil) he
  | fraction h =>
    have hnone : ∀ c ∈ ([] : List Char), isDecimal c = true := by simp
    exact splitUnsigned?_point hnone h.2 (.inr h.values_ne_nil) he

/-- A mantissa starts with a digit or a point. -/
lemma Mantissa.exists_eq_cons {m : List Char} (h : Mantissa m) :
    ∃ c s, m = c :: s ∧ (isDecimal c = true ∨ c = '.') := by
  cases h with
  | whole h =>
    obtain ⟨c, s, rfl⟩ := List.exists_cons_of_ne_nil h.1
    exact ⟨c, s, rfl, .inl (h.2 c List.mem_cons_self)⟩
  | @point ds fs h h' =>
    obtain ⟨c, s, rfl⟩ := List.exists_cons_of_ne_nil h.1
    exact ⟨c, s ++ '.' :: fs, rfl, .inl (h.2 c List.mem_cons_self)⟩
  | @fraction fs h => exact ⟨'.', fs, rfl, .inr rfl⟩

/-- What starts with a digit or a point is no name of a double. -/
lemma named?_eq_none {c : Char} (h : isDecimal c = true ∨ c = '.') (s : List Char) :
    named? (read?.asciiLowered (c :: s)) = none := by
  have hlower : c.toLower ≠ 'i' ∧ c.toLower ≠ 'n' := by
    rcases h with h | rfl
    · rw [toLower_of_isDecimal h]
      exact ⟨ne_of_isDecimal h (by decide), ne_of_isDecimal h (by decide)⟩
    · decide
  simp [named?, read?.asciiLowered, hlower]

/-- A signed number in digits is read: it is the number that the digits spell, with the sign. -/
lemma read?_signed {sign m e : List Char} (hsign : Sign sign) (hm : Mantissa m) (he : Exponent e) :
    read? (sign ++ (m ++ e)) =
      some (withSign (sign == ['-'])
        (nearest (numberOf (digitValues m)) (power e - places m))) := by
  obtain ⟨c, s, hcons, hc⟩ := hm.exists_eq_cons
  have hhead : ∀ c' ∈ (m ++ e).head?, c' ≠ '+' ∧ c' ≠ '-' := by
    intro c' hc'
    rw [hcons] at hc'
    obtain rfl := Option.some.inj hc'
    rcases hc with hc | rfl
    · exact ⟨ne_of_isDecimal hc (by decide), ne_of_isDecimal hc (by decide)⟩
    · decide
  have htrim : trimMargin (sign ++ (m ++ e)) = sign ++ (m ++ e) :=
    dropWhile_ends_eq_self (isMargin_of_mem_signed hsign (isDecimal_or_mem_marks hm he))
  have hname : named? (read?.asciiLowered (m ++ e)) = none := by
    rw [hcons]
    exact named?_eq_none hc (s ++ e)
  rw [read?, htrim, splitSign_append hsign hhead]
  simp only [hname, splitUnsigned?_eq hm he]

/-- **A numeral is read**, and its sign is that of the number. -/
theorem Magnitude.exists_read? {body : List Char} (h : Magnitude body) :
    ∃ x, ∀ sign, Sign sign → read? (sign ++ body) = some (withSign (sign == ['-']) x) := by
  cases h with
  | infinity =>
    refine ⟨Decimal.infinity, fun sign hsign => ?_⟩
    cases hsign <;> rfl
  | @number m e hm he => exact ⟨_, fun sign hsign => read?_signed hsign hm he⟩

/-! ## A minus in front -/

/-- The number in front of a text is what is found there, read. -/
lemma leading?_eq_bind (s : List Char) :
    leading? s = (Leading.split? (trimLeft s)).bind fun found => read? found.1 := by
  unfold leading?
  cases Leading.split? (trimLeft s) <;> rfl

/-- **A minus in front of a number without a sign** negates it. -/
theorem leading?_minus {s : List Char} (h : ∀ c ∈ s.head?, isBlank c = false ∧ c ≠ '+' ∧ c ≠ '-') :
    leading? ('-' :: s) = (leading? s).map (-·) := by
  cases s with
  | nil => rfl
  | cons c s =>
    obtain ⟨hblank, hplus, hne⟩ := h c rfl
    have hsign : Leading.sign (c :: s) = ([], c :: s) := by simp [Leading.sign, hplus, hne]
    have htrim : trimLeft (c :: s) = c :: s := by simp [trimLeft, hblank]
    have hread : ∀ body, Magnitude body → read? ('-' :: body) = (read? body).map (-·) := by
      intro body hbody
      obtain ⟨x, hx⟩ := hbody.exists_read?
      have hplain : read? body = some (withSign ([] == ['-']) x) := hx [] .none
      have hnegated : read? ('-' :: body) = some (withSign (['-'] == ['-']) x) := hx ['-'] .minus
      rw [hplain, hnegated]
      rfl
    have hminus : trimLeft ('-' :: c :: s) = '-' :: c :: s := rfl
    rw [leading?_eq_bind, leading?_eq_bind, hminus, htrim, Leading.split?_eq, Leading.split?_eq,
      hsign]
    cases hm : Leading.mantissa? (c :: s) with
    | some found =>
      obtain ⟨m, rest⟩ := found
      have hnumber := Magnitude.number (Leading.mantissa_of_mantissa? hm).1
        (Leading.exponent_spec rest).1
      simpa [Leading.sign, hm] using hread _ hnumber
    | none =>
      by_cases hname : Leading.infinityName.isPrefixOf (c :: s) = true
      · simpa [Leading.sign, hm, hname] using hread _ .infinity
      · simp [Leading.sign, hm, hname]

/-! ## The short name of infinity -/

/-- A text with `new` for each occurrence of `old`, found from the left; `skip` says how much of an
occurrence is still to be passed over. -/
def replaced (old new : List Char) (skip : Nat) : List Char → List Char
  | [] => []
  | c :: s =>
    match skip with
    | k + 1 => replaced old new k s
    | 0 =>
      if old.isPrefixOf (c :: s) then new ++ replaced old new (old.length - 1) s
      else c :: replaced old new 0 s

/-- A number with the short name of infinity for the long one. -/
def respelled (s : List Char) : List Char := replaced Leading.infinityName ['i', 'n', 'f'] 0 s

/-- Without its first character, nothing is found. -/
lemma replaced_of_not_mem {c : Char} {old new s : List Char} (h : c ∉ s) :
    replaced (c :: old) new 0 s = s := by
  induction s with
  | nil => rfl
  | cons d s ih =>
    have hd : ¬ c = d := fun hd => h (by simp [hd])
    have hs : c ∉ s := fun hs => h (List.mem_cons_of_mem d hs)
    simp [replaced, hd, ih hs]

/-- **Numerals are read with the short name of infinity**, and as with the long one. -/
theorem Numeral.exists_read?_respelled {s : List Char} (h : Numeral s) :
    ∃ x, read? (respelled s) = some x ∧ read? s = some x := by
  obtain ⟨hsign, hbody⟩ := h
  cases hbody with
  | infinity => cases hsign <;> exact ⟨_, rfl, rfl⟩
  | @number m e hm he =>
    rename_i sign
    obtain ⟨x, hx⟩ := (Magnitude.number hm he).exists_read?
    have hI : 'I' ∉ sign ++ (m ++ e) := by
      intro hmem
      rcases List.mem_append.mp hmem with hmem | hmem
      · cases hsign <;> simp at hmem
      · rcases isDecimal_or_mem_marks hm he 'I' hmem with h | h
        · exact absurd h (by decide)
        · exact absurd h (by decide)
    have hsame : respelled (sign ++ (m ++ e)) = sign ++ (m ++ e) := replaced_of_not_mem hI
    rw [hsame]
    exact ⟨_, hx sign hsign, hx sign hsign⟩

/-! ## Texts that start with a number -/

namespace Leading

/-- Digits in front of a text are found. -/
lemma exists_digits_append {ds : List Char} (h : Digits ds) (rest : List Char) :
    ∃ c found rest', digits (ds ++ rest) = (c :: found, rest') := by
  obtain ⟨hne, hall⟩ := h
  cases ds with
  | nil => exact absurd rfl hne
  | cons c ds =>
    have hc : isDecimal c = true := hall c List.mem_cons_self
    exact ⟨c, _, _, by rw [digits, List.cons_append, List.takeWhile_cons, if_pos hc]⟩

/-- A mantissa in front of a text is found. -/
lemma isSome_mantissa?_append {m : List Char} (h : Mantissa m) (rest : List Char) :
    (mantissa? (m ++ rest)).isSome = true := by
  have hwhole : ∀ ds rest, Digits ds → (mantissa? (ds ++ rest)).isSome = true := by
    intro ds rest hds
    obtain ⟨c, found, rest', hdigits⟩ := exists_digits_append hds rest
    unfold mantissa?
    rw [hdigits]
    split
    · simp_all
    · simp_all
    · rfl
    · rfl
  cases h with
  | whole h => exact hwhole _ _ h
  | @point ds fs h h' =>
    rw [List.append_assoc]
    exact hwhole ds _ h
  | @fraction fs h =>
    obtain ⟨c, found, rest', hdigits⟩ := exists_digits_append h rest
    have hpoint : digits ('.' :: (fs ++ rest)) = ([], '.' :: (fs ++ rest)) := rfl
    rw [List.cons_append, mantissa?, hpoint]
    simp only [hdigits]
    rfl

/-- What follows a sign is left when the sign is taken away, unless the rest starts with a sign. -/
lemma sign_append {sign' body : List Char} (hsign : Sign sign')
    (hbody : ∀ c ∈ body.head?, c ≠ '+' ∧ c ≠ '-') : sign (sign' ++ body) = (sign', body) := by
  cases hsign with
  | plus | minus => rfl
  | none =>
    cases body with
    | nil => rfl
    | cons c body =>
      obtain ⟨hplus, hminus⟩ := hbody c rfl
      simp [sign, hplus, hminus]

end Leading

/-- A number without a sign starts with none. -/
lemma Magnitude.head_ne_sign {body : List Char} (h : Magnitude body) :
    ∃ c s, body = c :: s ∧ c ≠ '+' ∧ c ≠ '-' := by
  cases h with
  | infinity => exact ⟨'I', _, rfl, by decide, by decide⟩
  | @number m e hm he =>
    obtain ⟨c, s, rfl, hc⟩ := hm.exists_eq_cons
    refine ⟨c, s ++ e, rfl, ?_, ?_⟩ <;> rintro rfl <;> revert hc <;> decide

/-- A text that starts with a numeral is not refused. -/
lemma Numeral.isSome_split?_append {numeral : List Char} (h : Numeral numeral) (rest : List Char) :
    (Leading.split? (numeral ++ rest)).isSome = true := by
  obtain ⟨hsign, hbody⟩ := h
  rename_i sign body
  obtain ⟨c, s, hcons, hc⟩ := hbody.head_ne_sign
  have hhead : ∀ d ∈ (body ++ rest).head?, d ≠ '+' ∧ d ≠ '-' := by
    intro d hd
    rw [hcons] at hd
    obtain rfl := Option.some.inj hd
    exact hc
  rw [List.append_assoc, Leading.split?_eq, Leading.sign_append hsign hhead]
  cases hbody with
  | @number m e hm he =>
    have hsome := Leading.isSome_mantissa?_append hm (e ++ rest)
    rw [← List.append_assoc] at hsome
    obtain ⟨found, hfound⟩ := Option.isSome_iff_exists.mp hsome
    simp only [hfound]
    rfl
  | infinity =>
    split
    · rfl
    · rw [if_pos (List.isPrefixOf_iff_prefix.mpr (List.prefix_append _ _))]
      rfl

/-- A text starts with a number if it starts with a numeral behind white space. -/
def StartsNumeral (s : List Char) : Prop := ∃ numeral, Numeral numeral ∧ numeral <+: trimLeft s

/-- **A number is read from a text** iff the text starts with one. -/
theorem isSome_leading?_iff (s : List Char) : (leading? s).isSome = true ↔ StartsNumeral s := by
  rw [leading?_eq_bind]
  constructor
  · intro h
    obtain ⟨x, hx⟩ := Option.isSome_iff_exists.mp h
    obtain ⟨⟨lexeme, rest⟩, hsplit, -⟩ := Option.bind_eq_some_iff.mp hx
    obtain ⟨hnumeral, happend⟩ := Leading.numeral_of_split? hsplit
    exact ⟨lexeme, hnumeral, rest, happend⟩
  · rintro ⟨numeral, hnumeral, rest, hrest⟩
    obtain ⟨⟨lexeme, rest'⟩, hsplit⟩ :=
      Option.isSome_iff_exists.mp (hnumeral.isSome_split?_append rest)
    rw [hrest] at hsplit
    obtain ⟨x, -, hx⟩ := (Leading.numeral_of_split? hsplit).1.exists_read?_respelled
    rw [hsplit, Option.bind_some, hx]
    rfl

instance : DecidablePred StartsNumeral := fun s => decidable_of_iff _ (isSome_leading?_iff s)

end Decimal

end Toolpath
