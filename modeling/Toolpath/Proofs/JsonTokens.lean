import Toolpath.Json.Reader
import Toolpath.Proofs.Literals
import Toolpath.Proofs.ReadBack
import Toolpath.Proofs.Utf8
/-!
# Numbers and strings in JSON

Numbers and strings are read from the text that is written for them, whatever value follows behind
the number. Of a string all is kept but the halves of pairs: two of them that meet are read as the
character that they spell, since this is how the character itself is written.

## Main definitions

* `Toolpath.Json.Ends` — what may follow a value.
* `Toolpath.Json.unitsOf` — the sixteen-bit units of a character.
* `Toolpath.Json.paired` — a text with halves that meet put together.
* `Toolpath.Json.Unpaired` — a text where no halves meet.

## Main results

* `Toolpath.Json.number?_number`, `Toolpath.Json.number?_ofInt` — numbers are read.
* `Toolpath.Json.ofUnits_flatMap` — the units of a text are read as the text with halves put
  together.
* `Toolpath.Json.string?_quoted` — a string is read.
-/

namespace Toolpath.Json

open Text

/-! ## Numbers -/

/-- What may follow a value: nothing, a comma, or a bracket that closes. -/
def Ends (rest : List Char) : Prop := ∀ c ∈ rest.head?, c ∈ [',', ']', '\x7d']

/-- No digit and no sign of an exponent follows a value. -/
lemma Ends.head {rest : List Char} (h : Ends rest) :
    ∀ c ∈ rest.head?, isDecimal c = false ∧ c.isDigit = false ∧ c ≠ '.' ∧ c ≠ 'e' ∧ c ≠ 'E' := by
  intro c hc
  have hmem := h c hc
  simp only [List.mem_cons, List.not_mem_nil, or_false] at hmem
  rcases hmem with rfl | rfl | rfl <;> decide

/-- The characters of a class in front of a text that goes on with another one. -/
lemma span_append {p : Char → Bool} {ds rest : List Char} (hds : ∀ c ∈ ds, p c = true)
    (hrest : ∀ c ∈ rest.head?, p c = false) :
    (ds ++ rest).takeWhile p = ds ∧ (ds ++ rest).dropWhile p = rest := by
  rw [List.takeWhile_append_of_pos hds, List.dropWhile_append_of_pos hds]
  cases rest with
  | nil => exact ⟨List.append_nil ds, rfl⟩
  | cons c rest =>
    have hc := hrest c rfl
    rw [List.takeWhile_cons_of_neg (by simp [hc]), List.dropWhile_cons_of_neg (by simp [hc])]
    exact ⟨List.append_nil ds, rfl⟩

lemma digits_append {ds rest : List Char} (hds : ∀ c ∈ ds, c.isDigit = true)
    (hrest : ∀ c ∈ rest.head?, c.isDigit = false) : digits (ds ++ rest) = (ds, rest) := by
  obtain ⟨htake, hdrop⟩ := span_append hds hrest
  rw [digits, htake, hdrop]

/-- An exponent is found in front of what may follow a value. -/
lemma exponent_append {e rest : List Char} (he : Decimal.Power e) (hrest : Ends rest) :
    Decimal.Leading.exponent (e ++ rest) = (e, rest) := by
  cases he with
  | none =>
    cases rest with
    | nil => rfl
    | cons c rest =>
      obtain ⟨-, -, -, he, hE⟩ := hrest.head c rfl
      simp [Decimal.Leading.exponent, he, hE]
  | @some sign ds hsign hne hds =>
    obtain ⟨d, ds', rfl⟩ := List.exists_cons_of_ne_nil hne
    obtain ⟨htake, hdrop⟩ := span_append (p := isDecimal)
      (fun c hc => isDecimal_of_isDigit (hds c hc)) fun c hc => (hrest.head c hc).1
    have hdigits : Decimal.Leading.digits (d :: ds' ++ rest) = (d :: ds', rest) := by
      rw [Decimal.Leading.digits, htake, hdrop]
    rw [List.cons_append] at hdigits
    rcases hsign with rfl | rfl <;> simp [Decimal.Leading.exponent, hdigits]

/-- A sign is found in front of digits. -/
lemma minus_signed {s : List Char} (h : ∀ c ∈ s.head?, c ≠ '-') (negative : Bool) :
    minus (Decimal.signed negative s) = (if negative then ['-'] else [], s) := by
  cases negative with
  | true => rfl
  | false =>
    change minus s = ([], s)
    unfold minus
    split
    · exact absurd rfl (h '-' rfl)
    · rfl

/-- Places are found in front of what follows them. -/
lemma places_append {part rest : List Char} (h : Decimal.Places part)
    (hrest : ∀ c ∈ rest.head?, c.isDigit = false ∧ c ≠ '.') :
    places (part ++ rest) = (part, rest) := by
  cases h with
  | none =>
    rw [List.nil_append]
    unfold places
    split
    · exact absurd rfl (hrest '.' rfl).2
    · rfl
  | @point ds hne hds =>
    rw [List.cons_append, places, digits_append hds fun c hc => (hrest c hc).1]

/-- What follows the digits of a number is no digit. -/
lemma head_power_append {e rest : List Char} (he : Decimal.Power e) (hrest : Ends rest) :
    ∀ c ∈ (e ++ rest).head?, c.isDigit = false ∧ c ≠ '.' := by
  cases he with
  | none => exact fun c hc => ⟨(hrest.head c hc).2.1, (hrest.head c hc).2.2.1⟩
  | some => 
    rintro c ⟨⟩
    decide

/-- A number is found with its sign, its digits, its places and its exponent. -/
lemma number?_written {whole part e rest : List Char} (h : Decimal.Written whole part e)
    (hrest : Ends rest) (negative : Bool) :
    number? (Decimal.signed negative (whole ++ part ++ e) ++ rest) =
      if part.isEmpty && e.isEmpty then
        some (.int (if negative then -(numberOf (whole.filterMap digitValue?) : ℤ)
          else numberOf (whole.filterMap digitValue?)), rest)
      else (Decimal.read? (Decimal.signed negative (whole ++ part ++ e))).map fun x =>
        (.float x, rest) := by
  have hparts := head_power_append h.power hrest
  have hminus : minus (Decimal.signed negative (whole ++ (part ++ (e ++ rest)))) =
      (if negative then ['-'] else [], whole ++ (part ++ (e ++ rest))) := by
    apply minus_signed
    obtain ⟨d, ds, rfl⟩ := List.exists_cons_of_ne_nil h.ne_nil
    rintro c ⟨⟩ rfl
    exact absurd (h.isDigit _ List.mem_cons_self) (by decide)
  have hdigits : digits (whole ++ (part ++ (e ++ rest))) = (whole, part ++ (e ++ rest)) := by
    apply digits_append h.isDigit
    cases h.places with
    | none => exact fun c hc => (hparts c hc).1
    | point =>
      rintro c ⟨⟩
      decide
  have hlead : ¬ (whole.isEmpty || (1 < whole.length && whole.head? == some '0')) = true := by
    have hlead := h.lead
    have hne := h.ne_nil
    simp only [Bool.or_eq_true, Bool.and_eq_true, decide_eq_true_eq, beq_iff_eq, List.isEmpty_iff]
    rintro (hnil | ⟨hlong, hzero⟩)
    · exact hne hnil
    · have := hlead hzero
      omega
  have hpoint : ¬ (part == ['.']) = true := by
    intro hpart
    cases h.places with
    | none => cases hpart
    | point hne => exact hne (List.cons.inj (eq_of_beq hpart)).2
  have hsplit : Decimal.signed negative (whole ++ part ++ e) ++ rest =
      Decimal.signed negative (whole ++ (part ++ (e ++ rest))) := by
    cases negative <;> simp [Decimal.signed]
  have hjoin : (if negative then ['-'] else []) ++ whole ++ part ++ e =
      Decimal.signed negative (whole ++ part ++ e) := by
    cases negative <;> simp [Decimal.signed]
  unfold number?
  rw [hsplit, hminus]
  simp only [hdigits, places_append h.places hparts, exponent_append h.power hrest, hjoin]
  rw [if_neg hlead, if_neg hpoint]
  congr 1
  cases negative <;> rfl

/-- The text of a finite double is read as the double. -/
lemma number?_number {x : Float} (hx : x.isFinite = true) {rest : List Char} (hrest : Ends rest) :
    number? (Decimal.text x ++ rest) = some (.float x, rest) := by
  obtain ⟨⟨negative, s, v, htext, whole, part, e, hwritten, hshown, rfl, -⟩, hread⟩ :=
    Decimal.text_spec ((Decimal.isFinite_eq x).trans hx)
  have hpoint : ¬ (part.isEmpty && e.isEmpty) = true := by
    rw [Bool.and_eq_true, List.isEmpty_iff, List.isEmpty_iff]
    rintro ⟨hpart, he⟩
    exact hshown.elim (absurd hpart) (absurd he)
  rw [htext] at hread ⊢
  rw [number?_written hwritten hrest, if_neg hpoint, hread]
  rfl

/-- The digits of a whole number are a number as it is written. -/
lemma written_ofNat (n : ℕ) : Decimal.Written (ofNat n) [] [] := by
  refine ⟨ofNat_ne_nil n, fun c hc => isDigit_of_mem_ofNat hc, fun hlead => ?_, .none, .none⟩
  rcases Nat.eq_zero_or_pos n with rfl | hn
  · rfl
  · exact absurd hlead (head_ofNat_ne hn)

/-- The text of a whole number is read as the number. -/
lemma number?_ofInt (n : ℤ) {rest : List Char} (hrest : Ends rest) :
    number? (ofInt n ++ rest) = some (.int n, rest) := by
  have hdigits : ∀ m : ℕ, numberOf ((ofNat m).filterMap digitValue?) = m := by
    intro m
    rw [numberOf_filterMap_digitValue? fun c hc => isDigit_of_mem_ofNat hc, ofDigitChars_ofNat]
  have hsigned : ofInt n =
      Decimal.signed (decide (n < 0)) (ofNat n.natAbs ++ [] ++ []) := by
    cases n with
    | ofNat n => simp [ofInt, Decimal.signed]
    | negSucc n => simp [ofInt, Decimal.signed, Int.negSucc_lt_zero]
  have habs : (if n < 0 then -(n.natAbs : ℤ) else n.natAbs) = n := by
    split <;> omega
  rw [hsigned, number?_written (written_ofNat _) hrest]
  simp only [List.isEmpty_nil, Bool.and_self, if_true, hdigits, decide_eq_true_eq, habs]

/-! ## Strings -/

/-- The sixteen-bit units of a character; half of a pair is one unit. -/
def unitsOf (c : Char) : List ℕ :=
  let n := (halfUnit? c).getD c.toNat
  if n < 0x10000 then [n] else [0xD800 + (n - 0x10000) / 0x400, 0xDC00 + (n - 0x10000) % 0x400]

/-- A character that stands for half of a pair. -/
lemma halfUnit?_eq_some {c : Char} {n : ℕ} :
    halfUnit? c = some n ↔ 0xD800 ≤ n ∧ n < 0xE000 ∧ c.toNat = 0xFF000 + (n - 0xD800) := by
  unfold halfUnit? firstStandIn halfCount firstHalf
  rw [Option.ite_none_right_eq_some, Bool.and_eq_true, decide_eq_true_eq, decide_eq_true_eq,
    Option.some_inj]
  omega

/-- Escapes are those of the units. -/
lemma unitEscapes_eq (c : Char) :
    unitEscapes c = (unitsOf c).flatMap fun n => '\\' :: 'u' :: hex 4 n := by
  unfold unitEscapes unitsOf
  dsimp only
  split <;> simp

/-- A unit has sixteen bits. -/
lemma lt_of_mem_unitsOf {c : Char} {n : ℕ} (h : n ∈ unitsOf c) : n < 0x10000 := by
  have hhalf : (halfUnit? c).getD c.toNat < 0x110000 := by
    cases hc : halfUnit? c with
    | none =>
      have := Encoding.Utf8.toNat_scalar c
      rw [Option.getD_none]
      omega
    | some m =>
      obtain ⟨hlow, hhigh, -⟩ := halfUnit?_eq_some.mp hc
      rw [Option.getD_some]
      omega
  unfold unitsOf at h
  dsimp only at h
  split at h
  · rw [List.mem_singleton] at h
    omega
  · simp only [List.mem_cons, List.not_mem_nil, or_false] at h
    omega

lemma hexValue?_digitChar : ∀ k < 16, hexValue? (Nat.digitChar k) = some k := by decide

/-- An escaped unit is read as the unit. -/
lemma string?_unit (us : List ℕ) {n : ℕ} (hn : n < 0x10000) (s : List Char) :
    string? us ('\\' :: 'u' :: hex 4 n ++ s) = string? (n :: us) s := by
  have hhex : hex 4 n = [Nat.digitChar (n / 16 / 16 / 16 % 16), Nat.digitChar (n / 16 / 16 % 16),
      Nat.digitChar (n / 16 % 16), Nat.digitChar (n % 16)] := rfl
  have hvalue : ∀ k, hexValue? (Nat.digitChar (k % 16)) = some (k % 16) :=
    fun k => hexValue?_digitChar _ (Nat.mod_lt _ (by decide))
  have hunit : unit? (Nat.digitChar (n / 16 / 16 / 16 % 16)) (Nat.digitChar (n / 16 / 16 % 16))
      (Nat.digitChar (n / 16 % 16)) (Nat.digitChar (n % 16)) = some n := by
    unfold unit?
    rw [hvalue, hvalue, hvalue, hvalue]
    show some _ = some n
    congr 1
    omega
  rw [hhex]
  simp only [List.cons_append, List.nil_append]
  rw [string?, hunit]
  rfl

/-- The escapes of a character are read as its units. -/
lemma string?_unitEscapes (us : List ℕ) (c : Char) (s : List Char) :
    string? us (unitEscapes c ++ s) = string? ((unitsOf c).reverse ++ us) s := by
  have hall : ∀ ns : List ℕ, (∀ n ∈ ns, n < 0x10000) → ∀ us,
      string? us ((ns.flatMap fun n => '\\' :: 'u' :: hex 4 n) ++ s) =
        string? (ns.reverse ++ us) s := by
    intro ns hns
    induction ns with
    | nil => exact fun us => rfl
    | cons n ns ih =>
      intro us
      rw [List.flatMap_cons, List.append_assoc, string?_unit us (hns n List.mem_cons_self),
        ih fun m hm => hns m (List.mem_cons_of_mem n hm), List.reverse_cons, List.append_assoc]
      rfl
  rw [unitEscapes_eq, hall _ fun n hn => lt_of_mem_unitsOf hn]

/-- A character that is not written as units is one unit, and is read as itself. -/
lemma string?_stringChar (c : Char) : stringChar c = unitEscapes c ∨ c.toNat < 0x80 ∧
    ∀ us s, string? us (stringChar c ++ s) =
      (string? [] s).map fun (rest, t) => (ofUnits us.reverse ++ c :: rest, t) := by
  have hescape : ∀ {letter c : Char}, letter ≠ 'u' → escaped? letter = some c → ∀ us s,
      string? us (['\\', letter] ++ s) =
        (string? [] s).map fun (rest, t) => (ofUnits us.reverse ++ c :: rest, t) := by
    intro letter c hletter hc us s
    simp only [List.cons_append, List.nil_append]
    rw [string?, hc]
    · cases string? [] s <;> rfl
    · exact fun _ _ _ _ _ h => absurd h hletter
  have hcode : ∀ {n : ℕ}, c.toNat = n → c = Char.ofNat n := by
    rintro n rfl
    exact (Char.ofNat_toNat c).symm
  unfold stringChar
  split_ifs with hquote hback hfeed hreturn htab hbackspace hform hplain
  · subst hquote
    exact .inr ⟨by decide, hescape (by decide) rfl⟩
  · subst hback
    exact .inr ⟨by decide, hescape (by decide) rfl⟩
  · subst hfeed
    exact .inr ⟨by decide, hescape (by decide) rfl⟩
  · subst hreturn
    exact .inr ⟨by decide, hescape (by decide) rfl⟩
  · subst htab
    exact .inr ⟨by decide, hescape (by decide) rfl⟩
  · obtain rfl := hcode hbackspace
    exact .inr ⟨by decide, hescape (by decide) rfl⟩
  · obtain rfl := hcode hform
    exact .inr ⟨by decide, hescape (by decide) rfl⟩
  · rw [Bool.and_eq_true, decide_eq_true_eq, decide_eq_true_eq] at hplain
    refine .inr ⟨by omega, fun us s => ?_⟩
    rw [List.singleton_append, string?, if_neg (by omega)]
    · cases string? [] s <;> rfl
    · exact fun h => hquote h
    · exact fun _ _ _ _ _ h => absurd h hback
    · exact fun _ _ h => absurd h hback
  · exact .inl rfl

/-! ## Halves that meet -/

/-- The character that two halves spell, the first one in front. -/
def pair? (c d : Char) : Option Char :=
  match halfUnit? c, halfUnit? d with
  | some n, some m =>
    if n < 0xDC00 ∧ 0xDC00 ≤ m then
      some (Char.ofNat (0x10000 + (n - 0xD800) * 0x400 + (m - 0xDC00)))
    else none
  | _, _ => none

/-- A text with a character in place of two halves that spell it. -/
def paired : List Char → List Char
  | [] => []
  | [c] => [c]
  | c :: d :: s =>
    match pair? c d with
    | some e => e :: paired s
    | none => c :: paired (d :: s)

/-- No two characters that stand next to each other are halves that spell one. -/
def Unpaired (s : List Char) : Prop := s.IsChain fun c d => pair? c d = none

lemma paired_eq_self {s : List Char} (h : Unpaired s) : paired s = s := by
  induction s with
  | nil => rfl
  | cons c s ih =>
    cases s with
    | nil => rfl
    | cons d s =>
      obtain ⟨hpair, hs⟩ := List.isChain_cons_cons.mp h
      rw [paired, hpair]
      dsimp only
      rw [ih hs]

/-- A text without halves has none that meet. -/
lemma unpaired_of_forall {s : List Char} (h : ∀ c ∈ s, halfUnit? c = none) : Unpaired s := by
  induction s with
  | nil => exact List.IsChain.nil
  | cons c s ih =>
    have hs := ih fun d hd => h d (List.mem_cons_of_mem c hd)
    cases s with
    | nil => exact List.IsChain.singleton c
    | cons d s =>
      have hpair : pair? c d = none := by
        unfold pair?
        rw [h c List.mem_cons_self]
      exact List.isChain_cons_cons.mpr ⟨hpair, hs⟩

/-! ## Units -/

/-- A unit that is not put together with the next one is a character of its own. -/
lemma ofUnits_cons {n : ℕ} {us : List ℕ}
    (h : 0xD800 ≤ n → n < 0xDC00 → ∀ m ∈ us.head?, ¬ (0xDC00 ≤ m ∧ m < 0xE000)) :
    ofUnits (n :: us) = ofCode n :: ofUnits us := by
  cases us with
  | nil => rfl
  | cons m us =>
    rw [ofUnits]
    simp only [Bool.and_eq_true, decide_eq_true_eq]
    split_ifs with hhigh hlow
    · exact absurd hlow (h hhigh.1 hhigh.2 m rfl)
    · rfl
    · rfl

/-- A unit that is no half keeps apart what stands around it. -/
lemma ofUnits_append_cons {n : ℕ} (hn : n < 0xD800) (us ms : List ℕ) :
    ofUnits (us ++ n :: ms) = ofUnits us ++ ofCode n :: ofUnits ms := by
  have halone : ofUnits (n :: ms) = ofCode n :: ofUnits ms := ofUnits_cons fun h => by omega
  induction us using ofUnits.induct with
  | case1 => exact halone
  | case2 m =>
    have hm : ofUnits (m :: n :: ms) = ofCode m :: ofUnits (n :: ms) := by
      apply ofUnits_cons
      rintro - - k ⟨⟩ ⟨hlow, -⟩
      omega
    rw [List.singleton_append, hm, halone]
    rfl
  | case3 m k us hhigh hlow ih =>
    rw [List.cons_append, List.cons_append, ofUnits, if_pos hhigh, if_pos hlow, ih, ofUnits,
      if_pos hhigh, if_pos hlow]
    rfl
  | case4 m k us hhigh hlow ih =>
    rw [List.cons_append, List.cons_append, ofUnits, if_pos hhigh, if_neg hlow, ofUnits,
      if_pos hhigh, if_neg hlow]
    exact congrArg _ ih
  | case5 m k us hhigh ih =>
    rw [List.cons_append, List.cons_append, ofUnits, if_neg hhigh, ofUnits, if_neg hhigh]
    exact congrArg _ ih

/-- The character of a number that is none of a half. -/
lemma ofCode_toNat (c : Char) : ofCode c.toNat = c := by
  have hc := Encoding.Utf8.toNat_scalar c
  unfold ofCode firstHalf halfCount
  rw [if_neg]
  · exact Char.ofNat_toNat c
  · rw [Bool.and_eq_true, decide_eq_true_eq, decide_eq_true_eq]
    omega

/-- The character that stands for a half is found from its unit. -/
lemma ofCode_halfUnit {c : Char} {n : ℕ} (h : halfUnit? c = some n) : ofCode n = c := by
  obtain ⟨hlow, hhigh, hc⟩ := halfUnit?_eq_some.mp h
  unfold ofCode firstHalf halfCount firstStandIn
  rw [if_pos, ← hc]
  · exact Char.ofNat_toNat c
  · rw [Bool.and_eq_true, decide_eq_true_eq, decide_eq_true_eq]
    omega

/-- The units of a half. -/
lemma unitsOf_half {c : Char} {n : ℕ} (h : halfUnit? c = some n) : unitsOf c = [n] := by
  obtain ⟨-, hhigh, -⟩ := halfUnit?_eq_some.mp h
  unfold unitsOf
  rw [h]
  exact if_pos (show n < 0x10000 by omega)

/-- A second half among the units of a text starts it only if a character for it does. -/
lemma halfUnit?_of_head {d : Char} {us : List ℕ} {m : ℕ} (hm : m ∈ (unitsOf d ++ us).head?)
    (hlow : 0xDC00 ≤ m) (hhigh : m < 0xE000) : halfUnit? d = some m := by
  cases hd : halfUnit? d with
  | some k =>
    rw [unitsOf_half hd] at hm
    exact congrArg some (Option.some.inj hm)
  | none =>
    have hvalid := Encoding.Utf8.toNat_scalar d
    unfold unitsOf at hm
    rw [hd, Option.getD_none] at hm
    dsimp only at hm
    split at hm
    · obtain rfl := Option.some.inj hm
      omega
    · obtain rfl := Option.some.inj hm
      omega

/-- A character in front of units that it does not go together with is read from its own. -/
lemma ofUnits_unitsOf_append {c : Char} {us : List ℕ}
    (h : ∀ n ∈ halfUnit? c, n < 0xDC00 → ∀ m ∈ us.head?, ¬ (0xDC00 ≤ m ∧ m < 0xE000)) :
    ofUnits (unitsOf c ++ us) = c :: ofUnits us := by
  cases hc : halfUnit? c with
  | some n =>
    rw [unitsOf_half hc, List.singleton_append, ofUnits_cons fun _ => h n hc, ofCode_halfUnit hc]
  | none =>
    have hvalid := Encoding.Utf8.toNat_scalar c
    unfold unitsOf
    rw [hc, Option.getD_none]
    dsimp only
    split
    · rw [List.singleton_append, ofUnits_cons, ofCode_toNat]
      omega
    · rw [List.cons_append, List.singleton_append, ofUnits]
      simp only [Bool.and_eq_true, decide_eq_true_eq]
      rw [if_pos (by omega), if_pos (by omega)]
      have hsame : 0x10000 + (0xD800 + (c.toNat - 0x10000) / 0x400 - 0xD800) * 0x400 +
          (0xDC00 + (c.toNat - 0x10000) % 0x400 - 0xDC00) = c.toNat := by omega
      rw [hsame, Char.ofNat_toNat]

/-- **The units of a text** are read as the text with halves put together. -/
lemma ofUnits_flatMap (s : List Char) : ofUnits (s.flatMap unitsOf) = paired s := by
  induction s using paired.induct with
  | case1 => rfl
  | case2 c =>
    rw [List.flatMap_singleton, ← List.append_nil (unitsOf c), ofUnits_unitsOf_append]
    · rfl
    · rintro n - - m ⟨⟩
  | case3 c d s e hpair ih =>
    rw [paired, hpair]
    dsimp only
    unfold pair? at hpair
    split at hpair
    · rename_i n m hn hm
      obtain ⟨⟨hfirst, hsecond⟩, he⟩ := Option.ite_none_right_eq_some.mp hpair
      obtain rfl := Option.some.inj he
      obtain ⟨hlow, -⟩ := halfUnit?_eq_some.mp hn
      obtain ⟨-, hhigh, -⟩ := halfUnit?_eq_some.mp hm
      rw [List.flatMap_cons, List.flatMap_cons, unitsOf_half hn, unitsOf_half hm,
        List.singleton_append, List.singleton_append, ofUnits]
      simp only [Bool.and_eq_true, decide_eq_true_eq]
      rw [if_pos ⟨hlow, hfirst⟩, if_pos ⟨hsecond, hhigh⟩, ih]
    · cases hpair
  | case4 c d s hpair ih =>
    rw [paired, hpair]
    dsimp only
    rw [List.flatMap_cons, ofUnits_unitsOf_append, ih]
    rintro n hn hfirst m hm ⟨hlow, hhigh⟩
    rw [List.flatMap_cons] at hm
    have hd := halfUnit?_of_head hm hlow hhigh
    unfold pair? at hpair
    rw [hn, hd] at hpair
    dsimp only at hpair
    rw [if_pos ⟨hfirst, hlow⟩] at hpair
    cases hpair

/-- What is inside a string is read with the units in front of it. -/
lemma string?_flatMap (s : List Char) (us : List ℕ) (rest : List Char) :
    string? us (s.flatMap stringChar ++ '"' :: rest) =
      some (ofUnits (us.reverse ++ s.flatMap unitsOf), rest) := by
  induction s generalizing us with
  | nil =>
    rw [List.flatMap_nil, List.flatMap_nil, List.append_nil]
    rfl
  | cons c s ih =>
    rw [List.flatMap_cons, List.flatMap_cons, List.append_assoc]
    rcases string?_stringChar c with hunits | ⟨hsmall, hchar⟩
    · rw [hunits, string?_unitEscapes, ih, List.reverse_append, List.reverse_reverse,
        List.append_assoc]
    · have hhalf : halfUnit? c = none := by
        cases hc : halfUnit? c with
        | none => rfl
        | some n =>
          obtain ⟨-, -, hn⟩ := halfUnit?_eq_some.mp hc
          omega
      have hunits : unitsOf c = [c.toNat] := by
        unfold unitsOf
        rw [hhalf]
        exact if_pos (show c.toNat < 0x10000 by omega)
      rw [hchar, ih, hunits, List.singleton_append, ofUnits_append_cons (by omega), ofCode_toNat]
      rfl

/-- **A string is read** as its text with halves put together. -/
lemma string?_quoted (s rest : List Char) :
    string? [] (s.flatMap stringChar ++ '"' :: rest) = some (paired s, rest) := by
  rw [string?_flatMap, List.reverse_nil, List.nil_append, ofUnits_flatMap]

end Toolpath.Json
