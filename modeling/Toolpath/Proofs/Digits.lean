import Mathlib.Algebra.Group.Nat.Defs
import Mathlib.Tactic.Lemma
import Toolpath.Text.Digit
/-!
# The digits of a number

A number is written in digits of ASCII with no zero in front, so it has as many as the least power
of ten above it, and no other number is written like it.

## Main results

* `Toolpath.Text.exists_length_ofNat` — how many digits a number has.
* `Toolpath.Text.head_ofNat_ne` — a positive number has no zero in front.
* `Toolpath.Text.ofInt_inj` — numbers with the same text are the same.
* `Toolpath.Text.numberOf_filterMap_digitValue?` — what digits of ASCII spell.
-/

namespace Toolpath.Text

/-- The digits of a number are digits of ASCII. -/
lemma isDigit_of_mem_ofNat {n : Nat} {c : Char} (h : c ∈ ofNat n) : c.isDigit = true :=
  Nat.isDigit_of_mem_toDigits (by decide) (by decide) h

/-- A number has a digit. -/
lemma ofNat_ne_nil (n : Nat) : ofNat n ≠ [] := Nat.toDigits_ne_nil

/-- Numbers with the same digits are the same. -/
lemma ofNat_inj {n n' : Nat} (h : ofNat n = ofNat n') : n = n' := by
  have hread := congrArg (Nat.ofDigitChars 10 · 0) h
  simpa [ofNat, Nat.ofDigitChars_toDigits] using hread

/-- Integers with the same text are the same. -/
lemma ofInt_inj {n n' : Int} (h : ofInt n = ofInt n') : n = n' := by
  have hminus : ∀ k l, ofNat k ≠ '-' :: ofNat l := by
    intro k l heq
    have hmem : '-' ∈ ofNat k := heq ▸ List.mem_cons_self
    exact absurd (isDigit_of_mem_ofNat hmem) (by decide)
  cases n with
  | ofNat n =>
    cases n' with
    | ofNat n' => rw [ofNat_inj h]
    | negSucc n' => exact absurd h (hminus n (n' + 1))
  | negSucc n =>
    cases n' with
    | ofNat n' => exact absurd h.symm (hminus n' (n + 1))
    | negSucc n' => rw [Nat.succ.inj (ofNat_inj (List.cons.inj h).2)]

/-- A positive number of `n + 1` digits lies between two powers of ten. -/
lemma exists_length_ofNat {m : Nat} (hm : 0 < m) :
    ∃ n, (ofNat m).length = n + 1 ∧ 10 ^ n ≤ m ∧ m < 10 ^ (n + 1) := by
  obtain ⟨n, hn⟩ : ∃ n, (ofNat m).length = n + 1 :=
    Nat.exists_eq_add_one.mpr Nat.length_toDigits_pos
  have hle : ∀ k, 0 < k → ((ofNat m).length ≤ k ↔ m < 10 ^ k) :=
    fun k hk => Nat.length_toDigits_le_iff (by decide) hk
  refine ⟨n, hn, ?_, (hle (n + 1) (Nat.succ_pos n)).mp (Nat.le_of_eq hn)⟩
  by_cases hzero : n = 0
  · rw [hzero]
    exact hm
  · refine Nat.le_of_not_lt fun hlt => ?_
    have hlength := (hle n (Nat.pos_of_ne_zero hzero)).mpr hlt
    omega

/-- A positive number has no zero in front. -/
lemma head_ofNat_ne {n : Nat} (hn : 0 < n) : (ofNat n).head? ≠ some '0' := by
  induction n using Nat.strongRecOn with
  | _ n ih =>
    by_cases hsmall : n < 10
    · have hdigits : ∀ n < 10, 0 < n → (ofNat n).head? ≠ some '0' := by decide
      exact hdigits n hsmall hn
    · have hsplit : ofNat n = ofNat (n / 10) ++ [(n % 10).digitChar] :=
        Nat.toDigits_of_base_le (by decide) (by omega)
      rw [hsplit, List.head?_append, Option.or_of_isSome (List.isSome_head?.mpr (ofNat_ne_nil _))]
      exact ih (n / 10) (by omega) (by omega)

/-- The value of a digit of ASCII. -/
lemma digitValue?_of_isDigit {c : Char} (h : c.isDigit = true) :
    digitValue? c = some (c.toNat - '0'.toNat) := by
  have hrange : 48 ≤ c.toNat ∧ c.toNat ≤ 57 := by
    simpa [Char.isDigit, UInt32.le_iff_toNat_le] using h
  have hascii : c.toNat < 128 := by omega
  simp [digitValue?, hascii, hrange]

/-- What digits of ASCII spell behind other digits. -/
lemma foldl_filterMap_digitValue? {s : List Char} (h : ∀ c ∈ s, c.isDigit = true) (n : Nat) :
    (s.filterMap digitValue?).foldl (fun n d => 10 * n + d) n = Nat.ofDigitChars 10 s n := by
  induction s generalizing n with
  | nil => rfl
  | cons c s ih =>
    obtain ⟨hc, hs⟩ := List.forall_mem_cons.mp h
    rw [List.filterMap_cons_some (digitValue?_of_isDigit hc), List.foldl_cons, ih hs,
      Nat.ofDigitChars_cons]

/-- **What digits of ASCII spell.** -/
lemma numberOf_filterMap_digitValue? {s : List Char} (h : ∀ c ∈ s, c.isDigit = true) :
    numberOf (s.filterMap digitValue?) = Nat.ofDigitChars 10 s 0 :=
  foldl_filterMap_digitValue? h 0

/-- A number is spelled by its digits. -/
lemma ofDigitChars_ofNat (n : Nat) : Nat.ofDigitChars 10 (ofNat n) 0 = n :=
  Nat.ofDigitChars_ten_toDigits

/-- A number is shown by its digits. -/
lemma toList_toString_nat (n : Nat) : (toString n).toList = ofNat n := by
  show (Nat.repr n).toList = ofNat n
  rw [Nat.repr, String.toList_ofList]
  rfl

/-- An integer is shown by its sign and its digits. -/
lemma toList_toString_int (n : Int) : (toString n).toList = ofInt n := by
  cases n with
  | ofNat n => exact toList_toString_nat n
  | negSucc n =>
    show ("-" ++ toString (n + 1)).toList = '-' :: ofNat (n + 1)
    rw [String.toList_append, toList_toString_nat]
    rfl

end Toolpath.Text
