import Mathlib
import Toolpath.Text.Case
/-!
# Letters that other characters turn into

Upper case and lower case may turn a character beyond ASCII into an ASCII one: the sign of the
kelvin has the lower case of the letter `k`. Of the characters that codes and registers are spelled
with, none is reached like that. They come out of the letter in either case and of nothing else.

## Main definitions

* `Toolpath.Text.isUnreached` — a character that no entry of the tables of a case leads to.
* `Toolpath.Text.codeChars`, `Toolpath.Text.registerLetters` — what supported codes and the words
  of registers are spelled with.

## Main results

* `Toolpath.Text.upper_eq_nil_iff` — the upper case of a text is empty only if the text is.
* `Toolpath.Text.upper_eq_code_iff` — what has a supported code as its upper case.
* `Toolpath.Text.lowerChar_eq_iff` — what has the letter of a register as its lower case.
-/

namespace Toolpath.Text

/-! ## Beyond ASCII -/

section OtherCase

variable {runs : List CaseRun} {expansions : List (Nat × List Nat)}

/-- The other case of a character is not empty if no expansion is. -/
lemma otherCase_ne_nil (h : expansions.all (fun e => !e.2.isEmpty) = true) (c : Char) :
    otherCase runs expansions c ≠ [] := by
  unfold otherCase
  split
  · rename_i n expansion hfind
    have hne := List.all_eq_true.mp h _ (List.mem_of_find?_eq_some hfind)
    simpa using hne
  · split <;> simp

/-- Whether no entry of the tables leads to a character. -/
def isUnreached (runs : List CaseRun) (expansions : List (Nat × List Nat)) (d : Char) : Bool :=
  d.toNat != 0 && expansions.all (fun e => !e.2.contains d.toNat) &&
    runs.all fun run => !run.holds (d.toNat - run.offset).toNat

/-- A character that the tables do not lead to comes out of itself alone. -/
lemma eq_of_mem_otherCase {c d : Char} (hd : isUnreached runs expansions d = true)
    (h : d ∈ otherCase runs expansions c) : d = c := by
  simp only [isUnreached, Bool.and_eq_true, bne_iff_ne, ne_eq, List.all_eq_true,
    Bool.not_eq_true', List.contains_eq_mem, decide_eq_false_iff_not] at hd
  obtain ⟨⟨hzero, hexpansions⟩, hruns⟩ := hd
  -- a number that is no character stands for the character zero, which `d` is not
  have htoNat : ∀ {n : Nat}, d = Char.ofNat n → n = d.toNat := by
    rintro n rfl
    rw [Char.toNat_ofNat] at hzero ⊢
    split at hzero
    · rename_i hvalid
      rw [if_pos hvalid]
    · exact absurd rfl hzero
  unfold otherCase at h
  split at h
  · rename_i n expansion hfind
    obtain ⟨m, hm, hchar⟩ := List.mem_map.mp h
    exact absurd (htoNat hchar.symm ▸ hm) (hexpansions _ (List.mem_of_find?_eq_some hfind))
  · split at h
    · rename_i run hfind
      have hn := htoNat (List.mem_singleton.mp h)
      have hback : (d.toNat - run.offset).toNat = c.toNat := by omega
      have hholds := List.find?_some hfind
      have hrun := hruns run (List.mem_of_find?_eq_some hfind)
      rw [hback] at hrun
      exact absurd hholds (by simp [hrun])
    · exact List.mem_singleton.mp h

end OtherCase

/-! ## Upper case -/

/-- Upper case leaves no character out. -/
lemma upperChar_ne_nil (c : Char) : upperChar c ≠ [] := by
  unfold upperChar
  split
  · simp
  · exact otherCase_ne_nil (by decide +kernel) c

/-- The upper case of a text is empty only if the text is. -/
theorem upper_eq_nil_iff {s : List Char} : upper s = [] ↔ s = [] := by
  cases s with
  | nil => exact iff_of_true rfl rfl
  | cons c s => simp [upper, upperChar_ne_nil]

/-- The digits of supported codes. -/
def codeDigits : List Char := ['0', '1', '2', '3', '9']

/-- The characters that supported codes are spelled with. -/
def codeChars : List Char := 'G' :: codeDigits

/-- Digits have no case. -/
lemma toLower_of_mem_codeDigits : ∀ d ∈ codeDigits, d.toLower = d :=
  List.all_iff_forall_prop.mp (by decide +kernel)

/-- No character beyond ASCII has one of them in its upper case. -/
lemma unreached_of_mem_codeChars :
    ∀ d ∈ codeChars, d.toNat < 128 ∧ isUnreached upperRuns upperExpansions d = true :=
  List.all_iff_forall_prop.mp (by decide +kernel)

/-- Both cases of them have the same upper case. -/
lemma upperChar_of_mem_codeChars :
    ∀ d ∈ codeChars, upperChar d = [d] ∧ upperChar d.toLower = [d] :=
  List.all_iff_forall_prop.mp (by decide +kernel)

section UpperCase

variable {c d : Char} (hd : d ∈ codeChars)

include hd

/-- The upper case with a character of codes in it is that of the same letter in either case. -/
lemma eq_or_eq_of_mem_upperChar (h : d ∈ upperChar c) : c = d ∨ c = d.toLower := by
  obtain ⟨hascii, hreached⟩ := unreached_of_mem_codeChars d hd
  unfold upperChar at h
  split at h
  · obtain rfl := List.mem_singleton.mp h
    rw [Char.toLower_toUpper_eq_toLower]
    by_cases hc : c.isLower
    · exact .inr (Char.toLower_eq_of_not_isUpper (Char.not_isUpper_of_isLower hc)).symm
    · exact .inl (Char.toUpper_eq_of_not_isLower hc).symm
  · rename_i hc
    obtain rfl := eq_of_mem_otherCase hreached h
    exact absurd hascii hc

/-- The upper case that starts with a character of codes is that character. -/
lemma upperChar_append_eq_cons_iff {s ds : List Char} :
    upperChar c ++ s = d :: ds ↔ (c = d ∨ c = d.toLower) ∧ s = ds := by
  obtain ⟨hsame, hlower⟩ := upperChar_of_mem_codeChars d hd
  constructor
  · intro h
    have hmem : d ∈ upperChar c := by
      cases hc : upperChar c with
      | nil => exact absurd hc (upperChar_ne_nil c)
      | cons u us =>
        rw [hc] at h
        obtain ⟨rfl, -⟩ := List.cons_eq_cons.mp h
        exact List.mem_cons_self
    have hcase := eq_or_eq_of_mem_upperChar hd hmem
    have hsingle : upperChar c = [d] := by rcases hcase with rfl | rfl <;> assumption
    rw [hsingle] at h
    exact ⟨hcase, (List.cons_eq_cons.mp h).2⟩
  · rintro ⟨rfl | rfl, rfl⟩
    · rw [hsame]
      rfl
    · rw [hlower]
      rfl

end UpperCase

/-- Digits are the upper case of themselves alone. -/
lemma upper_eq_digits_iff {s ds : List Char} (hds : ∀ d ∈ ds, d ∈ codeDigits) :
    upper s = ds ↔ s = ds := by
  induction ds generalizing s with
  | nil => exact upper_eq_nil_iff
  | cons d ds ih =>
    obtain ⟨hd, hds⟩ := List.forall_mem_cons.mp hds
    cases s with
    | nil => simp [upper]
    | cons c s =>
      have hupper : upper (c :: s) = upperChar c ++ upper s := rfl
      rw [hupper, upperChar_append_eq_cons_iff (List.mem_cons_of_mem 'G' hd), ih hds,
        toLower_of_mem_codeDigits d hd, or_self, List.cons_eq_cons]

/-- **What has a supported code as its upper case** is this code with its letter in either case. -/
theorem upper_eq_code_iff {s ds : List Char} (hds : ∀ d ∈ ds, d ∈ codeDigits) :
    upper s = 'G' :: ds ↔ s = 'G' :: ds ∨ s = 'g' :: ds := by
  cases s with
  | nil => simp [upper]
  | cons c s =>
    have hupper : upper (c :: s) = upperChar c ++ upper s := rfl
    rw [hupper, upperChar_append_eq_cons_iff List.mem_cons_self, upper_eq_digits_iff hds,
      List.cons_eq_cons, List.cons_eq_cons, ← or_and_right]
    rfl

/-! ## Lower case -/

/-- The letters of the registers. -/
def registerLetters : List Char := ['x', 'y', 'z', 'e', 'f']

/-- No character beyond ASCII has one of them in its lower case. -/
lemma unreached_of_mem_registerLetters :
    ∀ d ∈ registerLetters, d.toNat < 128 ∧ isUnreached lowerRuns lowerExpansions d = true :=
  List.all_iff_forall_prop.mp (by decide +kernel)

/-- Both cases of them have the same lower case. -/
lemma lowerChar_of_mem_registerLetters :
    ∀ d ∈ registerLetters, lowerChar d = [d] ∧ lowerChar d.toUpper = [d] :=
  List.all_iff_forall_prop.mp (by decide +kernel)

/-- **What has the letter of a register as its lower case** is this letter in either case. -/
theorem lowerChar_eq_iff {c d : Char} (hd : d ∈ registerLetters) :
    lowerChar c = [d] ↔ c = d ∨ c = d.toUpper := by
  obtain ⟨hascii, hreached⟩ := unreached_of_mem_registerLetters d hd
  constructor
  · intro h
    have hmem : d ∈ lowerChar c := h ▸ List.mem_cons_self
    unfold lowerChar at hmem
    split at hmem
    · obtain rfl := List.mem_singleton.mp hmem
      rw [Char.toUpper_toLower_eq_toUpper]
      by_cases hc : c.isUpper
      · exact .inr (Char.toUpper_eq_of_not_isLower (Char.not_isLower_of_isUpper hc)).symm
      · exact .inl (Char.toLower_eq_of_not_isUpper hc).symm
    · rename_i hc
      obtain rfl := eq_of_mem_otherCase hreached hmem
      exact absurd hascii hc
  · rintro (rfl | rfl)
    · exact (lowerChar_of_mem_registerLetters _ hd).1
    · exact (lowerChar_of_mem_registerLetters _ hd).2

end Toolpath.Text
