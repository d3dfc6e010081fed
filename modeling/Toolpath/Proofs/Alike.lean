import Toolpath.Proofs.Layering
/-!
# Lines that are read alike

All that a result keeps of a line is its code, the numbers that it gives to the registers, and how
many of its pieces have no number. Documents whose lines share these one by one have the same
result, however the lines are written.

## Main definitions

* `Toolpath.ReadAlike` — lines that are read alike.

## Main results

* `Toolpath.resultOf_eq_of_readAlike` — documents whose lines are read alike have the same result.
* `Toolpath.ReadAlike.of_tokens` — lines that differ in empty tokens alone are read alike.
-/

namespace Toolpath

open Text

/-! ## One line -/

/-- Two lines are read alike: they have the same code, give the same numbers to the registers, and
have as many pieces without a number. -/
structure ReadAlike (line line' : List Char) : Prop where
  code : codeOf line = codeOf line'
  value : ∀ r : Register, (Block.read line).value [r.letter] = (Block.read line').value [r.letter]
  malformed : numberless line = numberless line'

/-- The registers in the order of a machine. -/
def registers : List Register := [.x, .y, .z, .e, .f]

/-- Lines that are read alike agree on all registers. -/
lemma ReadAlike.agree {line line' : List Char} (h : ReadAlike line line') :
    (Block.read line).Agree Eq registers (.read line') := by
  refine Block.agree_eq_iff.mpr (Prod.ext ?_ (List.map_congr_left fun r _ => h.value r))
  rw [saidOf, saidOf, code_read, code_read, h.code]

/-- **Lines that differ in empty tokens alone**, behind the first one, are read alike. -/
theorem ReadAlike.of_tokens {line line' : List Char}
    (hfirst : (Block.tokens line).headD [] = (Block.tokens line').headD [])
    (hrest : (Block.tokens line).tail.filter (· ≠ []) =
      (Block.tokens line').tail.filter (· ≠ [])) : ReadAlike line line' := by
  -- an empty token spells no word and is no piece without a number
  have hwords : ∀ tokens : List (List Char), tokens.filterMap Word.ofPiece? =
      (tokens.filter (· ≠ [])).filterMap Word.ofPiece? := by
    intro tokens
    rw [List.filterMap_filter]
    exact List.filterMap_congr fun token _ => by cases token <;> rfl
  have hcount : ∀ line, numberless line = ((Block.tokens line).tail.filter (· ≠ [])).countP
      fun token => token ≠ [] ∧ ¬ Decimal.StartsNumeral token.tail := by
    intro line
    rw [List.countP_filter]
    exact List.countP_congr fun token _ => by simp +contextual
  have hread : (Block.read line).words = (Block.read line').words := by
    rw [Block.words_read, Block.words_read, hwords, hrest, ← hwords]
  refine ⟨by rw [codeOf, codeOf, hfirst], fun r => ?_, by rw [hcount, hcount, hrest]⟩
  rw [Block.value, Block.value, hread]

/-! ## Documents -/

/-- Machines that agree on all registers are equal. -/
lemma Machine.Agree.eq {m m' : Machine} (h : m.Agree Eq registers m') : m = m' := by
  have hx : m.x = m'.x := h.register .x (by decide)
  have hy : m.y = m'.y := h.register .y (by decide)
  have hz : m.z = m'.z := h.register .z (by decide)
  have he : m.e = m'.e := h.register .e (by decide)
  have hf : m.f = m'.f := h.register .f (by decide)
  show Machine.mk m.x m.y m.z m.e m.f m.positioning m.extruding = m'
  rw [hx, hy, hz, he, hf, h.positioning, h.extruding]

/-- Counters are those without the malformed words, and these. -/
lemma Tally.eq_of_withoutMalformed_eq {t t' : Tally}
    (h : t.withoutMalformed = t'.withoutMalformed) (hmalformed : t.malformed = t'.malformed) :
    t = t' := by
  show { t.withoutMalformed with malformed := t.malformed } = t'
  rw [h, hmalformed]
  rfl

/-- Lines that are read alike have as many pieces without a number in all that have a code. -/
lemma map_numberless_eq {lines lines' : List (List Char)}
    (h : List.Forall₂ ReadAlike lines lines') :
    (lines.filter fun line => codeOf line ≠ []).map numberless =
      (lines'.filter fun line => codeOf line ≠ []).map numberless := by
  induction h with
  | nil => rfl
  | @cons line line' _ _ hline _ ih =>
    by_cases hcode : codeOf line' = []
    · have hcode' : codeOf line = [] := hline.code.trans hcode
      rw [List.filter_cons_of_neg (by simpa using hcode'),
        List.filter_cons_of_neg (by simpa using hcode), ih]
    · have hcode' : codeOf line ≠ [] := fun h => hcode (hline.code.symm.trans h)
      rw [List.filter_cons_of_pos (by simpa using hcode'),
        List.filter_cons_of_pos (by simpa using hcode), List.map_cons, List.map_cons, ih,
        hline.malformed]

/-- **Documents whose lines are read alike** have the same result. -/
theorem resultOf_eq_of_readAlike {s s' : List Char}
    (h : List.Forall₂ ReadAlike (sourceLines s) (sourceLines s')) : resultOf s = resultOf s' := by
  have hagree : LinesAgree Eq registers s s' := h.imp fun _ _ hline => hline.agree
  have hlayers : (resultOf s).layers = (resultOf s').layers := by
    have hall := hagree.forall₂_layers respected_eq (by decide) (by decide)
    rw [← List.forall₂_eq_eq_eq]
    exact hall.imp fun _ _ hl => hl.eq (by decide) (by decide) (by decide)
  have hstate : (resultOf s).finalState = (resultOf s').finalState :=
    (hagree.agree_finalState respected_eq (by decide)).eq
  have htally : (resultOf s).tally = (resultOf s').tally := by
    refine Tally.eq_of_withoutMalformed_eq
      (hagree.withoutMalformed_tally_eq respected_eq (by decide)) ?_
    rw [malformed_resultOf, malformed_resultOf, map_numberless_eq h]
  show Result.mk (resultOf s).layers (resultOf s).finalState (resultOf s).tally = resultOf s'
  rw [hlayers, hstate, htally]

/-- The result of an interpretation is that of the document, with the time if it is measured. -/
lemma result_interpret (measured : Bool) (clock : Clock) (s : List Char) :
    (interpret measured clock s).result =
      if measured then
        { resultOf s with tally := { (resultOf s).tally with elapsed := some clock.stretch.1 } }
      else resultOf s := by
  cases measured <;> rfl

end Toolpath
