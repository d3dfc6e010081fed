import Toolpath.Proofs.Comments
import Toolpath.Proofs.Erasure
import Toolpath.Proofs.LetterCase
/-!
# Lines that are passed over

A line is passed over if it has no code. That is so of a line of white space, but not of such lines
alone: the code of a line ends at its first space, so it is empty as well if a space stands in front
of everything that is written there. Tabs and other white space in front do no harm, and all other
lines are executed and counted.

## Main definitions

* `Toolpath.Indented` — a line with a space in front of what is written there.
* `Toolpath.Tally.Counts` — counters that have counted a line by its code.
* `Toolpath.Heeded` — a line of a document that is executed and counted.

## Main results

* `Toolpath.codeOf_eq_nil_iff` — a line has no code iff it is white space or indented.
* `Toolpath.counts_of_codeOf_ne_nil` — a line with a code is counted.
* `Toolpath.heeded_iff` — which lines are executed and counted.
* `Toolpath.not_heeded_indented` — a line that draws, with a space in front of it, is not.
-/

namespace Toolpath

open Text

/-! ## Lines without a code -/

/-- The first piece of a text ends in front of the first separator. -/
lemma Text.headD_pieces (sep : Char) (s : List Char) :
    (pieces sep s).headD [] = s.takeWhile (· ≠ sep) := by
  induction s with
  | nil => rfl
  | cons c s ih =>
    by_cases hc : c = sep
    · rw [pieces, if_pos hc, List.takeWhile_cons_of_neg (by simpa using hc)]
      rfl
    · rw [pieces_cons_of_ne hc, List.takeWhile_cons_of_pos (by simpa using hc), ← ih]
      rfl

/-- A text is trimmed away iff it is white space. -/
lemma Text.trim_eq_nil_iff {s : List Char} : trim s = [] ↔ ∀ c ∈ s, isBlank c = true := by
  refine ⟨fun h => ?_, trim_eq_nil⟩
  rw [trim, trimRight, List.reverse_eq_nil_iff, List.dropWhile_eq_nil_iff] at h
  -- what is left behind the white space in front would start with no white space
  have hleft : trimLeft s = [] := by
    cases hs : trimLeft s with
    | nil => rfl
    | cons c rest =>
      have hink : isBlank c = false := by
        have hhead := List.head?_dropWhile_not isBlank s
        rw [show s.dropWhile isBlank = c :: rest from hs] at hhead
        simpa using hhead
      have hblank : isBlank c = true := h c (by simp [hs])
      exact absurd hblank (by simp [hink])
  exact List.dropWhile_eq_nil_iff.mp hleft

/-- A line is indented if a space stands in the white space in front of what is written there. -/
def Indented (line : List Char) : Prop := ' ' ∈ line.takeWhile isBlank

instance (line : List Char) : Decidable (Indented line) :=
  inferInstanceAs (Decidable (' ' ∈ line.takeWhile isBlank))

/-- All in front of the first space of a line is white space iff the line is white space or
indented. -/
lemma blank_takeWhile_iff {line : List Char} :
    (∀ c ∈ line.takeWhile (· ≠ ' '), isBlank c = true) ↔
      (∀ c ∈ line, isBlank c = true) ∨ Indented line := by
  unfold Indented
  induction line with
  | nil => simp
  | cons c line ih =>
    by_cases hspace : c = ' '
    · subst hspace
      have hblank : isBlank ' ' = true := by decide
      simp [hblank]
    · rw [List.takeWhile_cons_of_pos (by simpa using hspace), List.forall_mem_cons,
        List.forall_mem_cons, ih]
      cases hblank : isBlank c with
      | true => simp [hblank, Ne.symm hspace]
      | false => simp [hblank]

/-- **A line has no code** iff it is white space or indented. -/
theorem codeOf_eq_nil_iff (line : List Char) :
    codeOf line = [] ↔ (∀ c ∈ line, isBlank c = true) ∨ Indented line := by
  rw [codeOf, Block.headD_tokens, headD_pieces, upper_eq_nil_iff, trim_eq_nil_iff,
    blank_takeWhile_iff]

/-! ## Lines that are counted -/

/-- The counters `t'` have counted a line by its code since `t`: as a move, as an arc or as
unsupported. Lines that set the frame of reference have no counter. -/
inductive Tally.Counts (t t' : Tally) (code : List Char) : Prop where
  | move (hcode : code ∈ moveCodes) (hcount : t'.motion = t.motion + 1)
  | arc (hcode : code ∈ arcCodes) (hcount : t'.arcs = t.arcs + 1)
  | frame (hcode : code ∈ frameCodes)
  | unsupported (hcode : code ∉ supportedCodes) (hcount : t'.ignored = Entries.bump t.ignored code)

/-- A step counts its line. -/
lemma Tally.counts_take (t : Tally) (st : Step) : t.Counts (t.take st) st.block.code := by
  by_cases hsupported : st.block.code ∈ supportedCodes
  · have hkinds := hsupported
    rw [supportedCodes, List.mem_append, List.mem_append] at hkinds
    rcases hkinds with (hmove | harc) | hframe
    · refine .move hmove ?_
      rw [motion_take, Step.isMove_eq, if_pos (decide_eq_true hmove)]
    · refine .arc harc ?_
      rw [arcs_take, if_pos (decide_eq_true harc)]
    · exact .frame hframe
  · refine .unsupported hsupported ?_
    rw [ignored_take, if_neg hsupported]

/-- A line of a document is heeded: it has a code, and the run counts it by that code. -/
structure Heeded (s : List Char) (n : Nat) (text : List Char) : Prop where
  code : codeOf text ≠ []
  counts : (Run.upTo s n).tally.Counts (Run.upTo s (n + 1)).tally (codeOf text)

section Document

variable {s : List Char} {n : Nat} {text : List Char} (htext : (sourceLines s)[n]? = some text)

include htext

/-- **A line with a code is heeded.** -/
theorem heeded_of_codeOf_ne_nil (hcode : codeOf text ≠ []) : Heeded s n text := by
  have hblank : (Block.read text).isBlank = false := by
    rw [isBlank_read]
    exact decide_eq_false hcode
  obtain ⟨-, -, htally⟩ := Run.readLine_step (Run.upTo s n) n hblank
  refine ⟨hcode, ?_⟩
  rw [← code_read, Run.upTo_succ htext, htally]
  exact Tally.counts_take _ _

/-- A line without a code is noted in the journal at most. -/
lemma upTo_succ_of_codeOf_eq_nil (hcode : codeOf text = []) :
    Run.upTo s (n + 1) = (Run.upTo s n).complain (Block.read text) := by
  rw [Run.upTo_succ htext, Run.readLine_of_isBlank]
  rw [isBlank_read]
  exact decide_eq_true hcode

end Document

/-- **Which lines are heeded.** Take a line of a document in front of its first semicolon. It is
executed, and counted as a move, as an arc or as unsupported unless it sets the frame of reference,
iff something but white space is written there and no space stands in front of that. Any other line
leaves machine, layers and counters alone.

**Proof sketch.** The code of a line is empty iff all in front of its first space is white space
(`codeOf_eq_nil_iff`), and a line with a code is a step, which counts it
(`heeded_of_codeOf_ne_nil`). -/
theorem heeded_iff {s : List Char} {n : Nat} {line : List Char}
    (hline : (pieces '\n' s)[n]? = some line) :
    (Heeded s n (beforeComment line) ↔
        (∃ c ∈ beforeComment line, isBlank c = false) ∧ ¬ Indented (beforeComment line)) ∧
      (¬ Heeded s n (beforeComment line) →
        (Run.upTo s (n + 1)).machine = (Run.upTo s n).machine ∧
          (Run.upTo s (n + 1)).recorder = (Run.upTo s n).recorder ∧
          (Run.upTo s (n + 1)).tally = (Run.upTo s n).tally) := by
  have htext : (sourceLines s)[n]? = some (beforeComment line) := by
    rw [sourceLines_eq_map_beforeComment, List.getElem?_map, hline, Option.map_some]
  have hcode : Heeded s n (beforeComment line) ↔ codeOf (beforeComment line) ≠ [] :=
    ⟨fun h => h.code, heeded_of_codeOf_ne_nil htext⟩
  constructor
  · rw [hcode, ne_eq, codeOf_eq_nil_iff, not_or]
    simp
  · intro h
    have hnil : codeOf (beforeComment line) = [] := by simpa using hcode.not.mp h
    rw [upTo_succ_of_codeOf_eq_nil htext hnil]
    exact ⟨rfl, rfl, rfl⟩

/-- A document with a tab in front of a move, and a space in front of another one. -/
def indentedStrokes : List Char := "\tG1 X1 E1\n G1 X2 E2".toList

/-- A tab in front of a move does not keep it from being executed. -/
theorem heeded_iff_tab :
    (pieces '\n' indentedStrokes)[0]? = some "\tG1 X1 E1".toList ∧
      Heeded indentedStrokes 0 (beforeComment "\tG1 X1 E1".toList) := by
  have hline : (pieces '\n' indentedStrokes)[0]? = some "\tG1 X1 E1".toList := by decide +kernel
  have hink : ∃ c ∈ beforeComment "\tG1 X1 E1".toList, isBlank c = false :=
    ⟨'G', by decide +kernel, by decide⟩
  exact ⟨hline, (heeded_iff hline).1.mpr ⟨hink, by decide +kernel⟩⟩

/-- A space in front of a move does: something is written on its line, but the line is not counted,
and nothing is drawn. -/
theorem not_heeded_indented :
    (pieces '\n' indentedStrokes)[1]? = some " G1 X2 E2".toList ∧
      (∃ c ∈ beforeComment " G1 X2 E2".toList, isBlank c = false) ∧
      ¬ Heeded indentedStrokes 1 (beforeComment " G1 X2 E2".toList) ∧
      (resultOf indentedStrokes).tally = { lines := 2, motion := 1, extruding := 1 } := by
  refine ⟨by decide +kernel, ⟨'G', by decide +kernel, by decide +kernel⟩, fun h => ?_,
    by decide +kernel⟩
  exact h.code (by decide +kernel)

end Toolpath
