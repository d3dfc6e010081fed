import Mathlib.Algebra.GroupWithZero.Nat
import Mathlib.Data.List.Nodup
import Mathlib.Tactic.Lemma
import Toolpath.Proofs.Lines
import Toolpath.Proofs.Numeral
import Toolpath.Proofs.Steps
/-!
# Every line is accounted for

What the counters of a run say about its document. Every line has a code, which may be empty, and
the codes fall into five kinds: none, straight moves, arcs, codes that set the frame of reference,
and those that are not supported. Each counter is the number of lines of a kind, so that together
they give the number of all lines.

## Main definitions

* `Toolpath.codeOf`, `Toolpath.codesOf` — the code of a line, and those of a document.
* `Toolpath.unsupportedOf` — the codes of a document that are not supported.
* `Toolpath.numberless` — how many pieces of a line have no number behind their first character.
* `Toolpath.Tally.Accounts` — counters that account for every line of a document.

## Main results

* `Toolpath.Entries.foldl_bump` — counting entry by entry counts the occurrences of each.
* `Toolpath.codes_stepsOf` — the steps of a document are its lines with a code.
* `Toolpath.length_eq_kinds` — every code is of one of five kinds.
* `Toolpath.accounts_interpret` — the counters of a run account for every line.
-/

namespace Toolpath

open Text

/-! ## Counting occurrences -/

namespace Entries

variable {κ : Type}

/-- A list without its repetitions repeats nothing. -/
lemma nodup_eraseDups [BEq κ] [LawfulBEq κ] (keys : List κ) : keys.eraseDups.Nodup := by
  induction keys using List.reverseRecOn with
  | nil => exact List.nodup_nil
  | append_singleton keys key ih =>
    rw [List.eraseDups_append, List.cons_removeAll, List.nil_removeAll]
    split
    · rename_i hnew
      have hmem : key ∉ keys.eraseDups := by
        simpa [List.mem_eraseDups] using hnew
      have hsingle : [key].eraseDups = [key] := by simp [List.eraseDups_cons]
      rw [hsingle]
      exact List.nodup_append.mpr ⟨ih, List.nodup_singleton key, fun k hk k' hk' h =>
        hmem (List.mem_singleton.mp hk' ▸ h ▸ hk)⟩
    · rw [List.eraseDups_nil, List.append_nil]
      exact ih

variable [DecidableEq κ]

/-- Raising a counter raises it where the key stands, and adds it behind the others if it is new. -/
lemma bump_map {keys : List κ} (hkeys : keys.Nodup) (count : κ → Nat) (key : κ) :
    bump (keys.map fun k => (k, count k)) key =
      if key ∈ keys then keys.map fun k => (k, if k = key then count k + 1 else count k)
      else (keys.map fun k => (k, count k)) ++ [(key, 1)] := by
  induction keys with
  | nil => rfl
  | cons k keys ih =>
    obtain ⟨hk, hkeys⟩ := List.nodup_cons.mp hkeys
    have hrest := ih hkeys
    rw [List.map_cons, bump, alter]
    by_cases heq : k = key
    · subst heq
      -- the counter is the first one, and no other has its key
      have hsame : (keys.map fun k' => (k', if k' = k then count k' + 1 else count k')) =
          keys.map fun k' => (k', count k') := by
        refine List.map_congr_left fun k' hk' => ?_
        have hne : k' ≠ k := fun h => hk (h ▸ hk')
        rw [if_neg hne]
      rw [if_pos rfl, if_pos List.mem_cons_self, List.map_cons, if_pos rfl, hsame]
    · have hmem : key ∈ k :: keys ↔ key ∈ keys := by
        rw [List.mem_cons]
        exact or_iff_right fun h => heq h.symm
      rw [if_neg heq, show alter key (· + 1) 1 (keys.map fun k => (k, count k)) =
        bump (keys.map fun k => (k, count k)) key from rfl, hrest]
      simp only [hmem]
      split
      · rw [List.map_cons, if_neg heq]
      · rfl

/-- **Counting entry by entry** gives each key once, in order of first appearance, with its number
of occurrences. -/
theorem foldl_bump [BEq κ] [LawfulBEq κ] (keys : List κ) :
    keys.foldl bump [] = keys.eraseDups.map fun key => (key, keys.count key) := by
  induction keys using List.reverseRecOn with
  | nil => rfl
  | append_singleton keys key ih =>
    have hcount : ∀ k, (keys ++ [key]).count k =
        if k = key then keys.count k + 1 else keys.count k := by
      intro k
      rw [List.count_append, List.count_singleton]
      by_cases h : k = key
      · simp [h]
      · simp [h, Ne.symm h]
    rw [List.foldl_append, List.foldl_cons, List.foldl_nil, ih, bump_map (nodup_eraseDups keys),
      List.eraseDups_append, List.cons_removeAll, List.nil_removeAll]
    simp only [List.mem_eraseDups, hcount]
    by_cases hmem : key ∈ keys
    · simp [hmem]
    · have hzero : keys.count key = 0 := List.count_eq_zero.mpr hmem
      have hold : ∀ k ∈ keys.eraseDups, k ≠ key := by
        intro k hk h
        exact hmem (h ▸ List.mem_eraseDups.mp hk)
      have hsame : (keys.eraseDups.map fun k =>
          (k, if k = key then keys.count k + 1 else keys.count k)) =
            keys.eraseDups.map fun k => (k, keys.count k) :=
        List.map_congr_left fun k hk => by rw [if_neg (hold k hk)]
      simp [hmem, hzero, hsame, List.eraseDups_cons]

/-- Raising a counter raises the sum of all counters. -/
lemma sum_bump (counters : List (κ × Nat)) (key : κ) :
    ((bump counters key).map Prod.snd).sum = (counters.map Prod.snd).sum + 1 := by
  induction counters with
  | nil => rfl
  | cons entry counters ih =>
    obtain ⟨k, n⟩ := entry
    by_cases h : k = key
    · simp only [bump, alter, h, if_true, List.map_cons, List.sum_cons]
      omega
    · have hrest : bump ((k, n) :: counters) key = (k, n) :: bump counters key := if_neg h
      rw [hrest, List.map_cons, List.map_cons, List.sum_cons, List.sum_cons, ih, Nat.add_assoc]

/-- Counting entry by entry counts every entry once. -/
lemma sum_foldl_bump (counters : List (κ × Nat)) (keys : List κ) :
    ((keys.foldl bump counters).map Prod.snd).sum = (counters.map Prod.snd).sum + keys.length := by
  induction keys generalizing counters with
  | nil => rfl
  | cons key keys ih =>
    rw [List.foldl_cons, ih, sum_bump, List.length_cons]
    omega

end Entries

/-! ## Lines and their codes -/

/-- The codes of arcs. -/
def arcCodes : List (List Char) := [['G', '2'], ['G', '3']]

/-- The codes that set the frame of reference: the positioning, and the present position. -/
def frameCodes : List (List Char) := [['G', '9', '0'], ['G', '9', '1'], ['G', '9', '2']]

/-- The codes that are supported. -/
def supportedCodes : List (List Char) := moveCodes ++ arcCodes ++ frameCodes

/-- The code of a line: its first piece in upper case. -/
def codeOf (line : List Char) : List Char := upper ((Block.tokens line).headD [])

/-- The codes of the lines of a document. -/
def codesOf (s : List Char) : List (List Char) := (sourceLines s).map codeOf

/-- The codes of a document that are not supported, line by line. -/
def unsupportedOf (s : List Char) : List (List Char) :=
  (codesOf s).filter fun code => code ≠ [] ∧ code ∉ supportedCodes

/-- The number of pieces of a line, behind the first one, that are not empty and have no number
behind their first character. -/
def numberless (line : List Char) : Nat :=
  (Block.tokens line).tail.countP fun piece => piece ≠ [] ∧ ¬ Decimal.StartsNumeral piece.tail

/-- The code of a line is the one that is read. -/
lemma code_read (line : List Char) : (Block.read line).code = codeOf line := by
  unfold Block.read codeOf
  cases Block.tokens line <;> rfl

/-- The words of a line are spelled by its pieces behind the first one. -/
lemma Block.words_read (line : List Char) :
    (Block.read line).words = (tokens line).tail.filterMap Word.ofPiece? := by
  unfold Block.read
  cases tokens line <;> rfl

/-- A line is passed over iff its code is empty. -/
lemma isBlank_read (line : List Char) : (Block.read line).isBlank = decide (codeOf line = []) := by
  rw [Block.isBlank, code_read]
  cases codeOf line <;> rfl

/-- The malformed words of a line are its pieces without a number. -/
lemma length_malformed_read (line : List Char) :
    (Block.read line).malformed.length = numberless line := by
  have hpiece : ∀ piece : List Char,
      ((Word.ofPiece? piece).map Word.isMalformed).getD false =
        decide (piece ≠ [] ∧ ¬ Decimal.StartsNumeral piece.tail) := by
    intro piece
    cases piece with
    | nil => rfl
    | cons c rest =>
      have hiff := Decimal.isSome_leading?_iff rest
      cases h : Decimal.leading? rest with
      | none =>
        rw [h] at hiff
        have hnot : ¬ Decimal.StartsNumeral rest := fun hs => absurd (hiff.mpr hs) (by simp)
        simp [Word.ofPiece?, Word.isMalformed, h, hnot]
      | some x =>
        have hstart : Decimal.StartsNumeral rest := hiff.mp (by rw [h]; rfl)
        simp [Word.ofPiece?, Word.isMalformed, h, hstart]
  rw [Block.malformed, Block.words_read, ← List.countP_eq_length_filter, List.countP_filterMap]
  exact List.countP_congr fun piece _ => by rw [hpiece]

/-! ## The steps of a document are its lines with a code -/

/-- The blocks of steps are the lines with a code. -/
lemma map_block_stepsFrom (m : Machine) (first : Nat) (lines : List (List Char)) :
    (stepsFrom m first lines).map Step.block =
      (lines.filter fun line => codeOf line ≠ []).map Block.read := by
  induction lines generalizing m first with
  | nil => rfl
  | cons text rest ih =>
    rw [stepsFrom, isBlank_read]
    by_cases hcode : codeOf text = []
    · rw [if_pos (by simpa using hcode), ih, List.filter_cons_of_neg (by simpa using hcode)]
    · rw [if_neg (by simpa using hcode), List.map_cons, ih,
        List.filter_cons_of_pos (by simpa using hcode), List.map_cons]

/-- **The steps of a document** have the codes of its lines, but for the empty ones. -/
theorem codes_stepsOf (s : List Char) :
    (stepsOf s).map (·.block.code) = (codesOf s).filter fun code => code ≠ [] := by
  have hblocks := congrArg (List.map Block.code) (map_block_stepsFrom {} 0 (sourceLines s))
  rw [List.map_map, List.map_map] at hblocks
  have hcode : Block.code ∘ Block.read = codeOf := funext code_read
  rw [hcode] at hblocks
  rw [codesOf, List.filter_map]
  exact hblocks

/-- The steps of a kind of codes are as many as the lines of that kind. -/
lemma length_filter_stepsOf (kind : List Char → Bool) (hkind : kind [] = false) (s : List Char) :
    ((stepsOf s).filter fun st => kind st.block.code).length = (codesOf s).countP kind := by
  have hcodes := congrArg (List.countP kind) (codes_stepsOf s)
  rw [List.countP_map, List.countP_filter] at hcodes
  rw [← List.countP_eq_length_filter]
  refine hcodes.trans (List.countP_congr fun code _ => ?_)
  cases code with
  | nil => simp [hkind]
  | cons c code => simp

/-! ### The kinds of steps by their codes -/

/-- The command of a block is an arc iff its code is that of one. -/
lemma Command.ofBlock_eq_arc_iff {b : Block} :
    (∃ clockwise, Command.ofBlock b = .arc clockwise) ↔ b.code ∈ arcCodes := by
  unfold Command.ofBlock
  split <;> simp_all [arcCodes]

/-- The command of a block is not supported iff its code is not. -/
lemma Command.ofBlock_eq_unsupported_iff {b : Block} {code : List Char} :
    Command.ofBlock b = .unsupported code ↔ b.code ∉ supportedCodes ∧ code = b.code := by
  unfold Command.ofBlock
  split <;> simp_all [supportedCodes, moveCodes, arcCodes, frameCodes, eq_comm]

/-- A step is a straight move iff its code is that of one. -/
lemma Step.isMove_eq (st : Step) : st.isMove = decide (st.block.code ∈ moveCodes) := by
  unfold isMove
  split
  · rename_i move hmove
    exact (decide_eq_true (Command.ofBlock_eq_linear_iff.mp hmove).1).symm
  · rename_i hmove
    refine (decide_eq_false fun hcode => ?_).symm
    exact hmove _ (Command.ofBlock_eq_linear_iff.mpr ⟨hcode, rfl⟩)

/-! ## Counters -/

namespace Tally

/-- A step counts as an arc iff its code is that of one. -/
lemma arcs_take (t : Tally) (st : Step) :
    (t.take st).arcs = t.arcs + if decide (st.block.code ∈ arcCodes) then 1 else 0 := by
  have harc : (∃ clockwise, st.command = .arc clockwise) ↔ st.block.code ∈ arcCodes :=
    Command.ofBlock_eq_arc_iff
  unfold take countStep
  cases hcommand : st.command with
  | arc clockwise =>
    have hcode : st.block.code ∈ arcCodes := harc.mp ⟨clockwise, hcommand⟩
    simp [Step.isMove, hcommand, count, hcode]
  | linear | positioning | origin | unsupported =>
    have hcode : st.block.code ∉ arcCodes := by
      intro hcode
      obtain ⟨clockwise, h⟩ := harc.mpr hcode
      exact absurd (hcommand.symm.trans h) (by simp)
    simp [Step.isMove, hcommand, count, countMove, hcode]

/-- A step whose code is not supported raises the counter of its code. -/
lemma ignored_take (t : Tally) (st : Step) :
    (t.take st).ignored =
      if st.block.code ∈ supportedCodes then t.ignored
      else Entries.bump t.ignored st.block.code := by
  have hcode : ∀ code, st.command = .unsupported code ↔
      st.block.code ∉ supportedCodes ∧ code = st.block.code :=
    fun code => Command.ofBlock_eq_unsupported_iff
  unfold take countStep
  cases hcommand : st.command with
  | unsupported code =>
    obtain ⟨hnot, rfl⟩ := (hcode code).mp hcommand
    simp [Step.isMove, hcommand, count, hnot]
  | linear | positioning | origin | arc =>
    have hmem : st.block.code ∈ supportedCodes := by
      by_contra hnot
      exact absurd (hcommand.symm.trans ((hcode _).mpr ⟨hnot, rfl⟩)) (by simp)
    simp [Step.isMove, hcommand, count, countMove, hmem]

/-- A step counts its malformed words. -/
lemma malformed_take (t : Tally) (st : Step) :
    (t.take st).malformed = t.malformed + st.block.malformed.length := by
  unfold take countStep
  cases st.isMove with
  | true => rfl
  | false => cases st.command <;> rfl

/-- The arcs that are counted are the steps that are arcs. -/
lemma arcs_foldl_take (t : Tally) (ts : List Step) :
    (ts.foldl take t).arcs =
      t.arcs + (ts.filter fun st => decide (st.block.code ∈ arcCodes)).length :=
  count_foldl_take arcs_take t ts

/-- **The unsupported codes** of steps are counted code by code. -/
theorem ignored_foldl_take (t : Tally) (ts : List Step) :
    (ts.foldl take t).ignored =
      ((ts.map (·.block.code)).filter fun code => code ∉ supportedCodes).foldl Entries.bump
        t.ignored := by
  induction ts generalizing t with
  | nil => rfl
  | cons st ts ih =>
    rw [List.foldl_cons, ih, ignored_take, List.map_cons]
    by_cases hcode : st.block.code ∈ supportedCodes
    · rw [if_pos hcode, List.filter_cons_of_neg (by simpa using hcode)]
    · rw [if_neg hcode, List.filter_cons_of_pos (by simpa using hcode), List.foldl_cons]

/-- **The malformed words** of steps are counted with repetition. -/
theorem malformed_foldl_take (t : Tally) (ts : List Step) :
    (ts.foldl take t).malformed = t.malformed + (ts.map (·.block.malformed.length)).sum := by
  induction ts generalizing t with
  | nil => rfl
  | cons st ts ih =>
    rw [List.foldl_cons, ih, malformed_take, List.map_cons, List.sum_cons, Nat.add_assoc]

/-- The moves that are counted either draw or travel. -/
lemma motion_eq_foldl_take (t : Tally) (ts : List Step) (h : t.motion = t.extruding + t.travel) :
    (ts.foldl take t).motion = (ts.foldl take t).extruding + (ts.foldl take t).travel := by
  induction ts generalizing t with
  | nil => exact h
  | cons st ts ih =>
    refine ih (t.take st) ?_
    rw [motion_take, extruding_take, travel_take, h, Step.travels]
    cases hdraws : st.draws with
    | true =>
      simp only [Step.isMove_of_draws hdraws, if_true, Bool.not_true, Bool.and_false,
        Bool.false_eq_true, if_false]
      omega
    | false =>
      simp only [Bool.not_false, Bool.and_true, Bool.false_eq_true, if_false]
      omega

end Tally

/-! ## Every line is of one kind -/

/-- A text has one piece more than separators. -/
lemma Text.length_pieces (sep : Char) (s : List Char) :
    (pieces sep s).length = s.count sep + 1 := by
  induction s with
  | nil => rfl
  | cons c s ih =>
    by_cases hc : c = sep
    · rw [pieces, if_pos hc, List.length_cons, ih, hc, List.count_cons_self]
    · rw [pieces_cons_of_ne hc, List.length_cons, List.length_tail, ih, List.count_cons_of_ne hc,
        Nat.add_sub_cancel]

/-- A document has one line more than line feeds. -/
lemma length_sourceLines (s : List Char) : (sourceLines s).length = s.count '\n' + 1 := by
  rw [sourceLines_eq_map, List.length_map, length_pieces]

/-- **Every code is of one of five kinds**: empty, that of a straight move, that of an arc, one that
sets the frame of reference, or not supported. -/
theorem length_eq_kinds (codes : List (List Char)) :
    codes.length = codes.count [] + codes.countP (· ∈ moveCodes) + codes.countP (· ∈ arcCodes) +
      (codes.filter fun code => code ≠ [] ∧ code ∉ supportedCodes).length +
      codes.countP (· ∈ frameCodes) := by
  rw [← List.countP_eq_length_filter]
  induction codes with
  | nil => rfl
  | cons code codes ih =>
    have hkind : (if code = [] then 1 else 0) + (if code ∈ moveCodes then 1 else 0) +
        (if code ∈ arcCodes then 1 else 0) + (if code ≠ [] ∧ code ∉ supportedCodes then 1 else 0) +
        (if code ∈ frameCodes then 1 else 0) = 1 := by
      by_cases hsupported : code ∈ supportedCodes
      · revert code
        decide
      · have hnot := hsupported
        simp only [supportedCodes, List.mem_append, not_or] at hnot
        obtain ⟨⟨hmove, harc⟩, hframe⟩ := hnot
        by_cases hnil : code = []
        · subst hnil
          decide
        · simp [hnil, hmove, harc, hframe, hsupported]
    simp only [List.length_cons, List.count_cons, List.countP_cons, beq_iff_eq, decide_eq_true_eq]
    omega

/-! ## Documents -/

/-- Counters that account for every line of a document. -/
structure Tally.Accounts (t : Tally) (s : List Char) : Prop where
  /-- There is one line more than line feeds. -/
  lines : t.lines = s.count '\n' + 1
  /-- Every move draws or travels. -/
  motion : t.motion = t.extruding + t.travel
  moves : t.motion = (codesOf s).countP (· ∈ moveCodes)
  arcs : t.arcs = (codesOf s).countP (· ∈ arcCodes)
  /-- Every line has no code, or is counted as a move, as an arc or as not supported, or sets the
  frame of reference. -/
  total : t.lines = (codesOf s).count [] + t.motion + t.arcs + t.ignoredTotal +
    (codesOf s).countP (· ∈ frameCodes)
  /-- Unsupported codes stand in order of first appearance, each with the number of its lines. -/
  ignored : t.ignored =
    (unsupportedOf s).eraseDups.map fun code => (code, (codesOf s).count code)
  /-- No code stands there twice. -/
  nodup : (t.ignored.map Prod.fst).Nodup
  /-- The empty code and supported ones do not stand there. -/
  keys : ∀ code ∈ t.ignored.map Prod.fst, code ≠ [] ∧ code ∉ supportedCodes
  /-- The malformed words are the pieces without a number in lines with a code. -/
  malformed : t.malformed =
    (((sourceLines s).filter fun line => codeOf line ≠ []).map numberless).sum

/-- The codes of a run that are not supported, with their numbers of lines. -/
lemma ignored_resultOf (s : List Char) :
    (resultOf s).tally.ignored = (unsupportedOf s).foldl Entries.bump [] := by
  have hcodes : ((stepsOf s).map (·.block.code)).filter (fun code => code ∉ supportedCodes) =
      unsupportedOf s := by
    rw [codes_stepsOf, List.filter_filter, unsupportedOf]
    exact List.filter_congr fun code _ => by simp [Bool.and_comm]
  rw [show (resultOf s).tally = _ from tally_ofText s, Tally.ignored_foldl_take, hcodes]

/-- The malformed words of a run are the pieces without a number in its lines with a code. -/
lemma malformed_resultOf (s : List Char) :
    (resultOf s).tally.malformed =
      (((sourceLines s).filter fun line => codeOf line ≠ []).map numberless).sum := by
  have hblocks := congrArg (List.map fun b : Block => b.malformed.length)
    (map_block_stepsFrom {} 0 (sourceLines s))
  rw [List.map_map, List.map_map] at hblocks
  have hlength : (fun b : Block => b.malformed.length) ∘ Block.read = numberless :=
    funext length_malformed_read
  rw [hlength] at hblocks
  rw [show (resultOf s).tally = _ from tally_ofText s, Tally.malformed_foldl_take, Nat.zero_add,
    ← hblocks]
  rfl

/-- The counters of the result of a document account for every line. -/
lemma accounts_resultOf (s : List Char) : (resultOf s).tally.Accounts s := by
  have htally : (resultOf s).tally = _ := tally_ofText s
  have hlines : (resultOf s).tally.lines = s.count '\n' + 1 := by
    rw [lines_resultOf, length_sourceLines]
  have hmoves : (resultOf s).tally.motion = (codesOf s).countP (· ∈ moveCodes) := by
    rw [htally, Tally.motion_foldl_take, funext Step.isMove_eq, Nat.zero_add]
    exact length_filter_stepsOf (fun code => code ∈ moveCodes) (by decide) s
  have harcs : (resultOf s).tally.arcs = (codesOf s).countP (· ∈ arcCodes) := by
    rw [htally, Tally.arcs_foldl_take, Nat.zero_add]
    exact length_filter_stepsOf (fun code => code ∈ arcCodes) (by decide) s
  have hignored := ignored_resultOf s
  have hcount : ∀ code ∈ unsupportedOf s, (unsupportedOf s).count code = (codesOf s).count code :=
    fun code hcode => List.count_filter (List.mem_filter.mp hcode).2
  have htotal : (resultOf s).tally.ignoredTotal = (unsupportedOf s).length := by
    have hsum : (resultOf s).tally.ignoredTotal =
        ((resultOf s).tally.ignored.map Prod.snd).sum := by
      rw [Tally.ignoredTotal, List.sum_eq_foldr, List.foldr_map]
    rw [hsum, hignored, Entries.sum_foldl_bump]
    simp
  have hentries : (resultOf s).tally.ignored =
      (unsupportedOf s).eraseDups.map fun code => (code, (codesOf s).count code) := by
    rw [hignored, Entries.foldl_bump]
    exact List.map_congr_left fun code hcode => by rw [hcount code (List.mem_eraseDups.mp hcode)]
  have hkeys : (resultOf s).tally.ignored.map Prod.fst = (unsupportedOf s).eraseDups := by
    rw [hentries, List.map_map]
    exact List.map_id _
  refine ⟨hlines, ?_, hmoves, harcs, ?_, hentries, ?_, ?_, malformed_resultOf s⟩
  · rw [htally]
    exact Tally.motion_eq_foldl_take _ _ rfl
  · have hkinds := length_eq_kinds (codesOf s)
    rw [htotal, hmoves, harcs, lines_resultOf, unsupportedOf, ← hkinds, codesOf, List.length_map]
  · rw [hkeys]
    exact Entries.nodup_eraseDups _
  · intro code hcode
    rw [hkeys, List.mem_eraseDups] at hcode
    simpa using (List.mem_filter.mp hcode).2

/-- **Every line is accounted for.** Whether a run is measured or not, its counters account for
every line of its document: each line is counted as what its code says, once, the unsupported codes
are counted code by code, and the malformed words piece by piece.

**Proof sketch.** The counters fold the steps of the run (`tally_ofText`), the steps have the codes
of the lines (`codes_stepsOf`), every code is of one kind (`length_eq_kinds`), and counting code by
code counts the occurrences of each (`Entries.foldl_bump`). -/
theorem accounts_interpret (measured : Bool) (clock : Clock) (s : List Char) :
    (interpret measured clock s).result.tally.Accounts s := by
  have h := accounts_resultOf s
  cases measured with
  | false => exact h
  | true =>
    -- the time is no counter
    exact ⟨h.lines, h.motion, h.moves, h.arcs, h.total, h.ignored, h.nodup, h.keys, h.malformed⟩

end Toolpath
