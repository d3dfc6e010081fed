import Mathlib.Data.List.TakeWhile
import Mathlib.Data.Nat.Count
import Toolpath.Proofs.Lines
import Toolpath.Proofs.Steps
/-!
# Striking inert lines

Blank lines, arcs and unsupported codes leave the machine and the layers alone. They may be struck
from a document: the layers stay as they are but for the lines at which they start, which move up
by the struck lines in front of them.

## Main definitions

* `Toolpath.Inert` — lines without a code, arcs, and lines with an unsupported code.
* `Toolpath.strike` — a document without some of its lines.
* `Toolpath.Recorder.renumber` — layers whose lines are counted otherwise.

## Main results

* `Toolpath.stepsFrom_unstruck` — the steps of the lines that are kept, counted anew.
* `Toolpath.Recorder.renumber_foldl_take` — steps counted otherwise leave layers counted otherwise.
* `Toolpath.resultOf_strike` — the result of a document without some of its inert lines.
-/

namespace Toolpath

open Text

/-! ## Inert lines -/

/-- A line is inert if without its comment it is blank or has no code, if it is an arc, or if its
code is not supported. -/
inductive Inert (line : List Char) : Prop where
  | blank (h : ∀ c ∈ stripComments line, isBlank c = true)
  | uncoded (h : (Block.read (stripComments line)).isBlank = true)
  | arc {clockwise : Bool} (h : Command.ofBlock (Block.read (stripComments line)) = .arc clockwise)
  | unsupported {code : List Char}
      (h : Command.ofBlock (Block.read (stripComments line)) = .unsupported code)

/-- White space alone is trimmed away. -/
lemma Text.trim_eq_nil {s : List Char} (h : ∀ c ∈ s, isBlank c = true) : trim s = [] := by
  have hleft : trimLeft s = [] := List.dropWhile_eq_nil_iff.mpr h
  rw [trim, hleft]
  rfl

/-- The first piece of a text stands at its start. -/
lemma Text.exists_pieces_eq_cons (sep : Char) (s : List Char) :
    ∃ p ps, pieces sep s = p :: ps ∧ p <+: s := by
  induction s with
  | nil => exact ⟨[], [], rfl, List.prefix_rfl⟩
  | cons c s ih =>
    obtain ⟨p, ps, hs, hp⟩ := ih
    rw [pieces, hs]
    split
    · exact ⟨[], p :: ps, rfl, List.nil_prefix⟩
    · exact ⟨c :: p, ps, rfl, (List.prefix_cons_inj c).mpr hp⟩

/-- A line of white space has no code. -/
lemma Block.isBlank_read_of_blank {line : List Char} (h : ∀ c ∈ line, Text.isBlank c = true) :
    (Block.read line).isBlank = true := by
  obtain ⟨p, ps, hpieces, hp⟩ := exists_pieces_eq_cons ' ' line
  have htrim : trim p = [] := trim_eq_nil fun c hc => h c (hp.subset hc)
  simp [Block.read, Block.tokens, hpieces, htrim, Block.isBlank, upper]

namespace Step

/-- A step is idle if it is an arc or has an unsupported code. -/
def Idle (st : Step) : Prop :=
  (∃ clockwise, st.command = .arc clockwise) ∨ ∃ code, st.command = .unsupported code

/-- What is idle is no move. -/
lemma Idle.isMove {st : Step} (h : st.Idle) : st.isMove = false := by
  rcases h with ⟨clockwise, h⟩ | ⟨code, h⟩ <;> simp [Step.isMove, h]

/-- What is idle leaves the machine alone. -/
lemma Idle.machine_after {st : Step} (h : st.Idle) (m : Machine) : m.after st.command = m := by
  rcases h with ⟨clockwise, h⟩ | ⟨code, h⟩ <;> rw [h] <;> rfl

end Step

/-- An inert line with a code is an idle step. -/
lemma Inert.idle {line : List Char} (h : Inert line)
    (hcode : (Block.read (stripComments line)).isBlank = false) (n : Nat) (m : Machine) :
    Step.Idle ⟨n, Block.read (stripComments line), m⟩ := by
  cases h with
  | blank h => exact absurd (Block.isBlank_read_of_blank h) (by simp [hcode])
  | uncoded h => exact absurd h (by simp [hcode])
  | arc h => exact .inl ⟨_, h⟩
  | unsupported h => exact .inr ⟨_, h⟩

/-! ## Striking lines -/

section Strike

variable (struck : Nat → Bool)

/-- The entries of a list that are not struck, where places are counted from `first` on. -/
def unstruck {α : Type} (first : Nat) : List α → List α
  | [] => []
  | x :: xs => if struck first then unstruck (first + 1) xs else x :: unstruck (first + 1) xs

/-- The document without the struck lines. -/
def strike (s : List Char) : List Char := joined ['\n'] (unstruck struck 0 (pieces '\n' s))

/-- The number of struck lines in front of a line. -/
def struckBefore (n : Nat) : Nat := Nat.count (struck · = true) n

/-- What is not struck is an entry of the list. -/
lemma mem_of_mem_unstruck {α : Type} {first : Nat} {x : α} {xs : List α}
    (h : x ∈ unstruck struck first xs) : x ∈ xs := by
  induction xs generalizing first with
  | nil => exact h
  | cons y ys ih =>
    rw [unstruck] at h
    split at h
    · exact List.mem_cons_of_mem y (ih h)
    · rcases List.mem_cons.mp h with rfl | h
      · exact List.mem_cons_self
      · exact List.mem_cons_of_mem y (ih h)

/-- Striking does not look at the entries. -/
lemma map_unstruck {α β : Type} (f : α → β) (first : Nat) (xs : List α) :
    (unstruck struck first xs).map f = unstruck struck first (xs.map f) := by
  induction xs generalizing first with
  | nil => rfl
  | cons x xs ih =>
    rw [List.map_cons, unstruck, unstruck]
    split
    · exact ih (first + 1)
    · rw [List.map_cons, ih]

/-- The lines of a document without its struck lines. If all are struck, one empty line is left. -/
lemma sourceLines_strike (s : List Char) :
    sourceLines (strike struck s) = unstruck struck 0 (sourceLines s) ∨
      sourceLines (strike struck s) = [[]] ∧ unstruck struck 0 (sourceLines s) = [] := by
  rw [sourceLines_eq_map s, ← map_unstruck, strike]
  by_cases hnil : unstruck struck 0 (pieces '\n' s) = []
  · rw [hnil]
    exact .inr ⟨rfl, rfl⟩
  · refine .inl (sourceLines_joined hnil fun line hline => ?_)
    exact not_mem_of_mem_pieces (mem_of_mem_unstruck struck hline)

/-- A line moves up by the struck lines in front of it. -/
def newLine (n : Nat) : Nat := n - struckBefore struck n

/-- Struck lines do not take up a number. -/
lemma newLine_succ_of_struck {n : Nat} (h : struck n = true) :
    newLine struck (n + 1) = newLine struck n := by
  have hle : struckBefore struck n ≤ n := Nat.count_le _
  simp only [newLine, struckBefore, Nat.count_succ, h, if_true] at hle ⊢
  omega

/-- Lines that are kept are counted one by one. -/
lemma newLine_succ_of_not_struck {n : Nat} (h : struck n = false) :
    newLine struck (n + 1) = newLine struck n + 1 := by
  have hle : struckBefore struck n ≤ n := Nat.count_le _
  simp only [newLine, struckBefore, Nat.count_succ, h, Bool.false_eq_true, if_false] at hle ⊢
  omega

end Strike

/-! ## Steps counted otherwise -/

/-- A step with another number. -/
def Step.renumber (f : Nat → Nat) (st : Step) : Step := { st with line := f st.line }

/-- **The steps of the lines that are kept** are those of all lines, without the struck ones and
counted anew. What is struck is idle, so every step finds the machine as before. -/
theorem stepsFrom_unstruck {struck : Nat → Bool} (m : Machine) (first : Nat)
    (lines : List (List Char))
    (hidle : ∀ n text, lines[n]? = some text → struck (first + n) = true →
      (Block.read text).isBlank = false → ∀ m', Step.Idle ⟨first + n, Block.read text, m'⟩) :
    stepsFrom m (newLine struck first) (unstruck struck first lines) =
      ((stepsFrom m first lines).filter fun st => !struck st.line).map
        (Step.renumber (newLine struck)) := by
  induction lines generalizing m first with
  | nil => rfl
  | cons text rest ih =>
    have hrest : ∀ m', stepsFrom m' (newLine struck (first + 1)) (unstruck struck (first + 1) rest) =
        ((stepsFrom m' (first + 1) rest).filter fun st => !struck st.line).map
          (Step.renumber (newLine struck)) := by
      intro m'
      refine ih m' (first + 1) fun n t ht hs hb => ?_
      have hshift : first + 1 + n = first + (n + 1) := by omega
      rw [hshift] at hs ⊢
      exact hidle (n + 1) t ht hs hb
    rw [unstruck, stepsFrom]
    cases hstruck : struck first with
    | true =>
      rw [if_pos rfl, ← newLine_succ_of_struck struck hstruck, hrest]
      split
      · rfl
      · rename_i hblank
        have hstep : Step.Idle ⟨first, Block.read text, m⟩ :=
          hidle 0 text rfl hstruck (by simpa using hblank) m
        have hafter : Step.after ⟨first, Block.read text, m⟩ = m := hstep.machine_after m
        rw [List.filter_cons_of_neg (by simp [hstruck]), hafter]
    | false =>
      rw [if_neg (by simp), stepsFrom, ← newLine_succ_of_not_struck struck hstruck, hrest, hrest]
      split
      · rfl
      · rw [List.filter_cons_of_pos (by simp [hstruck])]
        rfl

/-- Steps that leave the machine alone may be left out. -/
lemma Machine.afterAll_filter {keep : Step → Bool} (m : Machine) {ts : List Step}
    (h : ∀ st ∈ ts, keep st = false → ∀ m' : Machine, m'.after st.command = m') :
    m.afterAll (ts.filter keep) = m.afterAll ts := by
  induction ts generalizing m with
  | nil => rfl
  | cons st ts ih =>
    have hrest : ∀ m' : Machine, m'.afterAll (ts.filter keep) = m'.afterAll ts :=
      fun m' => ih m' fun st' hst' => h st' (List.mem_cons_of_mem st hst')
    cases hkeep : keep st with
    | true =>
      rw [List.filter_cons_of_pos hkeep]
      exact hrest (m.after st.command)
    | false =>
      have hafter : m.afterAll (st :: ts) = (m.after st.command).afterAll ts := rfl
      rw [List.filter_cons_of_neg (by simp [hkeep]), hafter, h st List.mem_cons_self hkeep]
      exact hrest m

/-- The numbers of steps do not matter to the machine. -/
lemma Machine.afterAll_renumber (f : Nat → Nat) (m : Machine) (ts : List Step) :
    m.afterAll (ts.map (Step.renumber f)) = m.afterAll ts := by
  unfold afterAll
  rw [List.foldl_map]
  rfl

/-! ## Layers counted otherwise -/

/-- A layer that starts at another line. -/
def Layer.renumber (g : Int → Int) (l : Layer) : Layer := { l with startLine := g l.startLine }

/-- A layer being drawn that starts at another line. -/
def OpenLayer.renumber (g : Int → Int) (l : OpenLayer) : OpenLayer :=
  { l with startLine := g l.startLine }

namespace Recorder

/-- A recorder whose layers start at other lines. -/
def renumber (g : Int → Int) (r : Recorder) : Recorder where
  finished := r.finished.map (Layer.renumber g)
  current := r.current.map (OpenLayer.renumber g)

/-- The layers of a recorder counted otherwise. -/
lemma layers_renumber (g : Int → Int) (r : Recorder) :
    (r.renumber g).layers = r.layers.map (Layer.renumber g) := by
  cases hc : r.current with
  | none => simp [renumber, layers, hc]
  | some l => simp [renumber, layers, hc, OpenLayer.layer, OpenLayer.renumber, Layer.renumber]

/-- Whether a layer is needed does not depend on lines. -/
lemma needsLayer_renumber (g : Int → Int) (r : Recorder) (z : Float) :
    (r.renumber g).needsLayer z = r.needsLayer z := by
  cases hc : r.current <;> simp [renumber, needsLayer, hc, OpenLayer.renumber]

/-- A layer opened at another line. -/
lemma openLayer_renumber (g : Int → Int) (r : Recorder) (z : Float) (line : Int) :
    (r.renumber g).openLayer z (g line) = (r.openLayer z line).renumber g := by
  cases hc : r.current <;>
    simp [renumber, openLayer, hc, OpenLayer.renumber, OpenLayer.start, OpenLayer.layer,
      Layer.renumber]

/-- What a move draws does not depend on lines. -/
lemma record_renumber (g : Int → Int) (r : Recorder) (before after : Machine) :
    (r.renumber g).record before after = (r.record before after).renumber g := by
  have hrecord : ∀ l : OpenLayer,
      (l.renumber g).record before after = (l.record before after).renumber g := by
    intro l
    unfold OpenLayer.record
    split
    · rfl
    · unfold OpenLayer.lift OpenLayer.renumber
      split <;> rfl
  cases hc : r.current with
  | none => simp [renumber, record, hc]
  | some l => simp [renumber, record, hc, hrecord]

section Renumber

variable {f : Nat → Nat} {g : Int → Int} (hfg : ∀ n : Nat, g n = f n)

include hfg

/-- A step counted otherwise. -/
lemma renumber_take (r : Recorder) (st : Step) :
    (r.renumber g).take (st.renumber f) = (r.take st).renumber g := by
  have hopen : (if (r.renumber g).needsLayer st.height
        then (r.renumber g).openLayer st.height (f st.line) else r.renumber g) =
      (if r.needsLayer st.height then r.openLayer st.height st.line else r).renumber g := by
    rw [needsLayer_renumber, ← hfg, openLayer_renumber]
    split <;> rfl
  have htake : (r.renumber g).take (st.renumber f) =
      if st.draws then
        (if (r.renumber g).needsLayer st.height
          then (r.renumber g).openLayer st.height (f st.line) else r.renumber g).record
            st.before st.after
      else if st.isMove then (r.renumber g).record st.before st.after
      else r.renumber g := rfl
  rw [htake, hopen, take, record_renumber, record_renumber]
  split
  · rfl
  · split <;> rfl

/-- **Steps counted otherwise** leave the same layers, counted otherwise. -/
theorem renumber_foldl_take (r : Recorder) (ts : List Step) :
    (ts.map (Step.renumber f)).foldl take (r.renumber g) = (ts.foldl take r).renumber g := by
  induction ts generalizing r with
  | nil => rfl
  | cons st ts ih => rw [List.map_cons, List.foldl_cons, List.foldl_cons, renumber_take hfg, ih]

end Renumber

/-- Steps that are no moves may be left out. -/
lemma foldl_take_filter {keep : Step → Bool} (r : Recorder) {ts : List Step}
    (h : ∀ st ∈ ts, keep st = false → st.isMove = false) :
    (ts.filter keep).foldl take r = ts.foldl take r := by
  induction ts generalizing r with
  | nil => rfl
  | cons st ts ih =>
    have hrest : ∀ r', (ts.filter keep).foldl take r' = ts.foldl take r' :=
      fun r' => ih r' fun st' hst' => h st' (List.mem_cons_of_mem st hst')
    cases hkeep : keep st with
    | true =>
      rw [List.filter_cons_of_pos hkeep]
      exact hrest (r.take st)
    | false =>
      have hm := h st List.mem_cons_self hkeep
      have hd : st.draws = false := Bool.eq_false_iff.mpr fun hd => by
        simp [Step.isMove_of_draws hd] at hm
      have htake : r.take st = r := by simp [take, hm, hd]
      rw [List.filter_cons_of_neg (by simp [hkeep]), List.foldl_cons, htake]
      exact hrest r

end Recorder

/-! ## Documents -/

section Document

variable {struck : Nat → Bool} {s : List Char}
  (hinert : ∀ n line, (pieces '\n' s)[n]? = some line → struck n = true → Inert line)

include hinert

/-- If all struck lines are inert, a struck line with a code is an idle step. -/
lemma idle_of_struck {n : Nat} {text : List Char} (htext : (sourceLines s)[n]? = some text)
    (hstruck : struck n = true) (hcode : (Block.read text).isBlank = false) (m : Machine) :
    Step.Idle ⟨n, Block.read text, m⟩ := by
  rw [sourceLines_eq_map, List.getElem?_map] at htext
  obtain ⟨line, hline, rfl⟩ := Option.map_eq_some_iff.mp htext
  exact (hinert n line hline hstruck).idle hcode n m

/-- If all struck lines are inert, every step that is left out is idle. -/
lemma idle_of_not_kept {st : Step} (hst : st ∈ stepsOf s) (hstruck : (!struck st.line) = false) :
    st.Idle := by
  obtain ⟨⟨text, htext, hblock⟩, hcode, -⟩ := mem_stepsOf.mp hst
  obtain ⟨line, block, before⟩ := st
  subst hblock
  exact idle_of_struck hinert htext (by simpa using hstruck) hcode before

/-- **The steps of a document without inert lines** are those that are kept, counted anew. -/
theorem stepsOf_strike :
    stepsOf (strike struck s) =
      ((stepsOf s).filter fun st => !struck st.line).map (Step.renumber (newLine struck)) := by
  have hidle : ∀ n text, (sourceLines s)[n]? = some text → struck (0 + n) = true →
      (Block.read text).isBlank = false → ∀ m, Step.Idle ⟨0 + n, Block.read text, m⟩ := by
    intro n text ht hs hb
    rw [Nat.zero_add] at hs ⊢
    exact idle_of_struck hinert ht hs hb
  have hunstruck := stepsFrom_unstruck {} 0 (sourceLines s) hidle
  rw [stepsOf, stepsOf, ← hunstruck]
  rcases sourceLines_strike struck s with h | ⟨h, hnil⟩
  · rw [h]
    rfl
  · rw [h, hnil]
    rfl

/-- Steps of a kind of moves are not left out. -/
lemma length_filter_strike {kind : Step → Bool}
    (hkind : ∀ f st, kind (Step.renumber f st) = kind st)
    (hmove : ∀ st, kind st = true → st.isMove = true) :
    ((stepsOf (strike struck s)).filter kind).length = ((stepsOf s).filter kind).length := by
  have hmap : kind ∘ Step.renumber (newLine struck) = kind := funext (hkind _)
  rw [stepsOf_strike hinert, List.filter_map, List.length_map, hmap, List.filter_filter]
  refine congrArg List.length (List.filter_congr fun st hst => ?_)
  cases hk : kind st with
  | false => simp
  | true =>
    cases hkeep : !struck st.line with
    | true => rfl
    | false =>
      have hidle := idle_of_not_kept hinert hst hkeep
      exact absurd (hmove st hk) (by simp [hidle.isMove])

end Document

/-- **Inert lines may be struck.** Let some lines of a document be struck, all of them blank, without
a code, arcs or unsupported. The layers are the same, in heights and paths, and each starts as many
lines earlier as were struck in front of it. The final state is the same, and so are the numbers of
moves, of drawing moves and of travels.

**Proof sketch.** The steps that are left are those of the document, counted anew
(`stepsOf_strike`). The struck ones are no moves, so the recorder does not see them
(`Recorder.foldl_take_filter`), and counting anew only moves the layers
(`Recorder.renumber_foldl_take`). -/
theorem resultOf_strike {struck : Nat → Bool} {s : List Char}
    (hinert : ∀ n line, (pieces '\n' s)[n]? = some line → struck n = true → Inert line) :
    (resultOf (strike struck s)).layers = (resultOf s).layers.map (fun l =>
        { l with startLine := l.startLine - struckBefore struck l.startLine.toNat }) ∧
      (resultOf (strike struck s)).finalState = (resultOf s).finalState ∧
      (resultOf (strike struck s)).tally.motion = (resultOf s).tally.motion ∧
      (resultOf (strike struck s)).tally.extruding = (resultOf s).tally.extruding ∧
      (resultOf (strike struck s)).tally.travel = (resultOf s).tally.travel := by
  have htally : ∀ s, (resultOf s).tally = _ := tally_ofText
  have hlayers : ∀ s, (resultOf s).layers = ((stepsOf s).foldl Recorder.take {}).layers :=
    fun s => congrArg Recorder.layers (recorder_ofText s)
  refine ⟨?_, ?_, ?_, ?_, ?_⟩
  · let shift : Int → Int := fun i => i - struckBefore struck i.toNat
    have hshift : ∀ n : Nat, shift n = newLine struck n := by
      intro n
      have hle : struckBefore struck n ≤ n := Nat.count_le _
      simp only [shift, newLine, Int.toNat_natCast]
      omega
    have hkeep : ∀ st ∈ stepsOf s, (!struck st.line) = false → st.isMove = false :=
      fun st hst hs => (idle_of_not_kept hinert hst hs).isMove
    have hfold := Recorder.renumber_foldl_take hshift {} ((stepsOf s).filter fun st => !struck st.line)
    have hempty : Recorder.renumber shift {} = {} := by simp [Recorder.renumber]
    rw [hempty, Recorder.foldl_take_filter {} hkeep] at hfold
    rw [hlayers, hlayers, stepsOf_strike hinert, hfold, Recorder.layers_renumber]
    rfl
  · rw [finalState_resultOf, finalState_resultOf, stepsOf_strike hinert, Machine.afterAll_renumber]
    exact Machine.afterAll_filter {} fun st hst hs m => (idle_of_not_kept hinert hst hs).machine_after m
  · rw [htally, htally, Tally.motion_foldl_take, Tally.motion_foldl_take]
    rw [length_filter_strike hinert (fun _ _ => rfl) fun _ h => h]
  · rw [htally, htally, Tally.extruding_foldl_take, Tally.extruding_foldl_take]
    rw [length_filter_strike hinert (fun _ _ => rfl) fun _ h => Step.isMove_of_draws h]
  · rw [htally, htally, Tally.travel_foldl_take, Tally.travel_foldl_take]
    rw [length_filter_strike hinert (fun _ _ => rfl) fun _ h => Step.isMove_of_travels h]

/-- A document in which a comment, an arc, a line with a space in front and an unsupported code stand
between two moves that draw at different heights. -/
def idleInterlude : List Char :=
  "G1 X1 E1\n; next\nG2 X1 I1\n G1 X9\nM104 S1\nG1 X2 Z1 E2".toList

/-- Struck, the lines between the moves take nothing with them but their number: the second layer
starts four lines earlier. -/
theorem resultOf_strike_idleInterlude :
    (∀ n line, (pieces '\n' idleInterlude)[n]? = some line → (n != 0 && n != 5) = true →
        Inert line) ∧
      (resultOf idleInterlude).layerIndices = [0, 5] ∧
      (resultOf (strike (fun n => n != 0 && n != 5) idleInterlude)).layerIndices = [0, 1] := by
  have hinert : ∀ n line, (pieces '\n' idleInterlude)[n]? = some line → (n != 0 && n != 5) = true →
      Inert line := by
    have hpieces : pieces '\n' idleInterlude = ["G1 X1 E1".toList, "; next".toList,
        "G2 X1 I1".toList, " G1 X9".toList, "M104 S1".toList, "G1 X2 Z1 E2".toList] := by
      decide +kernel
    intro n line hline hstruck
    rw [hpieces] at hline
    rcases n with _ | _ | _ | _ | _ | _ | n <;>
      simp only [List.getElem?_cons_zero, List.getElem?_cons_succ, List.getElem?_nil,
        Option.some.injEq, reduceCtorEq] at hline
    · exact absurd hstruck (by decide)
    · subst hline
      have hempty : stripComments "; next".toList = [] := by decide +kernel
      exact .blank (by rw [hempty]; exact List.forall_mem_nil _)
    · subst hline
      exact .arc (show _ = Command.arc true by decide +kernel)
    · subst hline
      exact .uncoded (by decide +kernel)
    · subst hline
      exact .unsupported (show _ = Command.unsupported "M104".toList by decide +kernel)
    · exact absurd hstruck (by decide)
  refine ⟨hinert, by decide +kernel, ?_⟩
  rw [Result.layerIndices, (resultOf_strike hinert).1]
  decide +kernel

end Toolpath
