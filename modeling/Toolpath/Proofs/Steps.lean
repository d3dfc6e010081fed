import Mathlib.Data.List.Chain
import Mathlib.Tactic.Lemma
import Toolpath.Geometry
import Toolpath.Run
/-!
# The steps of a document

A run carries the machine, the recorder and the counters through a document at once. Here it is
taken apart: the machine alone decides what each line does, so the executed lines of a document,
each with the machine in front of it, are a list that mentions neither layers nor counters. The
recorder and the counters of a run are that list folded.

## Main definitions

* `Toolpath.Step` — an executed line with the machine in front of it.
* `Toolpath.stepsOf`, `Toolpath.strokesOf` — the steps of a document, and those that draw.
* `Toolpath.Recorder.take`, `Toolpath.Tally.take` — what one step does to layers and counters.
* `Toolpath.Run.upTo` — the run over the first lines of a document.

## Main results

* `Toolpath.Step.draws_iff` — a step draws iff it is a straight move whose last `e` word is a
  number that feeds material.
* `Toolpath.Run.recorder_readLines`, `Toolpath.Run.tally_readLines` — a run folds its steps.
* `Toolpath.mem_stepsOf` — the steps are the lines with a code, in the states of the run.
* `Toolpath.pairwise_line_stepsOf` — the lines of the steps strictly increase.
-/

namespace Toolpath

/-! ## Steps -/

/-- An executed line, with the machine in front of it. -/
structure Step where
  /-- The number of the line, counted from zero. -/
  line : Nat
  block : Block
  /-- The machine in front of the line. -/
  before : Machine
  deriving DecidableEq, Repr

namespace Step

/-- What the line asks of the machine. -/
def command (st : Step) : Command := .ofBlock st.block

/-- The machine behind the line. -/
def after (st : Step) : Machine := st.before.after st.command

/-- Whether the step is a straight move. -/
def isMove (st : Step) : Bool :=
  match st.command with
  | .linear _ => true
  | _ => false

/-- Whether the step is a straight move that draws. -/
def draws (st : Step) : Bool :=
  match st.command with
  | .linear move => st.before.draws move
  | _ => false

/-- Whether the step is a straight move that does not draw. -/
def travels (st : Step) : Bool := st.isMove && !st.draws

/-- The height that the step ends at. -/
def height (st : Step) : Float := st.after.z

/-- The line from where the step starts to where it ends. -/
def segment (st : Step) : Segment := ⟨st.before.position, st.after.position⟩

/-- The two ends of the step. -/
def points (st : Step) : List Point := [st.before.position, st.after.position]

/-- What draws is a move. -/
lemma isMove_of_draws {st : Step} (h : st.draws = true) : st.isMove = true := by
  unfold draws at h
  unfold isMove
  split at h
  · rfl
  · exact absurd h (by simp)

/-- A travel does not draw. -/
lemma draws_of_travels {st : Step} (h : st.travels = true) : st.draws = false := by
  simp only [travels, Bool.and_eq_true, Bool.not_eq_true'] at h
  exact h.2

/-- A travel is a move. -/
lemma isMove_of_travels {st : Step} (h : st.travels = true) : st.isMove = true := by
  simp only [travels, Bool.and_eq_true] at h
  exact h.1

/-- A move that does not draw is a travel. -/
lemma travels_of_isMove {st : Step} (hm : st.isMove = true) (hd : st.draws = false) :
    st.travels = true := by
  simp [travels, hm, hd]

end Step

/-- The steps of lines that are numbered from `first` on, taken from the state `m`. -/
def stepsFrom (m : Machine) (first : Nat) : List (List Char) → List Step
  | [] => []
  | text :: rest =>
    if (Block.read text).isBlank then stepsFrom m (first + 1) rest
    else
      ⟨first, Block.read text, m⟩ ::
        stepsFrom (Step.mk first (Block.read text) m).after (first + 1) rest

/-- The steps of a document, taken from the state at rest. -/
def stepsOf (s : List Char) : List Step := stepsFrom {} 0 (sourceLines s)

/-- The steps of a document that draw. -/
def strokesOf (s : List Char) : List Step := (stepsOf s).filter Step.draws

/-! ### Which steps draw -/

/-- The codes of straight moves. -/
def moveCodes : List (List Char) := [['G', '0'], ['G', '1']]

/-- The command of a block is a straight move iff its code is that of one. -/
lemma Command.ofBlock_eq_linear_iff {b : Block} {move : Move} :
    Command.ofBlock b = .linear move ↔
      b.code ∈ moveCodes ∧ move = Command.moveOf b (b.code == ['G', '0']) := by
  unfold Command.ofBlock
  split <;> simp_all [moveCodes, eq_comm]

/-- A line with the code of a straight move is executed. -/
lemma Block.isBlank_of_mem_moveCodes {b : Block} (h : b.code ∈ moveCodes) : b.isBlank = false := by
  simp only [moveCodes, List.mem_cons, List.not_mem_nil, or_false] at h
  rcases h with h | h <;> rw [isBlank, h] <;> rfl

/-- The number that a block gives for a letter is that of the last word with the letter. -/
lemma Block.value_eq_some_iff {b : Block} {key : List Char} {x : Float} :
    b.value key = some x ↔
      ∃ front w back, b.words = front ++ w :: back ∧ w.key = key ∧ w.value = some x ∧
        ∀ v ∈ back, v.key ≠ key := by
  constructor
  · intro h
    obtain ⟨w, hw, hx⟩ := Option.bind_eq_some_iff.mp h
    obtain ⟨hk, as, bs, hwords, has⟩ := List.find?_eq_some_iff_append.mp hw
    have hsplit : b.words = bs.reverse ++ w :: as.reverse := by
      rw [← List.reverse_reverse b.words, hwords]
      simp
    refine ⟨bs.reverse, w, as.reverse, hsplit, by simpa using hk, hx, fun v hv => ?_⟩
    have := has v (List.mem_reverse.mp hv)
    simpa using this
  · rintro ⟨front, w, back, hwords, hk, hx, hback⟩
    refine Option.bind_eq_some_iff.mpr ⟨w, List.find?_eq_some_iff_append.mpr ?_, hx⟩
    refine ⟨by simpa using hk, back.reverse, front.reverse, by simp [hwords], fun v hv => ?_⟩
    simpa using hback v (List.mem_reverse.mp hv)

/-- No material is no feed. -/
lemma not_zero_lt_zero : ¬ (0.0 : Float) < 0.0 := by decide

/-- A move draws iff it names `e` with a number that feeds material. -/
lemma Machine.draws_iff {m : Machine} {move : Move} :
    m.draws move = true ↔ ∃ e, move.e = some e ∧ 0.0 < m.positioning.change m.e e := by
  unfold Machine.draws Machine.feed
  rw [decide_eq_true_iff]
  cases move.e with
  | none => exact ⟨fun h => absurd h not_zero_lt_zero, fun ⟨e, he, _⟩ => nomatch he⟩
  | some e =>
    refine ⟨fun h => ⟨e, rfl, h⟩, ?_⟩
    rintro ⟨e', he, h⟩
    obtain rfl := Option.some.inj he
    exact h

namespace Step

/-- **What draws**: a step draws iff its code is that of a straight move, its last word with the
letter `e` is a number, and that number feeds material in the state in front of the line. -/
theorem draws_iff {st : Step} :
    st.draws = true ↔
      st.block.code ∈ moveCodes ∧ ∃ e, st.block.value ['e'] = some e ∧
        0.0 < st.before.positioning.change st.before.e e := by
  constructor
  · intro h
    unfold draws at h
    split at h
    · rename_i move hmove
      obtain ⟨hcode, rfl⟩ := Command.ofBlock_eq_linear_iff.mp hmove
      exact ⟨hcode, Machine.draws_iff.mp h⟩
    · exact absurd h (by simp)
  · rintro ⟨hcode, hfeed⟩
    have hlin : st.command = _ := Command.ofBlock_eq_linear_iff.mpr ⟨hcode, rfl⟩
    unfold draws
    rw [hlin]
    exact Machine.draws_iff.mpr hfeed

end Step

/-! ## A run folds its steps -/

/-- The recorder after a step. -/
def Recorder.take (r : Recorder) (st : Step) : Recorder :=
  if st.draws then
    (if r.needsLayer st.height then r.openLayer st.height st.line else r).record st.before st.after
  else if st.isMove then r.record st.before st.after
  else r

/-- The counters after the command of a step. -/
def Tally.countStep (t : Tally) (st : Step) : Tally :=
  if st.isMove then t.countMove st.draws else t.count st.command

/-- The counters after a step: its malformed words are counted with its command. -/
def Tally.take (t : Tally) (st : Step) : Tally :=
  { t with malformed := t.malformed + st.block.malformed.length }.countStep st

/-- The machine after steps. -/
def Machine.afterAll (m : Machine) (ts : List Step) : Machine :=
  ts.foldl (fun m st => m.after st.command) m

/-- A move leaves its mark on the machine: whether it draws. -/
lemma Step.extruding_after {st : Step} (h : st.isMove = true) : st.after.extruding = st.draws := by
  unfold isMove at h
  unfold draws after
  split at h
  · rename_i move hmove
    rw [hmove]
    rfl
  · exact absurd h (by simp)

namespace Run

/-- A straight move changes each part of a run on its own. -/
lemma move_parts (r : Run) (line : Int) (mv : Move) :
    (r.move line mv).machine = r.machine.move mv ∧
      (r.move line mv).recorder =
        (if r.machine.draws mv && r.recorder.needsLayer (r.machine.move mv).z then
          r.recorder.openLayer (r.machine.move mv).z line
        else r.recorder).record r.machine (r.machine.move mv) ∧
      (r.move line mv).tally = r.tally.countMove (r.machine.draws mv) := by
  have hext : (r.machine.move mv).extruding = r.machine.draws mv := rfl
  cases h : r.machine.draws mv && r.recorder.needsLayer (r.machine.move mv).z <;>
    simp [Run.move, hext, h, openLayer, note]

/-- A command changes each part of a run as the step does that consists of it. -/
lemma execute_step (r : Run) (st : Step) (hm : st.before = r.machine) :
    (r.execute st.line st.command).machine = st.after ∧
      (r.execute st.line st.command).recorder = r.recorder.take st ∧
      (r.execute st.line st.command).tally = r.tally.countStep st := by
  cases hc : st.command with
  | linear mv =>
    have hafter : st.after = r.machine.move mv := by rw [Step.after, hc, hm]; rfl
    have hmove : st.isMove = true := by rw [Step.isMove, hc]
    have hdraws : st.draws = r.machine.draws mv := by rw [Step.draws, hc, hm]
    obtain ⟨h1, h2, h3⟩ := move_parts r st.line mv
    refine ⟨by rw [execute, h1, hafter], ?_, ?_⟩
    · rw [execute, h2, Recorder.take, hmove, hdraws, Step.height, hafter, hm]
      cases r.machine.draws mv <;> rfl
    · rw [execute, h3, Tally.countStep, hmove, hdraws]
      rfl
  | arc | unsupported | origin | positioning =>
    simp [execute, note, Recorder.take, Tally.countStep, Step.isMove, Step.draws, Step.after, hc,
      Machine.after, hm, Tally.count]

/-- A line without a code changes neither machine nor recorder nor counters. -/
lemma readLine_of_isBlank (r : Run) (n : Nat) {text : List Char}
    (h : (Block.read text).isBlank = true) : r.readLine n text = r.complain (Block.read text) := by
  simp [readLine, h]

/-- A line with a code is a step of the run. -/
lemma readLine_step (r : Run) (n : Nat) {text : List Char}
    (h : (Block.read text).isBlank = false) :
    let st : Step := ⟨n, Block.read text, r.machine⟩
    (r.readLine n text).machine = st.after ∧
      (r.readLine n text).recorder = r.recorder.take st ∧
      (r.readLine n text).tally = r.tally.take st := by
  intro st
  let t := { r.tally with malformed := r.tally.malformed + st.block.malformed.length }
  have hread : r.readLine n text = execute { r.complain st.block with tally := t } n st.command := by
    rw [readLine, h]
    rfl
  rw [hread]
  exact execute_step { r.complain st.block with tally := t } st rfl

/-- A run folds its steps: they move the machine, and recorder and counters follow. -/
lemma readLines_steps (r : Run) (first : Nat) (lines : List (List Char)) :
    let ts := stepsFrom r.machine first lines
    (r.readLines first lines).machine = r.machine.afterAll ts ∧
      (r.readLines first lines).recorder = ts.foldl Recorder.take r.recorder ∧
      (r.readLines first lines).tally = ts.foldl Tally.take r.tally := by
  induction lines generalizing r first with
  | nil => exact ⟨rfl, rfl, rfl⟩
  | cons text rest ih =>
    rw [readLines, stepsFrom]
    have hrest := ih (r.readLine first text) (first + 1)
    cases h : (Block.read text).isBlank with
    | true =>
      rw [readLine_of_isBlank r first h] at hrest ⊢
      exact hrest
    | false =>
      obtain ⟨hmachine, hrecorder, htally⟩ := readLine_step r first h
      rw [hmachine, hrecorder, htally] at hrest
      exact hrest

/-- **The machine of a run** is moved by its steps alone. -/
theorem machine_readLines (r : Run) (first : Nat) (lines : List (List Char)) :
    (r.readLines first lines).machine = r.machine.afterAll (stepsFrom r.machine first lines) :=
  (readLines_steps r first lines).1

/-- **The recorder of a run** folds its steps. -/
theorem recorder_readLines (r : Run) (first : Nat) (lines : List (List Char)) :
    (r.readLines first lines).recorder =
      (stepsFrom r.machine first lines).foldl Recorder.take r.recorder :=
  (readLines_steps r first lines).2.1

/-- **The counters of a run** fold its steps. -/
theorem tally_readLines (r : Run) (first : Nat) (lines : List (List Char)) :
    (r.readLines first lines).tally =
      (stepsFrom r.machine first lines).foldl Tally.take r.tally :=
  (readLines_steps r first lines).2.2

/-- A run over two parts of a document goes on with the second one where the first one ends. -/
lemma readLines_append (r : Run) (first : Nat) (xs ys : List (List Char)) :
    r.readLines first (xs ++ ys) = (r.readLines first xs).readLines (first + xs.length) ys := by
  induction xs generalizing r first with
  | nil => rfl
  | cons text rest ih =>
    rw [List.cons_append, readLines, readLines, ih, List.length_cons]
    rw [show first + 1 + rest.length = first + (rest.length + 1) by omega]

/-- The run over the first `n` lines of a document. -/
def upTo (s : List Char) (n : Nat) : Run :=
  readLines { tally := { lines := (sourceLines s).length } } 0 ((sourceLines s).take n)

/-- The run over one line more reads that line. -/
lemma upTo_succ {s : List Char} {n : Nat} {text : List Char}
    (h : (sourceLines s)[n]? = some text) : upTo s (n + 1) = (upTo s n).readLine n text := by
  obtain ⟨hn, htext⟩ := List.getElem?_eq_some_iff.mp h
  have htake : (sourceLines s).take (n + 1) = (sourceLines s).take n ++ [text] := by
    rw [List.take_succ_eq_append_getElem hn, htext]
  have hlen : 0 + ((sourceLines s).take n).length = n := by
    rw [List.length_take]
    omega
  unfold upTo
  rw [htake, readLines_append, hlen]
  rfl

/-- Behind the last line of a document there is nothing to read. -/
lemma upTo_succ_of_none {s : List Char} {n : Nat} (h : (sourceLines s)[n]? = none) :
    upTo s (n + 1) = upTo s n := by
  have hlen := List.getElem?_eq_none_iff.mp h
  have htake : (sourceLines s).take (n + 1) = (sourceLines s).take n := by
    rw [List.take_of_length_le hlen, List.take_of_length_le (by omega)]
  rw [upTo, htake]
  rfl

end Run

/-! ## Where the steps stand -/

/-- Steps of two parts of a document: the second part starts where the first one leads. -/
lemma stepsFrom_append (m : Machine) (first : Nat) (xs ys : List (List Char)) :
    stepsFrom m first (xs ++ ys) =
      stepsFrom m first xs ++
        stepsFrom (m.afterAll (stepsFrom m first xs)) (first + xs.length) ys := by
  induction xs generalizing m first with
  | nil => simp [stepsFrom, Machine.afterAll]
  | cons text rest ih =>
    have hlen : first + (text :: rest).length = first + 1 + rest.length := by
      simp only [List.length_cons]
      omega
    rw [List.cons_append, stepsFrom, stepsFrom, hlen]
    split
    · exact ih m (first + 1)
    · rw [ih, List.cons_append]
      rfl

/-- The lines of steps are among those that are read. -/
lemma line_stepsFrom {m : Machine} {first : Nat} {lines : List (List Char)} {st : Step}
    (h : st ∈ stepsFrom m first lines) : first ≤ st.line ∧ st.line < first + lines.length := by
  induction lines generalizing m first with
  | nil => exact absurd h (by simp [stepsFrom])
  | cons text rest ih =>
    rw [stepsFrom] at h
    rw [List.length_cons]
    split at h
    · have := ih h
      omega
    · rcases List.mem_cons.mp h with rfl | h
      · simp only
        omega
      · have := ih h
        omega

/-- The lines of steps strictly increase. -/
lemma pairwise_line_stepsFrom (m : Machine) (first : Nat) (lines : List (List Char)) :
    (stepsFrom m first lines).Pairwise (·.line < ·.line) := by
  induction lines generalizing m first with
  | nil => exact .nil
  | cons text rest ih =>
    rw [stepsFrom]
    split
    · exact ih m (first + 1)
    · refine List.Pairwise.cons (fun st hst => ?_) (ih _ _)
      have := (line_stepsFrom hst).1
      simp only
      omega

/-- **The steps of lines** are those with a code, each in the state in which the run finds it. -/
theorem mem_stepsFrom (r : Run) (first : Nat) (lines : List (List Char)) {st : Step} :
    st ∈ stepsFrom r.machine first lines ↔
      ∃ n text, lines[n]? = some text ∧ (Block.read text).isBlank = false ∧
        st = ⟨first + n, Block.read text, (r.readLines first (lines.take n)).machine⟩ := by
  induction lines generalizing r first with
  | nil => simp [stepsFrom]
  | cons text rest ih =>
    have hmachine : (r.readLine first text).machine =
        if (Block.read text).isBlank then r.machine
        else (Step.mk first (Block.read text) r.machine).after := by
      cases h : (Block.read text).isBlank with
      | true => simp [Run.readLine_of_isBlank r first h, Run.complain]
      | false => simpa using (Run.readLine_step r first h).1
    have hrest := ih (r.readLine first text) (first + 1)
    have hshift : ∀ n, first + 1 + n = first + (n + 1) := fun n => by omega
    rw [hmachine] at hrest
    rw [stepsFrom]
    split at hrest
    · rename_i hblank
      rw [if_pos hblank, hrest]
      constructor
      · rintro ⟨n, t, ht, hb, rfl⟩
        exact ⟨n + 1, t, ht, hb, by rw [hshift]; rfl⟩
      · rintro ⟨n, t, ht, hb, rfl⟩
        cases n with
        | zero =>
          obtain rfl := Option.some.inj ht
          exact absurd hblank (by simp [hb])
        | succ n => exact ⟨n, t, ht, hb, by rw [hshift]; rfl⟩
    · rename_i hblank
      rw [if_neg hblank, List.mem_cons, hrest]
      constructor
      · rintro (rfl | ⟨n, t, ht, hb, rfl⟩)
        · exact ⟨0, text, rfl, by simpa using hblank, rfl⟩
        · exact ⟨n + 1, t, ht, hb, by rw [hshift]; rfl⟩
      · rintro ⟨n, t, ht, hb, rfl⟩
        cases n with
        | zero =>
          obtain rfl := Option.some.inj ht
          exact .inl rfl
        | succ n => exact .inr ⟨n, t, ht, hb, by rw [hshift]; rfl⟩

/-! ## The steps of a document -/

/-- **The steps of a document** are its lines with a code, each in the state in which the run over
the lines in front of it ends. -/
theorem mem_stepsOf {s : List Char} {st : Step} :
    st ∈ stepsOf s ↔
      (∃ text, (sourceLines s)[st.line]? = some text ∧ st.block = Block.read text) ∧
        st.block.isBlank = false ∧ st.before = (Run.upTo s st.line).machine := by
  rw [stepsOf]
  refine (mem_stepsFrom { tally := { lines := (sourceLines s).length } } 0 (sourceLines s)).trans ?_
  constructor
  · rintro ⟨n, text, ht, hb, rfl⟩
    simp only [Nat.zero_add]
    exact ⟨⟨text, ht, rfl⟩, hb, rfl⟩
  · obtain ⟨line, block, before⟩ := st
    rintro ⟨⟨text, ht, hblock⟩, hb, hbefore⟩
    simp only at ht hblock hb hbefore
    subst hblock hbefore
    exact ⟨line, text, ht, hb, by rw [Nat.zero_add]; rfl⟩

/-- The machine behind a step is that of the run over the lines up to it. -/
lemma after_eq_upTo {s : List Char} {st : Step} (h : st ∈ stepsOf s) :
    st.after = (Run.upTo s (st.line + 1)).machine := by
  obtain ⟨⟨text, htext, hblock⟩, hblank, hbefore⟩ := mem_stepsOf.mp h
  rw [hblock] at hblank
  obtain ⟨hm, -, -⟩ := Run.readLine_step (Run.upTo s st.line) st.line hblank
  rw [Run.upTo_succ htext, hm, ← hbefore, ← hblock]

/-- The lines of the steps of a document strictly increase. -/
theorem pairwise_line_stepsOf (s : List Char) : (stepsOf s).Pairwise (·.line < ·.line) :=
  pairwise_line_stepsFrom {} 0 (sourceLines s)

/-- The steps of the first lines of a document are its steps there. -/
lemma stepsFrom_take (s : List Char) (n : Nat) :
    stepsFrom {} 0 ((sourceLines s).take n) = (stepsOf s).filter (·.line < n) := by
  have hsplit := stepsFrom_append {} 0 ((sourceLines s).take n) ((sourceLines s).drop n)
  rw [List.take_append_drop] at hsplit
  rw [stepsOf, hsplit, List.filter_append]
  rw [List.filter_eq_self.mpr, List.filter_eq_nil_iff.mpr, List.append_nil]
  · intro st hst
    have hge := (line_stepsFrom hst).1
    have hlt := (line_stepsFrom hst).2
    simp only [List.length_take, List.length_drop] at hge hlt
    simp only [decide_eq_true_eq]
    omega
  · intro st hst
    have hlt := (line_stepsFrom hst).2
    simp only [List.length_take] at hlt
    simp only [decide_eq_true_eq]
    omega

/-- The recorder after the first lines of a document folds the steps there. -/
theorem recorder_upTo (s : List Char) (n : Nat) :
    (Run.upTo s n).recorder = ((stepsOf s).filter (·.line < n)).foldl Recorder.take {} := by
  rw [← stepsFrom_take]
  exact Run.recorder_readLines _ 0 _

/-- The recorder after a document folds its steps. -/
theorem recorder_ofText (s : List Char) :
    (Run.ofText s).recorder = (stepsOf s).foldl Recorder.take {} :=
  Run.recorder_readLines _ 0 _

/-- The machine after a document is moved by its steps. -/
theorem finalState_resultOf (s : List Char) :
    (resultOf s).finalState = Machine.afterAll {} (stepsOf s) :=
  Run.machine_readLines _ 0 _

/-- The counters after a document fold its steps. -/
theorem tally_ofText (s : List Char) :
    (Run.ofText s).tally = (stepsOf s).foldl Tally.take { lines := (sourceLines s).length } :=
  Run.tally_readLines _ 0 _

/-! ## Counters -/

namespace Tally

/-- A step counts as drawing iff it draws. -/
lemma extruding_take (t : Tally) (st : Step) :
    (t.take st).extruding = t.extruding + if st.draws then 1 else 0 := by
  unfold take countStep
  cases hd : st.draws with
  | true => simp [Step.isMove_of_draws hd, countMove]
  | false =>
    cases st.isMove with
    | true => simp [countMove]
    | false => cases st.command <;> simp [count]

/-- A step counts as a move iff it is one. -/
lemma motion_take (t : Tally) (st : Step) :
    (t.take st).motion = t.motion + if st.isMove then 1 else 0 := by
  unfold take countStep
  cases st.isMove with
  | true => rfl
  | false => cases st.command <;> rfl

/-- A step counts as a travel iff it is one. -/
lemma travel_take (t : Tally) (st : Step) :
    (t.take st).travel = t.travel + if st.travels then 1 else 0 := by
  unfold take countStep Step.travels
  cases st.isMove with
  | true => cases st.draws <;> rfl
  | false => cases st.command <;> rfl

/-- What is raised by the steps of a kind counts the steps of that kind. -/
lemma count_foldl_take {counter : Tally → Nat} {kind : Step → Bool}
    (htake : ∀ t st, counter (take t st) = counter t + if kind st then 1 else 0) (t : Tally)
    (ts : List Step) : counter (ts.foldl take t) = counter t + (ts.filter kind).length := by
  induction ts generalizing t with
  | nil => rfl
  | cons st ts ih =>
    rw [List.foldl_cons, ih, htake, List.filter_cons]
    cases kind st with
    | true => simp only [if_true, List.length_cons]; omega
    | false => simp

/-- The drawing moves that are counted are the steps that draw. -/
theorem extruding_foldl_take (t : Tally) (ts : List Step) :
    (ts.foldl take t).extruding = t.extruding + (ts.filter Step.draws).length :=
  count_foldl_take extruding_take t ts

/-- The moves that are counted are the steps that are moves. -/
theorem motion_foldl_take (t : Tally) (ts : List Step) :
    (ts.foldl take t).motion = t.motion + (ts.filter Step.isMove).length :=
  count_foldl_take motion_take t ts

/-- The travels that are counted are the steps that travel. -/
theorem travel_foldl_take (t : Tally) (ts : List Step) :
    (ts.foldl take t).travel = t.travel + (ts.filter Step.travels).length :=
  count_foldl_take travel_take t ts

/-- What no step changes is fixed before the first one. -/
lemma fixed_foldl_take {α : Type} {field : Tally → α}
    (htake : ∀ t st, field (take t st) = field t) (t : Tally) (ts : List Step) :
    field (ts.foldl take t) = field t := by
  induction ts generalizing t with
  | nil => rfl
  | cons st ts ih => rw [List.foldl_cons, ih, htake]

/-- No step changes the number of lines or the time. -/
lemma header_take (t : Tally) (st : Step) :
    ((t.take st).lines, (t.take st).elapsed) = (t.lines, t.elapsed) := by
  unfold take countStep
  cases st.isMove with
  | true => rfl
  | false => cases st.command <;> rfl

/-- The number of lines is fixed before the first step. -/
lemma lines_foldl_take (t : Tally) (ts : List Step) : (ts.foldl take t).lines = t.lines :=
  fixed_foldl_take (fun t st => congrArg Prod.fst (header_take t st)) t ts

/-- The time is fixed before the first step. -/
lemma elapsed_foldl_take (t : Tally) (ts : List Step) : (ts.foldl take t).elapsed = t.elapsed :=
  fixed_foldl_take (fun t st => congrArg Prod.snd (header_take t st)) t ts

end Tally

/-- The lines of a document that are counted are all its lines. -/
lemma lines_resultOf (s : List Char) : (resultOf s).tally.lines = (sourceLines s).length := by
  rw [show (resultOf s).tally = _ from tally_ofText s, Tally.lines_foldl_take]

end Toolpath
