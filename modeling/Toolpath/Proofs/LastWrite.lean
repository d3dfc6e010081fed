import Toolpath.Proofs.Accounting
import Toolpath.Proofs.Drawing
/-!
# The machine as last written

What a machine keeps is written by some lines and left alone by all others. A line gives a number
to a register, switches the positioning, or says whether a move draws; what is found behind any
number of lines is what the last of them to write it wrote. Read as positions, the numbers are kept
as they are written, and so no other number is ever drawn.

## Main definitions

* `Toolpath.lastWrite` — what was last written, by a search backwards.
* `Toolpath.blockAt` — a line of a document as it is read.
* `Toolpath.Register`, `Toolpath.Machine.register` — the numbers that a machine keeps.
* `Toolpath.Block.gives`, `Toolpath.Block.switchOf`, `Toolpath.Block.feeds` — what a line writes.

## Main results

* `Toolpath.lastWrite_eq_some_iff` — the last write is one behind which nothing is written.
* `Toolpath.Machine.after_ofBlock_cases` — all that a line can do to a machine.
* `Toolpath.machine_upTo_succ` — what one line does to the machine of a run.
* `Toolpath.machine_upTo_eq_lastWrite` — the machine of a run is as last written.
-/

namespace Toolpath

/-! ## The last write -/

section LastWrite

variable {α : Type} {write : Nat → Option α}

/-- What was last written in front of a number, if each number writes something or nothing. -/
def lastWrite (write : Nat → Option α) : Nat → Option α
  | 0 => none
  | n + 1 => (write n).or (lastWrite write n)

/-- **The last write** is one behind which nothing is written. -/
theorem lastWrite_eq_some_iff {n : Nat} {v : α} :
    lastWrite write n = some v ↔
      ∃ k < n, write k = some v ∧ ∀ j < n, k < j → write j = none := by
  induction n with
  | zero => simp [lastWrite]
  | succ n ih =>
    rw [lastWrite]
    cases hn : write n with
    | some w =>
      rw [Option.some_or]
      constructor
      · intro hw
        exact ⟨n, by omega, hn.trans hw, fun j hj hlt => by omega⟩
      · rintro ⟨k, hk, hwrite, hlast⟩
        -- nothing is written behind the write, so it is the one at `n`
        obtain rfl : k = n := by
          by_contra hne
          exact absurd (hlast n (by omega) (by omega)) (by simp [hn])
        exact hn.symm.trans hwrite
    | none =>
      rw [Option.none_or, ih]
      constructor
      · rintro ⟨k, hk, hwrite, hlast⟩
        refine ⟨k, by omega, hwrite, fun j hj hlt => ?_⟩
        rcases Nat.lt_succ_iff_lt_or_eq.mp hj with hj | rfl
        · exact hlast j hj hlt
        · exact hn
      · rintro ⟨k, hk, hwrite, hlast⟩
        have hne : k ≠ n := fun h => by simp [h, hn] at hwrite
        exact ⟨k, by omega, hwrite, fun j hj hlt => hlast j (by omega) hlt⟩

/-- What is written is kept until the next write. -/
lemma eq_lastWrite {field : Nat → α} {n : Nat}
    (hstep : ∀ k < n, field (k + 1) = (write k).getD (field k)) :
    field n = (lastWrite write n).getD (field 0) := by
  induction n with
  | zero => rfl
  | succ n ih =>
    rw [hstep n (by omega), ih fun k hk => hstep k (by omega), lastWrite]
    cases write n <;> rfl

end LastWrite

/-! ## What a line writes -/

/-- The numbers that a machine keeps. -/
inductive Register where
  | x
  | y
  | z
  /-- The material fed so far. -/
  | e
  /-- The feed rate. -/
  | f
  deriving DecidableEq, Repr

/-- The letter of the words that write a register. -/
def Register.letter : Register → Char
  | x => 'x'
  | y => 'y'
  | z => 'z'
  | e => 'e'
  | f => 'f'

/-- The codes of the lines that write a register. No feed rate is declared. -/
def Register.codes : Register → List (List Char)
  | f => moveCodes
  | _ => moveCodes ++ [['G', '9', '2']]

/-- The number in a register. -/
def Machine.register (m : Machine) : Register → Float
  | .x => m.x
  | .y => m.y
  | .z => m.z
  | .e => m.e
  | .f => m.f

namespace Block

/-- The number that a line gives to a register. -/
def gives (b : Block) (r : Register) : Option Float :=
  if r.codes.contains b.code then b.value [r.letter] else none

/-- The positioning that a line switches to. -/
def switchOf (b : Block) : Option Positioning :=
  if b.code = ['G', '9', '0'] then some .absolute
  else if b.code = ['G', '9', '1'] then some .relative
  else none

/-- Whether a straight move feeds material in the state in front of it. -/
def feeds (b : Block) (m : Machine) : Option Bool :=
  if moveCodes.contains b.code then
    some ((b.value ['e']).any fun e => decide (0.0 < m.positioning.change m.e e))
  else none

variable {b : Block} {r : Register}

lemma gives_of_mem (h : b.code ∈ r.codes) : b.gives r = b.value [r.letter] :=
  if_pos (List.contains_iff_mem.mpr h)

lemma gives_of_not_mem (h : b.code ∉ r.codes) : b.gives r = none :=
  if_neg fun hcode => h (List.contains_iff_mem.mp hcode)

/-- Only a line with one of its codes gives a number to a register. -/
lemma gives_eq_some_iff {v : Float} :
    b.gives r = some v ↔ b.code ∈ r.codes ∧ b.value [r.letter] = some v := by
  by_cases h : b.code ∈ r.codes
  · rw [gives_of_mem h]
    exact (and_iff_right h).symm
  · rw [gives_of_not_mem h]
    exact ⟨nofun, fun hv => absurd hv.1 h⟩

lemma feeds_of_mem (h : b.code ∈ moveCodes) (m : Machine) :
    b.feeds m = some ((b.value ['e']).any fun e => decide (0.0 < m.positioning.change m.e e)) :=
  if_pos (List.contains_iff_mem.mpr h)

lemma feeds_of_not_mem (h : b.code ∉ moveCodes) (m : Machine) : b.feeds m = none :=
  if_neg fun hcode => h (List.contains_iff_mem.mp hcode)

end Block

namespace Machine

/-- **All that a line can do to a machine**: it moves it, switches its positioning, declares
coordinates, or leaves it alone. -/
theorem after_ofBlock_cases (m : Machine) (b : Block) :
    (b.code ∈ moveCodes ∧ b.switchOf = none ∧
        ∃ rapid, m.after (.ofBlock b) = m.move (Command.moveOf b rapid)) ∨
      (b.code ∉ moveCodes ∧ b.code ≠ ['G', '9', '2'] ∧
        ∃ mode, b.switchOf = some mode ∧ m.after (.ofBlock b) = m.switch mode) ∨
      (b.code ∉ moveCodes ∧ b.switchOf = none ∧ b.code = ['G', '9', '2'] ∧
        m.after (.ofBlock b) = m.declare (Command.originOf b)) ∨
      (b.code ∉ moveCodes ∧ b.switchOf = none ∧ b.code ≠ ['G', '9', '2'] ∧
        m.after (.ofBlock b) = m) := by
  unfold Command.ofBlock
  split <;> simp_all [moveCodes, Block.switchOf, Machine.after]

/-- A line switches the positioning if it says so. -/
lemma positioning_after (m : Machine) (b : Block) :
    (m.after (.ofBlock b)).positioning = b.switchOf.getD m.positioning := by
  rcases m.after_ofBlock_cases b with
    ⟨-, hmode, rapid, h⟩ | ⟨-, -, mode, hmode, h⟩ | ⟨-, hmode, -, h⟩ | ⟨-, hmode, -, h⟩ <;>
    rw [h, hmode] <;> rfl

/-- A straight move leaves behind whether it draws, and no other line changes it. -/
lemma extruding_after (m : Machine) (b : Block) :
    (m.after (.ofBlock b)).extruding = (b.feeds m).getD m.extruding := by
  rcases m.after_ofBlock_cases b with
    ⟨hcode, -, rapid, h⟩ | ⟨hcode, -, mode, -, h⟩ | ⟨hcode, -, -, h⟩ | ⟨hcode, -, -, h⟩
  · rw [h, Block.feeds_of_mem hcode, Option.getD_some, Bool.eq_iff_iff, Option.any_eq_true]
    simp only [decide_eq_true_eq]
    exact Machine.draws_iff
  all_goals
    rw [h, Block.feeds_of_not_mem hcode]
    rfl

/-- **What a line does to a register**: a straight move leads it to its target, and a declaration
writes it. -/
theorem register_after (m : Machine) (b : Block) (r : Register) :
    (m.after (.ofBlock b)).register r =
      if b.code ∈ moveCodes then m.positioning.target (m.register r) (b.gives r)
      else (b.gives r).getD (m.register r) := by
  rcases m.after_ofBlock_cases b with
    ⟨hcode, -, rapid, h⟩ | ⟨hcode, hne, mode, -, h⟩ | ⟨hcode, -, heq, h⟩ | ⟨hcode, -, hne, h⟩
  · have hmem : b.code ∈ r.codes := by cases r <;> simp [Register.codes, hcode]
    rw [h, if_pos hcode, Block.gives_of_mem hmem]
    cases r <;> rfl
  · have hmem : b.code ∉ r.codes := by cases r <;> simp [Register.codes, hcode, hne]
    rw [h, if_neg hcode, Block.gives_of_not_mem hmem]
    cases r <;> rfl
  · rw [h, if_neg hcode, Block.gives, heq]
    cases r <;> rfl
  · have hmem : b.code ∉ r.codes := by cases r <;> simp [Register.codes, hcode, hne]
    rw [h, if_neg hcode, Block.gives_of_not_mem hmem]
    rfl

/-- A line leaves a register alone if it gives it no number. -/
lemma register_after_of_gives_eq_none (m : Machine) {b : Block} {r : Register}
    (h : b.gives r = none) : (m.after (.ofBlock b)).register r = m.register r := by
  rw [register_after, h]
  split <;> rfl

/-- Read as positions, the numbers are kept as they are written. -/
lemma register_after_of_absolute {m : Machine} (hm : m.positioning = .absolute) (b : Block)
    (r : Register) : (m.after (.ofBlock b)).register r = (b.gives r).getD (m.register r) := by
  rw [register_after, hm]
  split
  · cases b.gives r <;> rfl
  · rfl

end Machine

/-! ## The machine of a run -/

/-- The line of a document with a number, as it is read. Behind the last line there is nothing. -/
def blockAt (s : List Char) (n : Nat) : Block := .read ((sourceLines s).getD n [])

/-- A line does what its block asks; one without a code asks nothing. -/
lemma Run.machine_readLine (r : Run) (n : Nat) (text : List Char) :
    (r.readLine n text).machine = r.machine.after (.ofBlock (.read text)) := by
  cases hblank : (Block.read text).isBlank with
  | true =>
    have hcode : (Block.read text).code = [] := by simpa [Block.isBlank] using hblank
    rw [readLine_of_isBlank r n hblank, Command.ofBlock, hcode]
    rfl
  | false => exact (readLine_step r n hblank).1

/-- **What one line does to the machine of a run.** -/
theorem machine_upTo_succ (s : List Char) (n : Nat) :
    (Run.upTo s (n + 1)).machine = (Run.upTo s n).machine.after (.ofBlock (blockAt s n)) := by
  rw [blockAt, List.getD_eq_getElem?_getD]
  cases htext : (sourceLines s)[n]? with
  | none =>
    rw [Run.upTo_succ_of_none htext]
    rfl
  | some text => rw [Run.upTo_succ htext, Run.machine_readLine, Option.getD_some]

/-- Without a line that switches to distances, a run reads positions. -/
lemma positioning_upTo_eq_absolute {s : List Char} {n : Nat}
    (h : ∀ k < n, (blockAt s k).code ≠ ['G', '9', '1']) :
    (Run.upTo s n).machine.positioning = .absolute := by
  induction n with
  | zero => rfl
  | succ n ih =>
    have hprev := ih fun k hk => h k (by omega)
    rw [machine_upTo_succ, Machine.positioning_after, hprev, Block.switchOf,
      if_neg (h n (by omega))]
    split <;> rfl

/-! ### Numbers that are read -/

/-- A number is read in a document if it stands behind the first character of a piece of a line
that is not the code of the line. -/
def ReadIn (s : List Char) (c : Float) : Prop :=
  ∃ line ∈ sourceLines s, ∃ letter number,
    letter :: number ∈ (Block.tokens line).tail ∧ Decimal.leading? number = some c

/-- The words of a line are its pieces behind the code that are not empty. -/
lemma Block.mem_words_read {line : List Char} {w : Word} :
    w ∈ (Block.read line).words ↔ ∃ letter number, letter :: number ∈ (tokens line).tail ∧
      w = ⟨letter :: number, Text.lowerChar letter, Decimal.leading? number⟩ := by
  rw [words_read, List.mem_filterMap]
  constructor
  · rintro ⟨piece, hpiece, hword⟩
    cases piece with
    | nil => exact absurd hword (by simp [Word.ofPiece?])
    | cons letter number => exact ⟨letter, number, hpiece, (Option.some.inj hword).symm⟩
  · rintro ⟨letter, number, hpiece, rfl⟩
    exact ⟨letter :: number, hpiece, rfl⟩

/-- What a line gives to a register is read in the document. -/
lemma readIn_of_gives {s : List Char} {k : Nat} {r : Register} {c : Float}
    (h : (blockAt s k).gives r = some c) : ReadIn s c := by
  obtain ⟨-, hvalue⟩ := Block.gives_eq_some_iff.mp h
  obtain ⟨front, w, back, hwords, -, hw, -⟩ := Block.value_eq_some_iff.mp hvalue
  have hmem : w ∈ (blockAt s k).words := by simp [hwords]
  rw [blockAt, List.getD_eq_getElem?_getD] at hmem
  cases htext : (sourceLines s)[k]? with
  | none =>
    rw [htext] at hmem
    exact absurd hmem List.not_mem_nil
  | some text =>
    rw [htext] at hmem
    obtain ⟨letter, number, hpiece, rfl⟩ := Block.mem_words_read.mp hmem
    exact ⟨text, List.mem_of_getElem? htext, letter, number, hpiece, hw⟩

/-- What is drawn are positions of the machine between two lines. -/
lemma exists_position_of_mem_path {s : List Char} {l : Layer} {path : Path} {p : Point}
    (hl : l ∈ (resultOf s).layers) (hpath : path ∈ l.paths) (hp : p ∈ path) :
    ∃ n, p = (Run.upTo s n).machine.position := by
  rcases eq_nil_or_leg_of_mem_paths hl hpath with rfl | ⟨sh, hsh, leg, hleg, rfl⟩
  · exact absurd hp List.not_mem_nil
  · obtain ⟨st, hst, hp⟩ := List.mem_flatMap.mp hp
    have hsheet : st ∈ sh.strokes := List.mem_flatMap.mpr ⟨leg, hleg, hst⟩
    have hstroke := List.mem_flatMap.mpr ⟨sh, hsh, hsheet⟩
    rw [Plan.strokes_of] at hstroke
    have hstep : st ∈ stepsOf s := (List.mem_filter.mp hstroke).1
    simp only [Step.points, List.mem_cons, List.not_mem_nil, or_false] at hp
    rcases hp with rfl | rfl
    · exact ⟨st.line, by rw [(mem_stepsOf.mp hstep).2.2]⟩
    · exact ⟨st.line + 1, by rw [after_eq_upTo hstep]⟩

/-! ### The last writes of a run -/

section

variable (s : List Char) (n : Nat)

/-- The positioning is the one last switched to, and at first the reading of positions. -/
lemma positioning_upTo :
    (Run.upTo s n).machine.positioning =
      (lastWrite (fun k => (blockAt s k).switchOf) n).getD .absolute := by
  let mode (k : Nat) : Positioning := (Run.upTo s k).machine.positioning
  have hstep : ∀ k < n, mode (k + 1) = (blockAt s k).switchOf.getD (mode k) := by
    intro k _
    simp only [mode]
    rw [machine_upTo_succ, Machine.positioning_after]
  exact eq_lastWrite hstep

/-- The mark of a move that draws is the one that the last straight move left, and at first there is
none. -/
lemma extruding_upTo :
    (Run.upTo s n).machine.extruding =
      (lastWrite (fun k => (blockAt s k).feeds (Run.upTo s k).machine) n).getD false := by
  let mark (k : Nat) : Bool := (Run.upTo s k).machine.extruding
  have hstep : ∀ k < n,
      mark (k + 1) = ((blockAt s k).feeds (Run.upTo s k).machine).getD (mark k) := by
    intro k _
    simp only [mark]
    rw [machine_upTo_succ, Machine.extruding_after]
  exact eq_lastWrite hstep

end

/-- Without a line that switches to distances, a register holds the number that was last written
to it. -/
lemma register_upTo {s : List Char} {n : Nat} (h : ∀ k < n, (blockAt s k).code ≠ ['G', '9', '1'])
    (r : Register) :
    (Run.upTo s n).machine.register r =
      (lastWrite (fun k => (blockAt s k).gives r) n).getD 0.0 := by
  let held (k : Nat) : Float := (Run.upTo s k).machine.register r
  have hstep : ∀ k < n, held (k + 1) = ((blockAt s k).gives r).getD (held k) := by
    intro k hk
    have habsolute := positioning_upTo_eq_absolute fun j hj => h j (Nat.lt_trans hj hk)
    simp only [held]
    rw [machine_upTo_succ, Machine.register_after_of_absolute habsolute]
  have hzero : held 0 = 0.0 := by cases r <;> rfl
  rw [← hzero]
  exact eq_lastWrite hstep

/-- **The machine of a run is as last written.** Behind any number of lines, the machine reads
distances iff the last line that switched the positioning switched it to distances, and it carries
the mark of a move that draws iff the last straight move drew; no other line changes that. If no
line switched to distances, a register holds the number that the last line with a number for it gave
it, and 0 if there was none: every register is written by straight moves, and all but the feed rate
by declarations. So if no line of a document switches to distances, every coordinate of every point
that is drawn is 0 or a number that can be read in the document.

**Proof sketch.** A line writes what its block says and leaves the rest alone
(`Machine.positioning_after`, `Machine.extruding_after`, `Machine.register_after`), so what is
written is kept until the next write (`eq_lastWrite`). -/
theorem machine_upTo_eq_lastWrite (s : List Char) :
    (∀ n, (Run.upTo s n).machine.positioning = .relative ↔
        lastWrite (fun k => (blockAt s k).switchOf) n = some .relative) ∧
      (∀ n, (Run.upTo s n).machine.extruding = true ↔
        lastWrite (fun k => (blockAt s k).feeds (Run.upTo s k).machine) n = some true) ∧
      (∀ n, (∀ k < n, (blockAt s k).code ≠ ['G', '9', '1']) → ∀ r,
        (Run.upTo s n).machine.register r =
          (lastWrite (fun k => (blockAt s k).gives r) n).getD 0.0) ∧
      ((∀ k, (blockAt s k).code ≠ ['G', '9', '1']) →
        ∀ l ∈ (resultOf s).layers, ∀ path ∈ l.paths, ∀ p ∈ path, ∀ c ∈ [p.x, p.y, p.z],
          c = 0.0 ∨ ReadIn s c) := by
  refine ⟨fun n => ?_, fun n => ?_, fun n hn => register_upTo hn,
    fun hs l hl path hpath p hp c hc => ?_⟩
  · rw [positioning_upTo, Option.getD_eq_iff]
    exact or_iff_left (by simp)
  · rw [extruding_upTo, Option.getD_eq_iff]
    exact or_iff_left (by simp)
  · obtain ⟨n, rfl⟩ := exists_position_of_mem_path hl hpath hp
    have hheld : ∃ r, c = (Run.upTo s n).machine.register r := by
      simp only [List.mem_cons, List.not_mem_nil, or_false] at hc
      rcases hc with rfl | rfl | rfl
      · exact ⟨.x, rfl⟩
      · exact ⟨.y, rfl⟩
      · exact ⟨.z, rfl⟩
    obtain ⟨r, rfl⟩ := hheld
    rw [register_upTo (fun k _ => hs k) r]
    cases hwrite : lastWrite (fun k => (blockAt s k).gives r) n with
    | none => exact .inl rfl
    | some v =>
      obtain ⟨k, -, hgives, -⟩ := lastWrite_eq_some_iff.mp hwrite
      exact .inr (readIn_of_gives hgives)

end Toolpath
