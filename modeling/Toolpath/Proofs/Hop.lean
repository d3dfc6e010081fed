import Mathlib
import Toolpath.Proofs.Drawing
import Toolpath.Proofs.Lines
import Toolpath.Proofs.Numeral
/-!
# Hops

A hop lifts the tool and brings it back, in two moves that name a height and nothing else. It opens
no layer itself, and of all that it does only the height at which it ends can matter to the layers
behind it. Read as a position, that is the height in front of the hop. Read as a distance, it comes
out of two rounded sums and may be another one; then the next drawing move opens a layer.

## Main definitions

* `Toolpath.headsOf` — heights and lines of the layers of a document.
* `Toolpath.openAt` — the heads of layers after a drawing move.
* `Toolpath.hop` — the two lines of a hop.

## Main results

* `Toolpath.headsOf_append` — layers go on with the heights and lines of the drawing moves behind.
* `Toolpath.strokeHeads_mark` — whether the last move drew does not matter to these.
* `Toolpath.headsOf_append_hop` — of a hop only the height at which it ends is left.
* `Toolpath.headsOf_hop` — which hops leave the layers alone.
-/

namespace Toolpath

open Text

/-! ## Heights that do not differ -/

/-- Of two doubles that do not differ, another one differs from both or from neither. -/
lemma bne_congr_right {x y : Float} (h : (x != y) = false) (z : Float) : (z != x) = (z != y) := by
  have hbeq : ∀ a b : Float, (a == b) = a.toModel.unpack.beq b.toModel.unpack := fun _ _ => rfl
  have hxy : (x == y) = true := by simpa [bne] using h
  rw [hbeq, Float.Model.UnpackedFloat.beq_iff_ne_notANumber_and_eq] at hxy
  have hiff : (z == x) = true ↔ (z == y) = true := by
    rw [hbeq, hbeq, Float.Model.UnpackedFloat.beq_iff_ne_notANumber_and_eq,
      Float.Model.UnpackedFloat.beq_iff_ne_notANumber_and_eq]
    grind
  rw [bne, bne, Bool.eq_iff_iff.mpr hiff]

/-- What is a number does not differ from itself. -/
lemma bne_self_of_isNaN {x : Float} (h : x.isNaN = false) : (x != x) = false := by
  have hbeq : (x == x) = x.toModel.unpack.beq x.toModel.unpack := rfl
  have hx : x.toModel.unpack ≠ .notANumber := by
    intro hx
    have hnan : x.isNaN = x.toModel.unpack.isNaN := rfl
    rw [hnan, hx] at h
    exact absurd h (by decide)
  have hself : (x == x) = true := by
    rw [hbeq, Float.Model.UnpackedFloat.beq_iff_ne_notANumber_and_eq]
    exact ⟨hx, hx, .inl rfl⟩
  rw [bne, hself]
  rfl

/-! ## The heads of layers -/

/-- Heights and lines of the layers of a document. -/
def headsOf (s : List Char) : List (Float × Int) := (resultOf s).layers.map fun l => (l.z, l.startLine)

/-- Height and line of a step. -/
def Step.head (st : Step) : Float × Int := (st.height, st.line)

/-- The heads of layers after a drawing move. It opens a layer unless it ends at the height of the
last one. -/
def openAt (heads : List (Float × Int)) (h : Float × Int) : List (Float × Int) :=
  if heads.getLast?.all fun last => h.1 != last.1 then heads ++ [h] else heads

/-- Heights and lines of the drawing moves among lines that are read from the state `m`. -/
def strokeHeads (m : Machine) (first : Nat) (lines : List (List Char)) : List (Float × Int) :=
  ((stepsFrom m first lines).filter Step.draws).map Step.head

/-- The heads of the sheets of a plan. -/
def Plan.heads (p : Plan) : List (Float × Int) := p.sheets.map fun sh => sh.first.head

/-- A step of a plan opens a sheet as it opens a layer. -/
lemma Plan.heads_take (p : Plan) (st : Step) :
    (p.take st).heads = if st.draws then openAt p.heads st.head else p.heads := by
  unfold take
  cases p with
  | blank lead =>
    split
    · rfl
    · split <;> rfl
  | drawn lead finished current =>
    have hopen : openAt (drawn lead finished current).heads st.head =
        if st.height != current.first.height then (drawn lead finished current).heads ++ [st.head]
        else (drawn lead finished current).heads := by
      simp [openAt, heads, sheets, Step.head]
    split
    · rw [hopen, draw]
      split
      · simp [heads, sheets, Sheet.start, Sheet.first]
      · simp [heads, sheets]
    · split
      · simp [heads, sheets, travel]
      · rfl

/-- The heads of a plan go on with the drawing moves among its steps. -/
lemma Plan.heads_foldl_take (p : Plan) (ts : List Step) :
    (ts.foldl take p).heads = ((ts.filter Step.draws).map Step.head).foldl openAt p.heads := by
  induction ts generalizing p with
  | nil => rfl
  | cons st ts ih =>
    rw [List.foldl_cons, ih, heads_take, List.filter_cons]
    split <;> rfl

/-- The heads of the layers of a document are those of the plan of its steps. -/
lemma headsOf_eq_plan (s : List Char) : headsOf s = (Plan.of (stepsOf s)).heads := by
  rw [headsOf, layers_eq_plan, List.map_map]
  rfl

/-- **The layers of a document** come from heights and lines of its drawing moves. -/
theorem headsOf_eq_foldl (s : List Char) :
    headsOf s = (strokeHeads {} 0 (sourceLines s)).foldl openAt [] := by
  rw [headsOf_eq_plan]
  exact Plan.heads_foldl_take (.blank []) (stepsOf s)

/-- **Layers go on** behind a document with the drawing moves there. -/
theorem headsOf_append (p t : List Char) :
    headsOf (p ++ '\n' :: t) =
      (strokeHeads (resultOf p).finalState (resultOf p).tally.lines (sourceLines t)).foldl openAt
        (headsOf p) := by
  have hstrokes : strokeHeads {} 0 (sourceLines p ++ sourceLines t) =
      strokeHeads {} 0 (sourceLines p) ++
        strokeHeads (resultOf p).finalState (0 + (sourceLines p).length) (sourceLines t) := by
    rw [strokeHeads, stepsFrom_append, List.filter_append, List.map_append, finalState_resultOf]
    rfl
  rw [headsOf_eq_foldl, headsOf_eq_foldl, sourceLines_append, hstrokes, List.foldl_append,
    lines_resultOf, Nat.zero_add]

/-- The heads of layers are among those of the drawing moves. -/
lemma mem_foldl_openAt {heads hs : List (Float × Int)} {h : Float × Int}
    (hh : h ∈ hs.foldl openAt heads) : h ∈ heads ∨ h ∈ hs := by
  induction hs generalizing heads with
  | nil => exact .inl hh
  | cons next hs ih =>
    rcases ih hh with hh | hh
    · unfold openAt at hh
      split at hh
      · rcases List.mem_append.mp hh with hh | hh
        · exact .inl hh
        · obtain rfl := List.mem_singleton.mp hh
          exact .inr List.mem_cons_self
      · exact .inl hh
    · exact .inr (List.mem_cons_of_mem next hh)

/-- Drawing moves stand on the lines that are read. -/
lemma line_strokeHeads {m : Machine} {first : Nat} {lines : List (List Char)} {h : Float × Int}
    (hh : h ∈ strokeHeads m first lines) : (first : Int) ≤ h.2 ∧ h.2 < first + lines.length := by
  obtain ⟨st, hst, rfl⟩ := List.mem_map.mp hh
  have := line_stepsFrom (List.mem_filter.mp hst).1
  simp only [Step.head]
  omega

/-- Behind a drawing move, the last layer has a height from which its own does not differ. -/
lemma exists_getLast?_openAt (heads : List (Float × Int)) {h : Float × Int}
    (hnan : h.1.isNaN = false) :
    ∃ last, (openAt heads h).getLast? = some last ∧ (h.1 != last.1) = false := by
  unfold openAt
  cases hheads : heads.getLast? with
  | none =>
    rw [Option.all_none, if_pos rfl]
    exact ⟨h, by simp, bne_self_of_isNaN hnan⟩
  | some last =>
    rw [Option.all_some]
    split
    · exact ⟨h, by simp, bne_self_of_isNaN hnan⟩
    · rename_i hsame
      exact ⟨last, hheads, by simpa using hsame⟩

/-- Whether a layer opens depends on heights alone, so the lines may be changed before or after. -/
lemma foldl_openAt_map {f : Float × Int → Float × Int} (hf : ∀ h, (f h).1 = h.1)
    (heads hs : List (Float × Int)) :
    (hs.map f).foldl openAt (heads.map f) = (hs.foldl openAt heads).map f := by
  have hopen : ∀ heads h, openAt (heads.map f) (f h) = (openAt heads h).map f := by
    intro heads h
    unfold openAt
    cases hlast : heads.getLast? <;> simp [hlast, hf]
    split <;> simp
  induction hs generalizing heads with
  | nil => rfl
  | cons h hs ih => rw [List.map_cons, List.foldl_cons, List.foldl_cons, hopen, ih]

/-! ## The mark of the last move -/

/-- Whether the last move drew does not matter to a command, but for that mark. -/
lemma Machine.exists_after_mark (m : Machine) (mark : Bool) (c : Command) :
    ∃ mark', { m with extruding := mark }.after c = { m.after c with extruding := mark' } := by
  cases c with
  | linear move => exact ⟨m.draws move, rfl⟩
  | arc | positioning | origin | unsupported => exact ⟨mark, rfl⟩

/-- A head with its line pushed down by `k`, unless it stands in front of line `n`. -/
def pushed (n k : Nat) (h : Float × Int) : Float × Int := (h.1, if h.2 < n then h.2 else h.2 + k)

/-- **Whether the last move drew does not matter** to heights and lines of the drawing moves that
follow, and they may be pushed down. -/
theorem strokeHeads_mark (m : Machine) (mark : Bool) {n first : Nat} (hn : n ≤ first) (k : Nat)
    (lines : List (List Char)) :
    strokeHeads { m with extruding := mark } (first + k) lines =
      (strokeHeads m first lines).map (pushed n k) := by
  unfold strokeHeads
  induction lines generalizing m mark first with
  | nil => rfl
  | cons text rest ih =>
    have hnext : first + k + 1 = first + 1 + k := by omega
    rw [stepsFrom, stepsFrom, hnext]
    split
    · exact ih m mark (by omega)
    · let st : Step := ⟨first, Block.read text, m⟩
      let st' : Step := ⟨first + k, Block.read text, { m with extruding := mark }⟩
      obtain ⟨mark', hmark⟩ := m.exists_after_mark mark st.command
      have hafter : st'.after = { st.after with extruding := mark' } := hmark
      have hdraws : st'.draws = st.draws := rfl
      have hhead : st'.head = pushed n k st.head := by
        have hline : ¬ st.head.2 < n := by
          simp only [Step.head, st]
          omega
        rw [pushed, if_neg hline, Step.head, Step.height, hafter]
        simp [Step.head, Step.height, st, st']
      have hrest := ih st.after mark' (show n ≤ first + 1 by omega)
      rw [← hafter] at hrest
      rw [List.filter_cons, List.filter_cons, hdraws]
      split
      · rw [List.map_cons, List.map_cons, List.map_cons, hhead, hrest]
      · exact hrest

/-! ## The lines of a hop -/

/-- A text that stays in one piece of a line: it has no white space and starts no comment. -/
def Unbroken (s : List Char) : Prop := ∀ c ∈ s, isBlank c = false ∧ c ≠ ';'

-- Without the instance by name, all characters there are would be tried.
instance : DecidablePred Unbroken := fun s =>
  List.decidableBAll (fun c => isBlank c = false ∧ c ≠ ';') s

/-- The line of a move that names a height and nothing else. -/
def heightLine (number : List Char) : List Char := 'G' :: '1' :: ' ' :: 'Z' :: number

/-- The two lines of a hop. -/
def hop (up down : List Char) : List Char := heightLine up ++ '\n' :: heightLine down

/-- The lines of a move to a height as they are read. -/
lemma sourceLines_heightLine {number : List Char} (h : Unbroken number) :
    sourceLines (heightLine number) = [heightLine number] := by
  have hcomment : ';' ∉ heightLine number := by
    simp only [heightLine, List.mem_cons, not_or]
    exact ⟨by decide, by decide, by decide, by decide, fun hc => (h ';' hc).2 rfl⟩
  have hbreak : '\n' ∉ heightLine number := by
    simp only [heightLine, List.mem_cons, not_or]
    refine ⟨by decide, by decide, by decide, by decide, fun hc => ?_⟩
    exact absurd (h '\n' hc).1 (by decide)
  rw [sourceLines, stripComments_eq_self hcomment, pieces_eq_singleton hbreak]

/-- A move to a height as it is read. -/
lemma read_heightLine {number : List Char} (h : Unbroken number) :
    Block.read (heightLine number) =
      ⟨heightLine number, ['G', '1'], [⟨'Z' :: number, ['z'], Decimal.leading? number⟩]⟩ := by
  have hspace : ' ' ∉ 'Z' :: number := by
    intro hc
    rcases List.mem_cons.mp hc with hc | hc
    · exact absurd hc (by decide)
    · exact absurd (h ' ' hc).1 (by decide)
  have hpieces : pieces ' ' (heightLine number) = [['G', '1'], 'Z' :: number] := by
    rw [show heightLine number = ['G', '1'] ++ ' ' :: ('Z' :: number) from rfl, pieces_append,
      pieces_eq_singleton hspace]
    rfl
  have htrim : trim ('Z' :: number) = 'Z' :: number := by
    refine dropWhile_ends_eq_self fun c hc => ?_
    rcases List.mem_cons.mp hc with rfl | hc
    · decide
    · exact (h c hc).1
  have htokens : Block.tokens (heightLine number) = [['G', '1'], 'Z' :: number] := by
    rw [Block.tokens, hpieces, List.map_cons, List.map_cons, htrim]
    rfl
  have hcode : upper ['G', '1'] = ['G', '1'] := by decide
  have hletter : lowerChar 'Z' = ['z'] := by decide
  simp [Block.read, htokens, hcode, Word.ofPiece?, hletter]

/-- A line that names a height moves there and nowhere else. -/
lemma command_heightLine {number : List Char} (h : Unbroken number) :
    Command.ofBlock (Block.read (heightLine number)) = .linear { z := Decimal.leading? number } := by
  rw [read_heightLine h]
  rfl

/-! ## What is left of a hop -/

/-- The machine at another height, after a move that did not draw. -/
def Machine.atHeight (m : Machine) (z : Float) : Machine := { m with z := z, extruding := false }

/-- A move to a height does not draw, and the height is all that it changes. -/
lemma Machine.move_height (m : Machine) (z : Option Float) :
    m.draws { z := z } = false ∧ m.move { z := z } = m.atHeight (m.positioning.target m.z z) := by
  have hdraws : m.draws { z := z } = false := decide_eq_false not_zero_lt_zero
  refine ⟨hdraws, ?_⟩
  rw [Machine.move, hdraws]
  rfl

/-- Of a line that names a height, the height is left. -/
lemma strokeHeads_heightLine (m : Machine) (first : Nat) {number : List Char} (h : Unbroken number)
    (rest : List (List Char)) :
    strokeHeads m first (heightLine number :: rest) =
      strokeHeads (m.atHeight (m.positioning.target m.z (Decimal.leading? number))) (first + 1)
        rest := by
  let st : Step := ⟨first, Block.read (heightLine number), m⟩
  have hcode : (Block.read (heightLine number)).isBlank = false := by
    rw [read_heightLine h]
    rfl
  have hcommand : st.command = .linear { z := Decimal.leading? number } := command_heightLine h
  obtain ⟨hnone, hmove⟩ := m.move_height (Decimal.leading? number)
  have hdraws : st.draws = false := by
    rw [Step.draws, hcommand]
    exact hnone
  have hafter : st.after = m.move { z := Decimal.leading? number } := by
    rw [Step.after, hcommand]
    rfl
  rw [strokeHeads, stepsFrom, hcode, if_neg (by simp), List.filter_cons_of_neg (by simp [st, hdraws]),
    ← hmove, ← hafter]
  rfl

/-- The numbers of a hop in the state `m`, with the height at which it ends. Read as positions, the
second number is the height in front of the hop; read as distances, it is the first one with a
minus. -/
inductive Hop (m : Machine) : List Char → List Char → Float → Prop where
  | position {up down : List Char} (hm : m.positioning = .absolute) (hup : Unbroken up)
      (hdown : Unbroken down) (hz : Decimal.leading? down = some m.z) : Hop m up down m.z
  | distance {number : List Char} {d : Float} (hm : m.positioning = .relative)
      (hnumber : Unbroken number) (hsign : number.head? ≠ some '+' ∧ number.head? ≠ some '-')
      (hd : Decimal.leading? number = some d) : Hop m number ('-' :: number) (m.z + d + -d)

/-- The numbers of a hop stay in one piece of a line, and read one after the other they lead to the
height at which it ends. -/
lemma Hop.spec {m : Machine} {up down : List Char} {z : Float} (h : Hop m up down z) :
    Unbroken up ∧ Unbroken down ∧
      m.positioning.target (m.positioning.target m.z (Decimal.leading? up))
        (Decimal.leading? down) = z := by
  cases h with
  | position hmode hup hdown hz =>
    refine ⟨hup, hdown, ?_⟩
    rw [hmode, hz]
    rfl
  | distance hmode hup hsign hd =>
    have hdown : Unbroken ('-' :: up) := by
      intro c hc
      rcases List.mem_cons.mp hc with rfl | hc
      · decide
      · exact hup c hc
    have hhead : ∀ c ∈ up.head?, isBlank c = false ∧ c ≠ '+' ∧ c ≠ '-' := by
      intro c hc
      refine ⟨(hup c (List.mem_of_mem_head? hc)).1, ?_, ?_⟩
      · rintro rfl
        exact hsign.1 hc
      · rintro rfl
        exact hsign.2 hc
    refine ⟨hup, hdown, ?_⟩
    rw [Decimal.leading?_minus hhead, hd, hmode]
    rfl

/-- **Of a hop the height at which it ends is left**, and the number of its lines. -/
theorem headsOf_append_hop {p up down : List Char} {z : Float}
    (h : Hop (resultOf p).finalState up down z) (t : List Char) :
    headsOf (p ++ '\n' :: (hop up down ++ '\n' :: t)) =
      (strokeHeads ((resultOf p).finalState.atHeight z) ((resultOf p).tally.lines + 2)
        (sourceLines t)).foldl openAt (headsOf p) := by
  obtain ⟨hup, hdown, hz⟩ := h.spec
  have hlines : sourceLines (hop up down ++ '\n' :: t) =
      heightLine up :: heightLine down :: sourceLines t := by
    rw [sourceLines_append, hop, sourceLines_append, sourceLines_heightLine hup,
      sourceLines_heightLine hdown]
    rfl
  rw [headsOf_append, hlines, strokeHeads_heightLine _ _ hup, strokeHeads_heightLine _ _ hdown]
  rw [← hz]
  rfl

/-! ## Documents that go on drawing -/

/-- The last thing that a document does is to draw. -/
def EndsDrawing (s : List Char) : Prop := (stepsOf s).getLast?.any Step.draws = true

instance : DecidablePred EndsDrawing := fun s =>
  inferInstanceAs (Decidable ((stepsOf s).getLast?.any Step.draws = true))

/-- A line draws in the state `m` without naming a height. -/
structure DrawsLevel (m : Machine) (line : List Char) : Prop where
  single : '\n' ∉ line
  exists_move : ∃ move, Command.ofBlock (Block.read (stripComments line)) = .linear move ∧
    move.z = none ∧ m.draws move = true

/-- The machine ends where the last step leads. -/
lemma afterAll_stepsFrom {m : Machine} {first : Nat} {lines : List (List Char)} {st : Step}
    (h : (stepsFrom m first lines).getLast? = some st) :
    m.afterAll (stepsFrom m first lines) = st.after := by
  induction lines generalizing m first with
  | nil => exact absurd h (by simp [stepsFrom])
  | cons text rest ih =>
    rw [stepsFrom] at h ⊢
    split at h
    · rename_i hblank
      rw [if_pos hblank]
      exact ih h
    · rename_i hblank
      rw [if_neg hblank]
      let next : Step := ⟨first, Block.read text, m⟩
      cases hrest : stepsFrom next.after (first + 1) rest with
      | nil =>
        rw [hrest] at h
        obtain rfl : next = st := by simpa using h
        rfl
      | cons st' ts =>
        rw [hrest, List.getLast?_cons_cons, ← hrest] at h
        rw [← ih h, ← hrest]
        rfl

/-- A document that ends drawing ends at the height of its last layer. -/
lemma EndsDrawing.exists_last_head {p : List Char} (h : EndsDrawing p)
    (hz : (resultOf p).finalState.z.isNaN = false) :
    ∃ last, (headsOf p).getLast? = some last ∧ ((resultOf p).finalState.z != last.1) = false := by
  obtain ⟨st, hlast, hdraws⟩ := (Option.any_eq_true _ _).mp h
  have hstate : (resultOf p).finalState = st.after := by
    rw [finalState_resultOf]
    exact afterAll_stepsFrom hlast
  have hheight : (resultOf p).finalState.z = st.head.1 := by
    rw [hstate]
    rfl
  have hsteps := List.dropLast_append_getLast? st hlast
  rw [headsOf_eq_plan, ← hsteps, Plan.of, List.foldl_append, List.foldl_cons, List.foldl_nil,
    Plan.heads_take, hdraws, if_pos rfl, hheight]
  exact exists_getLast?_openAt _ (by rwa [hheight] at hz)

/-- A line that draws without naming a height draws where the machine is. -/
lemma strokeHeads_of_drawsLevel {m : Machine} {line : List Char} (h : DrawsLevel m line) (z : Float)
    (mark : Bool) (first : Nat) :
    strokeHeads { m with z := z, extruding := mark } first (sourceLines line) =
      [(z, (first : Int))] := by
  obtain ⟨move, hmove, hz, hdraws⟩ := h.exists_move
  let st : Step :=
    ⟨first, Block.read (stripComments line), { m with z := z, extruding := mark }⟩
  have hline : sourceLines line = [stripComments line] :=
    pieces_eq_singleton (not_mem_dropComments h.single false)
  have hcode : (Block.read (stripComments line)).isBlank = false :=
    Block.isBlank_of_mem_moveCodes (Command.ofBlock_eq_linear_iff.mp hmove).1
  have hcommand : st.command = .linear move := hmove
  have hst : st.draws = true := by
    rw [Step.draws, hcommand]
    exact hdraws
  have hhead : st.head = (z, (first : Int)) := by
    rw [Step.head, Step.height, Step.after, hcommand, Machine.after, Machine.move, hz]
    rfl
  have hsteps : stepsFrom { m with z := z, extruding := mark } first (sourceLines line) = [st] := by
    rw [hline, stepsFrom, hcode, if_neg (by simp)]
    rfl
  rw [strokeHeads, hsteps, List.filter_cons_of_pos hst, List.map_cons, hhead]
  rfl

/-! ## Layers around a hop -/

/-- The layers of a document start in front of its end, so they are not pushed down from there. -/
lemma map_pushed_headsOf (p : List Char) (k : Nat) :
    (headsOf p).map (pushed (resultOf p).tally.lines k) = headsOf p := by
  refine (List.map_congr_left fun h hh => ?_).trans (List.map_id _)
  rw [headsOf_eq_foldl] at hh
  have hstroke : h ∈ strokeHeads {} 0 (sourceLines p) :=
    (mem_foldl_openAt hh).resolve_left List.not_mem_nil
  have hlt := (line_strokeHeads hstroke).2
  rw [← lines_resultOf] at hlt
  rw [pushed, if_pos (by omega)]
  rfl

/-- **Which hops leave the layers alone.** Let a hop stand behind a document. If it ends at the height
in front of it, whatever follows has the layers that it has without the hop, with the same heights
and two lines further down; a hop whose numbers are read as positions always ends there. If the
document ends drawing, at a height that is a number, a line that draws on without naming a height
opens no layer without the hop; behind the hop it opens one iff the height at which the hop ends
differs, and for a hop whose numbers are read as distances this is what two rounded sums make of
the height.

**Proof sketch.** Of the hop its last height is left (`headsOf_append_hop`). If that is the old one,
the machine differs by its mark alone, which does not matter (`strokeHeads_mark`). Otherwise the
height is compared with that of the last layer, from which the old one does not differ
(`EndsDrawing.exists_last_head`). -/
theorem headsOf_hop {p up down : List Char} {z : Float} (h : Hop (resultOf p).finalState up down z) :
    (z = (resultOf p).finalState.z → ∀ t, headsOf (p ++ '\n' :: (hop up down ++ '\n' :: t)) =
        (headsOf (p ++ '\n' :: t)).map (pushed (resultOf p).tally.lines 2)) ∧
      (EndsDrawing p → (resultOf p).finalState.z.isNaN = false →
        ∀ line, DrawsLevel (resultOf p).finalState line →
          headsOf (p ++ '\n' :: line) = headsOf p ∧
            headsOf (p ++ '\n' :: (hop up down ++ '\n' :: line)) =
              headsOf p ++ if z != (resultOf p).finalState.z then
                [(z, ((resultOf p).tally.lines + 2 : Int))] else []) := by
  refine ⟨fun hz t => ?_, fun hends hnan line hline => ?_⟩
  · have hmark : strokeHeads ((resultOf p).finalState.atHeight z) ((resultOf p).tally.lines + 2)
          (sourceLines t) = (strokeHeads (resultOf p).finalState (resultOf p).tally.lines
            (sourceLines t)).map (pushed (resultOf p).tally.lines 2) := by
      rw [hz]
      exact strokeHeads_mark (resultOf p).finalState false le_rfl 2 (sourceLines t)
    have hmap := foldl_openAt_map (f := pushed (resultOf p).tally.lines 2) (fun _ => rfl) (headsOf p)
      (strokeHeads (resultOf p).finalState (resultOf p).tally.lines (sourceLines t))
    rw [map_pushed_headsOf] at hmap
    rw [headsOf_append_hop h, headsOf_append, hmark, hmap]
  · obtain ⟨last, hlast, hsame⟩ := hends.exists_last_head hnan
    have hopen : ∀ head : Float × Int, openAt (headsOf p) head =
        headsOf p ++ if head.1 != (resultOf p).finalState.z then [head] else [] := by
      intro head
      rw [openAt, hlast, Option.all_some, bne_congr_right hsame head.1]
      split <;> simp
    have hlevel := strokeHeads_of_drawsLevel hline
    constructor
    · have hsingle : strokeHeads (resultOf p).finalState (resultOf p).tally.lines (sourceLines line) =
          [((resultOf p).finalState.z, ((resultOf p).tally.lines : Int))] :=
        hlevel (resultOf p).finalState.z (resultOf p).finalState.extruding _
      rw [headsOf_append, hsingle, List.foldl_cons, List.foldl_nil, hopen, bne_self_of_isNaN hnan]
      simp
    · have hsingle : strokeHeads ((resultOf p).finalState.atHeight z) ((resultOf p).tally.lines + 2)
          (sourceLines line) = [(z, (((resultOf p).tally.lines + 2 : Nat) : Int))] :=
        hlevel z false _
      rw [headsOf_append_hop h, hsingle, List.foldl_cons, List.foldl_nil, hopen]
      push_cast
      rfl

/-- A document that draws at height zero and reads numbers as positions. -/
def groundStroke : List Char := "G1 X1 E1".toList

/-- Read as positions, the numbers of a hop bring the tool back to its layer. -/
theorem headsOf_hop_position :
    EndsDrawing groundStroke ∧ DrawsLevel (resultOf groundStroke).finalState "G1 X6 E2".toList ∧
      Hop (resultOf groundStroke).finalState "0.6".toList "0".toList
        (resultOf groundStroke).finalState.z ∧
      headsOf "G1 X1 E1\nG1 Z0.6\nG1 Z0\nG1 X6 E2".toList = [(0.0, 0)] := by
  have hends : EndsDrawing groundStroke := by decide +kernel
  have hnan : (resultOf groundStroke).finalState.z.isNaN = false := by decide +kernel
  have hlevel : DrawsLevel (resultOf groundStroke).finalState "G1 X6 E2".toList :=
    ⟨by decide, Command.moveOf (Block.read "G1 X6 E2".toList) false, by decide +kernel,
      by decide +kernel, by decide +kernel⟩
  have hhop : Hop (resultOf groundStroke).finalState "0.6".toList "0".toList
      (resultOf groundStroke).finalState.z :=
    .position (by decide +kernel) (by decide) (by decide) (by decide +kernel)
  refine ⟨hends, hlevel, hhop, ?_⟩
  have hheads := ((headsOf_hop hhop).2 hends hnan _ hlevel).2
  have hground : headsOf groundStroke = [(0.0, 0)] := by decide +kernel
  rw [hground, bne_self_of_isNaN hnan] at hheads
  exact hheads

/-- A document that draws at height 0.2 and reads numbers as distances. -/
def raisedStroke : List Char := "G91\nG1 X1 Z0.2 E1".toList

/-- Read as distances, the numbers of a hop may bring the tool back to another height. From 0.2 a hop
by 0.1 leads to the double above 0.2, and the next line opens a layer there. -/
theorem headsOf_hop_distance :
    EndsDrawing raisedStroke ∧ DrawsLevel (resultOf raisedStroke).finalState "G1 X1 E1".toList ∧
      Hop (resultOf raisedStroke).finalState "0.1".toList "-0.1".toList (0.2 + 0.1 + -0.1) ∧
      [0.1, 0.2, 0.2 + 0.1, 0.2 + 0.1 + -0.1].all Float.isFinite = true ∧
      headsOf "G91\nG1 X1 Z0.2 E1\nG1 X1 E1".toList = [(0.2, 1)] ∧
      headsOf "G91\nG1 X1 Z0.2 E1\nG1 Z0.1\nG1 Z-0.1\nG1 X1 E1".toList =
        [(0.2, 1), (0.2 + 0.1 + -0.1, 4)] := by
  have hlevel : DrawsLevel (resultOf raisedStroke).finalState "G1 X1 E1".toList :=
    ⟨by decide, Command.moveOf (Block.read "G1 X1 E1".toList) false, by decide +kernel,
      by decide +kernel, by decide +kernel⟩
  have hz : (resultOf raisedStroke).finalState.z = 0.2 := by decide +kernel
  have hhop : Hop (resultOf raisedStroke).finalState "0.1".toList "-0.1".toList
      (0.2 + 0.1 + -0.1) := by
    rw [← hz]
    exact .distance (by decide +kernel) (by decide) (by decide) (by decide +kernel)
  exact ⟨by decide +kernel, hlevel, hhop, by decide +kernel, by decide +kernel, by decide +kernel⟩

end Toolpath
