import Toolpath.Proofs.Steps
/-!
# The plan of a drawing

The recorder keeps points and forgets the moves that they came from. A plan keeps the moves: it
sorts the moves of a document into sheets, one for each layer, and the moves of a sheet into legs,
each a row of drawing moves and the travels behind it. A plan is taken step by step like a
recorder, and at every step the recorder is what the plan shows. What layers and paths hold is
then read off the plan, where nothing is forgotten.

## Main definitions

* `Toolpath.Leg`, `Toolpath.Sheet`, `Toolpath.Plan` — moves sorted into paths and layers.
* `Toolpath.Plan.take` — the plan after a step.
* `Toolpath.Plan.recorder` — the recorder that a plan shows.
* `Toolpath.Plan.of` — the plan of steps.

## Main results

* `Toolpath.Plan.recorder_take` — the recorder follows the plan, step by step.
* `Toolpath.Plan.moves_foldl_take` — a plan holds all moves, each once and in order.
* `Toolpath.Plan.Valid.foldl_take` — the legs of a plan are cut at travels, its sheets at heights.
* `Toolpath.Plan.layers_foldl_take` — the layers that steps leave are those that their plan shows.
-/

namespace Toolpath

/-! ## Legs -/

/-- A leg: drawing moves in a row, and the travels behind them. -/
structure Leg where
  /-- The first drawing move. -/
  first : Step
  /-- The drawing moves behind it. -/
  more : List Step := []
  travels : List Step := []
  deriving DecidableEq, Repr

namespace Leg

/-- The drawing moves of a leg. -/
def strokes (l : Leg) : List Step := l.first :: l.more

/-- The moves of a leg. -/
def moves (l : Leg) : List Step := l.strokes ++ l.travels

/-- The path that a leg leaves. -/
def path (l : Leg) : Path := l.strokes.flatMap Step.points

/-- The strokes of a leg draw, and its travels do not. -/
structure Valid (l : Leg) : Prop where
  strokes : ∀ st ∈ l.strokes, st.draws = true
  travels : ∀ st ∈ l.travels, st.travels = true

/-- A leg draws at least one line. -/
lemma path_ne_nil (l : Leg) : l.path ≠ [] := by simp [path, strokes, Step.points]

/-- Read as pairs of points, the path of a leg gives the segments of its strokes. -/
lemma segments_path (l : Leg) : Path.segments l.path = l.strokes.map Step.segment := by
  unfold path
  induction l.strokes with
  | nil => rfl
  | cons st ts ih => simpa [Step.points, Step.segment, Path.segments] using ih

/-- The strokes of a leg are those of its moves that draw. -/
lemma Valid.filter_moves {l : Leg} (h : l.Valid) : l.moves.filter Step.draws = l.strokes := by
  rw [moves, List.filter_append, List.filter_eq_self.mpr h.strokes, List.filter_eq_nil_iff.mpr,
    List.append_nil]
  intro st hst
  simp [Step.draws_of_travels (h.travels st hst)]

end Leg

/-! ## Sheets -/

/-- A sheet: the legs of a layer, the last one apart. -/
structure Sheet where
  ended : List Leg := []
  last : Leg
  deriving DecidableEq, Repr

namespace Sheet

/-- The legs of a sheet. -/
def legs (sh : Sheet) : List Leg := sh.ended ++ [sh.last]

/-- The drawing moves of a sheet. -/
def strokes (sh : Sheet) : List Step := sh.legs.flatMap Leg.strokes

/-- The moves of a sheet. -/
def moves (sh : Sheet) : List Step := sh.legs.flatMap Leg.moves

/-- The move that opens a sheet. -/
def first (sh : Sheet) : Step := (sh.ended.head?.getD sh.last).first

/-- The layer that a sheet shows: a path for each leg, and an empty one behind travels. -/
def layer (sh : Sheet) : Layer where
  z := sh.first.height
  startLine := sh.first.line
  paths := sh.legs.map Leg.path ++ if sh.last.travels = [] then [] else [[]]

/-- The layer being drawn that a sheet shows. -/
def openLayer (sh : Sheet) : OpenLayer where
  z := sh.first.height
  startLine := sh.first.line
  ended := ((if sh.last.travels = [] then sh.ended else sh.legs).map Leg.path).toArray
  pen := (if sh.last.travels = [] then sh.last.path else []).toArray

/-- A sheet that starts with a drawing move. -/
def start (st : Step) : Sheet := ⟨[], ⟨st, [], []⟩⟩

/-- The sheet after a drawing move: it goes on with the last leg, or behind travels with a new
one. -/
def draw (sh : Sheet) (st : Step) : Sheet :=
  if sh.last.travels = [] then { sh with last := { sh.last with more := sh.last.more ++ [st] } }
  else ⟨sh.legs, ⟨st, [], []⟩⟩

/-- The sheet after a travel. -/
def travel (sh : Sheet) (st : Step) : Sheet :=
  { sh with last := { sh.last with travels := sh.last.travels ++ [st] } }

/-! ### What a sheet shows -/

@[simp] lemma first_draw (sh : Sheet) (st : Step) : (sh.draw st).first = sh.first := by
  obtain ⟨ended, last⟩ := sh
  unfold draw
  split <;> cases ended <;> rfl

@[simp] lemma first_travel (sh : Sheet) (st : Step) : (sh.travel st).first = sh.first := by
  obtain ⟨ended, last⟩ := sh
  cases ended <;> rfl

/-- As it stands, the layer being drawn is the layer of the sheet. -/
lemma layer_openLayer (sh : Sheet) : sh.openLayer.layer = sh.layer := by
  unfold openLayer layer OpenLayer.layer legs
  split <;> simp

/-- A new sheet shows a layer that was opened and drawn on. -/
lemma openLayer_start (st : Step) :
    (start st).openLayer =
      (OpenLayer.start st.height st.line).draw st.before.position st.after.position := by
  simp [OpenLayer.start, OpenLayer.draw, openLayer, start, first, Leg.path, Leg.strokes,
    Step.points]

/-- Without travels at its end, a sheet shows a layer with the pen down. -/
lemma openLayer_of_drawing {sh : Sheet} (h : sh.last.travels = []) :
    sh.openLayer = ⟨sh.first.height, sh.first.line, (sh.ended.map Leg.path).toArray,
      sh.last.path.toArray⟩ := by
  simp only [openLayer, h, if_true]

/-- With travels at its end, a sheet shows a layer whose paths are all ended. -/
lemma openLayer_of_waiting {sh : Sheet} (h : sh.last.travels ≠ []) :
    sh.openLayer = ⟨sh.first.height, sh.first.line, (sh.legs.map Leg.path).toArray, #[]⟩ := by
  simp only [openLayer, h, if_false]

/-- With a drawing move more, a sheet shows the layer drawn on. -/
lemma openLayer_draw (sh : Sheet) (st : Step) :
    (sh.draw st).openLayer = sh.openLayer.draw st.before.position st.after.position := by
  by_cases h : sh.last.travels = []
  · have hdraw : (sh.draw st).last.travels = [] := by simp only [draw, h, if_true]
    rw [openLayer_of_drawing h, openLayer_of_drawing hdraw, first_draw]
    simp [OpenLayer.draw, draw, h, Leg.path, Leg.strokes, Step.points]
  · have hdraw : (sh.draw st).last.travels = [] := by simp only [draw, h, if_false]
    rw [openLayer_of_waiting h, openLayer_of_drawing hdraw, first_draw]
    simp [OpenLayer.draw, draw, h, Leg.path, Leg.strokes, Step.points]

/-- With a travel more, a sheet shows the layer with the pen lifted. -/
lemma openLayer_travel (sh : Sheet) (st : Step) : (sh.travel st).openLayer = sh.openLayer.lift := by
  have htravel : (sh.travel st).last.travels ≠ [] := by simp [travel]
  have hpaths : (sh.travel st).legs.map Leg.path = sh.ended.map Leg.path ++ [sh.last.path] := by
    simp [travel, legs, Leg.path, Leg.strokes]
  rw [openLayer_of_waiting htravel, first_travel, hpaths]
  by_cases h : sh.last.travels = []
  · have hpen : sh.last.path.isEmpty = false := by simpa using sh.last.path_ne_nil
    rw [openLayer_of_drawing h]
    simp [OpenLayer.lift, hpen]
  · rw [openLayer_of_waiting h]
    simp [OpenLayer.lift, legs]

/-! ### Moves and segments of a sheet -/

/-- A sheet's legs are well formed, all but the last have travels behind them, and every drawing
move but the first ends at the height of the first. -/
structure Valid (sh : Sheet) : Prop where
  legs : ∀ l ∈ sh.legs, l.Valid
  ended : ∀ l ∈ sh.ended, l.travels ≠ []
  height : ∀ st ∈ sh.strokes.tail, (st.height != sh.first.height) = false

/-- The strokes of a sheet start with the move that opens it. -/
lemma strokes_eq_cons (sh : Sheet) : sh.strokes = sh.first :: sh.strokes.tail := by
  obtain ⟨ended, last⟩ := sh
  cases ended <;> rfl

/-- The moves of a sheet start with the move that opens it. -/
lemma exists_moves_eq_cons (sh : Sheet) : ∃ rest, sh.moves = sh.first :: rest := by
  obtain ⟨ended, last⟩ := sh
  cases ended <;> exact ⟨_, rfl⟩

/-- A drawing move is added to the strokes of a sheet. -/
lemma strokes_draw (sh : Sheet) (st : Step) : (sh.draw st).strokes = sh.strokes ++ [st] := by
  unfold draw
  split <;> simp [strokes, legs, Leg.strokes]

/-- A travel is not. -/
lemma strokes_travel (sh : Sheet) (st : Step) : (sh.travel st).strokes = sh.strokes := by
  simp [travel, strokes, legs, Leg.strokes]

/-- A drawing move is added to the moves of a sheet. -/
lemma moves_draw (sh : Sheet) (st : Step) : (sh.draw st).moves = sh.moves ++ [st] := by
  unfold draw
  split
  · rename_i h
    simp [moves, legs, Leg.moves, Leg.strokes, h]
  · simp [moves, legs, Leg.moves, Leg.strokes]

/-- A travel is added to the moves of a sheet. -/
lemma moves_travel (sh : Sheet) (st : Step) : (sh.travel st).moves = sh.moves ++ [st] := by
  simp [travel, moves, legs, Leg.moves, Leg.strokes]

/-- The strokes of a sheet are those of its moves that draw. -/
lemma filter_moves {sh : Sheet} (h : ∀ l ∈ sh.legs, l.Valid) :
    sh.moves.filter Step.draws = sh.strokes := by
  rw [moves, strokes, List.filter_flatMap]
  exact List.flatMap_congr fun l hl => (h l hl).filter_moves

/-- The segments of a layer are those of the strokes of its sheet. -/
lemma segments_layer (sh : Sheet) : sh.layer.segments = sh.strokes.map Step.segment := by
  have hlegs : (sh.legs.map Leg.path).flatMap Path.segments = sh.strokes.map Step.segment := by
    simp [strokes, List.flatMap_map, List.map_flatMap, Leg.segments_path]
  unfold Layer.segments layer
  rw [List.flatMap_append, hlegs]
  split <;> simp [Path.segments]

/-- A new sheet is well formed. -/
lemma valid_start {st : Step} (h : st.draws = true) : (start st).Valid where
  legs := by
    intro l hl
    obtain rfl := List.mem_singleton.mp hl
    exact ⟨by simpa [start, Leg.strokes] using h, by simp [start]⟩
  ended := by simp [start]
  height := by simp [start, strokes, Sheet.legs, Leg.strokes]

/-- The move that opens a well-formed sheet draws. -/
lemma Valid.draws_first {sh : Sheet} (h : sh.Valid) : sh.first.draws = true := by
  obtain ⟨ended, last⟩ := sh
  cases ended with
  | nil => exact (h.legs last (by simp [Sheet.legs])).strokes last.first (by simp [Leg.strokes])
  | cons l ls => exact (h.legs l (by simp [Sheet.legs])).strokes l.first (by simp [Leg.strokes])

/-- A sheet stays well formed when a move draws at its height. -/
lemma Valid.draw {sh : Sheet} (h : sh.Valid) {st : Step} (hd : st.draws = true)
    (hz : (st.height != sh.first.height) = false) : (sh.draw st).Valid where
  legs := by
    unfold Sheet.draw
    split
    · intro l hl
      rcases List.mem_append.mp hl with hl | hl
      · exact h.legs l (List.mem_append_left _ hl)
      · obtain rfl := List.mem_singleton.mp hl
        have hlast := h.legs sh.last (by simp [Sheet.legs])
        refine ⟨fun st' hst' => ?_, hlast.travels⟩
        have hst' : st' ∈ sh.last.strokes ∨ st' = st := by
          simpa [Leg.strokes, or_assoc] using hst'
        rcases hst' with hst' | rfl
        · exact hlast.strokes st' hst'
        · exact hd
    · intro l hl
      rcases List.mem_append.mp hl with hl | hl
      · exact h.legs l hl
      · obtain rfl := List.mem_singleton.mp hl
        exact ⟨by simpa [Leg.strokes] using hd, by simp⟩
  ended := by
    unfold Sheet.draw
    split
    · exact h.ended
    · rename_i hlast
      intro l hl
      rcases List.mem_append.mp hl with hl | hl
      · exact h.ended l hl
      · obtain rfl := List.mem_singleton.mp hl
        exact hlast
  height := by
    rw [first_draw, strokes_draw, strokes_eq_cons, List.cons_append, List.tail_cons]
    intro st' hst'
    rcases List.mem_append.mp hst' with hst' | hst'
    · exact h.height st' hst'
    · obtain rfl := List.mem_singleton.mp hst'
      exact hz

/-- A sheet stays well formed when the machine travels. -/
lemma Valid.travel {sh : Sheet} (h : sh.Valid) {st : Step} (ht : st.travels = true) :
    (sh.travel st).Valid where
  legs := by
    intro l hl
    rcases List.mem_append.mp hl with hl | hl
    · exact h.legs l (List.mem_append_left _ hl)
    · obtain rfl := List.mem_singleton.mp hl
      have hlast := h.legs sh.last (by simp [Sheet.legs])
      refine ⟨hlast.strokes, fun st' hst' => ?_⟩
      rcases List.mem_append.mp hst' with hst' | hst'
      · exact hlast.travels st' hst'
      · obtain rfl := List.mem_singleton.mp hst'
        exact ht
  ended := h.ended
  height := by
    rw [first_travel, strokes_travel]
    exact h.height

end Sheet

/-! ## Plans -/

/-- A plan: the travels in front of the first layer and, once something is drawn, the sheets of
the finished layers and that of the layer being drawn. -/
inductive Plan where
  | blank (lead : List Step)
  | drawn (lead : List Step) (finished : List Sheet) (current : Sheet)
  deriving DecidableEq, Repr

namespace Plan

/-- The travels in front of the first layer. -/
def lead : Plan → List Step
  | blank lead => lead
  | drawn lead _ _ => lead

/-- The sheets of a plan. -/
def sheets : Plan → List Sheet
  | blank _ => []
  | drawn _ finished current => finished ++ [current]

/-- The moves of a plan. -/
def moves (p : Plan) : List Step := p.lead ++ p.sheets.flatMap Sheet.moves

/-- The recorder that a plan shows. -/
def recorder : Plan → Recorder
  | blank _ => {}
  | drawn _ finished current => ⟨(finished.map Sheet.layer).toArray, some current.openLayer⟩

/-- The plan after a drawing move, which goes to the sheet at its height or opens a new one. -/
def draw (st : Step) : Plan → Plan
  | blank lead => drawn lead [] (.start st)
  | drawn lead finished current =>
    if st.height != current.first.height then drawn lead (finished ++ [current]) (.start st)
    else drawn lead finished (current.draw st)

/-- The plan after a travel, which goes to the sheet being drawn, or in front of all. -/
def travel (st : Step) : Plan → Plan
  | blank lead => blank (lead ++ [st])
  | drawn lead finished current => drawn lead finished (current.travel st)

/-- The plan after a step. What is not a move is left out. -/
def take (p : Plan) (st : Step) : Plan :=
  if st.draws then p.draw st else if st.isMove then p.travel st else p

/-! ### The recorder follows the plan -/

/-- The layers of the recorder are those of the sheets. -/
lemma layers_recorder (p : Plan) : p.recorder.layers = p.sheets.map Sheet.layer := by
  cases p with
  | blank lead => rfl
  | drawn lead finished current =>
    simp [recorder, Recorder.layers, sheets, Sheet.layer_openLayer]

/-- A recorded drawing move draws a line, any other move lifts the pen. -/
lemma record_eq {st : Step} (h : st.isMove = true) (l : OpenLayer) :
    l.record st.before st.after =
      if st.draws then l.draw st.before.position st.after.position else l.lift := by
  rw [OpenLayer.record, Step.extruding_after h]

/-- After a drawing move, the recorder shows the plan with it. -/
lemma recorder_draw (p : Plan) {st : Step} (hd : st.draws = true) :
    (p.draw st).recorder = p.recorder.take st := by
  have hrecord := record_eq (Step.isMove_of_draws hd)
  simp only [hd, if_true] at hrecord
  rw [Recorder.take, hd, if_pos rfl]
  cases p with
  | blank lead =>
    simp [draw, recorder, Recorder.needsLayer, Recorder.openLayer, Recorder.record, hrecord,
      Sheet.openLayer_start]
  | drawn lead finished current =>
    have hneeds : Recorder.needsLayer (recorder (drawn lead finished current)) st.height =
        (st.height != current.first.height) := rfl
    rw [hneeds, draw]
    split
    · simp [recorder, Recorder.openLayer, Recorder.record, hrecord, Sheet.openLayer_start,
        Sheet.layer_openLayer]
    · simp [recorder, Recorder.record, hrecord, Sheet.openLayer_draw]

/-- After a travel, the recorder shows the plan with it. -/
lemma recorder_travel (p : Plan) {st : Step} (ht : st.travels = true) :
    (p.travel st).recorder = p.recorder.take st := by
  have hm := Step.isMove_of_travels ht
  have hd := Step.draws_of_travels ht
  have hrecord := record_eq hm
  simp only [hd, Bool.false_eq_true, if_false] at hrecord
  rw [Recorder.take, hd, if_neg (by simp), if_pos hm]
  cases p with
  | blank lead => rfl
  | drawn lead finished current =>
    simp [travel, recorder, Recorder.record, hrecord, Sheet.openLayer_travel]

/-- **The recorder follows the plan**: after a step, the recorder shows the plan after that
step. -/
theorem recorder_take (p : Plan) (st : Step) : (p.take st).recorder = p.recorder.take st := by
  unfold take
  split
  · rename_i hd
    exact recorder_draw p hd
  · rename_i hd
    have hd : st.draws = false := by simpa using hd
    split
    · rename_i hm
      exact recorder_travel p (Step.travels_of_isMove hm hd)
    · rename_i hm
      simp [Recorder.take, hd, hm]

/-- After steps, the recorder shows the plan. -/
theorem recorder_foldl_take (p : Plan) (ts : List Step) :
    (ts.foldl take p).recorder = ts.foldl Recorder.take p.recorder := by
  induction ts generalizing p with
  | nil => rfl
  | cons st ts ih => rw [List.foldl_cons, List.foldl_cons, ih, recorder_take]

/-! ### Nothing is lost -/

/-- A drawing move is added to the moves of a plan. -/
lemma moves_draw (p : Plan) (st : Step) : (p.draw st).moves = p.moves ++ [st] := by
  have hstart : (Sheet.start st).moves = [st] := rfl
  cases p with
  | blank lead => simp [draw, moves, Plan.lead, sheets, hstart]
  | drawn lead finished current =>
    rw [draw]
    split <;> simp [moves, Plan.lead, sheets, hstart, Sheet.moves_draw]

/-- A travel is added to the moves of a plan. -/
lemma moves_travel (p : Plan) (st : Step) : (p.travel st).moves = p.moves ++ [st] := by
  cases p with
  | blank lead => simp [travel, moves, Plan.lead, sheets]
  | drawn lead finished current => simp [travel, moves, Plan.lead, sheets, Sheet.moves_travel]

/-- A step is added to the moves of a plan iff it is a move. -/
lemma moves_take (p : Plan) (st : Step) :
    (p.take st).moves = p.moves ++ [st].filter Step.isMove := by
  unfold take
  split
  · rename_i hd
    simp [moves_draw, Step.isMove_of_draws hd]
  · split
    · rename_i hm
      simp [moves_travel, hm]
    · rename_i hm
      simp [hm]

/-- **Nothing is lost**: a plan holds every move of its steps once, and in order. -/
theorem moves_foldl_take (p : Plan) (ts : List Step) :
    (ts.foldl take p).moves = p.moves ++ ts.filter Step.isMove := by
  induction ts generalizing p with
  | nil => simp
  | cons st ts ih =>
    rw [List.foldl_cons, ih, moves_take, List.append_assoc, ← List.filter_append]
    rfl

/-! ### Where a plan is cut -/

/-- A plan is well formed: nothing draws in front of its sheets, the sheets are well formed, and
each opens at another height than the one in front of it. -/
structure Valid (p : Plan) : Prop where
  lead : ∀ st ∈ p.lead, st.travels = true
  sheets : ∀ sh ∈ p.sheets, sh.Valid
  heights : p.sheets.IsChain fun sh sh' => (sh'.first.height != sh.first.height) = true

/-- A plan stays well formed when a move draws. -/
lemma Valid.draw {p : Plan} (h : p.Valid) {st : Step} (hd : st.draws = true) :
    (p.draw st).Valid := by
  cases p with
  | blank lead =>
    refine ⟨h.lead, fun sh hsh => ?_, .singleton _⟩
    obtain rfl := List.mem_singleton.mp hsh
    exact Sheet.valid_start hd
  | drawn lead finished current =>
    have hfinished : ∀ sh ∈ finished, sh.Valid := fun sh hsh =>
      h.sheets sh (List.mem_append_left _ hsh)
    have hcurrent : current.Valid := h.sheets current (by simp [Plan.sheets])
    have hheights := h.heights
    rw [Plan.draw]
    split
    · rename_i hz
      refine ⟨h.lead, fun sh hsh => ?_, ?_⟩
      · rcases List.mem_append.mp hsh with hsh | hsh
        · exact h.sheets sh hsh
        · obtain rfl := List.mem_singleton.mp hsh
          exact Sheet.valid_start hd
      · refine List.IsChain.append hheights (.singleton _) fun sh hsh sh' hsh' => ?_
        obtain rfl : current = sh := by simpa [Plan.sheets] using hsh
        obtain rfl : Sheet.start st = sh' := by simpa using hsh'
        exact hz
    · rename_i hz
      refine ⟨h.lead, fun sh hsh => ?_, ?_⟩
      · rcases List.mem_append.mp hsh with hsh | hsh
        · exact hfinished sh hsh
        · obtain rfl := List.mem_singleton.mp hsh
          exact hcurrent.draw hd (by simpa using hz)
      · obtain ⟨hfirst, -, hlast⟩ := List.isChain_append.mp hheights
        refine hfirst.append (.singleton _) fun sh hsh sh' hsh' => ?_
        obtain rfl : current.draw st = sh' := by simpa using hsh'
        rw [Sheet.first_draw]
        exact hlast sh hsh current (by simp)

/-- A plan stays well formed when the machine travels. -/
lemma Valid.travel {p : Plan} (h : p.Valid) {st : Step} (ht : st.travels = true) :
    (p.travel st).Valid := by
  cases p with
  | blank lead =>
    refine ⟨fun st' hst' => ?_, h.sheets, h.heights⟩
    rcases List.mem_append.mp hst' with hst' | hst'
    · exact h.lead st' hst'
    · obtain rfl := List.mem_singleton.mp hst'
      exact ht
  | drawn lead finished current =>
    refine ⟨h.lead, fun sh hsh => ?_, ?_⟩
    · rcases List.mem_append.mp hsh with hsh | hsh
      · exact h.sheets sh (List.mem_append_left _ hsh)
      · obtain rfl := List.mem_singleton.mp hsh
        exact (h.sheets current (by simp [Plan.sheets])).travel ht
    · obtain ⟨hfirst, -, hlast⟩ := List.isChain_append.mp h.heights
      refine hfirst.append (.singleton _) fun sh hsh sh' hsh' => ?_
      obtain rfl : current.travel st = sh' := by simpa using hsh'
      rw [Sheet.first_travel]
      exact hlast sh hsh current (by simp)

/-- A plan stays well formed at every step. -/
lemma Valid.take {p : Plan} (h : p.Valid) (st : Step) : (p.take st).Valid := by
  unfold Plan.take
  split
  · rename_i hd
    exact h.draw hd
  · rename_i hd
    split
    · rename_i hm
      exact h.travel (Step.travels_of_isMove hm (by simpa using hd))
    · exact h

/-- **A plan stays well formed**: its legs are cut at travels, its sheets at heights. -/
theorem Valid.foldl_take {p : Plan} (h : p.Valid) (ts : List Step) : (ts.foldl Plan.take p).Valid := by
  induction ts generalizing p with
  | nil => exact h
  | cons st ts ih => exact ih (h.take st)

/-- A plan without moves is well formed. -/
lemma valid_blank : (blank []).Valid := ⟨by simp [lead], by simp [sheets], .nil⟩

/-- The drawing moves of a well-formed plan are the strokes of its sheets. -/
lemma Valid.filter_moves {p : Plan} (h : p.Valid) :
    p.moves.filter Step.draws = p.sheets.flatMap Sheet.strokes := by
  have hlead : p.lead.filter Step.draws = [] := by
    refine List.filter_eq_nil_iff.mpr fun st hst => ?_
    simp [Step.draws_of_travels (h.lead st hst)]
  rw [moves, List.filter_append, hlead, List.nil_append, List.filter_flatMap]
  exact List.flatMap_congr fun sh hsh => Sheet.filter_moves (h.sheets sh hsh).legs

/-! ### The plan of steps -/

/-- The plan of steps. -/
def of (ts : List Step) : Plan := ts.foldl take (blank [])

/-- The plan of steps is well formed. -/
lemma valid_of (ts : List Step) : (of ts).Valid := valid_blank.foldl_take ts

/-- The plan of steps holds their moves. -/
lemma moves_of (ts : List Step) : (of ts).moves = ts.filter Step.isMove := moves_foldl_take _ ts

/-- The plan of steps holds their drawing moves. -/
theorem strokes_of (ts : List Step) :
    (of ts).sheets.flatMap Sheet.strokes = ts.filter Step.draws := by
  rw [← (valid_of ts).filter_moves, moves_of, List.filter_filter]
  refine List.filter_congr fun st _ => ?_
  cases hd : st.draws with
  | true => simp [Step.isMove_of_draws hd]
  | false => rfl

/-- The layers that steps leave are those that their plan shows. -/
theorem layers_foldl_take (ts : List Step) :
    (ts.foldl Recorder.take {}).layers = (of ts).sheets.map Sheet.layer := by
  rw [← layers_recorder, of, recorder_foldl_take]
  rfl

end Plan

end Toolpath
