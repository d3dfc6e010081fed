import Toolpath.Proofs.Plan
/-!
# What is drawn

The layers of a document against its drawing moves: every drawing move is one segment, in the order
of the lines; a layer is a block of drawing moves that starts where a move draws at another height;
and a path is a row of drawing moves without a travel between them.

## Main definitions

* `Toolpath.Layer.Holds` — a layer holds a block of drawing moves.
* `Toolpath.TravelBetween`, `Toolpath.TravelBehind` — a travel between two steps, and one behind a
  drawing move and in front of the next.

## Main results

* `Toolpath.segments_resultOf` — the segments of a document are its drawing moves.
* `Toolpath.layers_resultOf` — the layers of a document cut its drawing moves at heights.
* `Toolpath.paths_resultOf` — the paths of a layer cut its drawing moves at travels.
-/

namespace Toolpath

/-! ## Segments -/

/-- The segments of the layers that steps leave are their drawing moves. -/
lemma segments_foldl_take (ts : List Step) :
    Geometry.segments (ts.foldl Recorder.take {}).layers =
      (ts.filter Step.draws).map Step.segment := by
  rw [Plan.layers_foldl_take, ← Plan.strokes_of]
  simp [Geometry.segments, List.flatMap_map, List.map_flatMap, Sheet.segments_layer]

/-- The drawing moves of the first lines of a document. -/
lemma filter_strokesOf (s : List Char) (n : Nat) :
    ((stepsOf s).filter (·.line < n)).filter Step.draws = (strokesOf s).filter (·.line < n) := by
  rw [strokesOf, List.filter_filter, List.filter_filter]
  exact List.filter_congr fun st _ => Bool.and_comm _ _

/-- A step of a document draws iff its line is a straight move whose last word with the letter
`e` is a number that feeds material in the state of the run in front of the line. -/
lemma mem_strokesOf {s : List Char} {st : Step} :
    st ∈ strokesOf s ↔
      (∃ text, (sourceLines s)[st.line]? = some text ∧ st.block = Block.read text) ∧
        st.before = (Run.upTo s st.line).machine ∧ st.block.code ∈ moveCodes ∧
        ∃ e, st.block.value ['e'] = some e ∧
          0.0 < st.before.positioning.change st.before.e e := by
  rw [strokesOf, List.mem_filter, mem_stepsOf, Step.draws_iff]
  constructor
  · rintro ⟨⟨htext, -, hbefore⟩, hcode, he⟩
    exact ⟨htext, hbefore, hcode, he⟩
  · rintro ⟨htext, hbefore, hcode, he⟩
    exact ⟨⟨htext, Block.isBlank_of_mem_moveCodes hcode, hbefore⟩, hcode, he⟩

/-- **Every drawing move is one segment.** The segments of a document are, in the order of the
lines, those from where the machine is in front of a drawing move to where it is behind it; the
drawing moves are the straight moves whose last word with the letter `e` is a number that feeds
material, and as many are counted. After any number of lines the segments are those of the drawing
moves in these lines, so that no later line changes one.

**Proof sketch.** The recorder shows the plan of the steps (`Plan.layers_foldl_take`). The
segments of a sheet are its strokes (`Sheet.segments_layer`), since the path of a leg has two
points for each stroke, and the strokes of all sheets are the drawing moves (`Plan.strokes_of`). -/
theorem segments_resultOf (s : List Char) :
    Geometry.segments (resultOf s).layers = (strokesOf s).map Step.segment ∧
      (resultOf s).tally.extruding = (strokesOf s).length ∧
      (strokesOf s).Pairwise (·.line < ·.line) ∧
      (∀ st : Step, st ∈ strokesOf s ↔
        (∃ text, (sourceLines s)[st.line]? = some text ∧ st.block = Block.read text) ∧
          st.before = (Run.upTo s st.line).machine ∧
          st.block.code ∈ [['G', '0'], ['G', '1']] ∧
          ∃ front w back e, st.block.words = front ++ w :: back ∧ w.key = ['e'] ∧
            (∀ v ∈ back, v.key ≠ ['e']) ∧ w.value = some e ∧
            0.0 < st.before.positioning.change st.before.e e) ∧
      (∀ st ∈ strokesOf s, st.segment =
        ⟨(Run.upTo s st.line).machine.position, (Run.upTo s (st.line + 1)).machine.position⟩) ∧
      ∀ n, Geometry.segments (Run.upTo s n).recorder.layers =
        ((strokesOf s).filter (·.line < n)).map Step.segment := by
  refine ⟨?_, ?_, ?_, fun st => ?_, fun st hst => ?_, fun n => ?_⟩
  · have hlayers : (resultOf s).layers = ((stepsOf s).foldl Recorder.take {}).layers := by
      rw [← recorder_ofText]
      rfl
    rw [hlayers, segments_foldl_take, strokesOf]
  · have htally : (resultOf s).tally = _ := tally_ofText s
    rw [htally, Tally.extruding_foldl_take, strokesOf]
    exact Nat.zero_add _
  · exact (pairwise_line_stepsOf s).filter _
  · rw [mem_strokesOf]
    simp only [Block.value_eq_some_iff]
    constructor
    · rintro ⟨htext, hbefore, hcode, e, ⟨front, w, back, hwords, hk, hv, hback⟩, hfeed⟩
      exact ⟨htext, hbefore, hcode, front, w, back, e, hwords, hk, hback, hv, hfeed⟩
    · rintro ⟨htext, hbefore, hcode, front, w, back, e, hwords, hk, hback, hv, hfeed⟩
      exact ⟨htext, hbefore, hcode, e, ⟨front, w, back, hwords, hk, hv, hback⟩, hfeed⟩
  · have hstep := (List.mem_filter.mp hst).1
    rw [Step.segment, after_eq_upTo hstep, (mem_stepsOf.mp hstep).2.2]
  · rw [recorder_upTo, segments_foldl_take, filter_strokesOf]

/-! ## Layers -/

/-- A layer holds a block of drawing moves: it has the height and the line of the first one, the
later ones end at its height, and its segments are those of the block. -/
def Layer.Holds (l : Layer) (block : List Step) : Prop :=
  l.segments = block.map Step.segment ∧
    ∃ first rest, block = first :: rest ∧ l.z = first.height ∧ l.startLine = first.line ∧
      ∀ st ∈ rest, (st.height != l.z) = false

/-- What is no number differs from everything. -/
lemma bne_of_isNaN {x : Float} (h : x.isNaN = true) (y : Float) : (x != y) = true := by
  have hx : x.toModel.unpack = .notANumber := by
    have h : x.toModel.unpack.isNaN = true := h
    cases hu : x.toModel.unpack with
    | notANumber => rfl
    | infinity | zero | finite =>
      rw [hu] at h
      exact absurd h Bool.false_ne_true
  have hbeq : (x == y) = x.toModel.unpack.beq y.toModel.unpack := rfl
  rw [bne, hbeq, hx]
  rfl

/-- The two zeros do not differ. -/
lemma zero_bne_zero : ((0.0 : Float) != -0.0) = false ∧ ((-0.0 : Float) != 0.0) = false := by decide

/-- The layer of a well-formed sheet holds its strokes. -/
lemma Sheet.Valid.holds {sh : Sheet} (h : sh.Valid) : sh.layer.Holds sh.strokes :=
  ⟨sh.segments_layer, sh.first, sh.strokes.tail, sh.strokes_eq_cons, rfl, rfl, h.height⟩

/-- The moves that open the sheets of a plan are some of its drawing moves, in order. -/
lemma sublist_first (sheets : List Sheet) :
    (sheets.map Sheet.first).Sublist (sheets.flatMap Sheet.strokes) := by
  induction sheets with
  | nil => exact .slnil
  | cons sh shs ih =>
    rw [List.map_cons, List.flatMap_cons, sh.strokes_eq_cons, List.cons_append]
    exact (ih.trans (List.sublist_append_right _ _)).cons_cons _

/-- The layers of a document are those that the plan of its steps shows. -/
lemma layers_eq_plan (s : List Char) :
    (resultOf s).layers = (Plan.of (stepsOf s)).sheets.map Sheet.layer := by
  rw [← Plan.layers_foldl_take, ← recorder_ofText]
  rfl

/-- A path of a document is that of a leg of its plan, or waits for points. -/
lemma eq_nil_or_leg_of_mem_paths {s : List Char} {l : Layer} (hl : l ∈ (resultOf s).layers)
    {path : Path} (hpath : path ∈ l.paths) :
    path = [] ∨ ∃ sh ∈ (Plan.of (stepsOf s)).sheets, ∃ leg ∈ sh.legs, path = leg.path := by
  rw [layers_eq_plan] at hl
  obtain ⟨sh, hsh, rfl⟩ := List.mem_map.mp hl
  rcases List.mem_append.mp hpath with hpath | hpath
  · obtain ⟨leg, hleg, rfl⟩ := List.mem_map.mp hpath
    exact .inr ⟨sh, hsh, leg, hleg, rfl⟩
  · split at hpath
    · exact absurd hpath List.not_mem_nil
    · exact .inl (List.mem_singleton.mp hpath)

/-- The layers of a document start at the lines of the moves that open the sheets. -/
lemma layerIndices_eq_plan (s : List Char) :
    (resultOf s).layerIndices = (Plan.of (stepsOf s)).sheets.map fun sh => (sh.first.line : Int) := by
  rw [Result.layerIndices, layers_eq_plan, List.map_map]
  rfl

/-- Heights and lines of the layers of a recorder. -/
def Recorder.heads (r : Recorder) : List (Float × Int) := r.layers.map fun l => (l.z, l.startLine)

/-- Lifting the pen opens no layer. -/
lemma Recorder.heads_take_of_not_draws (r : Recorder) {st : Step} (hd : st.draws = false) :
    (r.take st).heads = r.heads := by
  have hlift : ∀ l : OpenLayer, (l.lift.z, l.lift.startLine) = (l.z, l.startLine) := by
    intro l
    unfold OpenLayer.lift
    split <;> rfl
  unfold Recorder.take
  rw [hd, if_neg (by simp)]
  split
  · rename_i hm
    cases hc : r.current with
    | none => simp [heads, layers, record, hc]
    | some l => simp [heads, layers, record, hc, Plan.record_eq hm, hd, OpenLayer.layer, hlift]
  · rfl

/-- A line that does not draw opens no layer. -/
lemma heads_upTo_succ {s : List Char} {n : Nat} (h : ∀ st ∈ strokesOf s, st.line ≠ n) :
    (Run.upTo s (n + 1)).recorder.heads = (Run.upTo s n).recorder.heads := by
  cases htext : (sourceLines s)[n]? with
  | none => rw [Run.upTo_succ_of_none htext]
  | some text =>
    rw [Run.upTo_succ htext]
    cases hblank : (Block.read text).isBlank with
    | true =>
      rw [Run.readLine_of_isBlank _ n hblank]
      rfl
    | false =>
      obtain ⟨-, hrecorder, -⟩ := Run.readLine_step (Run.upTo s n) n hblank
      rw [hrecorder]
      refine Recorder.heads_take_of_not_draws _ (Bool.eq_false_iff.mpr fun hd => ?_)
      refine h ⟨n, Block.read text, (Run.upTo s n).machine⟩ ?_ rfl
      exact List.mem_filter.mpr ⟨mem_stepsOf.mpr ⟨⟨text, htext, rfl⟩, hblank, rfl⟩, hd⟩

/-- **Layers are cut at heights.** The layers of a document cut its drawing moves into blocks in a
row. A layer has the height and the line of the first move of its block, no later move of the block
ends at a height that differs from it, and each layer starts at a height that differs from the one
in front; what is no number always opens a layer, and the two zeros share one. So the lines of the
layers strictly increase, each is the line of a straight move with a number for `e`, there are no
layers iff nothing draws, and no line that does not draw opens one.

**Proof sketch.** The layers are those that the plan of the steps shows (`Plan.layers_foldl_take`),
and the strokes of its sheets are the blocks. -/
theorem layers_resultOf (s : List Char) :
    (∃ blocks : List (List Step), blocks.flatten = strokesOf s ∧
      List.Forall₂ Layer.Holds (resultOf s).layers blocks) ∧
      (resultOf s).layers.IsChain (fun l l' => (l'.z != l.z) = true) ∧
      (∀ st ∈ strokesOf s, st.height.isNaN = true → (st.line : Int) ∈ (resultOf s).layerIndices) ∧
      (resultOf s).layers.IsChain
        (fun l l' => ¬ (l.z = 0.0 ∧ l'.z = -0.0 ∨ l.z = -0.0 ∧ l'.z = 0.0)) ∧
      (resultOf s).layerIndices.Pairwise (· < ·) ∧
      (∀ i ∈ (resultOf s).layerIndices, ∃ (n : Nat) (text : List Char), i = n ∧
        n < (resultOf s).tally.lines ∧ (sourceLines s)[n]? = some text ∧
        (Block.read text).code ∈ [['G', '0'], ['G', '1']] ∧
        ∃ e, (Block.read text).value ['e'] = some e) ∧
      ((resultOf s).layers = [] ↔ strokesOf s = []) ∧
      ∀ n, (∀ st ∈ strokesOf s, st.line ≠ n) →
        (Run.upTo s (n + 1)).recorder.heads = (Run.upTo s n).recorder.heads := by
  have hvalid := Plan.valid_of (stepsOf s)
  have hstrokes : (Plan.of (stepsOf s)).sheets.flatMap Sheet.strokes = strokesOf s :=
    Plan.strokes_of (stepsOf s)
  have hheights : (resultOf s).layers.IsChain (fun l l' => (l'.z != l.z) = true) := by
    rw [layers_eq_plan, List.isChain_map]
    exact hvalid.heights
  have hfirst : ∀ sh ∈ (Plan.of (stepsOf s)).sheets, sh.first ∈ strokesOf s := by
    intro sh hsh
    rw [← hstrokes]
    exact (sublist_first _).subset (List.mem_map_of_mem hsh)
  refine ⟨⟨(Plan.of (stepsOf s)).sheets.map Sheet.strokes, hstrokes, ?_⟩, hheights,
    fun st hst hnan => ?_, hheights.imp fun l l' hne => ?_, ?_, fun i hi => ?_, ?_,
    fun n hn => heads_upTo_succ hn⟩
  · rw [layers_eq_plan, List.forall₂_map_left_iff, List.forall₂_map_right_iff, List.forall₂_same]
    exact fun sh hsh => (hvalid.sheets sh hsh).holds
  · rw [← hstrokes] at hst
    obtain ⟨sh, hsh, hst⟩ := List.mem_flatMap.mp hst
    rw [sh.strokes_eq_cons] at hst
    rw [layerIndices_eq_plan]
    rcases List.mem_cons.mp hst with rfl | hst
    · exact List.mem_map.mpr ⟨sh, hsh, rfl⟩
    · have hsame := (hvalid.sheets sh hsh).height st hst
      rw [bne_of_isNaN hnan] at hsame
      exact absurd hsame (by simp)
  · rintro (⟨h, h'⟩ | ⟨h, h'⟩)
    · rw [h, h', zero_bne_zero.2] at hne
      exact absurd hne (by simp)
    · rw [h, h', zero_bne_zero.1] at hne
      exact absurd hne (by simp)
  · have hlines : (strokesOf s).Pairwise (·.line < ·.line) := (pairwise_line_stepsOf s).filter _
    rw [← hstrokes] at hlines
    have hpairs := List.pairwise_map.mp (hlines.sublist (sublist_first _))
    rw [layerIndices_eq_plan]
    exact List.pairwise_map.mpr (hpairs.imp Int.ofNat_lt.mpr)
  · rw [layerIndices_eq_plan] at hi
    obtain ⟨sh, hsh, rfl⟩ := List.mem_map.mp hi
    obtain ⟨⟨text, htext, hblock⟩, -, hcode, e, he, -⟩ := mem_strokesOf.mp (hfirst sh hsh)
    rw [hblock] at hcode he
    refine ⟨sh.first.line, text, rfl, ?_, htext, hcode, e, he⟩
    have htally : (resultOf s).tally.lines = (sourceLines s).length := by
      rw [show (resultOf s).tally = _ from tally_ofText s, Tally.lines_foldl_take]
    rw [htally]
    exact (List.getElem?_eq_some_iff.mp htext).1
  · rw [layers_eq_plan, List.map_eq_nil_iff, ← hstrokes]
    constructor
    · intro h
      rw [h]
      rfl
    · intro h
      refine List.eq_nil_iff_forall_not_mem.mpr fun sh hsh => ?_
      have := hfirst sh hsh
      rw [← hstrokes, h] at this
      exact absurd this List.not_mem_nil

/-! ## Paths -/

/-- A travel between the lines of two steps. -/
def TravelBetween (ts : List Step) (a b : Step) : Prop :=
  ∃ t ∈ ts, t.travels = true ∧ a.line < t.line ∧ t.line < b.line

/-- A travel behind the line of a step and in front of the next drawing move, if there is one. -/
def TravelBehind (ts : List Step) (a : Step) : Prop :=
  ∃ t ∈ ts, t.travels = true ∧ a.line < t.line ∧
    ∀ b ∈ ts, b.draws = true → ¬ (a.line < b.line ∧ b.line < t.line)

/-- Only moves count for the travels between two steps. -/
lemma travelBetween_filter_isMove {ts : List Step} {a b : Step} :
    TravelBetween (ts.filter Step.isMove) a b ↔ TravelBetween ts a b := by
  constructor
  · rintro ⟨t, ht, h⟩
    exact ⟨t, (List.mem_filter.mp ht).1, h⟩
  · rintro ⟨t, ht, htravels, h⟩
    exact ⟨t, List.mem_filter.mpr ⟨ht, Step.isMove_of_travels htravels⟩, htravels, h⟩

/-- Only moves count for the travels behind a step. -/
lemma travelBehind_filter_isMove {ts : List Step} {a : Step} :
    TravelBehind (ts.filter Step.isMove) a ↔ TravelBehind ts a := by
  constructor
  · rintro ⟨t, ht, htravels, hlt, hno⟩
    refine ⟨t, (List.mem_filter.mp ht).1, htravels, hlt, fun b hb hd => ?_⟩
    exact hno b (List.mem_filter.mpr ⟨hb, Step.isMove_of_draws hd⟩) hd
  · rintro ⟨t, ht, htravels, hlt, hno⟩
    refine ⟨t, List.mem_filter.mpr ⟨ht, Step.isMove_of_travels htravels⟩, htravels, hlt, ?_⟩
    exact fun b hb hd => hno b (List.mem_filter.mp hb).1 hd

section Order

variable {front row travels back : List Step} {a b : Step}

/-- Between two moves of a row of drawing moves there is no travel. -/
lemma not_travelBetween (hlines : (front ++ (row ++ back)).Pairwise (·.line < ·.line))
    (hrow : ∀ st ∈ row, st.draws = true) (ha : a ∈ row) (hb : b ∈ row) :
    ¬ TravelBetween (front ++ (row ++ back)) a b := by
  rintro ⟨t, ht, htravels, hat, htb⟩
  obtain ⟨-, hrest, hfront⟩ := List.pairwise_append.mp hlines
  rcases List.mem_append.mp ht with ht | ht
  · have := hfront t ht a (List.mem_append_left _ ha)
    omega
  · rcases List.mem_append.mp ht with ht | ht
    · have := Step.draws_of_travels htravels
      rw [hrow t ht] at this
      exact absurd this (by simp)
    · have := (List.pairwise_append.mp hrest).2.2 b hb t ht
      omega

/-- Between a move in front of travels and a move behind them there is a travel. -/
lemma travelBetween (hlines : (front ++ (travels ++ back)).Pairwise (·.line < ·.line))
    (htravels : ∀ st ∈ travels, st.travels = true) (hne : travels ≠ []) (ha : a ∈ front)
    (hb : b ∈ back) : TravelBetween (front ++ (travels ++ back)) a b := by
  obtain ⟨t, ht⟩ := List.exists_mem_of_ne_nil travels hne
  obtain ⟨-, hrest, hfront⟩ := List.pairwise_append.mp hlines
  refine ⟨t, by simp [ht], htravels t ht, hfront a ha t (List.mem_append_left _ ht), ?_⟩
  exact (List.pairwise_append.mp hrest).2.2 t ht b hb

/-- What stands on a later line stands behind. -/
lemma mem_of_line_lt (hlines : (front ++ a :: back).Pairwise (·.line < ·.line))
    (hb : b ∈ front ++ a :: back) (hlt : a.line < b.line) : b ∈ back := by
  rcases List.mem_append.mp hb with hb | hb
  · have := (List.pairwise_append.mp hlines).2.2 b hb a List.mem_cons_self
    omega
  · rcases List.mem_cons.mp hb with rfl | hb
    · omega
    · exact hb

/-- There is a travel behind a drawing move iff the moves up to the next drawing move are some. -/
lemma travelBehind_iff (hlines : (front ++ a :: (travels ++ back)).Pairwise (·.line < ·.line))
    (htravels : ∀ st ∈ travels, st.travels = true) (hback : ∀ st ∈ back.head?, st.draws = true) :
    TravelBehind (front ++ a :: (travels ++ back)) a ↔ travels ≠ [] := by
  constructor
  · rintro ⟨t, ht, htt, hat, hno⟩ rfl
    have ht : t ∈ back := mem_of_line_lt hlines ht hat
    cases back with
    | nil => exact absurd ht List.not_mem_nil
    | cons st rest =>
      have hd : st.draws = true := hback st rfl
      have hast : a.line < st.line :=
        (List.pairwise_cons.mp (List.pairwise_append.mp hlines).2.1).1 st (by simp)
      rcases List.mem_cons.mp ht with rfl | ht
      · rw [Step.draws_of_travels htt] at hd
        exact absurd hd (by simp)
      · have hrest := (List.pairwise_cons.mp (List.pairwise_append.mp hlines).2.1).2
        have hstt : st.line < t.line := (List.pairwise_cons.mp hrest).1 t ht
        exact hno st (by simp) hd ⟨hast, hstt⟩
  · intro hne
    cases travels with
    | nil => exact absurd rfl hne
    | cons t rest =>
      have htail := (List.pairwise_append.mp hlines).2.1
      refine ⟨t, by simp, htravels t (by simp), (List.pairwise_cons.mp htail).1 t (by simp), ?_⟩
      rintro b hb - ⟨hab, hbt⟩
      have hb := mem_of_line_lt hlines hb hab
      rcases List.mem_cons.mp hb with rfl | hb
      · omega
      · have := (List.pairwise_cons.mp (List.pairwise_cons.mp htail).2).1 b hb
        omega

end Order

/-! ### The legs of a plan among its moves -/

/-- The moves of a plan with those of one sheet set apart. -/
lemma Plan.exists_moves_eq {p : Plan} {sh : Sheet} (h : sh ∈ p.sheets) :
    ∃ (front : List Step) (next : List Sheet), (∀ sh' ∈ next, sh' ∈ p.sheets) ∧
      p.moves = front ++ (sh.moves ++ next.flatMap Sheet.moves) := by
  obtain ⟨xs, ys, hsplit⟩ := List.append_of_mem h
  refine ⟨p.lead ++ xs.flatMap Sheet.moves, ys, fun sh' hsh' => ?_, ?_⟩
  · rw [hsplit]
    exact List.mem_append_right _ (List.mem_cons_of_mem _ hsh')
  · rw [Plan.moves, hsplit]
    simp

/-- The moves of a sheet with the strokes of one leg set apart. -/
lemma Sheet.exists_moves_eq {sh : Sheet} {l : Leg} (h : l ∈ sh.legs) :
    ∃ front back, sh.moves = front ++ (l.strokes ++ back) := by
  obtain ⟨xs, ys, hsplit⟩ := List.append_of_mem h
  refine ⟨xs.flatMap Leg.moves, l.travels ++ ys.flatMap Leg.moves, ?_⟩
  rw [Sheet.moves, hsplit]
  simp [Leg.moves]

/-- In a well-formed sheet, travels follow every leg in front of another. -/
lemma Sheet.Valid.isChain_legs {sh : Sheet} (h : sh.Valid) :
    sh.legs.IsChain fun l _ => l.travels ≠ [] := by
  have hended := h.ended
  unfold Sheet.legs
  generalize sh.ended = ended at hended
  induction ended with
  | nil => exact .singleton _
  | cons l ls ih =>
    rw [List.cons_append]
    refine (ih fun l' hl' => hended l' (List.mem_cons_of_mem l hl')).cons fun _ _ => ?_
    exact hended l List.mem_cons_self

section Legs

variable {p : Plan} (hp : p.Valid) (hlines : p.moves.Pairwise (·.line < ·.line)) {sh : Sheet}
  (hsh : sh ∈ p.sheets)

include hp hlines hsh

/-- Between two strokes of a leg there is no travel. -/
lemma not_travelBetween_of_mem_leg {l : Leg} (hl : l ∈ sh.legs) {a b : Step} (ha : a ∈ l.strokes)
    (hb : b ∈ l.strokes) : ¬ TravelBetween p.moves a b := by
  obtain ⟨front, next, -, hmoves⟩ := Plan.exists_moves_eq hsh
  obtain ⟨front', back, hsheet⟩ := Sheet.exists_moves_eq hl
  have hsplit : p.moves = (front ++ front') ++ (l.strokes ++ (back ++ next.flatMap Sheet.moves)) := by
    rw [hmoves, hsheet]
    simp
  rw [hsplit] at hlines ⊢
  exact not_travelBetween hlines ((hp.sheets sh hsh).legs l hl).strokes ha hb

/-- Between a stroke of a leg and one of the next leg there is a travel. -/
lemma travelBetween_of_next_leg {ls ls' : List Leg} {l l' : Leg}
    (hlegs : sh.legs = ls ++ l :: l' :: ls') {a b : Step} (ha : a ∈ l.strokes)
    (hb : b ∈ l'.strokes) : TravelBetween p.moves a b := by
  have hvalid := hp.sheets sh hsh
  have hl : l ∈ sh.legs := by rw [hlegs]; simp
  have hne : l.travels ≠ [] :=
    List.isChain_iff_forall_rel_of_append_cons_cons.mp hvalid.isChain_legs hlegs
  obtain ⟨front, next, -, hmoves⟩ := Plan.exists_moves_eq hsh
  have hsplit : p.moves = (front ++ (ls.flatMap Leg.moves ++ l.strokes)) ++ (l.travels ++
      (l'.strokes ++ (l'.travels ++ (ls'.flatMap Leg.moves ++ next.flatMap Sheet.moves)))) := by
    rw [hmoves, Sheet.moves, hlegs]
    simp [Leg.moves]
  rw [hsplit] at hlines ⊢
  exact travelBetween hlines (hvalid.legs l hl).travels hne (by simp [ha]) (by simp [hb])

/-- Two strokes of a sheet that follow each other are in one leg iff there is no travel between
them. -/
lemma same_leg_iff {a b : Step} (hab : [a, b] <:+: (sh.legs.map Leg.strokes).flatten) :
    (∃ path ∈ sh.legs.map Leg.strokes, a ∈ path ∧ b ∈ path) ↔ ¬ TravelBetween p.moves a b := by
  constructor
  · rintro ⟨path, hpath, ha, hb⟩
    obtain ⟨l, hl, rfl⟩ := List.mem_map.mp hpath
    exact not_travelBetween_of_mem_leg hp hlines hsh hl ha hb
  · intro hno
    have hne : [] ∉ sh.legs.map Leg.strokes := by simp [Leg.strokes]
    -- neighbours in the row of all strokes are neighbours in a leg, or the ends of two legs
    have hchain : (sh.legs.map Leg.strokes).flatten.IsChain fun x y =>
        (∃ path ∈ sh.legs.map Leg.strokes, x ∈ path ∧ y ∈ path) ∨ TravelBetween p.moves x y := by
      refine (List.isChain_flatten hne).mpr ⟨fun path hpath => ?_, ?_⟩
      · refine (List.isChain_isInfix path).imp fun x y hxy => .inl ⟨path, hpath, ?_, ?_⟩
        · exact hxy.subset (by simp)
        · exact hxy.subset (by simp)
      · rw [List.isChain_map]
        refine List.isChain_iff_forall_rel_of_append_cons_cons.mpr fun l l' ls ls' hlegs => ?_
        intro x hx y hy
        exact .inr (travelBetween_of_next_leg hp hlines hsh hlegs (List.mem_of_mem_getLast? hx)
          (List.mem_of_mem_head? hy))
    have hpair := List.IsChain.infix hchain hab
    exact (List.isChain_pair.mp hpair).resolve_right hno

/-- There is a travel behind the last stroke of a sheet iff the sheet ends with travels. -/
lemma travelBehind_last_iff {last : Step}
    (hlast : last ∈ (sh.legs.map Leg.strokes).flatten.getLast?) :
    TravelBehind p.moves last ↔ sh.last.travels ≠ [] := by
  have hlegs : (sh.legs.map Leg.strokes).flatten =
      (sh.ended.map Leg.strokes).flatten ++ sh.last.strokes := by
    simp [Sheet.legs]
  rw [hlegs, List.getLast?_append_of_ne_nil _ (by simp [Leg.strokes])] at hlast
  have hstrokes := List.dropLast_append_getLast? last hlast
  obtain ⟨front, next, hnext, hmoves⟩ := Plan.exists_moves_eq hsh
  have hsplit : p.moves = (front ++ (sh.ended.flatMap Leg.moves ++ sh.last.strokes.dropLast)) ++
      last :: (sh.last.travels ++ next.flatMap Sheet.moves) := by
    have hsheet : sh.moves = sh.ended.flatMap Leg.moves ++
        ((sh.last.strokes.dropLast ++ [last]) ++ sh.last.travels) := by
      rw [hstrokes]
      simp [Sheet.moves, Sheet.legs, Leg.moves]
    rw [hmoves, hsheet]
    simp
  rw [hsplit] at hlines ⊢
  refine travelBehind_iff hlines ?_ fun st hst => ?_
  · exact ((hp.sheets sh hsh).legs sh.last (by simp [Sheet.legs])).travels
  · -- behind the sheet stands the move that opens the next one
    cases next with
    | nil => exact absurd hst (by simp)
    | cons sh' shs =>
      have hvalid := hp.sheets sh' (hnext sh' List.mem_cons_self)
      obtain ⟨rest, hrest⟩ := sh'.exists_moves_eq_cons
      rw [List.flatMap_cons, hrest] at hst
      obtain rfl : sh'.first = st := by simpa using hst
      exact hvalid.draws_first

end Legs

/-- The paths of a layer are rows of drawing moves: two moves that follow each other are in one
path iff there is no travel between them, and the layer ends with an empty path iff there is a
travel behind its last drawing move. -/
structure Layer.CutAtTravels (ts : List Step) (l : Layer) (paths : List (List Step)) : Prop where
  ne_nil : paths ≠ []
  filled : ∀ path ∈ paths, path.flatMap Step.points ≠ []
  same_path_iff : ∀ a b, [a, b] <:+: paths.flatten →
    ((∃ path ∈ paths, a ∈ path ∧ b ∈ path) ↔ ¬ TravelBetween ts a b)
  waiting : ∀ last ∈ paths.flatten.getLast?, TravelBehind ts last →
    l.paths = paths.map (·.flatMap Step.points) ++ [[]]
  drawing : ∀ last ∈ paths.flatten.getLast?, ¬ TravelBehind ts last →
    l.paths = paths.map (·.flatMap Step.points)

/-- **Paths are cut at travels.** The layers of a document hold its drawing moves path by path, in
the order of the lines. Two moves of a layer that follow each other are in one path iff no travel
stands between them, whatever else does. A layer ends with one empty path iff a travel stands
behind its last move and in front of the next drawing move of the document; all other paths hold
points.

**Proof sketch.** The paths are the legs of the plan. In the row of all moves, the strokes of a leg
stand together (`not_travelBetween_of_mem_leg`), and travels follow every leg but the last of a
sheet (`travelBetween_of_next_leg`). -/
theorem paths_resultOf (s : List Char) :
    ∃ sheets : List (List (List Step)), sheets.flatten.flatten = strokesOf s ∧
      List.Forall₂ (Layer.CutAtTravels (stepsOf s)) (resultOf s).layers sheets := by
  have hvalid := Plan.valid_of (stepsOf s)
  have hmoves := Plan.moves_of (stepsOf s)
  have hlines : (Plan.of (stepsOf s)).moves.Pairwise (·.line < ·.line) := by
    rw [hmoves]
    exact (pairwise_line_stepsOf s).filter _
  refine ⟨(Plan.of (stepsOf s)).sheets.map fun sh => sh.legs.map Leg.strokes, ?_, ?_⟩
  · rw [strokesOf, ← Plan.strokes_of]
    simp only [List.flatten_eq_flatMap, List.flatMap_map, List.flatMap_assoc, id_eq]
    rfl
  · rw [layers_eq_plan, List.forall₂_map_left_iff, List.forall₂_map_right_iff, List.forall₂_same]
    intro sh hsh
    have hpaths : (sh.legs.map Leg.strokes).map (·.flatMap Step.points) = sh.legs.map Leg.path := by
      rw [List.map_map]
      rfl
    refine ⟨by simp [Sheet.legs], ?_, fun a b hab => ?_, fun last hlast => ?_, fun last hlast => ?_⟩
    · simp [Leg.strokes, Step.points]
    · rw [same_leg_iff hvalid hlines hsh hab, hmoves, travelBetween_filter_isMove]
    · rw [hpaths, ← travelBehind_filter_isMove, ← hmoves,
        travelBehind_last_iff hvalid hlines hsh hlast]
      intro hne
      simp [Sheet.layer, hne]
    · rw [hpaths, ← travelBehind_filter_isMove, ← hmoves,
        travelBehind_last_iff hvalid hlines hsh hlast]
      intro hnil
      simp [Sheet.layer, not_not.mp hnil]

end Toolpath
