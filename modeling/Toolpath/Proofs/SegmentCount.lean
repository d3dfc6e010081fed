import Toolpath.Proofs.Alike
import Toolpath.Proofs.Drawing
import Toolpath.Summary
/-!
# Counting lines

A layer halves the number of all its points, its geometry the number of points of each path. The
two counts differ by half the number of paths with an odd point at their end. A run adds points in
pairs, so the layers of a document have no such path, and every count of their lines is the number
of drawing moves.

## Main definitions

* `Toolpath.Layer.Paired` — all paths of a layer are pairs of points.

## Main results

* `Toolpath.Layer.segmentCount_eq` — the two counts of the lines of a layer.
* `Toolpath.paired_of_mem_layers` — the layers of a document are pairs of points.
* `Toolpath.segment_counts_agree` — the counts of lines of a document are one number.
-/

namespace Toolpath

/-! ## Pairs of a path -/

/-- The lines of a path hold its points, but for an odd one at the end. -/
lemma Path.ends_segments (path : Path) :
    Geometry.ends path.segments = path.take (2 * (path.length / 2)) := by
  induction path using Path.segments.induct with
  | case1 a b rest ih =>
    have hhalf : 2 * ((a :: b :: rest).length / 2) = 2 * (rest.length / 2) + 1 + 1 := by
      simp only [List.length_cons]
      omega
    rw [hhalf, List.take_succ_cons, List.take_succ_cons, ← ih]
    rfl
  | case2 path hshort =>
    match path, hshort with
    | [], _ => simp [Path.segments, Geometry.ends]
    | [a], _ => simp [Path.segments, Geometry.ends]
    | a :: b :: rest, hshort => exact (hshort a b rest rfl).elim

/-- Lines have two ends each. -/
lemma Geometry.length_ends (lines : List Segment) : (ends lines).length = 2 * lines.length := by
  induction lines with
  | nil => rfl
  | cons line lines ih =>
    rw [ends, List.flatMap_cons, ← ends, List.length_append, ih]
    simp only [List.length_cons, List.length_nil]
    omega

/-- A path has half as many lines as points, rounded down. -/
lemma Path.length_segments (path : Path) : path.segments.length = path.length / 2 := by
  have hlength := congrArg List.length path.ends_segments
  rw [Geometry.length_ends, List.length_take] at hlength
  omega

/-! ## The two counts of a layer -/

/-- Numbers are twice their halves, and one more for each that is odd. -/
lemma sum_eq_two_mul_sum_half (ns : List Nat) :
    ns.sum = 2 * (ns.map (· / 2)).sum + ns.countP (· % 2 = 1) := by
  induction ns with
  | nil => rfl
  | cons n ns ih =>
    rw [List.sum_cons, List.map_cons, List.sum_cons, List.countP_cons, ih]
    rcases Nat.mod_two_eq_zero_or_one n with h | h
    · simp only [h, Nat.zero_ne_one, decide_false, Bool.false_eq_true, if_false]
      omega
    · simp only [h, decide_true, if_true]
      omega

namespace Layer

/-- The number of a layer's paths with an odd number of points. -/
def oddPaths (l : Layer) : Nat := l.paths.countP (·.length % 2 = 1)

/-- The lines of a layer are counted path by path. -/
lemma length_segments (l : Layer) : l.segments.length = (l.shape.map (· / 2)).sum := by
  rw [segments, List.length_flatMap, shape, List.map_map]
  exact congrArg List.sum (List.map_congr_left fun path _ => path.length_segments)

/-- The points of a layer are two for each line, and one for each odd path. -/
lemma pointCount_eq (l : Layer) : l.pointCount = 2 * l.segments.length + l.oddPaths := by
  rw [pointCount, List.length_flatten, ← shape, sum_eq_two_mul_sum_half, length_segments, oddPaths,
    shape, List.countP_map]
  rfl

/-- **The two counts of a layer** differ by half the number of its odd paths. -/
lemma segmentCount_eq (l : Layer) : l.segmentCount = l.segments.length + l.oddPaths / 2 := by
  rw [segmentCount, pointCount_eq]
  omega

example (a b : Point) :
    (Layer.mk 0.0 0 [[a], [b]]).pointCount = 2 ∧ (Layer.mk 0.0 0 [[a], [b]]).segments = [] :=
  ⟨rfl, rfl⟩

/-- All paths of a layer are pairs of points. -/
def Paired (l : Layer) : Prop := ∀ path ∈ l.paths, path.length % 2 = 0

/-- In a layer of pairs no path is odd. -/
lemma Paired.oddPaths_eq {l : Layer} (h : l.Paired) : l.oddPaths = 0 :=
  List.countP_eq_zero.mpr fun path hpath => by simp [h path hpath]

/-- In a layer of pairs the two counts are one. -/
lemma Paired.segmentCount_eq {l : Layer} (h : l.Paired) : l.segmentCount = l.segments.length := by
  rw [l.segmentCount_eq, h.oddPaths_eq]
  rfl

/-- In a layer of pairs each path with points has a line. -/
lemma Paired.countP_paths_le {l : Layer} (h : l.Paired) :
    l.paths.countP (!·.isEmpty) ≤ l.segments.length := by
  have hle : ∀ paths : List Path, (∀ path ∈ paths, path.length % 2 = 0) →
      paths.countP (!·.isEmpty) ≤ (paths.flatMap Path.segments).length := by
    intro paths hpaths
    induction paths with
    | nil => exact Nat.zero_le _
    | cons path paths ih =>
      have hrest := ih fun p hp => hpaths p (List.mem_cons_of_mem _ hp)
      have heven := hpaths path List.mem_cons_self
      rw [List.countP_cons, List.flatMap_cons, List.length_append, path.length_segments]
      cases path with
      | nil => simpa using hrest
      | cons a path =>
        simp only [List.length_cons] at heven
        simp only [List.isEmpty_cons, Bool.not_false, if_true, List.length_cons]
        omega
  exact hle l.paths h

end Layer

/-! ## Layers of a document -/

/-- The path of a leg is pairs of points. -/
lemma Leg.length_path (l : Leg) : l.path.length = 2 * l.strokes.length := by
  unfold path
  induction l.strokes with
  | nil => rfl
  | cons st ts ih =>
    rw [List.flatMap_cons, List.length_append, ih]
    simp only [Step.points, List.length_cons, List.length_nil]
    omega

/-- The layers of a document are pairs of points. -/
lemma paired_of_mem_layers {s : List Char} {l : Layer} (hl : l ∈ (resultOf s).layers) :
    l.Paired := by
  intro path hpath
  rcases eq_nil_or_leg_of_mem_paths hl hpath with rfl | ⟨sh, -, leg, -, rfl⟩
  · rfl
  · rw [leg.length_path, Nat.mul_mod_right]

/-- A layer of a document has a path with points. -/
lemma one_le_countP_paths {s : List Char} {l : Layer} (hl : l ∈ (resultOf s).layers) :
    1 ≤ l.paths.countP (!·.isEmpty) := by
  rw [layers_eq_plan] at hl
  obtain ⟨sh, -, rfl⟩ := List.mem_map.mp hl
  refine List.countP_pos_iff.mpr ⟨sh.last.path, ?_, by simp [sh.last.path_ne_nil]⟩
  simp [Sheet.layer, Sheet.legs]

/-- The lines of a document are those of its drawing moves. -/
lemma segments_eq_strokes (s : List Char) :
    Geometry.segments (resultOf s).layers = (strokesOf s).map Step.segment := by
  have hlayers : (resultOf s).layers = ((stepsOf s).foldl Recorder.take {}).layers := by
    rw [← recorder_ofText]
    rfl
  rw [hlayers, segments_foldl_take, strokesOf]

/-- The moves that draw are counted one by one. -/
lemma extruding_eq_length_strokes (s : List Char) :
    (resultOf s).tally.extruding = (strokesOf s).length := by
  have htally : (resultOf s).tally = _ := tally_ofText s
  rw [htally, Tally.extruding_foldl_take, strokesOf]
  exact Nat.zero_add _

/-! ## Counts of a summary -/

/-- The lines of a summary are those of its layers. -/
lemma Summary.segments_of (r : Result) (withTable : Bool) :
    (Summary.of r withTable).segments = (r.layers.map Layer.segmentCount).sum := by
  show r.layers.foldr (fun l n => l.segmentCount + n) 0 = _
  rw [List.sum_eq_foldr, List.foldr_map]

/-- The rows of the table count the lines of the layers in order. -/
lemma LayerRow.map_segments (layers : List Layer) :
    (layers.mapIdx LayerRow.of).map (·.segments) = layers.map Layer.segmentCount := by
  refine List.ext_getElem (by simp) fun i _ _ => ?_
  rw [List.getElem_map, List.getElem_mapIdx, List.getElem_map]
  rfl

/-- The lines of layers of pairs are counted layer by layer. -/
lemma sum_segmentCount {layers : List Layer} (h : ∀ l ∈ layers, l.Paired) :
    (layers.map Layer.segmentCount).sum = (Geometry.segments layers).length := by
  rw [Geometry.segments, List.length_flatMap]
  exact congrArg List.sum (List.map_congr_left fun l hl => (h l hl).segmentCount_eq)

/-- All counts of the lines of a result are one: on every layer, in the summary, among the moves
and in the table, where each row has a path with points, and at least as many lines as such
paths. -/
structure Result.CountsAgree (r : Result) : Prop where
  layer : ∀ l ∈ r.layers, l.segmentCount = l.segments.length
  summary : ∀ withTable, (Summary.of r withTable).segments = (Geometry.segments r.layers).length
  moves : r.tally.extruding = (Geometry.segments r.layers).length
  table : ∃ rows, (Summary.of r true).table = some rows ∧
    (rows.map (·.segments)).sum = (Geometry.segments r.layers).length ∧
    ∀ row ∈ rows, 1 ≤ row.paths ∧ row.paths ≤ row.segments

/-- Measuring a run changes no layer. -/
lemma layers_interpret (measured : Bool) (clock : Clock) (s : List Char) :
    (interpret measured clock s).result.layers = (resultOf s).layers := by
  rw [result_interpret]
  split <;> rfl

/-- All counts of the lines of a document are one, whether its run is measured or not. -/
lemma countsAgree_interpret (measured : Bool) (clock : Clock) (s : List Char) :
    (interpret measured clock s).result.CountsAgree := by
  have hlayers := layers_interpret measured clock s
  have hmoves : (interpret measured clock s).result.tally.extruding =
      (resultOf s).tally.extruding := by
    rw [result_interpret]
    split <;> rfl
  generalize (interpret measured clock s).result = r at hlayers hmoves
  have hpaired : ∀ l ∈ r.layers, l.Paired := by
    rw [hlayers]
    exact fun l hl => paired_of_mem_layers hl
  refine ⟨fun l hl => (hpaired l hl).segmentCount_eq, fun withTable => ?_, ?_,
    r.layers.mapIdx LayerRow.of, rfl, ?_, fun row hrow => ?_⟩
  · rw [Summary.segments_of, sum_segmentCount hpaired]
  · rw [hmoves, extruding_eq_length_strokes, hlayers, segments_eq_strokes, List.length_map]
  · rw [LayerRow.map_segments, sum_segmentCount hpaired]
  · obtain ⟨i, hi, rfl⟩ := List.mem_mapIdx.mp hrow
    have hmem : r.layers[i] ∈ r.layers := List.getElem_mem hi
    have hpoints : 1 ≤ r.layers[i].paths.countP (!·.isEmpty) :=
      one_le_countP_paths (s := s) (by rw [← hlayers]; exact hmem)
    refine ⟨hpoints, ?_⟩
    show r.layers[i].paths.countP (!·.isEmpty) ≤ r.layers[i].segmentCount
    rw [(hpaired _ hmem).segmentCount_eq]
    exact (hpaired _ hmem).countP_paths_le

/-- **The counts of lines agree.** The lines of a layer of any paths are pairs of the points of
each path, without an odd one at its end. They are at most as many as half the points of the
layer, and the difference is half the number of odd paths, rounded down. The lines of layers are
those of each layer in a row. For a document all counts are one: the lines of each layer by
geometry and by half its points, those of the summary, of the geometry and of the table, and the
moves that draw; and each row of the table has a path with points, and at least as many lines as
such paths.

**Proof sketch.** The points of a layer are two for each line and one for each odd path
(`Layer.pointCount_eq`). The recorder adds points in pairs (`paired_of_mem_layers`), so that no
path of a document is odd. -/
theorem segment_counts_agree :
    (∀ path : Path, Geometry.ends path.segments = path.take (2 * (path.length / 2))) ∧
      (∀ l : Layer, l.segments = (l.paths.map Path.segments).flatten ∧
        l.segments.length ≤ l.segmentCount ∧
        l.segmentCount - l.segments.length = l.paths.countP (·.length % 2 = 1) / 2) ∧
      (∀ layers : List Layer,
        (layers.map Layer.segments).flatten = Geometry.segments layers) ∧
      ∀ (measured : Bool) (clock : Clock) (s : List Char),
        (interpret measured clock s).result.CountsAgree := by
  refine ⟨Path.ends_segments, fun l => ⟨List.flatMap_def, ?_, ?_⟩, fun _ => List.flatMap_def.symm,
    countsAgree_interpret⟩
  · rw [l.segmentCount_eq]
    exact Nat.le_add_right _ _
  · rw [l.segmentCount_eq, Nat.add_sub_cancel_left]
    rfl

end Toolpath
