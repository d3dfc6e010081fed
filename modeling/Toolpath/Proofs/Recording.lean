import Mathlib.Algebra.Group.Nat.Even
import Mathlib.Algebra.GroupWithZero.Nat
import Toolpath.Proofs.Drawing
/-!
# Recording in any order

A run opens a layer only in front of a move that draws, and asks whether a layer is needed only
then. A recorder takes its calls in any order: a layer may be opened behind one without moves, a
move may draw where no layer is open, and a question may be asked at any time. What the layers of a
recorder look like is said here for every sequence of calls.

## Main definitions

* `Toolpath.Recorder.Call`, `Toolpath.Recorder.Answer` — the calls of a recorder and its answers.
* `Toolpath.Recorder.after`, `Toolpath.Recorder.answer` — what a call changes, and its answer.
* `Toolpath.Layer.WellFormed` — a layer of whole segments that waits with its last path at most.

## Main results

* `Toolpath.Recorder.Sound.after` — a call keeps the layers well formed.
* `Toolpath.Recorder.heads_after`, `Toolpath.Recorder.pointTotal_after` — what a call adds.
* `Toolpath.Recorder.layers_afterAll` — the layers of a recorder after any sequence of calls.
-/

namespace Toolpath

/-! ## Well-formed layers -/

/-- A layer is well formed if it has a path, no path but the last waits for points, and every path
has two points for each segment. -/
structure Layer.WellFormed (l : Layer) : Prop where
  paths_ne_nil : l.paths ≠ []
  filled : ∀ path ∈ l.paths.dropLast, path ≠ []
  even : ∀ path ∈ l.paths, Even path.length

namespace OpenLayer

/-- A layer being drawn is sound if its ended paths hold points and all its paths hold whole
segments. -/
structure Sound (l : OpenLayer) : Prop where
  filled : ∀ path ∈ l.ended, path ≠ []
  even : ∀ path ∈ l.ended, Even path.length
  even_pen : Even l.pen.size

/-- A layer is sound before its first move. -/
lemma sound_start (z : Float) (line : Int) : (start z line).Sound where
  filled := by simp [start]
  even := by simp [start]
  even_pen := by simp [start]

/-- A line adds two points to the path under the pen. -/
lemma Sound.draw {l : OpenLayer} (h : l.Sound) (a b : Point) : (l.draw a b).Sound where
  filled := h.filled
  even := h.even
  even_pen := by
    obtain ⟨k, hk⟩ := h.even_pen
    refine ⟨k + 1, ?_⟩
    simp only [OpenLayer.draw, Array.size_push]
    omega

/-- Only a path with points is ended. -/
lemma Sound.lift {l : OpenLayer} (h : l.Sound) : l.lift.Sound := by
  unfold OpenLayer.lift
  split
  · exact h
  · rename_i hpen
    have hne : l.pen.toList ≠ [] := by simpa using hpen
    refine ⟨fun path hpath => ?_, fun path hpath => ?_, by simp⟩
    · rcases Array.mem_push.mp hpath with hpath | rfl
      · exact h.filled path hpath
      · exact hne
    · rcases Array.mem_push.mp hpath with hpath | rfl
      · exact h.even path hpath
      · simpa using h.even_pen

/-- A straight move keeps a layer sound. -/
lemma Sound.record {l : OpenLayer} (h : l.Sound) (before after : Machine) :
    (l.record before after).Sound := by
  unfold OpenLayer.record
  split
  · exact h.draw _ _
  · exact h.lift

/-- As it stands, a sound layer is well formed. -/
lemma Sound.wellFormed {l : OpenLayer} (h : l.Sound) : l.layer.WellFormed where
  paths_ne_nil := by simp [layer]
  filled := by
    intro path hpath
    have hended : path ∈ l.ended := by simpa [layer] using hpath
    exact h.filled path hended
  even := by
    intro path hpath
    have hpath : path ∈ l.ended ∨ path = l.pen.toList := by simpa [layer] using hpath
    rcases hpath with hended | rfl
    · exact h.even path hended
    · simpa using h.even_pen

/-- A straight move changes neither the height nor the line of a layer. -/
lemma head_record (l : OpenLayer) (before after : Machine) :
    (l.record before after).z = l.z ∧ (l.record before after).startLine = l.startLine := by
  unfold record
  split
  · exact ⟨rfl, rfl⟩
  · unfold lift
    split <;> exact ⟨rfl, rfl⟩

/-- A straight move adds two points to a layer iff it draws. -/
lemma pointCount_record (l : OpenLayer) (before after : Machine) :
    (l.record before after).layer.pointCount =
      l.layer.pointCount + if after.extruding then 2 else 0 := by
  unfold record
  split
  · simp only [layer, draw, Layer.pointCount, Array.toList_push, List.flatten_append,
      List.flatten_singleton, List.length_append, List.length_singleton]
    omega
  · unfold lift
    split <;> simp [layer, Layer.pointCount]

end OpenLayer

/-! ## Calls -/

namespace Recorder

/-- A call of a recorder. -/
inductive Call where
  | openLayer (z : Float) (line : Int)
  /-- A straight move, as the states before and after it. -/
  | record (before after : Machine)
  /-- Whether a move that draws at a height needs a new layer. -/
  | needsLayer (z : Float)
  /-- The height of the layer being drawn. -/
  | currentZ
  /-- All layers so far. -/
  | layers
  deriving DecidableEq, Repr

/-- What a call answers. -/
inductive Answer where
  | opened (layer : Layer)
  | recorded
  | needed (answer : Bool)
  | height (z : Option Float)
  | listed (layers : List Layer)
  deriving DecidableEq, Repr

/-- The recorder after a call. -/
def after (r : Recorder) : Call → Recorder
  | .openLayer z line => r.openLayer z line
  | .record before after => r.record before after
  | .needsLayer _ => r
  | .currentZ => r
  | .layers => r

/-- What a recorder answers to a call. -/
def answer (r : Recorder) : Call → Answer
  | .openLayer z line => .opened (OpenLayer.start z line).layer
  | .record _ _ => .recorded
  | .needsLayer z => .needed (r.needsLayer z)
  | .currentZ => .height r.currentZ
  | .layers => .listed r.layers

/-- The recorder after a sequence of calls. -/
def afterAll (r : Recorder) (calls : List Call) : Recorder := calls.foldl after r

/-- The height and the line that a call opens a layer with. -/
def Call.opening? : Call → Option (Float × Int)
  | .openLayer z line => some (z, line)
  | _ => none

/-- Whether a call opens a layer. -/
def Call.opens (c : Call) : Bool := c.opening?.isSome

/-- Whether a call records a move that draws. -/
def Call.draws : Call → Bool
  | .record _ after => after.extruding
  | _ => false

/-- Whether a call only asks. -/
def Call.asks : Call → Bool
  | .needsLayer _ => true
  | .currentZ => true
  | .layers => true
  | _ => false

/-! ### What a call keeps -/

/-- A recorder is sound if its finished layers are well formed and the one being drawn is sound. -/
structure Sound (r : Recorder) : Prop where
  finished : ∀ l ∈ r.finished, l.WellFormed
  current : ∀ l ∈ r.current, l.Sound

/-- A recorder without layers is sound. -/
lemma sound_empty : Sound {} := ⟨by simp, by simp⟩

/-- **A call keeps a recorder sound.** -/
theorem Sound.after {r : Recorder} (h : r.Sound) (c : Call) : (r.after c).Sound := by
  cases c with
  | openLayer z line =>
    refine ⟨fun l hl => ?_, fun l hl => ?_⟩
    · simp only [Recorder.after, Recorder.openLayer] at hl
      cases hc : r.current with
      | none =>
        rw [hc] at hl
        exact h.finished l hl
      | some current =>
        rw [hc] at hl
        rcases Array.mem_push.mp hl with hl | rfl
        · exact h.finished l hl
        · exact (h.current current hc).wellFormed
    · obtain rfl := Option.some.inj hl
      exact OpenLayer.sound_start z line
  | record before after =>
    refine ⟨h.finished, fun l hl => ?_⟩
    obtain ⟨current, hc, rfl⟩ := Option.map_eq_some_iff.mp hl
    exact (h.current current hc).record before after
  | needsLayer | currentZ | layers => exact h

/-- The layers of a sound recorder are well formed. -/
lemma Sound.wellFormed {r : Recorder} (h : r.Sound) : ∀ l ∈ r.layers, l.WellFormed := by
  intro l hl
  rcases List.mem_append.mp hl with hl | hl
  · exact h.finished l (Array.mem_toList_iff.mp hl)
  · have hcurrent : r.current.map OpenLayer.layer = some l := by simpa using hl
    obtain ⟨current, hc, rfl⟩ := Option.map_eq_some_iff.mp hcurrent
    exact (h.current current hc).wellFormed

/-- The finished layers stay as they are, and a call adds to them at their end. -/
lemma finished_prefix_after (r : Recorder) (c : Call) :
    r.finished.toList <+: (r.after c).finished.toList := by
  cases c with
  | openLayer z line =>
    simp only [after, openLayer]
    cases r.current with
    | none => exact List.prefix_rfl
    | some l => simp
  | record | needsLayer | currentZ | layers => exact List.prefix_rfl

/-! ### What a call adds -/

/-- The number of points of all layers. -/
def pointTotal (r : Recorder) : Nat := (r.layers.map Layer.pointCount).sum

/-- **A call adds a layer iff it opens one**, with the height and the line that it gives. -/
theorem heads_after (r : Recorder) (c : Call) : (r.after c).heads = r.heads ++ c.opening?.toList := by
  cases c with
  | openLayer z line =>
    cases hc : r.current <;>
      simp [after, heads, layers, openLayer, hc, Call.opening?, OpenLayer.start, OpenLayer.layer]
  | record before after =>
    cases hc : r.current with
    | none => simp [Recorder.after, heads, layers, record, hc, Call.opening?]
    | some l =>
      obtain ⟨hz, hline⟩ := l.head_record before after
      simp [Recorder.after, heads, layers, record, hc, Call.opening?, OpenLayer.layer, hz, hline]
  | needsLayer | currentZ | layers => simp [after, Call.opening?]

/-- The height of the layer being drawn is that of the call that opened it. -/
lemma currentZ_after (r : Recorder) (c : Call) :
    (r.after c).currentZ = (c.opening?.map Prod.fst).or r.currentZ := by
  cases c with
  | openLayer z line => rfl
  | record before after =>
    cases hc : r.current with
    | none => simp [Recorder.after, currentZ, record, hc, Call.opening?]
    | some l =>
      simp [Recorder.after, currentZ, record, hc, Call.opening?, (l.head_record before after).1]
  | needsLayer | currentZ | layers => simp [after, Call.opening?]

/-- A layer is being drawn once one was opened. -/
lemma isSome_current_after (r : Recorder) (c : Call) :
    (r.after c).current.isSome = (c.opens || r.current.isSome) := by
  cases c <;> simp [after, openLayer, record, Call.opens, Call.opening?]

/-- **A call adds two points iff it draws on a layer.** -/
theorem pointTotal_after (r : Recorder) (c : Call) :
    (r.after c).pointTotal = r.pointTotal + if r.current.isSome && c.draws then 2 else 0 := by
  cases c with
  | openLayer z line =>
    cases hc : r.current <;>
      simp [after, pointTotal, layers, openLayer, hc, Call.draws, OpenLayer.start, OpenLayer.layer,
        Layer.pointCount]
  | record before after =>
    cases hc : r.current with
    | none => simp [Recorder.after, pointTotal, layers, record, hc]
    | some l =>
      have hpoints := l.pointCount_record before after
      simp only [Recorder.after, pointTotal, layers, record, hc, Call.draws, Option.map_some,
        Option.toList_some, List.map_append, List.map_cons, List.map_nil, List.sum_append,
        List.sum_cons, List.sum_nil, Option.isSome_some, Bool.true_and]
      omega
  | needsLayer | currentZ | layers => simp [after, Call.draws]

/-- A call that only asks changes nothing. -/
lemma after_of_asks (r : Recorder) {c : Call} (h : c.asks = true) : r.after c = r := by
  cases c with
  | openLayer | record => exact absurd h (by simp [Call.asks])
  | needsLayer | currentZ | layers => rfl

/-! ## Sequences of calls -/

/-- A sequence of calls keeps a recorder sound. -/
lemma Sound.afterAll {r : Recorder} (h : r.Sound) (calls : List Call) : (r.afterAll calls).Sound := by
  induction calls generalizing r with
  | nil => exact h
  | cons c calls ih => exact ih (h.after c)

/-- A sequence of calls adds the layers that it opens. -/
lemma heads_afterAll (r : Recorder) (calls : List Call) :
    (r.afterAll calls).heads = r.heads ++ calls.filterMap Call.opening? := by
  induction calls generalizing r with
  | nil => simp [afterAll]
  | cons c calls ih =>
    have hrest : (r.afterAll (c :: calls)).heads = _ := ih (r.after c)
    rw [hrest, heads_after, List.append_assoc]
    cases h : c.opening? <;> simp [h]

/-- The height of the layer being drawn is that of the last call that opened one. -/
lemma currentZ_afterAll (r : Recorder) (calls : List Call) :
    (r.afterAll calls).currentZ =
      ((calls.filterMap Call.opening?).getLast?.map Prod.fst).or r.currentZ := by
  induction calls generalizing r with
  | nil => simp [afterAll]
  | cons c calls ih =>
    have hrest : (r.afterAll (c :: calls)).currentZ = _ := ih (r.after c)
    rw [hrest, currentZ_after]
    cases h : c.opening? with
    | none => simp [h]
    | some head =>
      rw [List.filterMap_cons_some h, List.getLast?_cons]
      cases (calls.filterMap Call.opening?).getLast? <;> simp

/-- The calls from the first one on that opens a layer. -/
def sinceOpening (calls : List Call) : List Call := calls.dropWhile fun c => !c.opens

/-- A sequence of calls adds two points for each move that draws on a layer. -/
lemma pointTotal_afterAll (r : Recorder) (calls : List Call) :
    (r.afterAll calls).pointTotal = r.pointTotal +
      2 * (if r.current.isSome then calls else sinceOpening calls).countP Call.draws := by
  induction calls generalizing r with
  | nil => simp [afterAll, sinceOpening]
  | cons c calls ih =>
    have hrest : (r.afterAll (c :: calls)).pointTotal = _ := ih (r.after c)
    rw [hrest, pointTotal_after, isSome_current_after]
    have hopening : c.opens = true → c.draws = false := by
      cases c <;> simp [Call.opens, Call.opening?, Call.draws]
    -- in front of the first layer, a call that opens none is dropped
    cases hc : r.current.isSome with
    | true => cases hd : c.draws <;> simp [hd]; omega
    | false =>
      cases ho : c.opens with
      | true => simp [sinceOpening, ho, hopening ho]
      | false => simp [sinceOpening, ho]

/-- Finished layers stay as they are through a sequence of calls. -/
lemma finished_prefix_afterAll (r : Recorder) (calls : List Call) :
    r.finished.toList <+: (r.afterAll calls).finished.toList := by
  induction calls generalizing r with
  | nil => exact List.prefix_rfl
  | cons c calls ih => exact (r.finished_prefix_after c).trans (ih (r.after c))

/-- The layers but the last stay as they are through a sequence of calls. -/
lemma dropLast_layers_prefix_afterAll (r : Recorder) (calls : List Call) :
    r.layers.dropLast <+: (r.afterAll calls).layers := by
  have hdrop : r.layers.dropLast <+: r.finished.toList := by
    unfold layers
    cases r.current with
    | none => simpa using List.dropLast_prefix r.finished.toList
    | some l => simp
  exact (hdrop.trans (r.finished_prefix_afterAll calls)).trans (List.prefix_append _ _)

/-- Calls that only ask may be left out. -/
lemma afterAll_filter_not_asks (r : Recorder) (calls : List Call) :
    r.afterAll (calls.filter fun c => !c.asks) = r.afterAll calls := by
  induction calls generalizing r with
  | nil => rfl
  | cons c calls ih =>
    cases h : c.asks with
    | true =>
      have hrest : r.afterAll (c :: calls) = (r.after c).afterAll calls := rfl
      rw [hrest, r.after_of_asks h, ← ih r]
      simp [h]
    | false =>
      rw [List.filter_cons_of_pos (by simp [h])]
      exact ih (r.after c)

/-- **The layers of a recorder after any calls.** They are the layers that were opened, in that
order, with the heights and lines given; each is well formed, with two points for each drawing move
recorded since the first opening. The height of the layer being drawn is that of the last opening.
All layers but the last stay as they are whatever follows, and a call that only asks, wherever it
stands, changes no later answer.

**Proof sketch.** Every call keeps the recorder sound (`Sound.after`), adds a layer iff it opens one
(`heads_after`) and two points iff it draws on one (`pointTotal_after`). -/
theorem layers_afterAll (calls : List Call) :
    (∃ layers, (afterAll {} calls).answer .layers = .listed layers ∧
        layers.map (fun l => (l.z, l.startLine)) = calls.filterMap Call.opening? ∧
        (∀ l ∈ layers, l.paths ≠ [] ∧ (∀ path ∈ l.paths.dropLast, path ≠ []) ∧
          ∀ path ∈ l.paths, Even path.length) ∧
        (layers.map Layer.pointCount).sum = 2 * (sinceOpening calls).countP Call.draws ∧
        ∀ more, layers.dropLast <+: (afterAll {} (calls ++ more)).layers) ∧
      (afterAll {} calls).answer .currentZ =
        .height ((calls.filterMap Call.opening?).getLast?.map Prod.fst) ∧
      (∀ c, (afterAll {} (calls.filter fun c => !c.asks)).answer c = (afterAll {} calls).answer c) ∧
      ∀ q more c, q.asks = true →
        (afterAll {} (calls ++ q :: more)).answer c = (afterAll {} (calls ++ more)).answer c := by
  have hsplit : ∀ more, afterAll {} (calls ++ more) = (afterAll {} calls).afterAll more :=
    fun more => List.foldl_append
  refine ⟨⟨(afterAll {} calls).layers, rfl, ?_, fun l hl => ?_, ?_, fun more => ?_⟩, ?_,
    fun c => ?_, fun q more c hq => ?_⟩
  · exact heads_afterAll {} calls
  · have hl := (sound_empty.afterAll calls).wellFormed l hl
    exact ⟨hl.paths_ne_nil, hl.filled, hl.even⟩
  · simpa [pointTotal, layers] using pointTotal_afterAll {} calls
  · rw [hsplit]
    exact dropLast_layers_prefix_afterAll _ more
  · rw [answer, currentZ_afterAll]
    simp [currentZ]
  · rw [afterAll_filter_not_asks]
  · rw [hsplit, hsplit]
    have hafter : (afterAll {} calls).afterAll (q :: more) = _ := List.foldl_cons ..
    rw [hafter, after_of_asks _ hq]
    rfl

end Recorder

end Toolpath
