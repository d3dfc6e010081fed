import Toolpath.Proofs.Agreement
/-!
# What layers depend on

Heights and fed material decide by themselves where layers and paths are cut, and what is counted.
Documents that agree line by line on their codes and on the numbers for `z` and `e` have the same
layering, whatever they say about the other coordinates and the feed rate: only points move. If
they agree on `x` and `y` as well, their layers are the same.

## Main definitions

* `Toolpath.Layer.Agree`, `Toolpath.Recorder.Agree` — layers and recorders that agree on registers.
* `Toolpath.Result.SameLayering` — results that differ in points and feed rates alone.

## Main results

* `Toolpath.Recorder.Agree.take` — what one step keeps.
* `Toolpath.LinesAgree.forall₂_layers`, `Toolpath.LinesAgree.withoutMalformed_tally_eq` — layers and
  counters of documents that agree.
* `Toolpath.layering_resultOf` — the layering depends on codes, heights and fed material alone.
-/

namespace Toolpath

/-! ## Layers that agree -/

section Layers

variable {R : Float → Float → Prop} {rs : List Register}

/-- Two layers agree on registers: they start on the same line, and so do their heights, and their
points path by path and one by one. -/
structure Layer.Agree (R : Float → Float → Prop) (rs : List Register) (l l' : Layer) : Prop where
  z : R l.z l'.z
  startLine : l.startLine = l'.startLine
  paths : List.Forall₂ (List.Forall₂ (Point.Agree R rs)) l.paths l'.paths

/-- Two layers being drawn agree on registers. -/
structure OpenLayer.Agree (R : Float → Float → Prop) (rs : List Register) (l l' : OpenLayer) :
    Prop where
  z : R l.z l'.z
  startLine : l.startLine = l'.startLine
  ended : List.Forall₂ (List.Forall₂ (Point.Agree R rs)) l.ended.toList l'.ended.toList
  pen : List.Forall₂ (Point.Agree R rs) l.pen.toList l'.pen.toList

/-- Two recorders agree on registers. -/
structure Recorder.Agree (R : Float → Float → Prop) (rs : List Register) (r r' : Recorder) :
    Prop where
  finished : List.Forall₂ (Layer.Agree R rs) r.finished.toList r'.finished.toList
  current : Option.Rel (OpenLayer.Agree R rs) r.current r'.current

/-- As they stand, layers being drawn agree if they do. -/
lemma OpenLayer.Agree.layer {l l' : OpenLayer} (h : l.Agree R rs l') :
    l.layer.Agree R rs l'.layer where
  z := h.z
  startLine := h.startLine
  paths := List.rel_append h.ended (.cons h.pen .nil)

/-- Layers before their first moves agree if their heights do. -/
lemma OpenLayer.agree_start {z z' : Float} (hz : R z z') (line : Int) :
    (start z line).Agree R rs (start z' line) :=
  ⟨hz, rfl, .nil, .nil⟩

/-- Layers that are drawn on alike agree. -/
lemma OpenLayer.Agree.draw {l l' : OpenLayer} (h : l.Agree R rs l') {a a' b b' : Point}
    (ha : a.Agree R rs a') (hb : b.Agree R rs b') :
    (l.draw a b).Agree R rs (l'.draw a' b') where
  z := h.z
  startLine := h.startLine
  ended := h.ended
  pen := by
    simp only [OpenLayer.draw, Array.toList_push]
    exact List.rel_append (List.rel_append h.pen (.cons ha .nil)) (.cons hb .nil)

/-- Layers with the pens lifted agree. -/
lemma OpenLayer.Agree.lift {l l' : OpenLayer} (h : l.Agree R rs l') :
    l.lift.Agree R rs l'.lift := by
  have hpen : l.pen.isEmpty = l'.pen.isEmpty := by
    have hlength := h.pen.length_eq
    simp only [Array.length_toList] at hlength
    rw [Array.isEmpty, Array.isEmpty, hlength]
  unfold OpenLayer.lift
  rw [hpen]
  split
  · exact h
  · refine ⟨h.z, h.startLine, ?_, .nil⟩
    simp only [Array.toList_push]
    exact List.rel_append h.ended (.cons h.pen .nil)

/-- Layers agree behind moves that agree. -/
lemma OpenLayer.Agree.record {l l' : OpenLayer} (h : l.Agree R rs l') {m m' n n' : Machine}
    (hm : m.Agree R rs m') (hn : n.Agree R rs n') :
    (l.record m n).Agree R rs (l'.record m' n') := by
  unfold OpenLayer.record
  rw [hn.extruding]
  split
  · exact h.draw hm.position hn.position
  · exact h.lift

namespace Recorder.Agree

variable {r r' : Recorder}

/-- Recorders that agree show layers that agree. -/
lemma layers (h : r.Agree R rs r') :
    List.Forall₂ (Layer.Agree R rs) r.layers r'.layers := by
  obtain ⟨finished, current⟩ := r
  obtain ⟨finished', current'⟩ := r'
  refine List.rel_append h.finished ?_
  cases h.current with
  | none => exact .nil
  | some hl => exact .cons hl.layer .nil

/-- Recorders that agree need a layer at heights that agree alike. -/
lemma needsLayer (hR : Respected R) (h : r.Agree R rs r') {z z' : Float} (hz : R z z') :
    r.needsLayer z = r'.needsLayer z' := by
  obtain ⟨finished, current⟩ := r
  obtain ⟨finished', current'⟩ := r'
  cases h.current with
  | none => rfl
  | some hl => exact congrArg (!·) (hR.beq hz hl.z)

/-- Recorders agree behind layers opened at heights that agree. -/
lemma openLayer (h : r.Agree R rs r') {z z' : Float} (hz : R z z') (line : Int) :
    (r.openLayer z line).Agree R rs (r'.openLayer z' line) := by
  obtain ⟨finished, current⟩ := r
  obtain ⟨finished', current'⟩ := r'
  refine ⟨?_, .some (OpenLayer.agree_start hz line)⟩
  cases h.current with
  | none => exact h.finished
  | some hl =>
    simp only [Recorder.openLayer, Array.toList_push]
    exact List.rel_append h.finished (.cons hl.layer .nil)

/-- Recorders agree behind moves that agree. -/
lemma record (h : r.Agree R rs r') {m m' n n' : Machine} (hm : m.Agree R rs m')
    (hn : n.Agree R rs n') : (r.record m n).Agree R rs (r'.record m' n') := by
  obtain ⟨finished, current⟩ := r
  obtain ⟨finished', current'⟩ := r'
  refine ⟨h.finished, ?_⟩
  cases h.current with
  | none => exact .none
  | some hl => exact .some (hl.record hm hn)

/-- **Recorders agree behind steps that agree** on heights and fed material. -/
theorem take (hR : Respected R) (hz : .z ∈ rs) (he : .e ∈ rs) (h : r.Agree R rs r')
    {st st' : Step} (hst : st.Agree R rs st') : (r.take st).Agree R rs (r'.take st') := by
  have hafter := hst.after hR he
  have hheight : R st.height st'.height := hafter.register .z hz
  unfold Recorder.take
  rw [hst.draws hR he, hst.isMove, h.needsLayer hR hheight, hst.line]
  split
  · split
    · exact (h.openLayer hheight _).record hst.before hafter
    · exact h.record hst.before hafter
  · split
    · exact h.record hst.before hafter
    · exact h

/-- Recorders agree behind steps that agree one by one. -/
lemma foldl_take (hR : Respected R) (hz : .z ∈ rs) (he : .e ∈ rs) (h : r.Agree R rs r')
    {ts ts' : List Step} (hts : List.Forall₂ (Step.Agree R rs) ts ts') :
    (ts.foldl Recorder.take r).Agree R rs (ts'.foldl Recorder.take r') := by
  induction hts generalizing r r' with
  | nil => exact h
  | cons hst _ ih => exact ih (h.take hR hz he hst)

end Recorder.Agree

end Layers

/-! ## Counters that agree -/

/-- The counters but for that of the malformed words. -/
def Tally.withoutMalformed (t : Tally) : Tally := { t with malformed := 0 }

/-- But for malformed words, a step counts what its command is. -/
lemma Tally.withoutMalformed_take (t : Tally) (st : Step) :
    (t.take st).withoutMalformed = t.withoutMalformed.countStep st := by
  unfold take countStep
  cases st.isMove with
  | true => rfl
  | false => cases st.command <;> rfl

/-- What is not a move is counted by its code. -/
lemma Tally.count_ofBlock (t : Tally) {b b' : Block} (h : b.code = b'.code) :
    t.count (.ofBlock b) = t.count (.ofBlock b') := by
  unfold Command.ofBlock
  rw [h]
  split <;> rfl

/-- Steps that agree are counted alike. -/
lemma Tally.withoutMalformed_foldl_take {R : Float → Float → Prop} (hR : Respected R)
    {rs : List Register} (he : .e ∈ rs) {t t' : Tally} (h : t.withoutMalformed = t'.withoutMalformed)
    {ts ts' : List Step} (hts : List.Forall₂ (Step.Agree R rs) ts ts') :
    (ts.foldl take t).withoutMalformed = (ts'.foldl take t').withoutMalformed := by
  induction hts generalizing t t' with
  | nil => exact h
  | cons hst _ ih =>
    refine ih ?_
    rw [withoutMalformed_take, withoutMalformed_take, h]
    unfold countStep
    rw [hst.isMove, hst.draws hR he]
    split
    · rfl
    · exact count_ofBlock _ hst.block.code

/-! ## Documents that agree -/

namespace LinesAgree

variable {R : Float → Float → Prop} {rs : List Register} {s s' : List Char}

/-- **Layers of documents that agree** on heights and fed material, and perhaps on more, agree. -/
theorem forall₂_layers (hR : Respected R) (hz : .z ∈ rs) (he : .e ∈ rs)
    (h : LinesAgree R rs s s') :
    List.Forall₂ (Layer.Agree R rs) (resultOf s).layers (resultOf s').layers := by
  have hblank : Recorder.Agree R rs {} {} := ⟨.nil, .none⟩
  have hlayers := (hblank.foldl_take hR hz he (h.forall₂_stepsOf hR he)).layers
  rw [← recorder_ofText, ← recorder_ofText] at hlayers
  exact hlayers

/-- Documents that agree on the fed material are counted alike, but for malformed words. -/
theorem withoutMalformed_tally_eq (hR : Respected R) (he : .e ∈ rs) (h : LinesAgree R rs s s') :
    (resultOf s).tally.withoutMalformed = (resultOf s').tally.withoutMalformed := by
  have htally : ∀ s, (resultOf s).tally = _ := tally_ofText
  rw [htally, htally, List.Forall₂.length_eq h]
  exact Tally.withoutMalformed_foldl_take hR he rfl (h.forall₂_stepsOf hR he)

end LinesAgree

/-! ### What heights and fed material decide -/

/-- Two layers have the same heights: they start on the same line, their paths have the same
numbers of points, and all heights are related. -/
structure Layer.SameHeights (R : Float → Float → Prop) (l l' : Layer) : Prop where
  z : R l.z l'.z
  startLine : l.startLine = l'.startLine
  shape : l.shape = l'.shape
  points : List.Forall₂ (List.Forall₂ fun p p' : Point => R p.z p'.z) l.paths l'.paths

/-- Two results have the same layering: layers of the same heights, the same counters but for
malformed words, and final states of the same height, fed material and modes. -/
structure Result.SameLayering (R : Float → Float → Prop) (r r' : Result) : Prop where
  layers : List.Forall₂ (Layer.SameHeights R) r.layers r'.layers
  lines : r.tally.lines = r'.tally.lines
  motion : r.tally.motion = r'.tally.motion
  extruding : r.tally.extruding = r'.tally.extruding
  travel : r.tally.travel = r'.tally.travel
  arcs : r.tally.arcs = r'.tally.arcs
  ignored : r.tally.ignored = r'.tally.ignored
  z : R r.finalState.z r'.finalState.z
  e : R r.finalState.e r'.finalState.e
  positioning : r.finalState.positioning = r'.finalState.positioning
  mark : r.finalState.extruding = r'.finalState.extruding

/-- Layers that agree on heights have the same heights. -/
lemma Layer.Agree.sameHeights {R : Float → Float → Prop} {rs : List Register} (hz : .z ∈ rs)
    {l l' : Layer} (h : l.Agree R rs l') : l.SameHeights R l' where
  z := h.z
  startLine := h.startLine
  shape := by
    have hlengths : List.Forall₂ (fun path path' : Path => path.length = path'.length)
        l.paths l'.paths := h.paths.imp fun _ _ hpath => hpath.length_eq
    rw [← List.forall₂_eq_eq_eq]
    exact List.forall₂_map_left_iff.mpr (List.forall₂_map_right_iff.mpr hlengths)
  points := h.paths.imp fun _ _ hpath => hpath.imp fun _ _ hp => hp.z hz

/-- Layers that agree on all coordinates are equal. -/
lemma Layer.Agree.eq {rs : List Register} (hx : .x ∈ rs) (hy : .y ∈ rs) (hz : .z ∈ rs)
    {l l' : Layer} (h : l.Agree Eq rs l') : l = l' := by
  have hpoint : ∀ p p' : Point, p.Agree Eq rs p' → p = p' := by
    intro p p' hp
    show Point.mk p.x p.y p.z = p'
    rw [hp.x hx, hp.y hy, hp.z hz]
  have hpaths := h.paths.imp fun _ _ hpath => hpath.imp hpoint
  rw [List.forall₂_eq_eq_eq, List.forall₂_eq_eq_eq] at hpaths
  show Layer.mk l.z l.startLine l.paths = l'
  rw [h.z, h.startLine, hpaths]

/-- Machines that agree on all registers but the feed rate differ at most in it. -/
lemma Machine.Agree.eq_with_feed {m m' : Machine} (h : m.Agree Eq [.x, .y, .z, .e] m') :
    m' = { m with f := m'.f } := by
  have hx : m.x = m'.x := h.register .x (by simp)
  have hy : m.y = m'.y := h.register .y (by simp)
  have hz : m.z = m'.z := h.register .z (by simp)
  have he : m.e = m'.e := h.register .e (by simp)
  rw [hx, hy, hz, he, h.positioning, h.extruding]

/-- Documents that agree on heights and fed material have the same layering. -/
lemma LinesAgree.sameLayering {R : Float → Float → Prop} (hR : Respected R) {s s' : List Char}
    (h : LinesAgree R [.z, .e] s s') : (resultOf s).SameLayering R (resultOf s') := by
  have hlayers := h.forall₂_layers hR (by simp) (by simp)
  have hstate := h.agree_finalState hR (by simp)
  have htally := h.withoutMalformed_tally_eq hR (by simp)
  have hcount : ∀ {α : Type} (counter : Tally → α), counter (resultOf s).tally.withoutMalformed =
      counter (resultOf s').tally.withoutMalformed := fun counter => congrArg counter htally
  exact
    { layers := hlayers.imp fun _ _ hl => hl.sameHeights (by simp)
      lines := hcount Tally.lines
      motion := hcount Tally.motion
      extruding := hcount Tally.extruding
      travel := hcount Tally.travel
      arcs := hcount Tally.arcs
      ignored := hcount Tally.ignored
      z := hstate.register .z (by simp)
      e := hstate.register .e (by simp)
      positioning := hstate.positioning
      mark := hstate.extruding }

/-- **Layers depend on heights and fed material.** If two documents have as many lines, with the
same codes, and each two lines have the same numbers, present or absent, for `z` and `e`, then they
have the same layering: as many layers of the same heights that start on the same lines, with paths
of the same lengths and points of the same heights, the same counts of moves, of unsupported codes
and of arcs, and final states with the same height, fed material and modes. If the lines have the
same numbers for `x` and `y` as well, the layers are the same, and the final states differ at most
in the feed rate. All this holds with numbers that are the same, and with numbers that are the same
but for the sign of zero.

**Proof sketch.** No register leaks into another (`Machine.Agree.after`), so the steps agree one by
one (`LinesAgree.forall₂_stepsOf`). A recorder asks a step for its height and whether it draws, and
for nothing else before it keeps its points (`Recorder.Agree.take`). -/
theorem layering_resultOf (s s' : List Char) :
    (LinesAgree Eq [.z, .e] s s' → (resultOf s).SameLayering Eq (resultOf s')) ∧
      (LinesAgree Eq [.x, .y, .z, .e] s s' →
        (resultOf s).layers = (resultOf s').layers ∧
          (resultOf s').finalState =
            { (resultOf s).finalState with f := (resultOf s').finalState.f }) ∧
      (LinesAgree SameNumber [.z, .e] s s' →
        (resultOf s).SameLayering SameNumber (resultOf s')) ∧
      (LinesAgree SameNumber [.x, .y, .z, .e] s s' →
        List.Forall₂ (Layer.Agree SameNumber [.x, .y, .z, .e])
            (resultOf s).layers (resultOf s').layers ∧
          (resultOf s).finalState.Agree SameNumber [.x, .y, .z, .e] (resultOf s').finalState) := by
  refine ⟨LinesAgree.sameLayering respected_eq, fun h => ⟨?_, ?_⟩,
    LinesAgree.sameLayering respected_sameNumber, fun h => ⟨?_, ?_⟩⟩
  · have hlayers := h.forall₂_layers respected_eq (by simp) (by simp)
    rw [← List.forall₂_eq_eq_eq]
    exact hlayers.imp fun _ _ hl => hl.eq (by simp) (by simp) (by simp)
  · exact (h.agree_finalState respected_eq (by simp)).eq_with_feed
  · exact h.forall₂_layers respected_sameNumber (by simp) (by simp)
  · exact h.agree_finalState respected_sameNumber (by simp)

/-- Documents that differ in `x`, `y` and the feed rate, in the feed rate alone, and in the sign of
zero besides. -/
theorem layering_resultOf_variants :
    let s := "G1 X1 Z.2 E1 F9\nG92 X5 E0\nG1 X2 Y3 E2".toList
    let sideways := "G1 Z0.2 E1\nG92 E0\nG1 Ybad E2".toList
    let slow := "G1 X1 Z0.2 E1 F3\nG92 X5 E0\nG1 X2 Y3 E2".toList
    let signed := "G1 X1 Z.2 E1\nG92 X5 E-0\nG1 X2 Y3 E2".toList
    (LinesAgree Eq [.z, .e] s sideways ∧ (resultOf s).SameLayering Eq (resultOf sideways)) ∧
      (LinesAgree Eq [.x, .y, .z, .e] s slow ∧ (resultOf s).layers = (resultOf slow).layers) ∧
      LinesAgree SameNumber [.x, .y, .z, .e] s signed ∧ LinesAgree SameNumber [.z, .e] s signed ∧
        (resultOf s).SameLayering SameNumber (resultOf signed) ∧
        (resultOf s).finalState.Agree SameNumber [.x, .y, .z, .e] (resultOf signed).finalState := by
  intro s sideways slow signed
  have hsideways : LinesAgree Eq [.z, .e] s sideways := by decide +kernel
  have hslow : LinesAgree Eq [.x, .y, .z, .e] s slow := by decide +kernel
  have hsigned : LinesAgree SameNumber [.x, .y, .z, .e] s signed := by decide +kernel
  have hheights : LinesAgree SameNumber [.z, .e] s signed := by decide +kernel
  obtain ⟨hlayering, -, -, -⟩ := layering_resultOf s sideways
  obtain ⟨-, hlayers, -, -⟩ := layering_resultOf s slow
  obtain ⟨-, -, hsign, hstate⟩ := layering_resultOf s signed
  exact ⟨⟨hsideways, hlayering hsideways⟩, ⟨hslow, (hlayers hslow).1⟩, hsigned, hheights,
    hsign hheights, (hstate hsigned).2⟩

end Toolpath
