import Toolpath.Proofs.Lines
import Toolpath.Proofs.Plan
/-!
# Continuing a document

What becomes of a result when the document goes on behind a line feed. Nothing that stands is taken
back: the last layer may grow at its end, and behind it layers may be added. The counters never
fall, and the list of unsupported codes grows at its end.

## Main definitions

* `Toolpath.LastGrows` — a list that keeps all entries but the last, which grows.
* `Toolpath.Layer.Grows`, `Toolpath.Tally.Grows` — layers and counters that take nothing back.

## Main results

* `Toolpath.Plan.grows_foldl_take`, `Toolpath.Tally.grows_foldl_take` — steps take nothing back.
* `Toolpath.resultOf_append` — the result of a document within that of a longer one.
-/

namespace Toolpath

/-! ## Growing at the end -/

/-- The list `ys` keeps the entries of `xs` but the last, has one that is related to the last in
its place, and may go on behind it. -/
def LastGrows {α : Type} (R : α → α → Prop) (xs ys : List α) : Prop :=
  ∃ front x y more, xs = front ++ [x] ∧ ys = front ++ y :: more ∧ R x y

/-- Growing twice is growing. -/
lemma LastGrows.trans {α : Type} {R : α → α → Prop} (hR : ∀ x y z, R x y → R y z → R x z)
    {xs ys zs : List α} (h : LastGrows R xs ys) (h' : LastGrows R ys zs) : LastGrows R xs zs := by
  obtain ⟨front, x, y, more, rfl, rfl, hxy⟩ := h
  obtain ⟨front', y', z, more', hys, rfl, hyz⟩ := h'
  -- the last entry of `ys` is `y` itself, or it stands among those that were added
  rcases List.eq_nil_or_concat more with rfl | ⟨mid, last, rfl⟩
  · obtain ⟨rfl, hy⟩ := List.append_inj' hys rfl
    obtain rfl := List.singleton_inj.mp hy
    exact ⟨front, x, z, more', rfl, rfl, hR x y z hxy hyz⟩
  · rw [List.concat_eq_append, ← List.cons_append, ← List.append_assoc] at hys
    obtain ⟨rfl, -⟩ := List.append_inj' hys rfl
    exact ⟨front, x, y, mid ++ z :: more', rfl, by simp, hxy⟩

/-! ## Layers -/

/-- The layer `l'` takes nothing of `l` back: it has the height and the line of `l` and its paths
but the last, which may go on, and behind it paths may be added. -/
structure Layer.Grows (l l' : Layer) : Prop where
  z : l'.z = l.z
  startLine : l'.startLine = l.startLine
  paths : LastGrows (· <+: ·) l.paths l'.paths

/-- A layer that grows twice grows. -/
lemma Layer.Grows.trans {l l' l'' : Layer} (h : l.Grows l') (h' : l'.Grows l'') : l.Grows l'' where
  z := h'.z.trans h.z
  startLine := h'.startLine.trans h.startLine
  paths := h.paths.trans (fun _ _ _ hxy hyz => hxy.trans hyz) h'.paths

namespace OpenLayer

/-- A layer being drawn takes nothing back as it stands. -/
lemma grows_refl (l : OpenLayer) : l.layer.Grows l.layer :=
  ⟨rfl, rfl, l.ended.toList, l.pen.toList, l.pen.toList, [], rfl, rfl, List.prefix_rfl⟩

/-- Drawing goes on with the last path. -/
lemma grows_draw (l : OpenLayer) (a b : Point) : l.layer.Grows (l.draw a b).layer := by
  refine ⟨rfl, rfl, l.ended.toList, l.pen.toList, l.pen.toList ++ [a, b], [], rfl, ?_, ?_⟩
  · simp [layer, draw]
  · exact List.prefix_append _ _

/-- Lifting the pen adds a path at most. -/
lemma grows_lift (l : OpenLayer) : l.layer.Grows l.lift.layer := by
  unfold lift
  split
  · exact l.grows_refl
  · refine ⟨rfl, rfl, l.ended.toList, l.pen.toList, l.pen.toList, [[]], rfl, ?_, List.prefix_rfl⟩
    simp [layer]

end OpenLayer

/-- The layers `ls'` take nothing of `ls` back. -/
def LayersGrow (ls ls' : List Layer) : Prop := ls = [] ∨ LastGrows Layer.Grows ls ls'

/-- Layers that grow twice grow. -/
lemma LayersGrow.trans {ls ls' ls'' : List Layer} (h : LayersGrow ls ls')
    (h' : LayersGrow ls' ls'') : LayersGrow ls ls'' := by
  rcases h with h | h
  · exact .inl h
  · rcases h' with rfl | h'
    · obtain ⟨front, x, y, more, -, hnil, -⟩ := h
      exact absurd hnil (by simp)
    · exact .inr (h.trans (fun _ _ _ hxy hyz => hxy.trans hyz) h')

namespace Plan

/-- The layers of a plan take nothing back as they stand. -/
lemma grows_refl (p : Plan) : LayersGrow p.recorder.layers p.recorder.layers := by
  cases p with
  | blank lead => exact .inl rfl
  | drawn lead finished current =>
    refine .inr ⟨finished.map Sheet.layer, current.openLayer.layer, current.openLayer.layer, [],
      ?_, ?_, current.openLayer.grows_refl⟩ <;> simp [recorder, Recorder.layers]

/-- A step takes no layer back. -/
lemma grows_take (p : Plan) (st : Step) :
    LayersGrow p.recorder.layers (p.take st).recorder.layers := by
  cases p with
  | blank lead => exact .inl rfl
  | drawn lead finished current =>
    have hlayers : ∀ sh : Sheet, (recorder (drawn lead finished sh)).layers =
        finished.map Sheet.layer ++ [sh.openLayer.layer] := by
      intro sh
      simp [recorder, Recorder.layers]
    rw [take]
    split
    · rw [draw]
      split
      · refine .inr ⟨_, _, current.openLayer.layer, [(Sheet.start st).openLayer.layer], hlayers current,
          ?_, current.openLayer.grows_refl⟩
        simp [recorder, Recorder.layers, Sheet.layer_openLayer]
      · refine .inr ⟨_, _, (current.draw st).openLayer.layer, [], hlayers current, hlayers _, ?_⟩
        rw [Sheet.openLayer_draw]
        exact current.openLayer.grows_draw _ _
    · split
      · refine .inr ⟨_, _, (current.travel st).openLayer.layer, [], hlayers current, hlayers _, ?_⟩
        rw [Sheet.openLayer_travel]
        exact current.openLayer.grows_lift
      · exact grows_refl _

/-- **Steps take no layer back.** -/
theorem grows_foldl_take (p : Plan) (ts : List Step) :
    LayersGrow p.recorder.layers (ts.foldl take p).recorder.layers := by
  induction ts generalizing p with
  | nil => exact p.grows_refl
  | cons st ts ih => exact (p.grows_take st).trans (ih (p.take st))

end Plan

/-! ## Counters -/

namespace Tally

/-- The number of lines with an unsupported code. -/
def ignoredCount (t : Tally) (code : List Char) : Nat := (Entries.find? t.ignored code).getD 0

/-- The counters `t'` take nothing of `t` back: no counter is lower, and the unsupported codes of
`t` come first among those of `t'`. -/
structure Grows (t t' : Tally) : Prop where
  lines : t.lines ≤ t'.lines
  motion : t.motion ≤ t'.motion
  extruding : t.extruding ≤ t'.extruding
  travel : t.travel ≤ t'.travel
  arcs : t.arcs ≤ t'.arcs
  malformed : t.malformed ≤ t'.malformed
  codes : t.ignored.map Prod.fst <+: t'.ignored.map Prod.fst
  ignored : ∀ code, t.ignoredCount code ≤ t'.ignoredCount code

/-- Counters with the same codes take nothing back if none is lower. -/
lemma Grows.of_ignored_eq {t t' : Tally} (hignored : t'.ignored = t.ignored)
    (hlines : t.lines ≤ t'.lines) (hmotion : t.motion ≤ t'.motion)
    (hextruding : t.extruding ≤ t'.extruding) (htravel : t.travel ≤ t'.travel)
    (harcs : t.arcs ≤ t'.arcs) (hmalformed : t.malformed ≤ t'.malformed) : t.Grows t' := by
  refine ⟨hlines, hmotion, hextruding, htravel, harcs, hmalformed, ?_, fun code => ?_⟩
  · simp only [hignored, List.prefix_rfl]
  · rw [ignoredCount, ignoredCount, hignored]

/-- Counters take nothing back as they stand. -/
lemma Grows.refl (t : Tally) : t.Grows t :=
  .of_ignored_eq rfl le_rfl le_rfl le_rfl le_rfl le_rfl le_rfl

/-- Counters that grow twice grow. -/
lemma Grows.trans {t t' t'' : Tally} (h : t.Grows t') (h' : t'.Grows t'') : t.Grows t'' where
  lines := h.lines.trans h'.lines
  motion := h.motion.trans h'.motion
  extruding := h.extruding.trans h'.extruding
  travel := h.travel.trans h'.travel
  arcs := h.arcs.trans h'.arcs
  malformed := h.malformed.trans h'.malformed
  codes := h.codes.trans h'.codes
  ignored code := (h.ignored code).trans (h'.ignored code)

/-- Counting a line with an unsupported code takes nothing back. -/
lemma grows_bump (t : Tally) (code : List Char) :
    t.Grows { t with ignored := Entries.bump t.ignored code } where
  lines := le_rfl
  motion := le_rfl
  extruding := le_rfl
  travel := le_rfl
  arcs := le_rfl
  malformed := le_rfl
  codes := by
    rw [Entries.bump, Entries.keys_alter]
    split
    · exact List.prefix_rfl
    · exact List.prefix_append _ _
  ignored other := by
    unfold ignoredCount
    rw [Entries.bump, Entries.find?_alter]
    split
    · rename_i h
      rw [h]
      cases Entries.find? t.ignored other with
      | none => exact Nat.zero_le _
      | some n => exact Nat.le_succ n
    · exact le_rfl

/-- A step takes no count back. -/
lemma grows_take (t : Tally) (st : Step) : t.Grows (t.take st) := by
  let u : Tally := { t with malformed := t.malformed + st.block.malformed.length }
  have hu : t.Grows u :=
    .of_ignored_eq rfl le_rfl le_rfl le_rfl le_rfl le_rfl (Nat.le_add_right _ _)
  refine hu.trans ?_
  show u.Grows (u.countStep st)
  unfold countStep
  split
  · cases st.draws with
    | true => exact .of_ignored_eq rfl le_rfl (Nat.le_succ _) (Nat.le_succ _) le_rfl le_rfl le_rfl
    | false => exact .of_ignored_eq rfl le_rfl (Nat.le_succ _) le_rfl (Nat.le_succ _) le_rfl le_rfl
  · cases st.command with
    | linear | origin | positioning => exact .refl u
    | arc => exact .of_ignored_eq rfl le_rfl le_rfl le_rfl le_rfl (Nat.le_succ _) le_rfl
    | unsupported code => exact grows_bump u code

/-- **Steps take no count back.** -/
theorem grows_foldl_take (t : Tally) (ts : List Step) : t.Grows (ts.foldl take t) := by
  induction ts generalizing t with
  | nil => exact .refl t
  | cons st ts ih => exact (t.grows_take st).trans (ih (t.take st))

/-- The number of lines does not matter to a step. -/
lemma take_with_lines (t : Tally) (n : Nat) (st : Step) :
    { t with lines := n }.take st = { t.take st with lines := n } := by
  unfold take countStep
  split
  · rfl
  · cases st.command <;> rfl

/-- The number of lines does not matter to steps. -/
lemma foldl_take_with_lines (t : Tally) (n : Nat) (ts : List Step) :
    ts.foldl take { t with lines := n } = { ts.foldl take t with lines := n } := by
  induction ts generalizing t with
  | nil => rfl
  | cons st ts ih => rw [List.foldl_cons, List.foldl_cons, take_with_lines, ih]

end Tally

/-! ## Documents -/

/-- The steps of two documents joined by a line feed are those of the first one and more. -/
lemma exists_stepsOf_append (a b : List Char) :
    ∃ ts, stepsOf (a ++ '\n' :: b) = stepsOf a ++ ts :=
  ⟨_, by rw [stepsOf, sourceLines_append, stepsFrom_append]; rfl⟩

/-- **A document that goes on takes nothing back.** Let a document be followed by a line feed and
another one. The longer document has the layers of the first one, where the last one may have grown
at its end and layers may follow; its lines are those of both documents together, no counter is
lower, and the unsupported codes of the first document come first.

**Proof sketch.** A comment does not reach across the line feed (`sourceLines_append`), so the steps
of the first document come first, and the steps behind them take nothing back
(`Plan.grows_foldl_take`, `Tally.grows_foldl_take`). -/
theorem resultOf_append (a b : List Char) :
    ((resultOf a).layers = [] ∨
        LastGrows Layer.Grows (resultOf a).layers (resultOf (a ++ '\n' :: b)).layers) ∧
      (resultOf a).layers.length ≤ (resultOf (a ++ '\n' :: b)).layers.length ∧
      (resultOf (a ++ '\n' :: b)).tally.lines =
        (resultOf a).tally.lines + (resultOf b).tally.lines ∧
      (resultOf a).tally.Grows (resultOf (a ++ '\n' :: b)).tally := by
  obtain ⟨ts, hts⟩ := exists_stepsOf_append a b
  have hrecorder : ∀ s, (resultOf s).layers = (Plan.of (stepsOf s)).recorder.layers := by
    intro s
    rw [Plan.of, Plan.recorder_foldl_take]
    exact congrArg Recorder.layers (recorder_ofText s)
  have htally : ∀ s, (resultOf s).tally = _ := tally_ofText
  have hlines : ∀ s, (resultOf s).tally.lines = (sourceLines s).length := by
    intro s
    rw [htally, Tally.lines_foldl_take]
  have hlayers : LayersGrow (resultOf a).layers (resultOf (a ++ '\n' :: b)).layers := by
    rw [hrecorder, hrecorder, hts, Plan.of, Plan.of, List.foldl_append]
    exact Plan.grows_foldl_take _ ts
  refine ⟨hlayers, ?_, ?_, ?_⟩
  · rcases hlayers with h | ⟨front, x, y, more, hx, hy, -⟩
    · rw [h]
      exact Nat.zero_le _
    · rw [hx, hy]
      simp
  · rw [hlines, hlines, hlines, sourceLines_append, List.length_append]
  · have hgrow := Tally.grows_foldl_take (resultOf a).tally ts
    have hlong : (resultOf (a ++ '\n' :: b)).tally =
        { ts.foldl Tally.take (resultOf a).tally with
          lines := (resultOf (a ++ '\n' :: b)).tally.lines } := by
      rw [htally a, ← List.foldl_append, ← hts, ← Tally.foldl_take_with_lines, hlines, htally]
    rw [hlong]
    refine ⟨?_, hgrow.motion, hgrow.extruding, hgrow.travel, hgrow.arcs, hgrow.malformed,
      hgrow.codes, hgrow.ignored⟩
    rw [hlines, hlines, sourceLines_append, List.length_append]
    exact Nat.le_add_right _ _

end Toolpath
