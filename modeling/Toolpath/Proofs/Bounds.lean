import Mathlib.Data.Prod.Lex
import Toolpath.Proofs.SegmentCount
/-!
# The box around what is drawn

Numbers other than NaN are in order by sign, exponent and mantissa, and the smaller and the larger
of two numbers are one of them. So a run of comparisons over the ends of all lines finds, on each
axis, an interval that holds every coordinate and has a coordinate at either end. One coordinate
that is NaN spoils its axis and no other.

## Main definitions

* `Toolpath.place` — the place of a number in the order of numbers.
* `Toolpath.Picks`, `Toolpath.ByTest` — a function picks the better one of two numbers, and does
  so by a test.
* `Toolpath.Geometry.Tight`, `Toolpath.Geometry.Box.Tight` — an interval fits numbers, a box fits
  points.

## Main results

* `Toolpath.lt_iff_place`, `Toolpath.le_iff_place`, `Toolpath.beq_iff_place` — comparisons of
  numbers compare their places.
* `Toolpath.Picks.foldl_best` — a run of picks finds the best number.
* `Toolpath.bounds_tight` — the box is the tightest one around all lines.
-/

namespace Toolpath

open Float.Model

/-! ## The order of numbers -/

/-- Integers compare like the natural numbers that they are. -/
lemma compare_natCast (m m' : ℕ) : compare (m : ℤ) (m' : ℤ) = compare m m' := by
  rw [← cmp_eq_compare, ← cmp_eq_compare]
  exact StrictMono.cmp_map_eq (fun _ _ h => Int.ofNat_lt.mpr h) m m'

/-- Negative integers compare the other way. -/
lemma compare_neg (a b : ℤ) : compare (-a) (-b) = (compare a b).swap := by
  rw [← cmp_eq_compare, ← cmp_eq_compare, cmp_swap]
  exact StrictAnti.cmp_map_eq (fun _ _ h => Int.neg_lt_neg h) a b

/-- The place of an unpacked number: the infinities are outermost, the zeros share the middle, and
all others go by exponent and mantissa. -/
def unpackedPlace : UnpackedFloat → ℤ ×ₗ ℤ ×ₗ ℤ
  | .infinity .negative => toLex (-2, toLex (0, 0))
  | .finite .negative m e _ => toLex (-1, toLex (-e, -m))
  | .zero _ | .notANumber => toLex (0, toLex (0, 0))
  | .finite .positive m e _ => toLex (1, toLex (e, m))
  | .infinity .positive => toLex (2, toLex (0, 0))

/-- Unpacked numbers compare like their places. -/
lemma compare_eq_unpackedPlace {u v : UnpackedFloat} (hu : u.isNaN = false)
    (hv : v.isNaN = false) : u.compare v = some (compare (unpackedPlace u) (unpackedPlace v)) := by
  have hfinite : ∀ k e e' m m' : ℤ, compare (toLex (k, toLex (e, m))) (toLex (k, toLex (e', m'))) =
      (compare e e').then (compare m m') := by
    intro k e e' m m'
    show (compare k k).then ((compare e e').then (compare m m')) = _
    rw [compare_eq_iff_eq.mpr rfl]
    rfl
  cases u with
  | notANumber => cases hu
  | infinity s =>
    cases v with
    | notANumber => cases hv
    | infinity t => cases s <;> cases t <;> rfl
    | zero t => cases s <;> rfl
    | finite t => cases s <;> cases t <;> rfl
  | zero s =>
    cases v with
    | notANumber => cases hv
    | infinity t => cases t <;> rfl
    | zero t => rfl
    | finite t => cases t <;> rfl
  | finite s m e hm =>
    cases v with
    | notANumber => cases hv
    | infinity t => cases s <;> cases t <;> rfl
    | zero t => cases s <;> rfl
    | finite t m' e' hm' =>
      cases s with
      | negative =>
        cases t with
        | negative =>
          show some ((compare e e').then (compare m m')).swap =
            some (compare (toLex (-1, toLex (-e, -(m : ℤ)))) (toLex (-1, toLex (-e', -(m' : ℤ)))))
          rw [hfinite, compare_neg, compare_neg, compare_natCast, Ordering.swap_then]
        | positive => rfl
      | positive =>
        cases t with
        | negative => rfl
        | positive =>
          show some ((compare e e').then (compare m m')) =
            some (compare (toLex (1, toLex (e, (m : ℤ)))) (toLex (1, toLex (e', (m' : ℤ)))))
          rw [hfinite, compare_natCast]

/-- The place of a number in the order of numbers. -/
def place (x : Float) : ℤ ×ₗ ℤ ×ₗ ℤ := unpackedPlace x.toModel.unpack

section Order

variable {x y : Float} (hx : x.isNaN = false) (hy : y.isNaN = false)

include hx hy

/-- Numbers compare like their places. -/
lemma compare_eq_place :
    x.toModel.unpack.compare y.toModel.unpack = some (compare (place x) (place y)) :=
  compare_eq_unpackedPlace hx hy

/-- A number is less iff its place is. -/
lemma lt_iff_place : x < y ↔ place x < place y := by
  have hlt : x < y ↔ (x.toModel.unpack.compare y.toModel.unpack == some .lt) = true :=
    decide_eq_true_iff
  rw [hlt, compare_eq_place hx hy, beq_iff_eq, Option.some_inj, compare_lt_iff_lt]

/-- A number is at most another one iff its place is. -/
lemma le_iff_place : x ≤ y ↔ place x ≤ place y := by
  have hle : x ≤ y ↔ (x.toModel.unpack.compare y.toModel.unpack).any (·.isLE) = true :=
    decide_eq_true_iff
  rw [hle, compare_eq_place hx hy, Option.any_some, Ordering.isLE_iff_ne_gt]
  exact compare_le_iff_le

/-- Numbers are equal iff their places are. -/
lemma beq_iff_place : (x == y) = true ↔ place x = place y := by
  have hbeq : (x == y) = (x.toModel.unpack.compare y.toModel.unpack == some .eq) := rfl
  rw [hbeq, compare_eq_place hx hy, beq_iff_eq, Option.some_inj, compare_eq_iff_eq]

end Order

/-! ## Picking numbers -/

/-- A function picks the better one of two numbers, for a relation that orders numbers; what is
NaN is always picked. -/
structure Picks (f : Float → Float → Float) (R : Float → Float → Prop) : Prop where
  refl : ∀ {a}, a.isNaN = false → R a a
  trans : ∀ {a b c}, a.isNaN = false → b.isNaN = false → c.isNaN = false → R a b → R b c → R a c
  isNaN : ∀ a b, (f a b).isNaN = (a.isNaN || b.isNaN)
  mem : ∀ a b, f a b = a ∨ f a b = b
  left : ∀ {a b}, a.isNaN = false → b.isNaN = false → R (f a b) a
  right : ∀ {a b}, a.isNaN = false → b.isNaN = false → R (f a b) b

/-- A function picks what is NaN, and otherwise the first number iff it beats the second. -/
def ByTest (f : Float → Float → Float) (B : Float → Float → Prop) [DecidableRel B] : Prop :=
  ∀ a b, f a b = if a.isNaN then a else if b.isNaN then b else if B a b then a else b

section ByTest

variable {f : Float → Float → Float} {B R : Float → Float → Prop} [DecidableRel B]
  (hf : ByTest f B)

include hf

/-- A pick by a test is one of the two numbers. -/
lemma ByTest.eq_or_eq (a b : Float) : f a b = a ∨ f a b = b := by
  rw [hf]
  split
  · exact .inl rfl
  · split
    · exact .inr rfl
    · split
      · exact .inl rfl
      · exact .inr rfl

/-- Where no number is NaN, the test alone decides. -/
lemma ByTest.of_numbers {a b : Float} (ha : a.isNaN = false) (hb : b.isNaN = false) :
    f a b = if B a b then a else b := by
  rw [hf, if_neg (Bool.eq_false_iff.mp ha), if_neg (Bool.eq_false_iff.mp hb)]

/-- A pick by a test that decides between numbers is the better one. -/
lemma ByTest.picks (refl : ∀ {a}, a.isNaN = false → R a a)
    (trans : ∀ {a b c}, a.isNaN = false → b.isNaN = false → c.isNaN = false →
      R a b → R b c → R a c)
    (first : ∀ {a b}, a.isNaN = false → b.isNaN = false → B a b → R a b)
    (second : ∀ {a b}, a.isNaN = false → b.isNaN = false → ¬ B a b → R b a) : Picks f R where
  refl := refl
  trans := trans
  isNaN a b := by
    cases ha : a.isNaN with
    | true => rw [hf, if_pos ha, ha, Bool.true_or]
    | false =>
      cases hb : b.isNaN with
      | true => rw [hf, if_neg (Bool.eq_false_iff.mp ha), if_pos hb, hb, Bool.or_true]
      | false =>
        rcases hf.eq_or_eq a b with hpick | hpick
        · rw [hpick, ha, Bool.or_false]
        · rw [hpick, hb, Bool.or_false]
  mem := hf.eq_or_eq
  left {a b} ha hb := by
    rw [hf.of_numbers ha hb]
    split
    · exact refl ha
    · exact second ha hb ‹_›
  right {a b} ha hb := by
    rw [hf.of_numbers ha hb]
    split
    · exact first ha hb ‹_›
    · exact refl hb

end ByTest

namespace Picks

variable {f : Float → Float → Float} {R : Float → Float → Prop} (h : Picks f R)

include h

/-- A run of picks gives one of the numbers. -/
lemma foldl_mem (a : Float) (cs : List Float) : cs.foldl f a ∈ a :: cs := by
  induction cs generalizing a with
  | nil => exact List.mem_cons_self
  | cons c cs ih =>
    rw [List.foldl_cons]
    rcases List.mem_cons.mp (ih (f a c)) with hpick | hmem
    · rcases h.mem a c with hleft | hright
      · rw [hpick, hleft]
        exact List.mem_cons_self
      · rw [hpick, hright]
        exact List.mem_cons_of_mem _ List.mem_cons_self
    · exact List.mem_cons_of_mem _ (List.mem_cons_of_mem _ hmem)

/-- A run of picks gives NaN iff one of the numbers is. -/
lemma isNaN_foldl (a : Float) (cs : List Float) :
    (cs.foldl f a).isNaN = (a :: cs).any Float.isNaN := by
  induction cs generalizing a with
  | nil => simp
  | cons c cs ih => rw [List.foldl_cons, ih, List.any_cons, List.any_cons, List.any_cons, h.isNaN,
      Bool.or_assoc]

/-- **A run of picks** gives the best of the numbers, if none is NaN. -/
lemma foldl_best {a : Float} {cs : List Float} (hnum : ∀ c ∈ a :: cs, c.isNaN = false) :
    ∀ c ∈ a :: cs, R (cs.foldl f a) c := by
  induction cs generalizing a with
  | nil =>
    intro c hc
    obtain rfl := List.mem_singleton.mp hc
    exact h.refl (hnum c hc)
  | cons b cs ih =>
    have ha := hnum a List.mem_cons_self
    have hb := hnum b (List.mem_cons_of_mem _ List.mem_cons_self)
    have hpick : (f a b).isNaN = false := by rw [h.isNaN, ha, hb, Bool.or_false]
    have hnum' : ∀ c ∈ f a b :: cs, c.isNaN = false := by
      intro c hc
      rcases List.mem_cons.mp hc with rfl | hc
      · exact hpick
      · exact hnum c (List.mem_cons_of_mem _ (List.mem_cons_of_mem _ hc))
    have hbest := ih hnum'
    have hrun : (cs.foldl f (f a b)).isNaN = false := hnum' _ (h.foldl_mem _ _)
    have hfirst := hbest (f a b) List.mem_cons_self
    intro c hc
    rcases List.mem_cons.mp hc with rfl | hc
    · exact h.trans hrun hpick ha hfirst (h.left ha hb)
    rcases List.mem_cons.mp hc with rfl | hc
    · exact h.trans hrun hpick hb hfirst (h.right ha hb)
    · exact hbest c (List.mem_cons_of_mem _ hc)

end Picks

namespace Geometry

/-- The smaller one is picked for `≤`. -/
lemma picks_least : Picks least (· ≤ ·) := by
  have htest : ByTest least (· < ·) := fun _ _ => rfl
  refine htest.picks (fun ha => ?_) (fun ha hb hc hab hbc => ?_) (fun ha hb hlt => ?_)
    fun ha hb hlt => ?_
  · exact (le_iff_place ha ha).mpr le_rfl
  · rw [le_iff_place ha hc]
    exact ((le_iff_place ha hb).mp hab).trans ((le_iff_place hb hc).mp hbc)
  · exact (le_iff_place ha hb).mpr ((lt_iff_place ha hb).mp hlt).le
  · rw [lt_iff_place ha hb, not_lt] at hlt
    exact (le_iff_place hb ha).mpr hlt

/-- The larger one is picked for `≥`. -/
lemma picks_greatest : Picks greatest (· ≥ ·) := by
  have htest : ByTest greatest (· > ·) := fun _ _ => rfl
  refine htest.picks picks_least.refl
    (fun ha hb hc hab hbc => picks_least.trans hc hb ha hbc hab) (fun ha hb hlt => ?_)
    fun ha hb hlt => ?_
  · exact (le_iff_place hb ha).mpr ((lt_iff_place hb ha).mp hlt).le
  · rw [gt_iff_lt, lt_iff_place hb ha, not_lt] at hlt
    exact (le_iff_place ha hb).mpr hlt

/-! ## Tight boxes -/

/-- An interval fits numbers: if none of them is NaN, it holds all of them and has one at either
end; otherwise both ends are NaN. -/
structure Tight (lo hi : Float) (cs : List Float) : Prop where
  contains : (∀ c ∈ cs, c.isNaN = false) → ∀ c ∈ cs, lo ≤ c ∧ c ≤ hi
  attained : (∀ c ∈ cs, c.isNaN = false) → (∃ c ∈ cs, (lo == c) = true) ∧ ∃ c ∈ cs, (hi == c) = true
  spoiled : (∃ c ∈ cs, c.isNaN = true) → lo.isNaN = true ∧ hi.isNaN = true

/-- A box fits points: on each axis it fits their coordinates. -/
structure Box.Tight (box : Box) (points : List Point) : Prop where
  x : Geometry.Tight box.least.x box.greatest.x (points.map Point.x)
  y : Geometry.Tight box.least.y box.greatest.y (points.map Point.y)
  z : Geometry.Tight box.least.z box.greatest.z (points.map Point.z)

/-- Runs of the smaller and of the larger number give an interval that fits. -/
lemma tight_foldl (a : Float) (cs : List Float) :
    Tight (cs.foldl least a) (cs.foldl greatest a) (a :: cs) where
  contains hnum c hc := ⟨picks_least.foldl_best hnum c hc, picks_greatest.foldl_best hnum c hc⟩
  attained hnum := by
    have hself : ∀ c ∈ a :: cs, (c == c) = true :=
      fun c hc => (beq_iff_place (hnum c hc) (hnum c hc)).mpr rfl
    have hlo := picks_least.foldl_mem a cs
    have hhi := picks_greatest.foldl_mem a cs
    exact ⟨⟨_, hlo, hself _ hlo⟩, _, hhi, hself _ hhi⟩
  spoiled hnan := by
    rw [picks_least.isNaN_foldl, picks_greatest.isNaN_foldl]
    exact ⟨List.any_eq_true.mpr hnan, List.any_eq_true.mpr hnan⟩

/-- A run of combined points is a run on each axis. -/
lemma foldl_combine (f : Float → Float → Float) (p : Point) (ps : List Point) :
    ps.foldl (combine f) p = ⟨(ps.map Point.x).foldl f p.x, (ps.map Point.y).foldl f p.y,
      (ps.map Point.z).foldl f p.z⟩ := by
  induction ps generalizing p with
  | nil => rfl
  | cons q ps ih => exact ih (combine f p q)

/-- Lines have no ends iff there are none. -/
lemma ends_eq_nil_iff {lines : List Segment} : ends lines = [] ↔ lines = [] := by
  cases lines with
  | nil => exact iff_of_true rfl rfl
  | cons line lines => simp [ends]

/-- There is no box iff there is no line. -/
lemma bounds_eq_none_iff {layers : List Layer} : bounds layers = none ↔ segments layers = [] := by
  rw [← ends_eq_nil_iff, bounds]
  split
  · simp [*]
  · simp [*]

/-- The box around lines fits their ends. -/
lemma tight_bounds {layers : List Layer} {box : Box} (h : bounds layers = some box) :
    box.Tight (ends (segments layers)) := by
  unfold bounds at h
  split at h
  · cases h
  · rename_i p ps hends
    obtain rfl := Option.some.inj h
    rw [hends]
    simp only [foldl_combine]
    exact ⟨tight_foldl _ _, tight_foldl _ _, tight_foldl _ _⟩

/-- The ends of all lines are the points of all paths, but for odd ones at an end. -/
lemma ends_segments (layers : List Layer) :
    ends (segments layers) =
      layers.flatMap fun l => l.paths.flatMap fun path => path.take (2 * (path.length / 2)) := by
  have hpath : ∀ path : Path, path.take (2 * (path.length / 2)) =
      path.segments.flatMap fun line => [line.start, line.stop] :=
    fun path => path.ends_segments.symm
  simp only [hpath]
  rw [ends, segments, List.flatMap_assoc]
  refine List.flatMap_congr fun l _ => ?_
  rw [Layer.segments, List.flatMap_assoc]

end Geometry

/-- The ends of the lines of a document are those of its drawing moves. -/
lemma ends_segments_resultOf (s : List Char) :
    Geometry.ends (Geometry.segments (resultOf s).layers) = (strokesOf s).flatMap Step.points := by
  rw [segments_eq_strokes, Geometry.ends, List.flatMap_map]
  rfl

/-- **The box is the tightest one around all lines.** There is no box iff there is no line; for a
document, iff no move draws. Otherwise, on each axis on which no end of a line is NaN, the box
holds the coordinates of all ends, and the coordinate of some end equals its lower bound and that
of some end its upper one; on an axis with an end that is NaN both bounds are. The ends of the
lines are the points of the paths, without an odd one at the end of a path; for a document they are
the ends of the drawing moves, and no travel adds to them.

**Proof sketch.** The box compares the ends one by one, on each axis for itself
(`Geometry.foldl_combine`). Comparisons are those of places in a linear order (`lt_iff_place`), so
that a run of them finds the best number (`Picks.foldl_best`). -/
theorem bounds_tight :
    (∀ layers : List Layer,
      (Geometry.bounds layers = none ↔ Geometry.segments layers = []) ∧
      (∀ box, Geometry.bounds layers = some box →
        box.Tight (Geometry.ends (Geometry.segments layers))) ∧
      Geometry.ends (Geometry.segments layers) =
        layers.flatMap fun l => l.paths.flatMap fun path => path.take (2 * (path.length / 2))) ∧
      ∀ (measured : Bool) (clock : Clock) (s : List Char),
        (Geometry.bounds (interpret measured clock s).result.layers = none ↔
          (interpret measured clock s).result.tally.extruding = 0) ∧
        Geometry.ends (Geometry.segments (interpret measured clock s).result.layers) =
          (strokesOf s).flatMap Step.points := by
  refine ⟨fun layers => ⟨Geometry.bounds_eq_none_iff, fun _ => Geometry.tight_bounds,
    Geometry.ends_segments layers⟩, fun measured clock s => ⟨?_, ?_⟩⟩
  · rw [Geometry.bounds_eq_none_iff, (countsAgree_interpret measured clock s).moves,
      List.length_eq_zero_iff]
  · rw [layers_interpret, ends_segments_resultOf]

end Toolpath
