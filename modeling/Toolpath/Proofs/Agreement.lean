import Mathlib.Data.List.Forall2
import Toolpath.Proofs.LastWrite
/-!
# Runs that agree on some registers

Two documents may differ in what they say about some registers and still do the same with the
others. Which numbers two lines share is told by a list of registers. Two machines that agree on
these, and read coordinates in the same way, still agree behind lines that do: no register leaks
into another, and only the fed material decides whether a move draws.

Numbers agree up to a relation that sums, differences and comparisons respect: equality, or
equality up to the sign of zero.

## Main definitions

* `Toolpath.Respected`, `Toolpath.SameNumber` — relations between numbers that no operation of the
  machine tells apart, and the one that forgets the sign of zero.
* `Toolpath.Block.Agree`, `Toolpath.Machine.Agree`, `Toolpath.Step.Agree` — lines, machines and
  steps that agree on registers.
* `Toolpath.LinesAgree` — documents that agree line by line.

## Main results

* `Toolpath.respected_eq`, `Toolpath.respected_sameNumber` — two relations that are respected.
* `Toolpath.Machine.Agree.after` — what one line keeps.
* `Toolpath.LinesAgree.forall₂_stepsOf` — the steps of documents that agree.
* `Toolpath.LinesAgree.agree_finalState` — the final states of documents that agree.
-/

namespace Toolpath

open Float.Model

/-! ## Numbers that cannot be told apart -/

/-- A relation between numbers that the machine respects: no sum, no difference and no comparison
tells related numbers apart. -/
structure Respected (R : Float → Float → Prop) : Prop where
  refl : ∀ a, R a a
  add : ∀ {a a' b b'}, R a a' → R b b' → R (a + b) (a' + b')
  sub : ∀ {a a' b b'}, R a a' → R b b' → R (a - b) (a' - b')
  pos : ∀ {a a'}, R a a' → (0.0 < a ↔ 0.0 < a')
  beq : ∀ {a a' b b'}, R a a' → R b b' → (a == b) = (a' == b')

/-- Equality is respected. -/
lemma respected_eq : Respected Eq where
  refl _ := rfl
  add := by rintro a _ b _ rfl rfl; rfl
  sub := by rintro a _ b _ rfl rfl; rfl
  pos := by rintro a _ rfl; rfl
  beq := by rintro a _ b _ rfl rfl; rfl

/-- A number is one of the two zeros. -/
def IsZero (a : Float) : Prop := a = 0.0 ∨ a = -0.0

/-- Two numbers are the same but for the sign of zero. -/
def SameNumber (a b : Float) : Prop := a = b ∨ IsZero a ∧ IsZero b

/-- An unpacked number with the sign of zero forgotten. -/
def unsignedZero : UnpackedFloat → UnpackedFloat
  | .zero _ => .zero .positive
  | u => u

/-- The same numbers differ at most in the sign of zero. -/
lemma SameNumber.unsignedZero_eq {a b : Float} (h : SameNumber a b) :
    unsignedZero a.toModel.unpack = unsignedZero b.toModel.unpack := by
  have hzero : ∀ {a : Float}, IsZero a → unsignedZero a.toModel.unpack = .zero .positive := by
    rintro _ (rfl | rfl) <;> rfl
  rcases h with rfl | ⟨ha, hb⟩
  · rfl
  · rw [hzero ha, hzero hb]

/-- What differs at most in the sign of zero is packed into the same number. -/
lemma sameNumber_pack {u v : UnpackedFloat} (h : unsignedZero u = unsignedZero v) :
    SameNumber (.ofModel (pack u)) (.ofModel (pack v)) := by
  have hzero : ∀ s, IsZero (.ofModel (pack (.zero s)))
    | .positive => .inl (by decide +kernel)
    | .negative => .inr (by decide +kernel)
  have hcases : u = v ∨ (∃ s, u = .zero s) ∧ ∃ s, v = .zero s := by
    cases u with
    | zero s =>
      cases v with
      | zero t => exact .inr ⟨⟨s, rfl⟩, t, rfl⟩
      | infinity | notANumber | finite => cases h
    | infinity | notANumber | finite =>
      cases v with
      | zero t => cases h
      | infinity | notANumber | finite => exact .inl h
  rcases hcases with rfl | ⟨⟨s, rfl⟩, t, rfl⟩
  · exact .inl rfl
  · exact .inr ⟨hzero s, hzero t⟩

/-- The sign of zero decides at most the sign of zero in a sum. -/
lemma unsignedZero_add (u v : UnpackedFloat) :
    unsignedZero (u.add .binary64 v) =
      unsignedZero ((unsignedZero u).add .binary64 (unsignedZero v)) := by
  cases u with
  | zero s =>
    cases v with
    | zero t => cases s <;> cases t <;> rfl
    | infinity | notANumber | finite => rfl
  | infinity | notANumber | finite => cases v <;> rfl

/-- The sign of zero decides at most the sign of zero in a difference. -/
lemma unsignedZero_sub (u v : UnpackedFloat) :
    unsignedZero (u.sub .binary64 v) =
      unsignedZero ((unsignedZero u).sub .binary64 (unsignedZero v)) := by
  cases u with
  | zero s =>
    cases v with
    | zero t => cases s <;> cases t <;> rfl
    | infinity | notANumber | finite => rfl
  | infinity | notANumber | finite => cases v <;> rfl

/-- The sign of zero does not decide a comparison. -/
lemma compare_unsignedZero (u v : UnpackedFloat) :
    (unsignedZero u).compare (unsignedZero v) = u.compare v := by
  rcases u with (_ | _) | _ | s | ⟨_ | _, _, _, _⟩ <;>
    rcases v with (_ | _) | _ | t | ⟨_ | _, _, _, _⟩ <;> rfl

/-- Equality but for the sign of zero is respected. -/
lemma respected_sameNumber : Respected SameNumber where
  refl _ := .inl rfl
  add := by
    intro a a' b b' ha hb
    refine sameNumber_pack ?_
    rw [unsignedZero_add, ha.unsignedZero_eq, hb.unsignedZero_eq, ← unsignedZero_add]
  sub := by
    intro a a' b b' ha hb
    refine sameNumber_pack ?_
    rw [unsignedZero_sub, ha.unsignedZero_eq, hb.unsignedZero_eq, ← unsignedZero_sub]
  pos := by
    intro a a' ha
    have hlt : ∀ x y : Float, x < y ↔
        (x.toModel.unpack.compare y.toModel.unpack == some .lt) = true :=
      fun x y => decide_eq_true_iff
    rw [hlt, hlt, ← compare_unsignedZero, ha.unsignedZero_eq, compare_unsignedZero]
  beq := by
    intro a a' b b' ha hb
    have hbeq : ∀ x y : Float,
        (x == y) = (x.toModel.unpack.compare y.toModel.unpack == some .eq) := fun x y => rfl
    rw [hbeq, hbeq, ← compare_unsignedZero, ha.unsignedZero_eq, hb.unsignedZero_eq,
      compare_unsignedZero]

/-! ## Agreement on some registers -/

section Agreement

variable {R : Float → Float → Prop} (hR : Respected R) {rs : List Register}

/-- Two lines agree on registers: their codes are equal, and so are their numbers, present or
absent, for these registers. -/
structure Block.Agree (R : Float → Float → Prop) (rs : List Register) (b b' : Block) : Prop where
  code : b.code = b'.code
  value : ∀ r ∈ rs, Option.Rel R (b.value [r.letter]) (b'.value [r.letter])

/-- Two machines agree on registers and read coordinates in the same way. -/
structure Machine.Agree (R : Float → Float → Prop) (rs : List Register) (m m' : Machine) :
    Prop where
  register : ∀ r ∈ rs, R (m.register r) (m'.register r)
  positioning : m.positioning = m'.positioning
  extruding : m.extruding = m'.extruding

/-- Two points agree on the coordinates among registers. -/
structure Point.Agree (R : Float → Float → Prop) (rs : List Register) (p p' : Point) : Prop where
  x : .x ∈ rs → R p.x p'.x
  y : .y ∈ rs → R p.y p'.y
  z : .z ∈ rs → R p.z p'.z

/-- Two executed lines agree on registers, with the machines in front of them. -/
structure Step.Agree (R : Float → Float → Prop) (rs : List Register) (st st' : Step) : Prop where
  line : st.line = st'.line
  block : st.block.Agree R rs st'.block
  before : st.before.Agree R rs st'.before

/-! ### Lines and machines -/

/-- Related numbers, present or absent, are told apart by no test that respects them. -/
lemma any_eq_of_rel {p p' : Float → Bool} (hp : ∀ v v', R v v' → p v = p' v')
    {v v' : Option Float} (hv : Option.Rel R v v') : v.any p = v'.any p' := by
  cases hv with
  | none => rfl
  | some hv => exact hp _ _ hv

/-- Related numbers, present or absent, replace related numbers. -/
lemma rel_getD {a a' : Float} (ha : R a a') {v v' : Option Float} (hv : Option.Rel R v v') :
    R (v.getD a) (v'.getD a') := by
  cases hv with
  | none => exact ha
  | some hv => exact hv

/-- Lines that agree give related numbers. -/
lemma Block.Agree.gives {b b' : Block} (h : b.Agree R rs b') {r : Register} (hr : r ∈ rs) :
    Option.Rel R (b.gives r) (b'.gives r) := by
  unfold Block.gives
  rw [h.code]
  split
  · exact h.value r hr
  · exact .none

/-- Lines that agree switch the positioning alike. -/
lemma Block.Agree.switchOf {b b' : Block} (h : b.Agree R rs b') : b.switchOf = b'.switchOf := by
  unfold Block.switchOf
  rw [h.code]

/-- Machines that agree are at points that agree. -/
lemma Machine.Agree.position {m m' : Machine} (h : m.Agree R rs m') :
    m.position.Agree R rs m'.position :=
  ⟨h.register .x, h.register .y, h.register .z⟩

/-- Steps that agree are moves alike. -/
lemma Step.Agree.isMove {st st' : Step} (h : st.Agree R rs st') : st.isMove = st'.isMove := by
  rw [isMove_eq, isMove_eq, h.block.code]

include hR

/-- The machine at rest agrees with itself. -/
lemma Machine.agree_rest : Machine.Agree R rs {} {} := ⟨fun _ _ => hR.refl _, rfl, rfl⟩

/-- Related numbers lead to related targets. -/
lemma Positioning.rel_target (mode : Positioning) {a a' : Float} (ha : R a a')
    {v v' : Option Float} (hv : Option.Rel R v v') : R (mode.target a v) (mode.target a' v') := by
  cases hv with
  | none => exact ha
  | some hv =>
    cases mode with
    | absolute => exact hv
    | relative => exact hR.add ha hv

/-- Related numbers ask for related changes. -/
lemma Positioning.rel_change (mode : Positioning) {a a' v v' : Float} (ha : R a a')
    (hv : R v v') : R (mode.change a v) (mode.change a' v') := by
  cases mode with
  | absolute => exact hR.sub hv ha
  | relative => exact hv

/-- In machines that agree on the fed material, lines that agree on it feed alike. -/
lemma Block.Agree.feeds {b b' : Block} (h : b.Agree R rs b') (he : .e ∈ rs) {m m' : Machine}
    (hm : m.Agree R rs m') : b.feeds m = b'.feeds m' := by
  have hvalue : Option.Rel R (b.value ['e']) (b'.value ['e']) := h.value .e he
  unfold Block.feeds
  rw [h.code, hm.positioning, any_eq_of_rel (fun v v' hv => ?_) hvalue]
  have hchange := Positioning.rel_change hR m'.positioning (hm.register .e he) hv
  exact decide_eq_decide.mpr (hR.pos hchange)

/-- **Agreement is kept by a line** if it says what is fed. -/
theorem Machine.Agree.after (he : .e ∈ rs) {m m' : Machine} (hm : m.Agree R rs m') {b b' : Block}
    (hb : b.Agree R rs b') : (m.after (.ofBlock b)).Agree R rs (m'.after (.ofBlock b')) where
  register r hr := by
    have hgives := hb.gives hr
    have hheld := hm.register r hr
    rw [register_after, register_after, hb.code, hm.positioning]
    split
    · exact Positioning.rel_target hR _ hheld hgives
    · exact rel_getD hheld hgives
  positioning := by rw [positioning_after, positioning_after, hb.switchOf, hm.positioning]
  extruding := by rw [extruding_after, extruding_after, hb.feeds hR he hm, hm.extruding]

/-! ### Steps -/

/-- Behind steps that agree, the machines agree. -/
lemma Step.Agree.after (he : .e ∈ rs) {st st' : Step} (h : st.Agree R rs st') :
    st.after.Agree R rs st'.after :=
  h.before.after hR he h.block

/-- Steps that agree draw alike. -/
lemma Step.Agree.draws (he : .e ∈ rs) {st st' : Step} (h : st.Agree R rs st') :
    st.draws = st'.draws := by
  have hmove := h.isMove
  cases hm : st'.isMove with
  | true =>
    rw [← extruding_after (hmove.trans hm), ← extruding_after hm]
    exact (h.after hR he).extruding
  | false =>
    -- what is not a move does not draw
    have hnot : ∀ {st : Step}, st.isMove = false → st.draws = false := fun hm =>
      Bool.eq_false_iff.mpr fun hd => by simp [isMove_of_draws hd] at hm
    rw [hnot (hmove.trans hm), hnot hm]

/-- **The steps of lines that agree** agree one by one. -/
theorem forall₂_stepsFrom (he : .e ∈ rs) {m m' : Machine} (hm : m.Agree R rs m') (first : Nat)
    {lines lines' : List (List Char)}
    (h : List.Forall₂ (fun line line' => (Block.read line).Agree R rs (.read line')) lines lines') :
    List.Forall₂ (Step.Agree R rs) (stepsFrom m first lines) (stepsFrom m' first lines') := by
  induction h generalizing m m' first with
  | nil => exact .nil
  | @cons line line' _ _ hline _ ih =>
    have hblank : (Block.read line).isBlank = (Block.read line').isBlank := by
      rw [Block.isBlank, Block.isBlank, hline.code]
    rw [stepsFrom, stepsFrom, hblank]
    split
    · exact ih hm (first + 1)
    · exact .cons ⟨rfl, hline, hm⟩ (ih (hm.after hR he hline) (first + 1))

/-- Behind steps that agree one by one, the machines agree. -/
lemma Machine.Agree.afterAll (he : .e ∈ rs) {m m' : Machine} (hm : m.Agree R rs m')
    {ts ts' : List Step} (h : List.Forall₂ (Step.Agree R rs) ts ts') :
    (m.afterAll ts).Agree R rs (m'.afterAll ts') := by
  induction h generalizing m m' with
  | nil => exact hm
  | cons hst _ ih => exact ih (hm.after hR he hst.block)

end Agreement

/-! ## Documents that agree -/

/-- Two documents agree on registers if they do line by line. -/
def LinesAgree (R : Float → Float → Prop) (rs : List Register) (s s' : List Char) : Prop :=
  List.Forall₂ (fun line line' => (Block.read line).Agree R rs (.read line'))
    (sourceLines s) (sourceLines s')

namespace LinesAgree

variable {R : Float → Float → Prop} {rs : List Register} {s s' : List Char}

/-- The steps of documents that agree on the fed material agree one by one. -/
theorem forall₂_stepsOf (hR : Respected R) (he : .e ∈ rs) (h : LinesAgree R rs s s') :
    List.Forall₂ (Step.Agree R rs) (stepsOf s) (stepsOf s') :=
  forall₂_stepsFrom hR he (Machine.agree_rest hR) 0 h

/-- The final states of documents that agree on the fed material agree. -/
theorem agree_finalState (hR : Respected R) (he : .e ∈ rs) (h : LinesAgree R rs s s') :
    (resultOf s).finalState.Agree R rs (resultOf s').finalState := by
  rw [finalState_resultOf, finalState_resultOf]
  exact (Machine.agree_rest hR).afterAll hR he (h.forall₂_stepsOf hR he)

end LinesAgree

/-- What a line says about registers: its code, and its numbers for them. -/
def saidOf (rs : List Register) (line : List Char) : List Char × List (Option Float) :=
  ((Block.read line).code, rs.map fun r => (Block.read line).value [r.letter])

/-- Lines agree exactly iff they say the same. -/
lemma Block.agree_eq_iff {rs : List Register} {line line' : List Char} :
    (Block.read line).Agree Eq rs (.read line') ↔ saidOf rs line = saidOf rs line' := by
  have hrel : ∀ v v' : Option Float, Option.Rel Eq v v' ↔ v = v' := by
    intro v v'
    cases v <;> cases v' <;> simp
  unfold saidOf
  rw [Prod.mk.injEq, List.map_inj_left]
  constructor
  · intro h
    exact ⟨h.code, fun r hr => (hrel _ _).mp (h.value r hr)⟩
  · rintro ⟨hcode, hvalue⟩
    exact ⟨hcode, fun r hr => (hrel _ _).mpr (hvalue r hr)⟩

/-- Two numbers that may be absent are related iff both are absent or both are there and related. -/
lemma rel_iff {R : Float → Float → Prop} {v v' : Option Float} :
    Option.Rel R v v' ↔ v = none ∧ v' = none ∨ ∃ a ∈ v, ∃ a' ∈ v', R a a' := by
  cases v <;> cases v' <;> simp

section Decidable

variable (R : Float → Float → Prop) [DecidableRel R]

instance decidableRel (v v' : Option Float) : Decidable (Option.Rel R v v') :=
  decidable_of_iff _ rel_iff.symm

instance Block.decidableAgree (rs : List Register) (b b' : Block) : Decidable (b.Agree R rs b') :=
  decidable_of_iff (b.code = b'.code ∧ ∀ r ∈ rs, Option.Rel R (b.value [r.letter])
    (b'.value [r.letter])) ⟨fun h => ⟨h.1, h.2⟩, fun h => ⟨h.code, h.value⟩⟩

instance decidableLinesAgree (rs : List Register) (s s' : List Char) :
    Decidable (LinesAgree R rs s s') :=
  inferInstanceAs (Decidable (List.Forall₂ _ (sourceLines s) (sourceLines s')))

end Decidable

instance decidableSameNumber (a b : Float) : Decidable (SameNumber a b) :=
  inferInstanceAs (Decidable (a = b ∨ (a = 0.0 ∨ a = -0.0) ∧ (b = 0.0 ∨ b = -0.0)))

end Toolpath
