import Toolpath.CommandLine.Program
import Toolpath.Proofs.Literals
/-!
# Finite summaries

The numbers of a summary are the length of all lines, the corners of the box around them and the
heights of the layers. Corners and heights are coordinates of ends of lines, and these are finite
whenever the length is. So a summary is finite, and is written in the JSON of the standard, iff the
length is. The length is not finite where an end of a line is not, but also where the squares of
the differences of two ends or the sum of all lines are beyond the greatest double.

## Main definitions

* `Toolpath.Summary.corners` — the coordinates of a box.

## Main results

* `Toolpath.Geometry.finite_bounds` — the box around lines of a finite length is finite.
* `Toolpath.Summary.numbers_value` — the doubles of a summary.
* `Toolpath.summary_finite_iff` — a summary of a document is finite iff the length of its lines is.
* `Toolpath.summary_not_finite_farStroke` — a line between finite points whose summary is not.
-/

namespace Toolpath

open CommandLine (Arguments printed)

/-! ## Numbers of a document -/

namespace Geometry

/-- The ends of lines of a finite length are finite. -/
lemma finite_of_mem_ends {layers : List Layer} (h : (length layers).isFinite = true) :
    ∀ p ∈ ends (segments layers), p.Finite := by
  intro p hp
  obtain ⟨line, hline, hp⟩ := List.mem_flatMap.mp hp
  obtain ⟨hstart, hstop⟩ := finite_of_length h line hline
  rcases List.mem_pair.mp hp with rfl | rfl
  · exact hstart
  · exact hstop

/-- A run of picks over finite points, on each axis, gives a finite point. -/
lemma finite_foldl_combine {f : Float → Float → Float} {R : Float → Float → Prop} (hf : Picks f R)
    {p : Point} {ps : List Point} (h : ∀ q ∈ p :: ps, q.Finite) :
    (ps.foldl (combine f) p).Finite := by
  have hpick : ∀ axis : Point → Float, (∀ q ∈ p :: ps, (axis q).isFinite = true) →
      ((ps.map axis).foldl f (axis p)).isFinite = true := by
    intro axis haxis
    -- what is picked is the coordinate of one of the points
    have hmem : (ps.map axis).foldl f (axis p) ∈ (p :: ps).map axis := hf.foldl_mem _ _
    obtain ⟨q, hq, heq⟩ := List.mem_map.mp hmem
    rw [← heq]
    exact haxis q hq
  rw [foldl_combine]
  exact ⟨hpick _ fun q hq => (h q hq).x, hpick _ fun q hq => (h q hq).y,
    hpick _ fun q hq => (h q hq).z⟩

/-- The box around lines of a finite length has finite corners. -/
lemma finite_bounds {layers : List Layer} (h : (length layers).isFinite = true) {box : Box}
    (hbox : bounds layers = some box) : box.least.Finite ∧ box.greatest.Finite := by
  have hends := finite_of_mem_ends h
  unfold bounds at hbox
  split at hbox
  · cases hbox
  · rename_i p ps hcons
    obtain rfl := Option.some.inj hbox
    rw [hcons] at hends
    exact ⟨finite_foldl_combine picks_least hends, finite_foldl_combine picks_greatest hends⟩

end Geometry

/-- A layer of a document is at the height of the end of one of its lines. -/
lemma exists_stop_of_mem_layers {s : List Char} {l : Layer} (hl : l ∈ (resultOf s).layers) :
    ∃ line ∈ l.segments, line.stop.z = l.z := by
  rw [layers_eq_plan] at hl
  obtain ⟨sh, -, rfl⟩ := List.mem_map.mp hl
  refine ⟨sh.first.segment, ?_, rfl⟩
  rw [sh.segments_layer, sh.strokes_eq_cons]
  exact List.mem_cons_self

/-! ## Numbers of a summary -/

namespace Summary

/-- The doubles of a record are those of each field in a row. -/
lemma numbers_record (fields : List (String × Value)) :
    (Value.record fields).numbers = fields.flatMap fun field => field.2.numbers := by
  rw [Value.record, Value.numbers, Value.numbersIn_eq, List.map_map, List.flatMap_def]
  rfl

/-- A record of counts holds no double. -/
lemma numbers_counts (counts : List (List Char × ℕ)) :
    (Value.record (counts.map fun (code, n) => (String.ofList code, count n))).numbers = [] := by
  rw [numbers_record, List.flatMap_map]
  exact List.flatMap_eq_nil_iff.mpr fun _ _ => rfl

/-- The doubles of a table are the heights of its rows. -/
lemma numbers_table (rows : List LayerRow) :
    (Value.list (rows.map rowValue)).numbers = rows.map LayerRow.z := by
  rw [Value.numbers, Value.numbersOf_eq, List.map_map]
  induction rows with
  | nil => rfl
  | cons row rows ih =>
    rw [List.map_cons, List.flatten_cons, ih]
    rfl

/-- The corners of a box, coordinate by coordinate. -/
def corners (box : Geometry.Box) : List Float :=
  [box.least.x, box.least.y, box.least.z, box.greatest.x, box.greatest.y, box.greatest.z]

/-- The doubles of a summary: the length, the corners of the box, and the heights of the layers. -/
lemma numbers_value (s : Summary) :
    s.value.numbers =
      s.length :: (s.bounds.elim [] corners ++ (s.table.getD []).map LayerRow.z) := by
  have hcount : ∀ n, (count n).numbers = [] := fun _ => rfl
  have hfloat : (Value.float s.length).numbers = [s.length] := rfl
  have hnull : Value.null.numbers = [] := rfl
  have hbox : ∀ box : Geometry.Box, (Value.record [("min", pointValue box.least),
      ("max", pointValue box.greatest)]).numbers = corners box := fun _ => rfl
  rw [value, numbers_record, List.flatMap_append]
  simp only [List.flatMap_cons, List.flatMap_nil, hcount, hfloat, numbers_counts, List.nil_append,
    List.append_nil, List.cons_append]
  cases s.bounds with
  | none =>
    cases s.table with
    | none => rfl
    | some rows => simp [hnull, numbers_table]
  | some box =>
    cases s.table with
    | none => rfl
    | some rows => simp [hbox, numbers_table]

/-- A finite point is finite when it is rounded. -/
lemma finite_roundedPoint {p : Point} (h : p.Finite) : (roundedPoint p).Finite where
  x := (Decimal.isFinite_roundTo p.x).trans h.x
  y := (Decimal.isFinite_roundTo p.y).trans h.y
  z := (Decimal.isFinite_roundTo p.z).trans h.z

/-- **The doubles of a summary are finite** iff the length of all lines is, if each layer is at the
height of the end of one of its lines. -/
lemma finite_iff {r : Result} (hheight : ∀ l ∈ r.layers, ∃ line ∈ l.segments, line.stop.z = l.z)
    (withTable : Bool) :
    (∀ x ∈ (Summary.of r withTable).value.numbers, x.isFinite = true) ↔
      (Geometry.length r.layers).isFinite = true := by
  rw [numbers_value, List.forall_mem_cons, List.forall_mem_append]
  have hlength : (Summary.of r withTable).length.isFinite =
      (Geometry.length r.layers).isFinite := Decimal.isFinite_roundTo _
  rw [hlength]
  refine ⟨And.left, fun h => ⟨h, ?_, ?_⟩⟩
  · cases hbox : Geometry.bounds r.layers with
    | none => simp [Summary.of, hbox]
    | some box =>
      obtain ⟨hleast, hgreatest⟩ := Geometry.finite_bounds h hbox
      have hleast := finite_roundedPoint hleast
      have hgreatest := finite_roundedPoint hgreatest
      have hcorners : (Summary.of r withTable).bounds.elim [] corners =
          corners ⟨roundedPoint box.least, roundedPoint box.greatest⟩ := by
        simp [Summary.of, hbox]
      rw [hcorners]
      simp only [corners, List.forall_mem_cons]
      exact ⟨hleast.x, hleast.y, hleast.z, hgreatest.x, hgreatest.y, hgreatest.z,
        List.forall_mem_nil _⟩
  · intro z hz
    have hrow : ∃ l ∈ r.layers, l.z = z := by
      cases withTable with
      | false => exact absurd hz List.not_mem_nil
      | true =>
        obtain ⟨row, hrow, rfl⟩ := List.mem_map.mp hz
        obtain ⟨i, hi, rfl⟩ := List.mem_mapIdx.mp hrow
        exact ⟨_, List.getElem_mem hi, rfl⟩
    obtain ⟨l, hl, rfl⟩ := hrow
    obtain ⟨line, hline, hstop⟩ := hheight l hl
    rw [← hstop]
    have hmem : line ∈ Geometry.segments r.layers := List.mem_flatMap.mpr ⟨l, hl, hline⟩
    exact (Geometry.finite_of_length h line hmem).2.z

/-- The printed summary holds a name iff a double of the summary is not finite. -/
lemma holdsName_printed_iff {a : Arguments} (ha : a.json = true) (r : Result) :
    Json.HoldsName (printed a r) ↔
      ∃ x ∈ (Summary.of r a.layers).value.numbers, x.isFinite = false := by
  have hprinted : printed a r = Json.renderIndented (Summary.of r a.layers).value ++ ['\n'] := by
    unfold CommandLine.printed
    simp [ha, CommandLine.asLines]
  have hspells : Json.Spells (printed a r) (Summary.of r a.layers).value.numbers := by
    rw [hprinted, ← List.append_nil (Value.numbers _)]
    exact (Json.spells_renderAt 0 _).append (.of_plain (plain_of_all rfl))
  exact hspells.holdsName_iff

end Summary

/-! ## Documents -/

/-- **The summary of a document is finite** iff the length of its lines is, with the table of layers
or without. Its JSON holds a name of a number, `NaN` or `Infinity`, outside its strings iff that
length is not finite; it does so whenever an end of a line has a coordinate that is not finite.

**Proof sketch.** Corners of the box are coordinates of ends (`Picks.foldl_mem`), and a layer is at
the height of the end of its first line. A finite sum has finite summands, and a finite length
finite coordinates (`Geometry.finite_of_length`); rounding to three places keeps what is finite
(`Decimal.isFinite_roundTo`). The text of a value holds a name iff a number of it is not finite
(`Json.spells_renderAt`). -/
theorem summary_finite_iff (measured : Bool) (clock : Clock) (s : List Char) (a : Arguments) :
    (∀ withTable, (∀ x ∈ (Summary.of (interpret measured clock s).result withTable).value.numbers,
        x.isFinite = true) ↔
      (Geometry.length (interpret measured clock s).result.layers).isFinite = true) ∧
      (Json.HoldsName (printed { a with json := true } (interpret measured clock s).result) ↔
        (Geometry.length (interpret measured clock s).result.layers).isFinite = false) ∧
      ∀ p ∈ Geometry.ends (Geometry.segments (interpret measured clock s).result.layers),
        ¬ p.Finite →
          Json.HoldsName (printed { a with json := true } (interpret measured clock s).result) := by
  have hfinite := Summary.finite_iff (r := (interpret measured clock s).result) fun l hl =>
    exists_stop_of_mem_layers (s := s) (by rwa [← layers_interpret measured clock s])
  have hname :
      Json.HoldsName (printed { a with json := true } (interpret measured clock s).result) ↔
        (Geometry.length (interpret measured clock s).result.layers).isFinite = false := by
    rw [Summary.holdsName_printed_iff rfl, ← Bool.not_eq_true, ← hfinite a.layers]
    simp
  refine ⟨hfinite, hname, fun p hp hnot => hname.mpr (Bool.eq_false_iff.mpr fun hlength => ?_)⟩
  exact hnot (Geometry.finite_of_mem_ends hlength p hp)

/-- A document that draws one line, to a finite point far away. -/
def farStroke : List Char := "G1 X1e200 E1".toList

/-- Between two finite points, the square of the way may be beyond the greatest double: the length
of the line is not finite, and its JSON holds a name. -/
theorem summary_not_finite_farStroke :
    Geometry.segments (interpret false {} farStroke).result.layers =
        [⟨⟨0.0, 0.0, 0.0⟩, ⟨1e200, 0.0, 0.0⟩⟩] ∧
      [0.0, 1e200].all Float.isFinite = true ∧
      (∃ x ∈ (Summary.of (interpret false {} farStroke).result true).value.numbers,
        x.isFinite = false) ∧
      "Infinity".toList <:+: Json.bare .outside (printed
        { source := [], layers := true, json := true } (interpret false {} farStroke).result) := by
  refine ⟨by decide +kernel, by decide +kernel, by decide +kernel, by decide +kernel⟩

end Toolpath
