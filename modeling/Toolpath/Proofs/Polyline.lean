import Toolpath.Proofs.LastWrite
/-!
# Paths as polylines

Between two moves that follow each other, only a declaration changes where the machine is. So a
line of a path starts where the one in front of it ended, coordinate by coordinate, unless the
coordinate was declared between them, and a document that declares none draws polylines.

## Main definitions

* `Toolpath.Block.Declares` — a line declares a coordinate.
* `Toolpath.Step.Joined` — a move starts where another one ended, but for what is declared between.
* `Toolpath.Path.Draws` — a path draws a row of moves.
* `Toolpath.Path.through` — the path through the corners of a polyline.

## Main results

* `Toolpath.isChain_joined` — each move of a document is joined to the one in front of it.
* `Toolpath.flatMap_points_eq_through` — moves that start where others end draw a polyline.
* `Toolpath.polylines_resultOf` — the paths of a document are polylines but for declarations.
-/

namespace Toolpath

/-! ## Joined moves -/

/-- A line declares the coordinate with a letter if it gives it a number. -/
def Block.Declares (b : Block) (letter : Char) : Prop :=
  b.code = ['G', '9', '2'] ∧ ∃ v, b.value [letter] = some v

/-- A coordinate is declared between the lines of two steps. -/
def DeclaredBetween (s : List Char) (letter : Char) (a b : Step) : Prop :=
  ∃ k, a.line < k ∧ k < b.line ∧ (blockAt s k).Declares letter

/-- A move starts where another one ended, in each coordinate that is not declared between them. -/
structure Step.Joined (s : List Char) (a b : Step) : Prop where
  x : ¬ DeclaredBetween s 'x' a b → a.segment.stop.x = b.segment.start.x
  y : ¬ DeclaredBetween s 'y' a b → a.segment.stop.y = b.segment.start.y
  z : ¬ DeclaredBetween s 'z' a b → a.segment.stop.z = b.segment.start.z

/-- A line that gives a number to a register is a straight move or a declaration. -/
lemma Block.declares_of_gives {b : Block} {r : Register} {v : Float} (h : b.gives r = some v)
    (hcode : b.code ∉ moveCodes) : b.Declares r.letter := by
  obtain ⟨hmem, hvalue⟩ := gives_eq_some_iff.mp h
  have hdeclare : b.code = ['G', '9', '2'] := by
    cases r <;> simp_all [Register.codes]
  exact ⟨hdeclare, v, hvalue⟩

/-- Where neither a move nor a declaration stands, a register keeps its number. -/
lemma register_upTo_eq {s : List Char} {r : Register} {lo hi : Nat} (hle : lo ≤ hi)
    (hmove : ∀ k, lo ≤ k → k < hi → (blockAt s k).code ∉ moveCodes)
    (hdeclare : ∀ k, lo ≤ k → k < hi → ¬ (blockAt s k).Declares r.letter) :
    (Run.upTo s hi).machine.register r = (Run.upTo s lo).machine.register r := by
  induction hi, hle using Nat.le_induction with
  | base => rfl
  | succ k hk ih =>
    have hnone : (blockAt s k).gives r = none := by
      cases hgives : (blockAt s k).gives r with
      | none => rfl
      | some v =>
        have hmem := Block.declares_of_gives hgives (hmove k hk (by omega))
        exact absurd hmem (hdeclare k hk (by omega))
    rw [machine_upTo_succ, Machine.register_after_of_gives_eq_none _ hnone]
    exact ih (fun j hj hlt => hmove j hj (by omega)) fun j hj hlt => hdeclare j hj (by omega)

/-- Between the lines of two steps that follow each other in a list stands no step of the list. -/
lemma not_line_between {ts : List Step} (hlines : ts.Pairwise (·.line < ·.line)) {a b t : Step}
    (hab : [a, b] <:+: ts) (ht : t ∈ ts) : ¬ (a.line < t.line ∧ t.line < b.line) := by
  obtain ⟨front, back, rfl⟩ := hab
  rintro ⟨hat, htb⟩
  obtain ⟨hfirst, -, hback⟩ := List.pairwise_append.mp hlines
  obtain ⟨-, -, hfront⟩ := List.pairwise_append.mp hfirst
  rcases List.mem_append.mp ht with ht | ht
  · rcases List.mem_append.mp ht with ht | ht
    · have := hfront t ht a (by simp)
      omega
    · simp only [List.mem_cons, List.not_mem_nil, or_false] at ht
      rcases ht with rfl | rfl <;> omega
  · have := hback b (by simp) t ht
    omega

/-- A line with the code of a straight move is a move of the document. -/
lemma exists_move_of_code {s : List Char} {k : Nat} (h : (blockAt s k).code ∈ moveCodes) :
    ∃ st ∈ (stepsOf s).filter Step.isMove, st.line = k := by
  rw [blockAt, List.getD_eq_getElem?_getD] at h
  cases htext : (sourceLines s)[k]? with
  | none =>
    rw [htext] at h
    exact absurd h (by decide)
  | some text =>
    rw [htext, Option.getD_some] at h
    have hblank := Block.isBlank_of_mem_moveCodes h
    refine ⟨⟨k, Block.read text, (Run.upTo s k).machine⟩, List.mem_filter.mpr ⟨?_, ?_⟩, rfl⟩
    · exact mem_stepsOf.mpr ⟨⟨text, htext, rfl⟩, hblank, rfl⟩
    · rw [Step.isMove_eq]
      exact decide_eq_true h

/-- **Moves are joined.** Each move of a document starts where the one in front of it ended, but for
what is declared between them. -/
theorem isChain_joined (s : List Char) :
    ((stepsOf s).filter Step.isMove).IsChain (Step.Joined s) := by
  have hlines : ((stepsOf s).filter Step.isMove).Pairwise (·.line < ·.line) :=
    (pairwise_line_stepsOf s).filter _
  refine (List.isChain_isInfix _).imp fun a b hab => ?_
  have ha : a ∈ stepsOf s := (List.mem_filter.mp (hab.subset (by simp))).1
  have hb : b ∈ stepsOf s := (List.mem_filter.mp (hab.subset (by simp))).1
  have hlt : a.line < b.line :=
    List.rel_of_pairwise_cons (hlines.sublist hab.sublist) (by simp)
  have hkeep : ∀ r : Register, ¬ DeclaredBetween s r.letter a b →
      a.after.register r = b.before.register r := by
    intro r hno
    rw [after_eq_upTo ha, (mem_stepsOf.mp hb).2.2]
    refine (register_upTo_eq hlt (fun k hk hkb hcode => ?_) fun k hk hkb hdeclare => ?_).symm
    · obtain ⟨t, ht, rfl⟩ := exists_move_of_code hcode
      exact not_line_between hlines hab ht ⟨hk, hkb⟩
    · exact hno ⟨k, hk, hkb, hdeclare⟩
  exact ⟨hkeep .x, hkeep .y, hkeep .z⟩

/-! ## Polylines -/

/-- The path through the corners of a polyline: each line is a pair of points. -/
def Path.through : List Point → Path
  | a :: b :: rest => a :: b :: Path.through (b :: rest)
  | _ => []

/-- The corners of moves that start where the ones in front of them end. -/
def cornersOf : List Step → List Point
  | [] => []
  | st :: rest => st.segment.start :: (st :: rest).map (·.segment.stop)

/-- **Moves that start where others end** draw the polyline through their corners. -/
theorem flatMap_points_eq_through {row : List Step}
    (h : row.IsChain fun a b => a.segment.stop = b.segment.start) :
    row.flatMap Step.points = Path.through (cornersOf row) := by
  induction row with
  | nil => rfl
  | cons st rest ih =>
    cases rest with
    | nil => rfl
    | cons next rest =>
      obtain ⟨hjoined, hrest⟩ := List.isChain_cons_cons.mp h
      have hpoints : st.points = [st.segment.start, st.segment.stop] := rfl
      rw [List.flatMap_cons, ih hrest, hpoints]
      simp [cornersOf, Path.through, hjoined]

example (a b c d : Point) : Path.through [a, b, c, d] = [a, b, b, c, c, d] := rfl

/-- A path draws a row of moves: its points are the ends of the moves, two for each, its lines are
those of the moves, and each move is joined to the one in front of it. -/
structure Path.Draws (s : List Char) (path : Path) (row : List Step) : Prop where
  points : path = row.flatMap Step.points
  segments : path.segments = row.map Step.segment
  joined : row.IsChain (Step.Joined s)

/-- The rows of moves that the paths of a sheet draw; a path that waits draws none. -/
def Sheet.rows (sh : Sheet) : List (List Step) :=
  sh.legs.map Leg.strokes ++ if sh.last.travels = [] then [] else [[]]

/-- The rows of a sheet hold its strokes. -/
lemma Sheet.flatten_rows (sh : Sheet) : sh.rows.flatten = sh.strokes := by
  unfold rows strokes
  rw [List.flatten_append, List.flatMap_def]
  split <;> simp

/-- The strokes of a leg stand together among the moves of the document. -/
lemma strokes_isInfix {s : List Char} {sh : Sheet} (hsh : sh ∈ (Plan.of (stepsOf s)).sheets)
    {l : Leg} (hl : l ∈ sh.legs) : l.strokes <:+: (stepsOf s).filter Step.isMove := by
  obtain ⟨front, next, -, hmoves⟩ := Plan.exists_moves_eq hsh
  obtain ⟨front', back, hsheet⟩ := Sheet.exists_moves_eq hl
  refine ⟨front ++ front', back ++ next.flatMap Sheet.moves, ?_⟩
  rw [← Plan.moves_of, hmoves, hsheet]
  simp

/-- The path of a leg draws its strokes. -/
lemma Leg.draws_path {s : List Char} {sh : Sheet} (hsh : sh ∈ (Plan.of (stepsOf s)).sheets)
    {l : Leg} (hl : l ∈ sh.legs) : Path.Draws s l.path l.strokes where
  points := rfl
  segments := l.segments_path
  joined := List.IsChain.infix (isChain_joined s) (strokes_isInfix hsh hl)

/-- A path that waits draws nothing. -/
lemma Path.draws_nil (s : List Char) : Path.Draws s [] [] := ⟨rfl, rfl, .nil⟩

/-- The paths of a layer draw the rows of its sheet. -/
lemma forall₂_draws {s : List Char} {sh : Sheet} (hsh : sh ∈ (Plan.of (stepsOf s)).sheets) :
    List.Forall₂ (Path.Draws s) sh.layer.paths sh.rows := by
  refine List.rel_append ?_ ?_
  · rw [List.forall₂_map_left_iff, List.forall₂_map_right_iff, List.forall₂_same]
    exact fun l hl => Leg.draws_path hsh hl
  · split
    · exact .nil
    · exact .cons (Path.draws_nil s) .nil

/-- Every path of a document draws a row of moves. -/
lemma exists_draws {s : List Char} {l : Layer} (hl : l ∈ (resultOf s).layers) {path : Path}
    (hpath : path ∈ l.paths) : ∃ row, Path.Draws s path row := by
  rcases eq_nil_or_leg_of_mem_paths hl hpath with rfl | ⟨sh, hsh, leg, hleg, rfl⟩
  · exact ⟨[], Path.draws_nil s⟩
  · exact ⟨leg.strokes, Leg.draws_path hsh hleg⟩

/-- A path that draws moves between which nothing is declared is a polyline. -/
lemma Path.Draws.eq_through {s : List Char} {path : Path} {row : List Step} (h : path.Draws s row)
    (hno : ∀ k, ∀ letter ∈ ['x', 'y', 'z'], ¬ (blockAt s k).Declares letter) :
    path = Path.through (cornersOf row) := by
  have hnone : ∀ letter ∈ ['x', 'y', 'z'], ∀ a b, ¬ DeclaredBetween s letter a b := by
    rintro letter hletter a b ⟨k, -, -, hdeclare⟩
    exact hno k letter hletter hdeclare
  rw [h.points]
  refine flatMap_points_eq_through (h.joined.imp fun a b hab => ?_)
  have hx := hab.x (hnone 'x' (by simp) a b)
  have hy := hab.y (hnone 'y' (by simp) a b)
  have hz := hab.z (hnone 'z' (by simp) a b)
  show Point.mk a.segment.stop.x a.segment.stop.y a.segment.stop.z = b.segment.start
  rw [hx, hy, hz]

/-- **Paths are polylines but for declarations.** The layers of a document hold its drawing moves
path by path, in the order of the lines, and of two moves of a path that follow each other the
second one starts, in each coordinate, exactly where the first one ends, unless the coordinate was
declared between them. If no line of a document declares a coordinate, every path runs through the
corners of a polyline. The first line of a layer ends exactly at the height of the layer, and no
other one at a height that differs from it.

**Proof sketch.** Between two moves that follow each other, only a declaration can write a
coordinate (`register_upTo_eq`), so all moves of a document are joined (`isChain_joined`); the
strokes of a leg stand together among them (`strokes_isInfix`). -/
theorem polylines_resultOf (s : List Char) :
    (∃ sheets : List (List (List Step)), sheets.flatten.flatten = strokesOf s ∧
      List.Forall₂ (fun l rows => List.Forall₂ (Path.Draws s) l.paths rows)
        (resultOf s).layers sheets) ∧
      ((∀ k, ∀ letter ∈ ['x', 'y', 'z'], ¬ (blockAt s k).Declares letter) →
        ∀ l ∈ (resultOf s).layers, ∀ path ∈ l.paths, ∃ corners, path = Path.through corners) ∧
      ∀ l ∈ (resultOf s).layers, ∃ first rest, l.segments = first :: rest ∧ first.stop.z = l.z ∧
        ∀ segment ∈ rest, (segment.stop.z != l.z) = false := by
  refine ⟨⟨(Plan.of (stepsOf s)).sheets.map Sheet.rows, ?_, ?_⟩, fun hno l hl path hpath => ?_,
    fun l hl => ?_⟩
  · rw [strokesOf, ← Plan.strokes_of, List.flatten_flatten, List.map_map, List.flatMap_def]
    exact congrArg List.flatten (List.map_congr_left fun sh _ => sh.flatten_rows)
  · rw [layers_eq_plan, List.forall₂_map_left_iff, List.forall₂_map_right_iff, List.forall₂_same]
    exact fun sh hsh => forall₂_draws hsh
  · obtain ⟨row, hrow⟩ := exists_draws hl hpath
    exact ⟨cornersOf row, hrow.eq_through hno⟩
  · rw [layers_eq_plan] at hl
    obtain ⟨sh, hsh, rfl⟩ := List.mem_map.mp hl
    obtain ⟨hsegments, first, rest, hstrokes, hz, -, hheights⟩ :=
      ((Plan.valid_of (stepsOf s)).sheets sh hsh).holds
    refine ⟨first.segment, rest.map Step.segment, ?_, hz.symm, ?_⟩
    · rw [hsegments, hstrokes, List.map_cons]
    · rintro segment hsegment
      obtain ⟨st, hst, rfl⟩ := List.mem_map.mp hsegment
      exact hheights st hst

end Toolpath
