import Toolpath.Proofs.Alike
import Toolpath.Proofs.Erasure
/-!
# Line endings and spacing

White space at the end of a line is trimmed away with the piece that it stands behind, or makes
pieces of its own that are empty, and so does a space beside another one; in a comment it is dropped
with the comment. So line endings and the width of gaps do not matter: a document with white space
added at the ends of its lines, and with longer runs of spaces for some of its spaces, has the same
result.

## Main definitions

* `Toolpath.Loosened` — a document with white space added at line ends and to spaces.
* `Toolpath.carriageReturns` — a document with a carriage return in front of every line feed.
* `Toolpath.SameInk` — lines whose pieces differ in white space alone.

## Main results

* `Toolpath.loosened_dropComments`, `Toolpath.loosened_pieces` — what is left of a loosened document
  without comments is loosened, and so are its lines.
* `Toolpath.Loosened.sameInk` — what is written on a loosened line.
* `Toolpath.result_interpret_loosened` — a loosened document has the same result.
-/

namespace Toolpath

open Text

/-! ## Documents with more white space -/

/-- White space that does not end a line. -/
def Filler (w : List Char) : Prop := ∀ c ∈ w, isBlank c = true ∧ c ≠ '\n'

/-- A document with white space added: some at the end of the text and in front of line feeds, and a
longer run of spaces for some spaces. -/
inductive Loosened : List Char → List Char → Prop where
  | ending {w : List Char} (hw : Filler w) : Loosened [] w
  | feed {w s s' : List Char} (hw : Filler w) (h : Loosened s s') :
      Loosened ('\n' :: s) (w ++ '\n' :: s')
  | space {s s' : List Char} (k : Nat) (h : Loosened s s') :
      Loosened (' ' :: s) (List.replicate (k + 1) ' ' ++ s')
  | keep {s s' : List Char} (c : Char) (h : Loosened s s') : Loosened (c :: s) (c :: s')

/-- A document with a carriage return in front of every line feed. -/
def carriageReturns (s : List Char) : List Char :=
  s.flatMap fun c => if c = '\n' then ['\r', '\n'] else [c]

namespace Filler

variable {w : List Char}

lemma nil : Filler [] := fun _ h => absurd h List.not_mem_nil

lemma cons {c : Char} (hblank : isBlank c = true) (hc : c ≠ '\n') (hw : Filler w) :
    Filler (c :: w) :=
  List.forall_mem_cons.mpr ⟨⟨hblank, hc⟩, hw⟩

lemma spaces (n : Nat) : Filler (List.replicate n ' ') := by
  intro c hc
  rw [List.eq_of_mem_replicate hc]
  decide

lemma newline_not_mem (hw : Filler w) : '\n' ∉ w := fun h => (hw _ h).2 rfl

/-- What is left of white space within a comment or outside of one is white space. -/
lemma left (hw : Filler w) (inside : Bool) : Filler (if inside then [] else w) := by
  cases inside with
  | true => exact nil
  | false => exact hw

/-- White space is dropped within a comment and left elsewhere. -/
lemma dropComments_append (hw : Filler w) (inside : Bool) (t : List Char) :
    dropComments inside (w ++ t) = (if inside then [] else w) ++ dropComments inside t := by
  induction w with
  | nil => cases inside <;> rfl
  | cons c w ih =>
    obtain ⟨hblank, hc⟩ := hw c List.mem_cons_self
    have hsemicolon : c ≠ ';' := by
      rintro rfl
      exact absurd hblank (by decide)
    have hrest := ih fun d hd => hw d (List.mem_cons_of_mem c hd)
    rw [List.cons_append, dropComments, if_neg hc]
    cases inside with
    | true => exact hrest
    | false => simpa [hsemicolon] using hrest

end Filler

/-- A carriage return in front of a line feed is white space at the end of a line. -/
lemma loosened_carriageReturns (s : List Char) : Loosened s (carriageReturns s) := by
  induction s with
  | nil => exact .ending .nil
  | cons c s ih =>
    rw [carriageReturns, List.flatMap_cons]
    split
    · rename_i hc
      rw [hc]
      exact .feed (.cons (by decide) (by decide) .nil) ih
    · exact .keep c ih

section Loosened

variable {s s' : List Char}

/-- A document stays loosened with more in front of it. -/
lemma loosened_append_left (w : List Char) (h : Loosened s s') : Loosened (w ++ s) (w ++ s') := by
  induction w with
  | nil => exact h
  | cons c w ih => exact .keep c ih

/-- **Without its comments** a loosened document is loosened. -/
theorem loosened_dropComments (h : Loosened s s') (inside : Bool) :
    Loosened (dropComments inside s) (dropComments inside s') := by
  induction h generalizing inside with
  | @ending w hw =>
    have hdrop : dropComments inside (w ++ []) = (if inside then [] else w) ++ [] :=
      hw.dropComments_append inside []
    rw [List.append_nil, List.append_nil] at hdrop
    rw [hdrop]
    exact .ending (hw.left inside)
  | feed hw h ih =>
    rw [hw.dropComments_append]
    exact .feed (hw.left inside) (ih false)
  | space k h ih =>
    rw [(Filler.spaces (k + 1)).dropComments_append]
    cases inside with
    | true => exact ih true
    | false => exact .space k (ih false)
  | keep c h ih =>
    rw [dropComments, dropComments]
    split
    · exact .keep c (ih false)
    · split
      · exact ih true
      · exact .keep c (ih false)

/-! ## Pieces -/

/-- What stands in front of a text and does not hold the separator belongs to the first piece. -/
lemma Text.pieces_append_of_not_mem {sep : Char} {w : List Char} (h : sep ∉ w) (s : List Char) :
    pieces sep (w ++ s) = (w ++ (pieces sep s).headD []) :: (pieces sep s).tail := by
  induction w with
  | nil => exact (headD_cons_tail_pieces sep s).symm
  | cons c w ih =>
    obtain ⟨hc, hw⟩ := List.ne_and_not_mem_of_not_mem_cons h
    rw [List.cons_append, pieces_cons_of_ne (Ne.symm hc), ih hw]
    rfl

/-- Separators in front of a text make empty pieces. -/
lemma Text.pieces_replicate_append (sep : Char) (n : Nat) (s : List Char) :
    pieces sep (List.replicate n sep ++ s) = List.replicate n [] ++ pieces sep s := by
  induction n with
  | zero => rfl
  | succ n ih =>
    rw [List.replicate_succ, List.cons_append, pieces, if_pos rfl, ih]
    rfl

/-- Loosened pieces stay so with more in front of the first one. -/
lemma forall₂_pieces_append {w w' : List Char} (hw : '\n' ∉ w) (hw' : '\n' ∉ w')
    (hgrow : ∀ p p', Loosened p p' → Loosened (w ++ p) (w' ++ p'))
    (h : List.Forall₂ Loosened (pieces '\n' s) (pieces '\n' s')) :
    List.Forall₂ Loosened (pieces '\n' (w ++ s)) (pieces '\n' (w' ++ s')) := by
  rw [← headD_cons_tail_pieces '\n' s, ← headD_cons_tail_pieces '\n' s'] at h
  obtain ⟨hfirst, hrest⟩ := List.forall₂_cons.mp h
  rw [pieces_append_of_not_mem hw, pieces_append_of_not_mem hw']
  exact .cons (hgrow _ _ hfirst) hrest

/-- **Line by line** a loosened document is loosened. -/
theorem loosened_pieces (h : Loosened s s') :
    List.Forall₂ Loosened (pieces '\n' s) (pieces '\n' s') := by
  induction h with
  | ending hw =>
    rw [pieces_eq_singleton hw.newline_not_mem]
    exact .cons (.ending hw) .nil
  | feed hw h ih =>
    rw [pieces_append, pieces_eq_singleton hw.newline_not_mem]
    exact .cons (.ending hw) ih
  | space k h ih =>
    exact @forall₂_pieces_append _ _ [' '] _ (by decide) (Filler.spaces (k + 1)).newline_not_mem
      (fun _ _ hp => .space k hp) ih
  | keep c h ih =>
    by_cases hc : c = '\n'
    · rw [pieces, pieces, if_pos hc, if_pos hc]
      exact .cons (.ending .nil) ih
    · have hnot : '\n' ∉ [c] := by simpa using Ne.symm hc
      exact forall₂_pieces_append hnot hnot (fun _ _ hp => .keep c hp) ih

/-- The lines of a loosened document are loosened. -/
lemma loosened_sourceLines (h : Loosened s s') :
    List.Forall₂ Loosened (sourceLines s) (sourceLines s') :=
  loosened_pieces (loosened_dropComments h false)

end Loosened

/-! ## What is written on a line -/

/-- What stands in a piece of a text stands in the text. -/
lemma Text.subset_of_mem_pieces {sep : Char} {s p : List Char} (h : p ∈ pieces sep s) : p ⊆ s := by
  induction s generalizing p with
  | nil =>
    rw [List.mem_singleton.mp h]
    exact List.nil_subset _
  | cons c s ih =>
    by_cases hc : c = sep
    · rw [pieces, if_pos hc] at h
      rcases List.mem_cons.mp h with rfl | h
      · exact List.nil_subset _
      · exact List.subset_cons_of_subset c (ih h)
    · rw [pieces_cons_of_ne hc] at h
      rw [← headD_cons_tail_pieces] at ih
      rcases List.mem_cons.mp h with rfl | h
      · exact List.cons_subset_cons c (ih List.mem_cons_self)
      · exact List.subset_cons_of_subset c (ih (List.mem_cons_of_mem _ h))

/-- White space behind a text is trimmed away. -/
lemma Text.trim_append {w : List Char} (hw : ∀ c ∈ w, isBlank c = true) (p : List Char) :
    trim (p ++ w) = trim p := by
  have hback : ∀ q : List Char, trimRight (q ++ w) = trimRight q := by
    intro q
    rw [trimRight, List.reverse_append, List.dropWhile_append_of_pos (by simpa using hw), trimRight]
  rw [trim, trimLeft, List.dropWhile_append]
  split
  · rename_i hempty
    have hblank : ∀ c ∈ p, isBlank c = true :=
      List.dropWhile_eq_nil_iff.mp (List.isEmpty_iff.mp hempty)
    rw [List.dropWhile_eq_nil_iff.mpr hw, trim_eq_nil hblank]
    rfl
  · exact hback _

/-- The pieces with something written on them, trimmed. -/
def inked (ps : List (List Char)) : List (List Char) := (ps.map trim).filter (· ≠ [])

lemma inked_append (ps qs : List (List Char)) : inked (ps ++ qs) = inked ps ++ inked qs := by
  rw [inked, List.map_append, List.filter_append]
  rfl

/-- White space is without ink. -/
lemma inked_eq_nil {ps : List (List Char)} (h : ∀ p ∈ ps, ∀ c ∈ p, isBlank c = true) :
    inked ps = [] := by
  refine List.filter_eq_nil_iff.mpr fun token htoken => ?_
  obtain ⟨p, hp, rfl⟩ := List.mem_map.mp htoken
  simpa using trim_eq_nil (h p hp)

/-- White space behind the first piece is without ink. -/
lemma inked_cons_append {w : List Char} (hw : ∀ c ∈ w, isBlank c = true) (p : List Char)
    (ps : List (List Char)) : inked ((p ++ w) :: ps) = inked (p :: ps) := by
  rw [inked, List.map_cons, trim_append hw]
  rfl

/-- Two lines have the same ink: their first pieces differ in white space at the end, and their
other pieces in white space around them and in pieces of white space. -/
structure SameInk (line line' : List Char) : Prop where
  first : ∃ w, (∀ c ∈ w, isBlank c = true) ∧
    (pieces ' ' line').headD [] = (pieces ' ' line).headD [] ++ w
  rest : inked (pieces ' ' line).tail = inked (pieces ' ' line').tail

namespace SameInk

variable {s s' : List Char}

/-- White space has the same ink as nothing. -/
lemma nil_left {w : List Char} (hw : ∀ c ∈ w, isBlank c = true) : SameInk [] w := by
  have hpieces : ∀ p ∈ pieces ' ' w, ∀ c ∈ p, isBlank c = true := fun p hp c hc =>
    hw c (subset_of_mem_pieces hp hc)
  rw [← headD_cons_tail_pieces, List.forall_mem_cons] at hpieces
  exact ⟨⟨_, hpieces.1, rfl⟩, (inked_eq_nil hpieces.2).symm⟩

/-- All pieces of lines with the same ink are inked alike. -/
lemma inked_pieces (h : SameInk s s') : inked (pieces ' ' s) = inked (pieces ' ' s') := by
  obtain ⟨w, hw, hfirst⟩ := h.first
  calc inked (pieces ' ' s)
      = inked ([(pieces ' ' s).headD []] ++ (pieces ' ' s).tail) := by
        rw [List.singleton_append, headD_cons_tail_pieces]
    _ = inked ([(pieces ' ' s).headD []] ++ (pieces ' ' s').tail) := by
        rw [inked_append, h.rest, ← inked_append]
    _ = inked ((pieces ' ' s').headD [] :: (pieces ' ' s').tail) := by
        rw [List.singleton_append, hfirst, inked_cons_append hw]
    _ = inked (pieces ' ' s') := by rw [headD_cons_tail_pieces]

/-- A longer run of spaces makes empty pieces. -/
lemma spaces (h : SameInk s s') (k : Nat) :
    SameInk (' ' :: s) (List.replicate (k + 1) ' ' ++ s') := by
  have hempty : inked (List.replicate k []) = [] := by
    refine inked_eq_nil fun p hp => ?_
    rw [List.eq_of_mem_replicate hp]
    simp
  have hleft : pieces ' ' (' ' :: s) = [] :: pieces ' ' s := by rw [pieces, if_pos rfl]
  have hright : pieces ' ' (List.replicate (k + 1) ' ' ++ s') =
      [] :: (List.replicate k [] ++ pieces ' ' s') := by
    rw [pieces_replicate_append, List.replicate_succ, List.cons_append]
  refine ⟨⟨[], by simp, by rw [hleft, hright]; rfl⟩, ?_⟩
  rw [hleft, hright, List.tail_cons, List.tail_cons, inked_append, hempty, List.nil_append,
    h.inked_pieces]

/-- The same ink behind a character that is no space. -/
lemma cons (h : SameInk s s') {c : Char} (hc : c ≠ ' ') : SameInk (c :: s) (c :: s') := by
  obtain ⟨w, hw, hfirst⟩ := h.first
  refine ⟨⟨w, hw, ?_⟩, ?_⟩
  · rw [pieces_cons_of_ne hc, pieces_cons_of_ne hc, List.headD_cons, List.headD_cons, hfirst,
      List.cons_append]
  · rw [pieces_cons_of_ne hc, pieces_cons_of_ne hc]
    exact h.rest

/-- Lines with the same ink are read alike. -/
lemma readAlike (h : SameInk s s') : ReadAlike s s' := by
  obtain ⟨w, hw, hfirst⟩ := h.first
  have htail : ∀ line, (Block.tokens line).tail.filter (· ≠ []) = inked (pieces ' ' line).tail := by
    intro line
    rw [Block.tokens, ← List.map_tail]
    rfl
  refine .of_tokens ?_ ?_
  · rw [Block.headD_tokens, Block.headD_tokens, hfirst, trim_append hw]
  · rw [htail, htail, h.rest]

end SameInk

/-- **What is written on a loosened line** is what is written on the line. -/
theorem Loosened.sameInk {line line' : List Char} (h : Loosened line line')
    (hline : '\n' ∉ line) : SameInk line line' := by
  induction h with
  | ending hw => exact .nil_left fun c hc => (hw c hc).1
  | feed hw h ih => exact absurd List.mem_cons_self hline
  | space k h ih => exact (ih (List.not_mem_of_not_mem_cons hline)).spaces k
  | keep c h ih =>
    have hrest := ih (List.not_mem_of_not_mem_cons hline)
    by_cases hc : c = ' '
    · rw [hc]
      exact hrest.spaces 0
    · exact hrest.cons hc

/-- **A loosened document** has the same result. -/
theorem resultOf_eq_of_loosened {s s' : List Char} (h : Loosened s s') :
    resultOf s' = resultOf s := by
  have hlines : List.Forall₂ (fun line line' => '\n' ∉ line ∧ Loosened line line')
      (sourceLines s) (sourceLines s') :=
    (List.forall₂_and_left _ _).mpr
      ⟨fun _ hline => not_mem_of_mem_pieces hline, loosened_sourceLines h⟩
  exact (resultOf_eq_of_readAlike (hlines.imp fun _ _ hl => (hl.2.sameInk hl.1).readAlike)).symm

/-- **Line endings and spacing do not matter.** If white space other than line feeds is added at the
end of a document and in front of its line feeds, and some of its spaces are replaced by longer runs
of spaces, the interpretation has the same result: the same layers, which start on the same lines,
the same final state, and the same counters, those of malformed words and unsupported codes
included. So it has with a carriage return in front of every line feed.

**Proof sketch.** The white space that is added stays at the ends of lines when comments are dropped
and the document is cut into lines (`loosened_dropComments`, `loosened_pieces`). On a line it stands
behind a piece, where it is trimmed away, or makes pieces without ink (`Loosened.sameInk`), and
these are not read (`ReadAlike.of_tokens`). -/
theorem result_interpret_loosened (measured : Bool) (clock : Clock) (s : List Char) :
    (∀ s', Loosened s s' →
        (interpret measured clock s').result = (interpret measured clock s).result) ∧
      (interpret measured clock (carriageReturns s)).result =
        (interpret measured clock s).result := by
  have hloosened : ∀ s', Loosened s s' →
      (interpret measured clock s').result = (interpret measured clock s).result := by
    intro s' h
    rw [result_interpret, result_interpret, resultOf_eq_of_loosened h]
  exact ⟨hloosened, hloosened _ (loosened_carriageReturns s)⟩

/-- A move with a malformed word and a comment, and a line with an unsupported code. -/
def snugStroke : List Char := "G1".toList ++ ' ' :: ("E1 Xbad;out".toList ++ '\n' :: "G28".toList)

/-- The same with a wider gap, with white space and a carriage return behind the comment, and with a
tab behind the unsupported code. -/
def looseStroke : List Char :=
  "G1".toList ++ (List.replicate 3 ' ' ++
    ("E1 Xbad;out".toList ++ (['\u2003', '\r'] ++ '\n' :: ("G28".toList ++ ['\t']))))

/-- The two documents have the same result. -/
theorem result_interpret_loosened_stroke :
    Loosened snugStroke looseStroke ∧
      (interpret false {} looseStroke).result = (interpret false {} snugStroke).result := by
  have hfeed : Filler ['\u2003', '\r'] :=
    .cons (by decide) (by decide) (.cons (by decide) (by decide) .nil)
  have hending : Loosened ("G28".toList ++ []) ("G28".toList ++ ['\t']) :=
    loosened_append_left _ (.ending (.cons (by decide) (by decide) .nil))
  have hloosened : Loosened snugStroke looseStroke :=
    loosened_append_left _ (.space 2 (loosened_append_left _ (.feed hfeed hending)))
  exact ⟨hloosened, (result_interpret_loosened false {} snugStroke).1 looseStroke hloosened⟩

/-- White space within a comment, on a blank line and behind a code. -/
example : resultOf "G1   X1 Ybad \t;a  b\u00a0\r\n \r\nG28  \r".toList =
    resultOf "G1 X1 Ybad ;a b\n\nG28".toList := by decide +kernel

end Toolpath
