import Mathlib.Tactic.Lemma
import Toolpath.Block
/-!
# Lines of a document

How the lines of a document come out of its parts. A comment ends with its line, so a line feed
cuts a document into two documents whose lines follow each other, and the lines of a document are
its pieces between line feeds without their comments.

## Main results

* `Toolpath.sourceLines_append` — the lines of two documents joined by a line feed.
* `Toolpath.sourceLines_joined` — the lines of a document put together from lines.
* `Toolpath.sourceLines_eq_map` — the lines of a document are its pieces without comments.
-/

namespace Toolpath

open Text

/-- The pieces of a text are the first one and the others. -/
lemma Text.headD_cons_tail_pieces (sep : Char) (s : List Char) :
    (pieces sep s).headD [] :: (pieces sep s).tail = pieces sep s := by
  cases h : pieces sep s with
  | nil => exact absurd h (pieces_ne_nil sep s)
  | cons p ps => rfl

/-- A character that is not the separator belongs to the first piece. -/
lemma Text.pieces_cons_of_ne {sep c : Char} (h : c ≠ sep) (s : List Char) :
    pieces sep (c :: s) = (c :: (pieces sep s).headD []) :: (pieces sep s).tail := by
  rw [pieces, if_neg h]
  cases pieces sep s <;> rfl

/-- Pieces of two texts joined by the separator are those of the two texts. -/
lemma Text.pieces_append (sep : Char) (s t : List Char) :
    pieces sep (s ++ sep :: t) = pieces sep s ++ pieces sep t := by
  induction s with
  | nil => simp [pieces]
  | cons c s ih =>
    rw [List.cons_append, pieces, pieces, ih]
    split
    · rfl
    · cases h : pieces sep s with
      | nil => exact absurd h (pieces_ne_nil sep s)
      | cons p ps => rfl

/-- A comment does not reach across a line feed. -/
lemma dropComments_append (inside : Bool) (s t : List Char) :
    dropComments inside (s ++ '\n' :: t) = dropComments inside s ++ '\n' :: stripComments t := by
  induction s generalizing inside with
  | nil => rfl
  | cons c s ih =>
    rw [List.cons_append, dropComments, dropComments]
    split
    · rw [ih]
      rfl
    · split
      · exact ih true
      · rw [ih]
        rfl

/-- A text without a semicolon has no comment. -/
lemma stripComments_eq_self {s : List Char} (h : ';' ∉ s) : stripComments s = s := by
  unfold stripComments
  induction s with
  | nil => rfl
  | cons c s ih =>
    have hc : (false || c == ';') = false := by
      have hne : c ≠ ';' := fun hc => h (by simp [hc])
      simpa using hne
    have hs : ';' ∉ s := fun hs => h (List.mem_cons_of_mem c hs)
    rw [dropComments, hc, ih hs]
    simp

/-- **The lines of two documents joined by a line feed** are those of the first one and then those
of the second one. -/
theorem sourceLines_append (s t : List Char) :
    sourceLines (s ++ '\n' :: t) = sourceLines s ++ sourceLines t := by
  rw [sourceLines, stripComments, dropComments_append, pieces_append]
  rfl

/-- The first token of a line is its first piece, trimmed. -/
lemma Block.headD_tokens (line : List Char) :
    (tokens line).headD [] = trim ((pieces ' ' line).headD []) := by
  rw [tokens, ← headD_cons_tail_pieces]
  rfl

/-! ## Documents put together from lines -/

/-- A text without the separator is its only piece. -/
lemma Text.pieces_eq_singleton {sep : Char} {s : List Char} (h : sep ∉ s) : pieces sep s = [s] := by
  induction s with
  | nil => rfl
  | cons c s ih =>
    have hc : ¬ c = sep := fun hc => h (by simp [hc])
    have hs : sep ∉ s := fun hs => h (List.mem_cons_of_mem c hs)
    rw [pieces, if_neg hc, ih hs]

/-- No piece of a text holds the separator. -/
lemma Text.not_mem_of_mem_pieces {sep : Char} {s p : List Char} (h : p ∈ pieces sep s) :
    sep ∉ p := by
  induction s generalizing p with
  | nil =>
    obtain rfl := List.mem_singleton.mp h
    exact List.not_mem_nil
  | cons c s ih =>
    by_cases hc : c = sep
    · rw [pieces, if_pos hc] at h
      rcases List.mem_cons.mp h with rfl | h
      · exact List.not_mem_nil
      · exact ih h
    · rw [pieces_cons_of_ne hc] at h
      rw [← headD_cons_tail_pieces] at ih
      rcases List.mem_cons.mp h with rfl | h
      · exact List.not_mem_cons_of_ne_of_not_mem (Ne.symm hc) (ih List.mem_cons_self)
      · exact ih (List.mem_cons_of_mem _ h)

/-- The pieces of a text, put together again, are the text. -/
lemma Text.joined_pieces (sep : Char) (s : List Char) : joined [sep] (pieces sep s) = s := by
  induction s with
  | nil => rfl
  | cons c s ih =>
    rw [pieces]
    cases hs : pieces sep s with
    | nil => exact absurd hs (pieces_ne_nil sep s)
    | cons p ps =>
      rw [hs] at ih
      split
      · rename_i hc
        rw [joined, ih, hc]
        · rfl
        · simp
      · cases ps with
        | nil => rw [← ih]; rfl
        | cons q qs => rw [← ih]; rfl

/-- Removing a comment brings no line feed. -/
lemma not_mem_dropComments {s : List Char} (h : '\n' ∉ s) (inside : Bool) :
    '\n' ∉ dropComments inside s := by
  induction s generalizing inside with
  | nil => exact List.not_mem_nil
  | cons c s ih =>
    have hc : ¬ c = '\n' := fun hc => h (by simp [hc])
    have hs : '\n' ∉ s := fun hs => h (List.mem_cons_of_mem c hs)
    rw [dropComments, if_neg hc]
    split
    · exact ih hs true
    · intro hmem
      rcases List.mem_cons.mp hmem with hmem | hmem
      · exact hc hmem.symm
      · exact ih hs false hmem

/-- **The lines of a document put together from lines** are these lines without their comments. -/
theorem sourceLines_joined {lines : List (List Char)} (hne : lines ≠ [])
    (hlines : ∀ line ∈ lines, '\n' ∉ line) :
    sourceLines (joined ['\n'] lines) = lines.map stripComments := by
  induction lines with
  | nil => exact absurd rfl hne
  | cons line rest ih =>
    have hline : sourceLines line = [stripComments line] :=
      pieces_eq_singleton (not_mem_dropComments (hlines line List.mem_cons_self) false)
    cases rest with
    | nil => exact hline
    | cons next rest =>
      have hrest := ih (by simp) fun l hl => hlines l (List.mem_cons_of_mem line hl)
      have hjoined : joined ['\n'] (line :: next :: rest) =
          line ++ '\n' :: joined ['\n'] (next :: rest) := by simp [joined]
      rw [hjoined, sourceLines_append, hline, hrest]
      rfl

/-- **The lines of a document** are its pieces between line feeds without their comments. -/
theorem sourceLines_eq_map (s : List Char) :
    sourceLines s = (pieces '\n' s).map stripComments := by
  have hpieces := sourceLines_joined (pieces_ne_nil '\n' s) fun _ h => not_mem_of_mem_pieces h
  rwa [joined_pieces] at hpieces

end Toolpath
