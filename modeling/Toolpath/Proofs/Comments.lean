import Toolpath.Proofs.Accounting
/-!
# Comments line by line

Comments are removed from a document as a whole, before it is cut into lines. Since a comment ends
with its line, that is the same as to cut the document into lines first and each line at its first
semicolon: what is left of a line depends on that line alone, and a line keeps its number. What is
removed once need not be removed again.

## Main definitions

* `Toolpath.beforeComment` — a line in front of its first semicolon.

## Main results

* `Toolpath.sourceLines_eq_map_beforeComment` — the lines of a document, each in front of its
  comment.
* `Toolpath.stripComments_stripComments` — a document without comments has none to remove.
* `Toolpath.sourceLines_line_by_line` — comments are removed line by line.
-/

namespace Toolpath

open Text

/-! ## One line -/

/-- A line in front of its first semicolon. -/
def beforeComment (line : List Char) : List Char := line.takeWhile (· ≠ ';')

/-- Within a comment nothing is left until the line ends. -/
lemma dropComments_inside {line : List Char} (h : '\n' ∉ line) : dropComments true line = [] := by
  induction line with
  | nil => rfl
  | cons c line ih =>
    obtain ⟨hc, hline⟩ := List.ne_and_not_mem_of_not_mem_cons h
    rw [dropComments, if_neg (Ne.symm hc), Bool.true_or, if_pos rfl]
    exact ih hline

/-- What is left of a line stands in front of its first semicolon. -/
lemma stripComments_line {line : List Char} (h : '\n' ∉ line) :
    stripComments line = beforeComment line := by
  unfold stripComments beforeComment
  induction line with
  | nil => rfl
  | cons c line ih =>
    obtain ⟨hc, hline⟩ := List.ne_and_not_mem_of_not_mem_cons h
    rw [dropComments, if_neg (Ne.symm hc), Bool.false_or]
    by_cases hsemicolon : c = ';'
    · rw [if_pos (by simpa using hsemicolon), dropComments_inside hline,
        List.takeWhile_cons_of_neg (by simpa using hsemicolon)]
    · rw [if_neg (by simpa using hsemicolon), ih hline,
        List.takeWhile_cons_of_pos (by simpa using hsemicolon)]

/-! ## Documents -/

/-- **The lines of a document** are its pieces between line feeds, each in front of its comment. -/
theorem sourceLines_eq_map_beforeComment (s : List Char) :
    sourceLines s = (pieces '\n' s).map beforeComment := by
  rw [sourceLines_eq_map]
  exact List.map_congr_left fun line hline => stripComments_line (not_mem_of_mem_pieces hline)

/-- No semicolon is left. -/
lemma semicolon_not_mem_dropComments (inside : Bool) (s : List Char) :
    ';' ∉ dropComments inside s := by
  induction s generalizing inside with
  | nil => exact List.not_mem_nil
  | cons c s ih =>
    rw [dropComments]
    split
    · rename_i hc
      exact List.not_mem_cons_of_ne_of_not_mem (by simp [hc]) (ih false)
    · split
      · exact ih true
      · rename_i hkept
        have hc : ';' ≠ c := fun hc => hkept (by simp [hc.symm])
        exact List.not_mem_cons_of_ne_of_not_mem hc (ih false)

/-- **A document without comments** has none to remove. -/
theorem stripComments_stripComments (s : List Char) :
    stripComments (stripComments s) = stripComments s :=
  stripComments_eq_self (semicolon_not_mem_dropComments false s)

/-- What is left of a document has the same lines. -/
lemma sourceLines_stripComments (s : List Char) : sourceLines (stripComments s) = sourceLines s := by
  rw [sourceLines, stripComments_stripComments]
  rfl

/-- A document is interpreted by its lines. -/
lemma interpret_congr {s s' : List Char} (h : sourceLines s = sourceLines s') (measured : Bool)
    (clock : Clock) : interpret measured clock s = interpret measured clock s' := by
  unfold interpret Run.ofText
  rw [h]

/-- **Comments are removed line by line.** The lines of a document are its pieces between line feeds,
each in front of its first semicolon. So every line comes from the piece with its number, there is
one line more than line feeds, and no line holds a semicolon or a line feed. Put together again, the
lines are the document without its comments; removing the comments twice is removing them once, and
the document without its comments has the same interpretation.

**Proof sketch.** A comment does not reach across a line feed (`dropComments_append`), so the pieces
may be cut one by one, and in a text without line feeds all is left in front of the first semicolon
(`stripComments_line`). -/
theorem sourceLines_line_by_line (s : List Char) :
    sourceLines s = (pieces '\n' s).map beforeComment ∧
      (∀ n : Nat, (sourceLines s)[n]? = ((pieces '\n' s)[n]?).map beforeComment) ∧
      (sourceLines s).length = s.count '\n' + 1 ∧
      (∀ line ∈ sourceLines s, ';' ∉ line ∧ '\n' ∉ line) ∧
      joined ['\n'] (sourceLines s) = stripComments s ∧
      stripComments (stripComments s) = stripComments s ∧
      ∀ measured clock, interpret measured clock (stripComments s) = interpret measured clock s := by
  refine ⟨sourceLines_eq_map_beforeComment s, fun n => ?_, length_sourceLines s,
    fun line hline => ⟨?_, not_mem_of_mem_pieces hline⟩, joined_pieces '\n' _,
    stripComments_stripComments s, interpret_congr (sourceLines_stripComments s)⟩
  · rw [sourceLines_eq_map_beforeComment, List.getElem?_map]
  · rw [sourceLines_eq_map_beforeComment] at hline
    obtain ⟨piece, -, rfl⟩ := List.mem_map.mp hline
    intro hmem
    exact absurd (List.mem_takeWhile_imp hmem) (by simp)

/-- A comment at once, one with a second semicolon, a stray carriage return, and one at the end. -/
example : sourceLines ";a\nG1 X1;b;c\r\nG90\r;".toList =
    ["".toList, "G1 X1".toList, "G90\r".toList] := by decide +kernel

end Toolpath
