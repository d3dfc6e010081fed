import Toolpath.Proofs.Journal
import Toolpath.Proofs.Spacing
/-!
# What a run reports

The reports of a run at the level of details tell what its result holds: one opens each layer, one
leaves out each arc, and one refuses each line with an unsupported code, in the order of the lines.
Malformed words are reported on every line and counted on the executed ones alone, so there the
reports and the counter differ by what stands on lines that are passed over.

## Main definitions

* `Toolpath.refusals` — the steps with an unsupported code, each with its line.
* `Toolpath.Mirrors` — reports that tell what a result holds.

## Main results

* `Toolpath.arcs_noticesFrom`, `Toolpath.refusals_noticesFrom` — what the notices of steps tell of
  arcs and of unsupported codes.
* `Toolpath.lines_noticesFrom` — notices stand in the order of their lines, at most one on each.
* `Toolpath.mirrors_interpret` — the reports of a run mirror its result.
* `Toolpath.complaints_interpret` — the reports of malformed words are those that are counted and
  those on lines that are passed over.
-/

namespace Toolpath

open Text

/-! ## What notices tell -/

/-- The unsupported code that an event refuses, with its line. -/
def Event.refusal? : Event → Option (List Char × Int)
  | .unsupported code line => some (code, line)
  | .malformed .. | .layerOpened .. | .arcSkipped .. => none

/-- The steps with an unsupported code, each with its line. -/
def refusals (ts : List Step) : List (List Char × Int) :=
  (ts.filter fun st => !supportedCodes.contains st.block.code).map fun st =>
    (st.block.code, (st.line : Int))

/-- A step notes an arc iff its code is that of one. -/
lemma Step.arcs_notices (r : Recorder) (st : Step) :
    (st.notices r).countP Event.isArc = if st.block.code ∈ arcCodes then 1 else 0 := by
  have harc : (∃ clockwise, st.command = .arc clockwise) ↔ st.block.code ∈ arcCodes :=
    Command.ofBlock_eq_arc_iff
  cases hc : st.command with
  | arc clockwise =>
    have hcode : st.block.code ∈ arcCodes := harc.mp ⟨clockwise, hc⟩
    simp [notices, hc, Event.isArc, hcode]
  | linear | positioning | origin | unsupported =>
    have hcode : st.block.code ∉ arcCodes := by
      intro hcode
      obtain ⟨clockwise, h⟩ := harc.mpr hcode
      exact absurd (hc.symm.trans h) (by simp)
    rw [notices, hc, if_neg hcode]
    dsimp only
    try split
    all_goals simp [Event.isArc, Event.ofHead]

/-- The arcs that steps note are as many as the steps that are arcs. -/
lemma arcs_noticesFrom (r : Recorder) (ts : List Step) :
    (noticesFrom r ts).countP Event.isArc =
      (ts.filter fun st => decide (st.block.code ∈ arcCodes)).length := by
  induction ts generalizing r with
  | nil => rfl
  | cons st ts ih =>
    rw [noticesFrom, List.countP_append, Step.arcs_notices, ih, List.filter_cons]
    by_cases hcode : st.block.code ∈ arcCodes
    · simp [hcode, Nat.add_comm]
    · simp [hcode]

/-- A step refuses its code iff it is not supported. -/
lemma Step.refusals_notices (r : Recorder) (st : Step) :
    (st.notices r).filterMap Event.refusal? =
      if st.block.code ∈ supportedCodes then [] else [(st.block.code, (st.line : Int))] := by
  have hrefused : ∀ code, st.command = .unsupported code ↔
      st.block.code ∉ supportedCodes ∧ code = st.block.code :=
    fun code => Command.ofBlock_eq_unsupported_iff
  cases hc : st.command with
  | unsupported code =>
    obtain ⟨hcode, rfl⟩ := (hrefused code).mp hc
    simp [notices, hc, Event.refusal?, hcode]
  | linear | positioning | origin | arc =>
    have hcode : st.block.code ∈ supportedCodes := by
      by_contra hcode
      exact absurd (hc.symm.trans ((hrefused _).mpr ⟨hcode, rfl⟩)) (by simp)
    rw [notices, hc, if_pos hcode]
    dsimp only
    try split
    all_goals simp [Event.refusal?, Event.ofHead]

/-- **The codes that steps refuse** are their unsupported ones, each with its line. -/
theorem refusals_noticesFrom (r : Recorder) (ts : List Step) :
    (noticesFrom r ts).filterMap Event.refusal? = refusals ts := by
  induction ts generalizing r with
  | nil => rfl
  | cons st ts ih =>
    rw [noticesFrom, List.filterMap_append, Step.refusals_notices, ih, refusals, refusals,
      List.filter_cons]
    by_cases hcode : st.block.code ∈ supportedCodes <;> simp [hcode]

/-- A step notes nothing, or one event on its line. -/
lemma Step.lines_notices (r : Recorder) (st : Step) :
    ((st.notices r).map Event.line?).Sublist [some (st.line : Int)] := by
  unfold notices
  split
  · split <;> simp [Event.line?, Event.ofHead]
  all_goals simp [Event.line?]

/-- **The notices of steps** stand in the order of the steps, at most one for each. -/
theorem lines_noticesFrom (r : Recorder) (ts : List Step) :
    ((noticesFrom r ts).map Event.line?).Sublist (ts.map fun st => some (st.line : Int)) := by
  induction ts generalizing r with
  | nil => exact .slnil
  | cons st ts ih =>
    rw [noticesFrom, List.map_append, List.map_cons]
    exact (Step.lines_notices r st).append (ih (r.take st))

/-! ## The counters of unsupported codes -/

/-- Counting entry by entry, the counter of a key is raised by its occurrences. -/
lemma Entries.find?_foldl_bump {κ : Type} [DecidableEq κ] (counters : List (κ × Nat))
    (keys : List κ) (key : κ) :
    (find? (keys.foldl bump counters) key).getD 0 =
      (find? counters key).getD 0 + keys.countP (· = key) := by
  induction keys generalizing counters with
  | nil => rfl
  | cons k keys ih =>
    rw [List.foldl_cons, ih, bump, find?_alter]
    by_cases hk : k = key
    · subst hk
      cases find? counters k <;> simp [Nat.add_assoc, Nat.add_comm 1]
    · simp [hk]

/-- The lines of a document with an unsupported code, as they are refused. -/
def refusedLines (s : List Char) (code : List Char) : List Nat :=
  ((stepsOf s).filter fun st => !supportedCodes.contains st.block.code && st.block.code = code).map
    (·.line)

/-- The counter of an unsupported code is the number of lines where it is refused. -/
lemma length_refusedLines (s : List Char) (code : List Char) :
    (refusedLines s code).length = (Entries.find? (resultOf s).tally.ignored code).getD 0 := by
  rw [show (resultOf s).tally = _ from tally_ofText s, Tally.ignored_foldl_take,
    Entries.find?_foldl_bump, List.countP_filter, List.countP_map, List.countP_eq_length_filter,
    refusedLines, List.length_map]
  simp [Entries.find?, Function.comp_def, Bool.and_comm]

/-! ## Reports and results -/

/-- What is read off the notices alone can be read off the whole journal. -/
lemma filterMap_journal {α : Type} {f : Event → Option α}
    (hf : ∀ word line, f (.malformed word line) = none) (s : List Char) :
    (Run.ofText s).journal.toList.filterMap f = (noticesFrom {} (stepsOf s)).filterMap f := by
  rw [← notices_ofText, List.filterMap_filter]
  refine List.filterMap_congr fun e _ => ?_
  cases e with
  | malformed word line => simp [Event.isComplaint, hf]
  | layerOpened | arcSkipped | unsupported => simp [Event.isComplaint]

/-- What is found among the notices alone is found in the whole journal. -/
lemma filter_journal {p : Event → Bool} (hp : ∀ word line, p (.malformed word line) = false)
    (s : List Char) :
    (Run.ofText s).journal.toList.filter p = (noticesFrom {} (stepsOf s)).filter p := by
  have hguard := filterMap_journal (f := Option.guard p) (fun word line => by simp [hp word line]) s
  rwa [List.filterMap_eq_filter] at hguard

/-- The report that opens a layer. -/
def openingText (index : Nat) (l : Layer) : String :=
  s!"Layer {index} opened at z={String.ofList (Decimal.text l.z)} (line {l.startLine})"

/-- The report that refuses an unsupported code on a line. -/
def refusalText (code : List Char) (line : Nat) : String :=
  s!"Command not supported: {String.ofList code} (line {line})"

/-- Reports on a document that tell what its result holds. -/
structure Mirrors (log : List Log.Record) (s : List Char) (r : Result) : Prop where
  /-- One report opens each layer, in order, with its number, its height and its line. -/
  layers : (log.filter (·.starts Event.openingWords)).map (·.message) =
    r.layers.mapIdx openingText
  arcs : log.countP (·.starts Event.arcWords) = r.tally.arcs
  /-- As many reports refuse a code as are counted, each on another line with that code. -/
  refused : ∀ code, ∃ lines : List Nat,
    lines.length = (Entries.find? r.tally.ignored code).getD 0 ∧ lines.Pairwise (· < ·) ∧
      (∀ line ∈ lines, ∃ text, (sourceLines s)[line]? = some text ∧ codeOf text = code) ∧
        ∀ line, log.countP (·.message = refusalText code line) = lines.count line
  /-- All reports but complaints end with the number of a line. -/
  numbered : ∀ report ∈ log, report.starts Event.complaintWords = true ∨
    ∃ line < (sourceLines s).length, report.EndsAt line
  /-- These numbers increase. -/
  ordered : log.Pairwise fun a b => ∀ line line', a.EndsAt line → b.EndsAt line' → line < line'

section Reports

variable (s : List Char)

/-- The reports of layers open them one by one. -/
lemma openings_records :
    (((Run.ofText s).journal.toList.map Event.record).filter (·.starts Event.openingWords)).map
      (·.message) = (resultOf s).layers.mapIdx openingText := by
  have hkind : ((·.starts Event.openingWords) ∘ Event.record) = Event.isOpening :=
    funext fun e => (Event.starts_record e).2.1
  have hopening : (Run.ofText s).journal.toList.filter Event.isOpening =
      (Run.ofText s).recorder.heads.mapIdx Event.ofHead := by
    rw [filter_journal (fun _ _ => rfl) s, recorder_ofText,
      ← openings_noticesFrom]
    rfl
  rw [List.filter_map, hkind, hopening, Recorder.heads]
  apply List.ext_getElem?
  intro index
  simp only [List.getElem?_map, List.getElem?_mapIdx, Option.map_map]
  rfl

/-- The reports of arcs are as many as are counted. -/
lemma arcs_records :
    ((Run.ofText s).journal.toList.map Event.record).countP (·.starts Event.arcWords) =
      (resultOf s).tally.arcs := by
  have hkind : ((·.starts Event.arcWords) ∘ Event.record) = Event.isArc :=
    funext fun e => (Event.starts_record e).2.2
  rw [List.countP_map, hkind, List.countP_eq_length_filter,
    filter_journal (fun _ _ => rfl) s,
    ← List.countP_eq_length_filter, arcs_noticesFrom, show (resultOf s).tally = _ from tally_ofText s,
    Tally.arcs_foldl_take, Nat.zero_add]

/-- The reports that refuse a code are those of its lines. -/
lemma refusals_records (code : List Char) (line : Nat) :
    ((Run.ofText s).journal.toList.map Event.record).countP (·.message = refusalText code line) =
      (refusedLines s code).count line := by
  have hevent : ∀ e : Event, e.record.message = refusalText code line ↔
      e.refusal? = some (code, (line : Int)) := by
    intro e
    refine (@Event.message_eq_unsupported_iff e code line).trans ?_
    cases e <;> simp [Event.refusal?]
  have hjournal : ((Run.ofText s).journal.toList.map Event.record).countP
      (·.message = refusalText code line) =
        ((Run.ofText s).journal.toList.filterMap Event.refusal?).countP (· = (code, (line : Int))) := by
    rw [List.countP_map, List.countP_filterMap]
    refine List.countP_congr fun e _ => ?_
    simp only [Function.comp_apply, decide_eq_true_eq, hevent]
    cases e.refusal? <;> simp
  rw [hjournal, filterMap_journal (fun _ _ => rfl) s,
    refusals_noticesFrom, refusals, refusedLines, List.countP_map, List.countP_filter,
    List.count_eq_countP, List.countP_map, List.countP_filter]
  refine List.countP_congr fun st _ => ?_
  simp [and_assoc, and_comm]

/-- The lines where a code is refused increase, and each is a line with that code. -/
lemma refusedLines_spec (code : List Char) :
    (refusedLines s code).Pairwise (· < ·) ∧ ∀ line ∈ refusedLines s code,
      ∃ text, (sourceLines s)[line]? = some text ∧ codeOf text = code := by
  constructor
  · rw [refusedLines, List.pairwise_map]
    exact (pairwise_line_stepsOf s).filter _
  · intro line hline
    obtain ⟨st, hst, rfl⟩ := List.mem_map.mp hline
    obtain ⟨hmem, hcode⟩ := List.mem_filter.mp hst
    obtain ⟨⟨text, htext, hblock⟩, -, -⟩ := mem_stepsOf.mp hmem
    simp only [Bool.and_eq_true, decide_eq_true_eq] at hcode
    exact ⟨text, htext, by rw [← code_read, ← hblock, hcode.2]⟩

/-- The lines that a journal names are lines of steps, in their order. -/
lemma lines_journal :
    ((Run.ofText s).journal.toList.filterMap Event.line?).Sublist
      ((stepsOf s).map fun st => (st.line : Int)) := by
  have hsub := (lines_noticesFrom {} (stepsOf s)).filterMap id
  rw [List.filterMap_map, List.filterMap_map] at hsub
  rw [filterMap_journal (fun _ _ => rfl) s]
  simpa [Function.comp_def] using hsub

/-- The reports that name a line name one of the document. -/
lemma numbered_records : ∀ report ∈ (Run.ofText s).journal.toList.map Event.record,
    report.starts Event.complaintWords = true ∨
      ∃ line < (sourceLines s).length, report.EndsAt line := by
  intro report hreport
  obtain ⟨e, he, rfl⟩ := List.mem_map.mp hreport
  rw [(Event.starts_record e).1]
  cases hline : e.line? with
  | none => exact .inl (by cases e <;> first | rfl | cases hline)
  | some n =>
    have hmem : n ∈ (stepsOf s).map fun st => (st.line : Int) :=
      (lines_journal s).subset (List.mem_filterMap.mpr ⟨e, he, hline⟩)
    obtain ⟨st, hst, rfl⟩ := List.mem_map.mp hmem
    have hlt := (line_stepsFrom hst).2
    rw [Nat.zero_add] at hlt
    exact .inr ⟨st.line, hlt, Event.endsAt_record_iff.mpr hline⟩

/-- The lines that reports name increase. -/
lemma ordered_records : ((Run.ofText s).journal.toList.map Event.record).Pairwise
    fun a b => ∀ line line', a.EndsAt line → b.EndsAt line' → line < line' := by
  have hsteps : ((stepsOf s).map fun st => (st.line : Int)).Pairwise (· < ·) := by
    rw [List.pairwise_map]
    exact (pairwise_line_stepsOf s).imp fun h => by omega
  have hlines := List.pairwise_filterMap.mp (hsteps.sublist (lines_journal s))
  rw [List.pairwise_map]
  refine hlines.imp fun {e e'} h line line' hline hline' => ?_
  have hlt := h line (Event.endsAt_record_iff.mp hline) line' (Event.endsAt_record_iff.mp hline')
  omega

/-- The reports on a document mirror its result. -/
lemma mirrors_resultOf :
    Mirrors ((Run.ofText s).journal.toList.map Event.record) s (resultOf s) where
  layers := openings_records s
  arcs := arcs_records s
  refused := fun code => ⟨refusedLines s code, length_refusedLines s code,
    (refusedLines_spec s code).1, (refusedLines_spec s code).2, refusals_records s code⟩
  numbered := numbered_records s
  ordered := ordered_records s

end Reports

/-- **Reports mirror the result.** Take the reports of details of a run, measured or not. One opens
each layer, in order, with its number, its height and its line; as many leave out an arc as arcs
are counted; as many refuse an unsupported code as that code is counted, each on another line with
it; and the lines that reports end with increase.

**Proof sketch.** The journal holds complaints and the notices of the steps
(`Run.notices_readLines`). A step notes the layer that it opens under the number of layers in front
of it (`openings_noticesFrom`), or its arc, or its code, and nothing else, so the notices stand in
the order of the steps (`lines_noticesFrom`). -/
theorem mirrors_interpret (measured : Bool) (clock : Clock) (s : List Char) :
    Mirrors ((interpret measured clock s).reports.filter (·.level = Log.Level.debug.number)) s
      (interpret measured clock s).result := by
  rw [debug_reports]
  have h := mirrors_resultOf s
  cases measured with
  | false => exact h
  | true => exact ⟨h.layers, h.arcs, h.refused, h.numbered, h.ordered⟩

/-! ## Malformed words -/

/-- A line of white space has no word. -/
lemma numberless_of_blank {line : List Char} (h : ∀ c ∈ line, isBlank c = true) :
    numberless line = 0 := by
  have hnil : ∀ piece ∈ Block.tokens line, piece = [] := by
    intro piece hpiece
    obtain ⟨p, hp, rfl⟩ := List.mem_map.mp hpiece
    exact trim_eq_nil fun c hc => h c (subset_of_mem_pieces hp hc)
  rw [numberless, List.countP_eq_zero]
  intro piece hpiece
  simp [hnil piece (List.mem_of_mem_tail hpiece)]

/-- The words without a number stand on lines with a code or on lines without one. -/
lemma sum_numberless (lines : List (List Char)) :
    (lines.map numberless).sum =
      ((lines.filter fun line => codeOf line ≠ []).map numberless).sum +
        ((lines.filter fun line => codeOf line = []).map numberless).sum := by
  induction lines with
  | nil => rfl
  | cons line lines ih =>
    rw [List.map_cons, List.sum_cons, ih, List.filter_cons, List.filter_cons]
    by_cases hcode : codeOf line = []
    · simp only [hcode, ne_eq, not_true, decide_false, decide_true, Bool.false_eq_true, if_false,
        if_true, List.map_cons, List.sum_cons]
      omega
    · simp only [hcode, ne_eq, not_false_iff, decide_false, decide_true, Bool.false_eq_true, if_false,
        if_true, List.map_cons, List.sum_cons]
      omega

/-- No line without a code holds a word without a number iff no indented line does. -/
lemma forall_numberless_iff (lines : List (List Char)) :
    (∀ line ∈ lines, codeOf line = [] → numberless line = 0) ↔
      ∀ line ∈ lines, Indented line → numberless line = 0 := by
  refine forall₂_congr fun line _ => ?_
  rw [codeOf_eq_nil_iff]
  constructor
  · intro h hindented
    exact h (.inr hindented)
  · rintro h (hblank | hindented)
    · exact numberless_of_blank hblank
    · exact h hindented

/-- **Malformed words are reported on every line and counted on executed ones.** The reports of
malformed words are those that are counted and those on lines without a code, so they are as many
as are counted iff no indented line holds one.

**Proof sketch.** The complaints of a run are those of its lines (`Run.complaints_readLines`), the
counter holds those of lines with a code (`malformed_resultOf`), and a line without a code is white
space or indented (`codeOf_eq_nil_iff`). -/
theorem complaints_interpret (measured : Bool) (clock : Clock) (s : List Char) :
    let log := (interpret measured clock s).reports.filter (·.level = Log.Level.debug.number)
    let counted := (interpret measured clock s).result.tally.malformed
    log.countP (·.starts Event.complaintWords) =
        counted + (((sourceLines s).filter fun line => codeOf line = []).map numberless).sum ∧
      (log.countP (·.starts Event.complaintWords) = counted ↔
        ∀ line ∈ sourceLines s, Indented line → numberless line = 0) := by
  intro log counted
  have hcounted : counted = (resultOf s).tally.malformed := by
    unfold counted
    cases measured <;> rfl
  have hkind : ((·.starts Event.complaintWords) ∘ Event.record) = Event.isComplaint :=
    funext fun e => (Event.starts_record e).1
  have hlog : log.countP (·.starts Event.complaintWords) =
      ((sourceLines s).map numberless).sum := by
    rw [show log = _ from debug_reports measured clock s, List.countP_map, hkind,
      List.countP_eq_length_filter, complaints_ofText, List.length_flatMap]
    simp only [length_complaints]
  have hsum : log.countP (·.starts Event.complaintWords) =
      counted + (((sourceLines s).filter fun line => codeOf line = []).map numberless).sum := by
    rw [hlog, hcounted, malformed_resultOf, sum_numberless]
  refine ⟨hsum, ?_⟩
  rw [hsum, Nat.add_eq_left, List.sum_eq_zero_iff, ← forall_numberless_iff]
  constructor
  · intro h line hline hcode
    exact h _ (List.mem_map.mpr ⟨line, List.mem_filter.mpr ⟨hline, decide_eq_true hcode⟩, rfl⟩)
  · intro h n hn
    obtain ⟨line, hline, rfl⟩ := List.mem_map.mp hn
    obtain ⟨hmem, hcode⟩ := List.mem_filter.mp hline
    exact h line hmem (of_decide_eq_true hcode)

/-- A space in front of a line with a malformed word: the word is reported and not counted. -/
theorem complaints_not_counted_indented :
    let i := interpret false (.ofReadings []) " G90 Xfoo".toList
    (i.reports.filter (·.level = Log.Level.debug.number)).map (·.message) =
        ["Malformed parameter 'Xfoo' in ' G90 Xfoo'"] ∧
      i.result.tally.malformed = 0 := by
  decide +kernel

end Toolpath
