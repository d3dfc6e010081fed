import Toolpath.Proofs.Digits
import Toolpath.Proofs.Drawing
import Toolpath.Proofs.Indented
/-!
# The journal of a run

A run notes its events one behind the other. Here the journal is taken apart like the rest of the
run: complaints about malformed words belong to lines, and every other event is a notice that
belongs to a step and depends on the recorder in front of it alone. What the wording of a report
tells about its event is settled here as well.

## Main definitions

* `Toolpath.Step.notices` — the events that a step adds to the journal.
* `Toolpath.complaints` — the events that a line adds to the journal, executed or not.
* `Toolpath.noticesFrom` — the notices of steps in a row.
* `Toolpath.Log.Record.starts`, `Toolpath.Log.Record.EndsAt` — how the wording of a report starts,
  and which line it ends with.

## Main results

* `Toolpath.Run.notices_readLines` — the notices of a run are those of its steps.
* `Toolpath.Run.complaints_readLines` — the complaints of a run are those of its lines.
* `Toolpath.debug_reports` — below the summary, the reports of a run are the events of its journal.
* `Toolpath.Log.Record.EndsAt.unique` — a report ends with one line.
* `Toolpath.Event.message_eq_unsupported_iff` — which report refuses an unsupported code on a line.
-/

namespace Toolpath

open Text

/-! ## Events of steps and of lines -/

namespace Event

/-- Whether an event is a complaint about a malformed word. -/
def isComplaint : Event → Bool
  | malformed .. => true
  | layerOpened .. | arcSkipped .. | unsupported .. => false

/-- Whether an event opens a layer. -/
def isOpening : Event → Bool
  | layerOpened .. => true
  | malformed .. | arcSkipped .. | unsupported .. => false

/-- Whether an event leaves out an arc. -/
def isArc : Event → Bool
  | arcSkipped .. => true
  | malformed .. | layerOpened .. | unsupported .. => false

/-- The opening of a layer with a number. -/
def ofHead (index : Nat) (head : Float × Int) : Event := .layerOpened index head.1 head.2

end Event

/-- The events that a step adds to the journal, behind the recorder `r`. -/
def Step.notices (r : Recorder) (st : Step) : List Event :=
  match st.command with
  | .linear _ =>
    if st.draws && r.needsLayer st.height then [.ofHead r.heads.length (st.height, st.line)] else []
  | .arc _ => [.arcSkipped st.line]
  | .unsupported code => [.unsupported code st.line]
  | .origin _ | .positioning _ => []

/-- The notices of steps in a row. -/
def noticesFrom (r : Recorder) : List Step → List Event
  | [] => []
  | st :: ts => st.notices r ++ noticesFrom (r.take st) ts

/-- The events that a line adds to the journal whether it is executed or not. -/
def complaints (line : List Char) : List Event :=
  (Block.read line).malformed.map fun w => .malformed w.written line

/-- There are as many complaints about a line as it has words without a number. -/
lemma length_complaints (line : List Char) : (complaints line).length = numberless line := by
  rw [complaints, List.length_map, length_malformed_read]

/-- A step adds no complaint. -/
lemma Step.isComplaint_of_mem_notices {r : Recorder} {st : Step} :
    ∀ e ∈ st.notices r, e.isComplaint = false := by
  intro e he
  unfold notices at he
  split at he
  · split at he <;> simp_all [Event.ofHead, Event.isComplaint]
  all_goals simp_all [Event.isComplaint]

/-! ### Layers are opened by notices -/

/-- The heads of layers after a step: a drawing step adds one if it needs a layer. -/
lemma Recorder.heads_take (r : Recorder) (st : Step) :
    (r.take st).heads =
      if st.draws && r.needsLayer st.height then r.heads ++ [(st.height, (st.line : Int))]
      else r.heads := by
  cases hd : st.draws with
  | false => rw [heads_take_of_not_draws r hd, Bool.false_and, if_neg (by simp)]
  | true =>
    have hext : st.after.extruding = true := (Step.extruding_after (Step.isMove_of_draws hd)).trans hd
    rw [Bool.true_and, Recorder.take, hd, if_pos rfl]
    cases hneeds : r.needsLayer st.height with
    | true =>
      cases hc : r.current <;>
        simp [heads, layers, record, openLayer, hc, OpenLayer.record, hext, OpenLayer.draw,
          OpenLayer.start, OpenLayer.layer]
    | false =>
      cases hc : r.current <;>
        simp [heads, layers, record, hc, OpenLayer.record, hext, OpenLayer.draw, OpenLayer.layer]

/-- A step notes the layer that it opens under the number of layers in front of it. -/
lemma Step.openings_notices (r : Recorder) (st : Step) :
    r.heads.mapIdx Event.ofHead ++ (st.notices r).filter Event.isOpening =
      (r.take st).heads.mapIdx Event.ofHead := by
  rw [Recorder.heads_take]
  cases hc : st.command with
  | linear move =>
    rw [notices, hc]
    dsimp only
    split <;> simp [Event.isOpening, Event.ofHead]
  | arc | unsupported | origin | positioning =>
    simp [notices, hc, draws, Event.isOpening]

/-- **The layers that steps open** are noted in order, each under its number. -/
theorem openings_noticesFrom (r : Recorder) (ts : List Step) :
    r.heads.mapIdx Event.ofHead ++ (noticesFrom r ts).filter Event.isOpening =
      (ts.foldl Recorder.take r).heads.mapIdx Event.ofHead := by
  induction ts generalizing r with
  | nil => simp [noticesFrom]
  | cons st ts ih =>
    rw [noticesFrom, List.filter_append, ← List.append_assoc, Step.openings_notices, ih]
    rfl

/-! ## The journal of a run -/

namespace Run

/-- The number of finished layers, once a layer is opened, is that of all layers in front. -/
lemma size_finished_openLayer (r : Recorder) (z : Float) (line : Int) :
    (r.openLayer z line).finished.size = r.heads.length := by
  unfold Recorder.openLayer Recorder.heads Recorder.layers
  cases r.current <;> simp

/-- A command adds to the journal what its step notes. -/
lemma journal_execute (r : Run) (st : Step) (hm : st.before = r.machine) :
    (r.execute st.line st.command).journal.toList = r.journal.toList ++ st.notices r.recorder := by
  cases hc : st.command with
  | linear mv =>
    have hafter : st.after = r.machine.move mv := by rw [Step.after, hc, hm]; rfl
    have hdraws : st.draws = r.machine.draws mv := by rw [Step.draws, hc, hm]
    have hext : (r.machine.move mv).extruding = r.machine.draws mv := rfl
    rw [Step.notices, hc, hdraws, Step.height, hafter]
    cases h : r.machine.draws mv && r.recorder.needsLayer (r.machine.move mv).z <;>
      simp [execute, move, hext, h, openLayer, note, size_finished_openLayer, Event.ofHead]
  | arc | unsupported | origin | positioning => simp [execute, note, Step.notices, hc]

/-- A line adds its complaints to the journal and, if it has a code, the notices of its step. -/
lemma journal_readLine (r : Run) (n : Nat) (text : List Char) :
    (r.readLine n text).journal.toList = r.journal.toList ++ complaints text ++
      if (Block.read text).isBlank then []
      else (Step.mk n (Block.read text) r.machine).notices r.recorder := by
  have hline : (Block.read text).line = text := by
    unfold Block.read
    split <;> rfl
  have hcomplain : (r.complain (Block.read text)).journal.toList =
      r.journal.toList ++ complaints text := by
    simp [complain, complaints, hline]
  cases h : (Block.read text).isBlank with
  | true => rw [readLine_of_isBlank r n h, hcomplain, if_pos rfl, List.append_nil]
  | false =>
    let st : Step := ⟨n, Block.read text, r.machine⟩
    let t := { r.tally with malformed := r.tally.malformed + st.block.malformed.length }
    have hread : r.readLine n text =
        execute { r.complain st.block with tally := t } n st.command := by
      rw [readLine, h]
      rfl
    rw [hread, journal_execute { r.complain st.block with tally := t } st rfl, if_neg (by simp)]
    rw [← hcomplain]
    rfl

/-- **The notices of a run** are those of its steps. -/
theorem notices_readLines (r : Run) (first : Nat) (lines : List (List Char)) :
    (r.readLines first lines).journal.toList.filter (!·.isComplaint) =
      r.journal.toList.filter (!·.isComplaint) ++
        noticesFrom r.recorder (stepsFrom r.machine first lines) := by
  induction lines generalizing r first with
  | nil => simp [readLines, stepsFrom, noticesFrom]
  | cons text rest ih =>
    have hcomplaints : (complaints text).filter (!·.isComplaint) = [] := by
      rw [List.filter_eq_nil_iff]
      intro e he
      obtain ⟨w, -, rfl⟩ := List.mem_map.mp he
      simp [Event.isComplaint]
    rw [readLines, ih, journal_readLine, stepsFrom, List.filter_append, List.filter_append,
      hcomplaints, List.append_nil]
    cases h : (Block.read text).isBlank with
    | true =>
      rw [readLine_of_isBlank r first h]
      simp [complain]
    | false =>
      obtain ⟨hmachine, hrecorder, -⟩ := readLine_step r first h
      have hnotices : ((Step.mk first (Block.read text) r.machine).notices r.recorder).filter
          (!·.isComplaint) = (Step.mk first (Block.read text) r.machine).notices r.recorder := by
        rw [List.filter_eq_self]
        intro e he
        simp [Step.isComplaint_of_mem_notices e he]
      rw [hmachine, hrecorder]
      simp [noticesFrom, hnotices]

/-- **The complaints of a run** are those of its lines, executed or not. -/
theorem complaints_readLines (r : Run) (first : Nat) (lines : List (List Char)) :
    (r.readLines first lines).journal.toList.filter Event.isComplaint =
      r.journal.toList.filter Event.isComplaint ++ lines.flatMap complaints := by
  induction lines generalizing r first with
  | nil => simp [readLines]
  | cons text rest ih =>
    have hcomplaints : (complaints text).filter Event.isComplaint = complaints text := by
      rw [List.filter_eq_self]
      intro e he
      obtain ⟨w, -, rfl⟩ := List.mem_map.mp he
      rfl
    have hnotices : ∀ st : Step, (st.notices r.recorder).filter Event.isComplaint = [] := by
      intro st
      rw [List.filter_eq_nil_iff]
      intro e he
      simp [Step.isComplaint_of_mem_notices e he]
    rw [readLines, ih, journal_readLine, List.filter_append, List.filter_append, hcomplaints]
    split <;> simp [hnotices]

end Run

/-- The notices of a document are those of its steps. -/
lemma notices_ofText (s : List Char) :
    (Run.ofText s).journal.toList.filter (!·.isComplaint) = noticesFrom {} (stepsOf s) :=
  Run.notices_readLines _ 0 _

/-- The complaints of a document are those of its lines. -/
lemma complaints_ofText (s : List Char) :
    (Run.ofText s).journal.toList.filter Event.isComplaint = (sourceLines s).flatMap complaints :=
  Run.complaints_readLines _ 0 _

/-! ## Numbers at the end of a text -/

namespace Text

/-- Two texts that end alike behind a character that the ends do not hold are cut alike there. -/
lemma append_cons_inj_of_not_mem {front front' back back' : List Char} {c : Char}
    (hback : c ∉ back) (hback' : c ∉ back') (h : front ++ c :: back = front' ++ c :: back') :
    front = front' ∧ back = back' := by
  rcases List.append_eq_append_iff.mp h with ⟨mid, rfl, hmid⟩ | ⟨mid, rfl, hmid⟩
  · cases mid with
    | nil => simpa using hmid
    | cons d mid =>
      obtain ⟨rfl, rfl⟩ := List.cons.inj hmid
      simp at hback
  · cases mid with
    | nil => simpa [eq_comm] using hmid
    | cons d mid =>
      obtain ⟨rfl, rfl⟩ := List.cons.inj hmid
      simp at hback'

/-- A number in brackets behind a space. -/
def numbered (front : List Char) (n : Int) : List Char := front ++ ' ' :: (ofInt n ++ [')'])

/-- **What ends with a number in brackets** ends with one number. -/
theorem numbered_inj {front front' : List Char} {n n' : Int}
    (h : numbered front n = numbered front' n') : front = front' ∧ n = n' := by
  have hspace : ∀ n : Int, ' ' ∉ ofInt n ++ [')'] := by
    have hdigits : ∀ k, ' ' ∉ ofNat k := fun k hk => absurd (isDigit_of_mem_ofNat hk) (by decide)
    intro n
    cases n <;> simp [ofInt, hdigits]
  obtain ⟨hfront, hback⟩ := append_cons_inj_of_not_mem (hspace n) (hspace n') h
  exact ⟨hfront, ofInt_inj (List.append_cancel_right hback)⟩

end Text

/-! ## What the wording of a report tells -/

namespace Log.Record

/-- Whether the wording of a report starts with some words. -/
def starts (words : String) (r : Log.Record) : Bool := words.toList.isPrefixOf r.message.toList

/-- The wording of a report ends with the number of a line in brackets. -/
def EndsAt (r : Log.Record) (line : Nat) : Prop :=
  ∃ front, r.message.toList = numbered (front ++ "(line".toList) line

/-- A report ends with one line. -/
lemma EndsAt.unique {r : Log.Record} {line line' : Nat} (h : r.EndsAt line)
    (h' : r.EndsAt line') : line = line' := by
  obtain ⟨front, hfront⟩ := h
  obtain ⟨front', hfront'⟩ := h'
  exact Int.ofNat.inj (numbered_inj (hfront.symm.trans hfront')).2

end Log.Record

namespace Event

/-- The line that an event names, if it names one. -/
def line? : Event → Option Int
  | malformed .. => none
  | layerOpened _ _ line | arcSkipped line | unsupported _ line => some line

/-- The words that a complaint starts with. -/
def complaintWords : String := "Malformed parameter "

/-- The words that the opening of a layer starts with. -/
def openingWords : String := "Layer "

/-- The words that the notice of an arc starts with. -/
def arcWords : String := "Arc move not supported, skipped "

/-- The words that the notice of an unsupported code starts with. -/
def refusalWords : String := "Command not supported: "

/-- The wording of an event in front of the line that it names. -/
def front : Event → List Char
  | malformed word line => complaintWords.toList ++ quoted word ++ " in ".toList ++ quoted line
  | layerOpened index z _ =>
    openingWords.toList ++ ofNat index ++ " opened at z=".toList ++ Decimal.text z ++ [' ']
  | arcSkipped _ => arcWords.toList
  | unsupported code _ => refusalWords.toList ++ code ++ [' ']

/-- The wording of an event: its words and the line that it names. -/
lemma toList_message (e : Event) :
    e.message.toList =
      match e.line? with
      | none => e.front
      | some line => numbered (e.front ++ "(line".toList) line := by
  have hstr : ∀ s : String, toString s = s := fun _ => rfl
  have hclose : ")".toList = [')'] := by decide
  have hline : " (line ".toList = ' ' :: ("(line".toList ++ [' ']) := by decide
  have harc : "Arc move not supported, skipped (line ".toList =
      arcWords.toList ++ ("(line".toList ++ [' ']) := by decide
  unfold message
  cases e <;>
    simp only [hstr, hclose, hline, harc, line?, front, numbered, complaintWords, openingWords,
      refusalWords, String.toList_append, String.toList_ofList, toList_toString_int,
      toList_toString_nat, List.append_assoc, List.cons_append, List.nil_append]

/-- The report of an event starts with the words of its kind. -/
lemma starts_record (e : Event) :
    e.record.starts complaintWords = e.isComplaint ∧ e.record.starts openingWords = e.isOpening ∧
      e.record.starts arcWords = e.isArc := by
  simp only [Log.Record.starts, record, Log.Record.of, toList_message]
  cases e <;>
    simp [line?, front, numbered, complaintWords, openingWords, arcWords, refusalWords, isComplaint,
      isOpening, isArc, List.isPrefixOf]

/-- A complaint ends with a quote, so it names no line. -/
lemma not_endsAt_malformed (word text : List Char) (line : Nat) :
    ¬ (malformed word text).record.EndsAt line := by
  rintro ⟨front, hfront⟩
  have hnumbered : ∀ front n, (numbered front n).getLast? = some ')' := by
    intro front n
    rw [numbered, ← List.cons_append, ← List.append_assoc, List.getLast?_concat]
  have hquoted : ∀ s, (quoted s).getLast? ≠ some ')' := by
    intro s
    unfold quoted
    dsimp only
    rw [List.getLast?_concat]
    split <;> simp [singleQuote]
  have hne : quoted text ≠ [] := by simp [quoted]
  have hlast := congrArg List.getLast? (hfront.symm.trans (toList_message _))
  rw [hnumbered] at hlast
  dsimp only [line?, Event.front] at hlast
  rw [List.getLast?_append_of_ne_nil _ hne] at hlast
  exact hquoted text hlast.symm

/-- **The report of an event** ends with a line iff the event names it. -/
theorem endsAt_record_iff {e : Event} {line : Nat} :
    e.record.EndsAt line ↔ e.line? = some (line : Int) := by
  constructor
  · rintro ⟨front, hfront⟩
    have hmessage := hfront.symm.trans (toList_message e)
    cases hline : e.line? with
    | none =>
      cases e with
      | malformed word text => exact absurd ⟨front, hfront⟩ (not_endsAt_malformed word text line)
      | layerOpened | arcSkipped | unsupported => cases hline
    | some n =>
      rw [hline] at hmessage
      rw [(numbered_inj hmessage).2]
  · intro h
    exact ⟨e.front, by rw [show e.record.message = e.message from rfl, toList_message, h]⟩

/-- The report of an unsupported code is that of no other event. -/
lemma message_eq_unsupported_iff {e : Event} {code : List Char} {line : Int} :
    e.message = (unsupported code line).message ↔ e = unsupported code line := by
  refine ⟨fun h => ?_, fun h => by rw [h]⟩
  have htext := congrArg String.toList h
  rw [toList_message, toList_message] at htext
  cases e with
  | malformed | layerOpened | arcSkipped =>
    simp [line?, front, numbered, complaintWords, openingWords, arcWords, refusalWords] at htext
  | unsupported code' line' =>
    obtain ⟨hfront, rfl⟩ := numbered_inj htext
    have hcode : code' = code := by simpa [front] using hfront
    rw [hcode]

end Event

/-! ## Reports -/

/-- Below its summary, what a run reports are the events of its journal. -/
theorem debug_reports (measured : Bool) (clock : Clock) (s : List Char) :
    (interpret measured clock s).reports.filter (·.level = Log.Level.debug.number) =
      (Run.ofText s).journal.toList.map Event.record := by
  have hevents : ((Run.ofText s).journal.toList.map Event.record).filter
      (·.level = Log.Level.debug.number) = (Run.ofText s).journal.toList.map Event.record := by
    rw [List.filter_eq_self]
    intro r hr
    obtain ⟨e, -, rfl⟩ := List.mem_map.mp hr
    rfl
  have hsummary : ∀ (t : Tally) layers elapsed,
      (t.summary layers elapsed).filter (·.level = Log.Level.debug.number) = [] := by
    intro t layers elapsed
    rw [List.filter_eq_nil_iff]
    intro r hr
    simp only [Tally.summary, List.mem_append] at hr
    rcases hr with ((hr | hr) | hr) | hr <;>
      · split at hr
        · obtain rfl := List.mem_singleton.mp hr
          simp [Log.Record.of, Log.Level.number]
        · exact absurd hr (by simp)
  cases measured with
  | false => exact hevents
  | true =>
    show (((Run.ofText s).journal.toList.map Event.record) ++ Tally.summary _ _ _).filter _ = _
    rw [List.filter_append, hevents, hsummary, List.append_nil]

end Toolpath
