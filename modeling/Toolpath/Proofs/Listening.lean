import Mathlib.Tactic.Lemma
import Toolpath.Proofs.Delivery
import Toolpath.Source.Load
/-!
# What listeners hear

Whoever listens to a load hears of the progress first and of the end at most once: of the result, if
there is one, or of the failure to obtain the document. A body that breaks off is never interpreted.

## Main definitions

* `Toolpath.LoadEvent.progress?`, `Toolpath.Load.progress` — the progress that is heard of.
* `Toolpath.Loader.Ending` — the ways in which a load ends.
* `Toolpath.Load.Keeps` — the protocol that a load keeps.

## Main results

* `Toolpath.pairwise_progressOf`, `Toolpath.pos_of_mem_progressOf` — progress grows.
* `Toolpath.Loader.progress_load` — who listens to the progress of a load hears that of its fetch.
* `Toolpath.Loader.ending_load` — every load ends in one of the ways.
* `Toolpath.Loader.keeps_load` — every load keeps the protocol.
-/

namespace Toolpath

open Files

/-! ## Progress -/

/-- No chunk that arrives is empty. -/
lemma ne_nil_of_mem_arrived {body : List Chunk} {bytes : List UInt8} (h : bytes ∈ arrived body) :
    bytes ≠ [] := by
  simpa using (List.mem_filter.mp h).2

/-- The first chunk makes its own bytes, and adds them to what the others make. -/
lemma progressOf_cons (total : Option Nat) (bytes : List UInt8) (chunks : List (List UInt8)) :
    progressOf total (bytes :: chunks) =
      (bytes.length, total) ::
        (progressOf total chunks).map fun p => (bytes.length + p.1, p.2) := by
  unfold progressOf
  rw [List.inits_cons, List.tail_cons]
  cases chunks with
  | nil => simp
  | cons next chunks => simp

/-- There is one report for every chunk. -/
lemma length_progressOf (total : Option Nat) (chunks : List (List UInt8)) :
    (progressOf total chunks).length = chunks.length := by
  simp [progressOf]

/-- Every report has the same total. -/
lemma snd_of_mem_progressOf {total : Option Nat} {chunks : List (List UInt8)} {p : Progress}
    (h : p ∈ progressOf total chunks) : p.2 = total := by
  obtain ⟨seen, -, rfl⟩ := List.mem_map.mp h
  rfl

/-- Chunks that are not empty make progress from the first on. -/
lemma pos_of_mem_progressOf {total : Option Nat} {chunks : List (List UInt8)}
    (hne : ∀ bytes ∈ chunks, bytes ≠ []) {p : Progress} (h : p ∈ progressOf total chunks) :
    0 < p.1 := by
  cases chunks with
  | nil => exact absurd h (by simp [progressOf])
  | cons bytes chunks =>
    have hpos : 0 < bytes.length := List.length_pos_iff.mpr (hne bytes List.mem_cons_self)
    rw [progressOf_cons] at h
    rcases List.mem_cons.mp h with rfl | hrest
    · exact hpos
    · obtain ⟨q, -, rfl⟩ := List.mem_map.mp hrest
      exact Nat.add_pos_left hpos q.1

/-- Chunks that are not empty make more and more progress. -/
lemma pairwise_progressOf {total : Option Nat} {chunks : List (List UInt8)}
    (hne : ∀ bytes ∈ chunks, bytes ≠ []) :
    (progressOf total chunks).Pairwise fun p q => p.1 < q.1 := by
  induction chunks with
  | nil => exact List.Pairwise.nil
  | cons bytes chunks ih =>
    have hrest : ∀ more ∈ chunks, more ≠ [] := fun more h => hne more (List.mem_cons_of_mem _ h)
    rw [progressOf_cons, List.pairwise_cons, List.pairwise_map]
    refine ⟨fun p hp => ?_, (ih hrest).imp fun h => Nat.add_lt_add_left h _⟩
    obtain ⟨q, hq, rfl⟩ := List.mem_map.mp hp
    exact Nat.lt_add_of_pos_right (pos_of_mem_progressOf hrest hq)

/-! ## The end of a load -/

/-- The progress that an event tells of. -/
def LoadEvent.progress? : LoadEvent → Option Progress
  | .progress received total => some (received, total)
  | .loaded _ => none
  | .failed .. => none

/-- The event that tells of progress. -/
def LoadEvent.ofProgress (p : Progress) : LoadEvent := .progress p.1 p.2

/-- The progress that is heard of during a load. -/
def Load.progress (o : Load) : List Progress := o.events.filterMap LoadEvent.progress?

/-- What is heard is all progress, if somebody listens to it. -/
lemma heard_eq (listening : Bool) (progress : List Progress) :
    Loader.heard listening progress =
      (if listening then progress else []).map LoadEvent.ofProgress := by
  cases listening <;> rfl

/-- Progress is what its events tell of. -/
lemma filterMap_map_ofProgress (progress : List Progress) :
    (progress.map LoadEvent.ofProgress).filterMap LoadEvent.progress? = progress := by
  rw [List.filterMap_map]
  exact List.filterMap_some

/-- The failures to obtain a document. -/
def FetchFault.IsUnobtainable (fault : FetchFault) : Prop :=
  ∃ place reason, fault = .unobtainable place reason

namespace Loader

variable (l : Loader) (t : Tree) (n : Network) (clock : Clock) (listeners : Listeners)
  (source : String)

/-- **The ways in which a load ends** whose fetch ends in a text or a fault: its result, what is
heard of the end, and the clock. -/
inductive Ending (text : Except FetchFault (List Char)) :
    Except FetchFault (Option Result) → List LoadEvent → Clock → Prop where
  /-- The text is interpreted. -/
  | loaded {s : List Char} :
    text = .ok s →
    Ending text (.ok (some (interpret l.instrument clock s).result))
      (if listeners.loaded then [.loaded (interpret l.instrument clock s).result] else [])
      (interpret l.instrument clock s).clock
  /-- A listener takes care of the failure. -/
  | told {place reason : String} :
    text = .error (.unobtainable place reason) → listeners.failed = true →
    Ending text (.ok none) [.failed place reason] clock
  /-- The fault is passed on. -/
  | raised {fault : FetchFault} :
    text = .error fault → (listeners.failed = true → ¬ fault.IsUnobtainable) →
    Ending text (.error fault) [] clock

/-- **A load ends in one of the ways**, after the progress of its fetch. -/
theorem ending_load :
    ∃ final, (l.load t n clock listeners source).events =
        heard listeners.progress (l.fetch t n source).progress ++ final ∧
      l.Ending clock listeners (l.fetch t n source).text
        (l.load t n clock listeners source).result final
        (l.load t n clock listeners source).clock := by
  unfold load
  dsimp only
  cases htext : (l.fetch t n source).text with
  | ok s => exact ⟨_, rfl, .loaded rfl⟩
  | error fault =>
    by_cases hcaught : listeners.failed = true ∧ fault.IsUnobtainable
    · obtain ⟨hlistens, place, reason, rfl⟩ := hcaught
      rw [hlistens]
      exact ⟨_, rfl, .told rfl hlistens⟩
    · have hpassed : listeners.failed = true → ¬ fault.IsUnobtainable :=
        fun hlistens hfault => hcaught ⟨hlistens, hfault⟩
      dsimp only
      split
      · rename_i place reason hlistens
        exact absurd ⟨hlistens, place, reason, rfl⟩ hcaught
      · exact ⟨[], (List.append_nil _).symm, .raised rfl hpassed⟩

variable {l t n clock listeners source}

namespace Ending

variable {text : Except FetchFault (List Char)} {result : Except FetchFault (Option Result)}
  {final : List LoadEvent} {clock' : Clock}

/-- A result is that of the text, and what is heard of. -/
lemma of_loaded {r : Result} (h : l.Ending clock listeners text (.ok (some r)) final clock') :
    ∃ s, text = .ok s ∧ r = (interpret l.instrument clock s).result ∧
      final = if listeners.loaded then [.loaded r] else [] := by
  cases h with
  | loaded htext => exact ⟨_, htext, rfl, rfl⟩

/-- A failure to obtain the document that is listened to is what is heard of. -/
lemma of_told (h : l.Ending clock listeners text result final clock') {place reason : String}
    (htext : text = .error (.unobtainable place reason)) (hlistens : listeners.failed = true) :
    result = .ok none ∧ final = [.failed place reason] := by
  cases h with
  | loaded hother => exact absurd (htext.symm.trans hother) (by simp)
  | told hother _ =>
    obtain ⟨rfl, rfl⟩ := FetchFault.unobtainable.inj (Except.error.inj (htext.symm.trans hother))
    exact ⟨rfl, rfl⟩
  | raised hother hpassed =>
    obtain rfl := Except.error.inj (htext.symm.trans hother)
    exact absurd ⟨place, reason, rfl⟩ (hpassed hlistens)

/-- There is nothing only where a failure to obtain the document is listened to. -/
lemma of_none (h : l.Ending clock listeners text (.ok none) final clock') :
    listeners.failed = true ∧ ∃ place reason, text = .error (.unobtainable place reason) := by
  cases h with
  | told htext hlistens => exact ⟨hlistens, _, _, htext⟩

/-- A fault is passed on from the fetch, and not heard of. -/
lemma of_raised {fault : FetchFault}
    (h : l.Ending clock listeners text (.error fault) final clock') :
    text = .error fault ∧ final = [] ∧ (listeners.failed = true → ¬ fault.IsUnobtainable) := by
  cases h with
  | raised htext hpassed => exact ⟨htext, rfl, hpassed⟩

/-- At most one event is heard of the end. -/
lemma length_le (h : l.Ending clock listeners text result final clock') : final.length ≤ 1 := by
  cases h with
  | loaded _ => split <;> simp
  | told _ _ => simp
  | raised _ _ => simp

/-- What is heard of the end tells of no progress. -/
lemma progress?_eq_none (h : l.Ending clock listeners text result final clock') :
    ∀ e ∈ final, e.progress? = none := by
  intro e he
  cases h with
  | loaded _ =>
    split at he
    · obtain rfl := List.mem_singleton.mp he
      rfl
    · exact absurd he List.not_mem_nil
  | told _ _ =>
    obtain rfl := List.mem_singleton.mp he
    rfl
  | raised _ _ => exact absurd he List.not_mem_nil

/-- Without a text, there is no result, none is heard of, and nothing is interpreted. -/
lemma of_forall_ne_ok (h : l.Ending clock listeners text result final clock')
    (htext : ∀ s, text ≠ .ok s) :
    (∀ r, result ≠ .ok (some r)) ∧ (∀ r, .loaded r ∉ final) ∧ clock' = clock := by
  cases h with
  | loaded hother => exact absurd hother (htext _)
  | told _ _ => exact ⟨by simp, by simp, rfl⟩
  | raised _ _ => exact ⟨by simp, by simp, rfl⟩

end Ending

variable (l t n clock listeners source) in
/-- Who listens to the progress of a load hears that of its fetch. -/
lemma progress_load :
    (l.load t n clock listeners source).progress =
      if listeners.progress then (l.fetch t n source).progress else [] := by
  obtain ⟨final, hevents, hending⟩ := l.ending_load t n clock listeners source
  have hfinal : final.filterMap LoadEvent.progress? = [] :=
    List.filterMap_eq_nil_iff.mpr hending.progress?_eq_none
  rw [Load.progress, hevents, heard_eq, List.filterMap_append, filterMap_map_ofProgress, hfinal,
    List.append_nil]

/-! ## The progress of a fetch -/

/-- The progress of a fetch from the web is that of the chunks that arrive, once a response is
accepted whose length does not mislead, and none otherwise. -/
lemma Course.progress_web {text : Except FetchFault (List Char)} {progress : List Progress}
    (h : l.Course t n source text progress) {url : String}
    (hplace : l.destination source = .ok (url, true)) :
    (∃ r total, l.answer n url = .ok r ∧ r.Accepted ∧ announcedLength r = .ok total ∧
      progress = progressOf total (arrived r.body)) ∨
    progress = [] ∧ ∀ r, l.answer n url = .ok r → r.Accepted → r.Misleads := by
  cases h with
  | lost hother | missing hother | opened hother =>
    rw [hplace] at hother
    exact absurd hother (by simp)
  | unanswered hplace' hanswer =>
    obtain rfl := place_unique hplace hplace'
    refine .inr ⟨rfl, fun r hr => ?_⟩
    rw [hanswer] at hr
    exact absurd hr (by simp)
  | refused hplace' hanswer hrefused =>
    obtain rfl := place_unique hplace hplace'
    refine .inr ⟨rfl, fun r hr haccepted => ?_⟩
    obtain rfl := Except.ok.inj (hanswer.symm.trans hr)
    exact absurd haccepted hrefused
  | misled hplace' hanswer _ hfault =>
    obtain rfl := place_unique hplace hplace'
    refine .inr ⟨rfl, fun r hr _ => ?_⟩
    obtain rfl := Except.ok.inj (hanswer.symm.trans hr)
    exact (exists_announcedLength_eq_error _).mp ⟨_, hfault⟩
  | broken hplace' hanswer haccepted htotal | received hplace' hanswer haccepted htotal =>
    obtain rfl := place_unique hplace hplace'
    exact .inl ⟨_, _, hanswer, haccepted, htotal, rfl⟩

/-- The progress of a fetch of a file is its size, if the file is there. -/
lemma Course.progress_file {text : Except FetchFault (List Char)} {progress : List Progress}
    (h : l.Course t n source text progress) {place : String}
    (hplace : l.destination source = .ok (place, false)) :
    (∃ data, t.readFile "File" (.ofText place.toList) = .ok data ∧
      progress = [(data.length, some data.length)]) ∨
    progress = [] ∧ ∃ fault, t.readFile "File" (.ofText place.toList) = .error fault := by
  cases hread : t.readFile "File" (.ofText place.toList) with
  | ok data => exact .inl ⟨data, rfl, (h.of_file hplace hread).2⟩
  | error fault =>
    refine .inr ⟨?_, fault, rfl⟩
    cases h with
    | lost _ | unanswered _ _ | refused _ _ _ | misled _ _ _ _ | missing _ _ => rfl
    | broken hother _ _ _ _ | received hother _ _ _ _ =>
      rw [hplace] at hother
      exact absurd hother (by simp)
    | opened hplace' hread' =>
      obtain rfl := place_unique hplace hplace'
      rw [hread] at hread'
      exact absurd hread' (by simp)

/-- A body that breaks off delivers nothing. -/
lemma not_delivers_of_breaks {url place : String} {r : Response} {b : Breakdown}
    (hplace : l.destination source = .ok (url, true)) (hanswer : l.answer n url = .ok r)
    (hbreaks : .breaks b ∈ r.body) (data : List UInt8) :
    ¬ l.Delivers t n source place data := by
  rintro (⟨hplace', hanswer', -, -, hbody, -⟩ | ⟨hother, -⟩)
  · obtain rfl := place_unique hplace hplace'
    obtain rfl := Except.ok.inj (hanswer.symm.trans hanswer')
    rw [hbody] at hbreaks
    exact absurd hbreaks (by simp)
  · rw [hplace] at hother
    exact absurd hother (by simp)

/-- A body that breaks off has no text. -/
lemma text_fetch_ne_ok_of_breaks {url : String} {r : Response} {b : Breakdown}
    (hplace : l.destination source = .ok (url, true)) (hanswer : l.answer n url = .ok r)
    (hbreaks : .breaks b ∈ r.body) (s : List Char) : (l.fetch t n source).text ≠ .ok s := by
  intro htext
  obtain ⟨place, data, hdelivers, -⟩ := text_fetch_eq_ok_iff.mp htext
  exact not_delivers_of_breaks hplace hanswer hbreaks data hdelivers

end Loader

/-! ## The protocol -/

/-- **The protocol of a load** between a loader and whoever listens. -/
structure Load.Keeps (o : Load) (l : Loader) (t : Tree) (n : Network) (clock : Clock)
    (listeners : Listeners) (source : String) : Prop where
  /-- Progress is heard of first, then at most one other event. -/
  order : ∃ final, o.events = o.progress.map .ofProgress ++ final ∧ final.length ≤ 1 ∧
    ∀ e ∈ final, e.progress? = none
  /-- A result is that of the whole text that the source delivers, and is heard of last. -/
  loaded : ∀ result, o.result = .ok (some result) →
    (∃ place data s, l.Delivers t n source place data ∧
      Encoding.decode l.readers l.encoding data = .ok s ∧
      result = (interpret l.instrument clock s).result) ∧
    o.events = o.progress.map .ofProgress ++ if listeners.loaded then [.loaded result] else []
  /-- A failure to obtain the document that is listened to is heard of last, and there is no
  result. -/
  told : ∀ place reason, (l.fetch t n source).text = .error (.unobtainable place reason) →
    listeners.failed = true →
    o.result = .ok none ∧ o.events = o.progress.map .ofProgress ++ [.failed place reason]
  /-- Nothing is the result only after such a failure. -/
  absent : o.result = .ok none → listeners.failed = true ∧
    ∃ place reason, (l.fetch t n source).text = .error (.unobtainable place reason)
  /-- A fault that is passed on is that of the fetch, and nothing but progress is heard of. -/
  raised : ∀ fault, o.result = .error fault →
    (l.fetch t n source).text = .error fault ∧ o.events = o.progress.map .ofProgress
  /-- Without a listener for it, no progress is heard of. -/
  silent : listeners.progress = false → o.progress = []
  /-- Progress from the web grows. -/
  grows : ∀ url, l.destination source = .ok (url, true) →
    o.progress.Pairwise (fun p q => p.1 < q.1) ∧ ∀ p ∈ o.progress, 0 < p.1
  /-- From the web, a listener hears once of each chunk that arrives and is not empty, with the
  bytes up to it and one total for all, as soon as a response is accepted whose length does not
  mislead. -/
  web : ∀ url, l.destination source = .ok (url, true) → listeners.progress = true →
    (∃ r total, l.answer n url = .ok r ∧ r.Accepted ∧ announcedLength r = .ok total ∧
      o.progress = progressOf total (arrived r.body) ∧
      o.progress.length = (arrived r.body).length ∧ ∀ p ∈ o.progress, p.2 = total) ∨
    o.progress = [] ∧ ∀ r, l.answer n url = .ok r → r.Accepted → r.Misleads
  /-- Of a file, a listener hears its size once it is read. -/
  file : ∀ place, l.destination source = .ok (place, false) → listeners.progress = true →
    (∃ data, t.readFile "File" (.ofText place.toList) = .ok data ∧
      o.progress = [(data.length, some data.length)]) ∨
    o.progress = [] ∧ ∃ fault, t.readFile "File" (.ofText place.toList) = .error fault
  /-- A source that stands for no place makes no progress. -/
  lost : ∀ fault, l.destination source = .error fault → o.progress = []
  /-- A body that breaks off is not interpreted. -/
  broken : ∀ url r b, l.destination source = .ok (url, true) → l.answer n url = .ok r →
    .breaks b ∈ r.body →
    (∀ result, o.result ≠ .ok (some result)) ∧ (∀ result, .loaded result ∉ o.events) ∧
      o.clock = clock

namespace Loader

variable {l : Loader} {t : Tree} {n : Network} {clock : Clock} {listeners : Listeners}
  {source : String}

/-- The growth of the progress of a fetch from the web. -/
lemma Course.progress_grows {text : Except FetchFault (List Char)} {progress : List Progress}
    (h : l.Course t n source text progress) {url : String}
    (hplace : l.destination source = .ok (url, true)) :
    progress.Pairwise (fun p q => p.1 < q.1) ∧ ∀ p ∈ progress, 0 < p.1 := by
  rcases h.progress_web hplace with ⟨r, total, -, -, -, rfl⟩ | ⟨rfl, -⟩
  · have hne : ∀ bytes ∈ arrived r.body, bytes ≠ [] := fun bytes => ne_nil_of_mem_arrived
    exact ⟨pairwise_progressOf hne, fun p => pos_of_mem_progressOf hne⟩
  · exact ⟨List.Pairwise.nil, fun p hp => absurd hp List.not_mem_nil⟩

/-- **Every load keeps the protocol**, whatever the loader, the files, the web and the listeners.

**Proof sketch.** A load ends in one of three ways after the progress of its fetch, and the text of
the fetch decides which. A text is there only if the source delivers bytes that can be decoded, so
that a body that breaks off has none; and the progress is that of the course that the fetch
takes. -/
theorem keeps_load (l : Loader) (t : Tree) (n : Network) (clock : Clock) (listeners : Listeners)
    (source : String) :
    (l.load t n clock listeners source).Keeps l t n clock listeners source := by
  have hcourse := l.course_fetch t n source
  have hprogress := progress_load l t n clock listeners source
  obtain ⟨final, hevents, hending⟩ := l.ending_load t n clock listeners source
  rw [heard_eq, ← hprogress] at hevents
  generalize l.load t n clock listeners source = o at *
  constructor
  case order => exact ⟨final, hevents, hending.length_le, hending.progress?_eq_none⟩
  case loaded =>
    intro result hresult
    rw [hresult] at hending
    obtain ⟨text, htext, hinterpreted, rfl⟩ := hending.of_loaded
    obtain ⟨place, data, hdelivers, hdecode⟩ := text_fetch_eq_ok_iff.mp htext
    exact ⟨⟨place, data, text, hdelivers, hdecode, hinterpreted⟩, hevents⟩
  case told =>
    intro place reason htext hlistens
    obtain ⟨hresult, rfl⟩ := hending.of_told htext hlistens
    exact ⟨hresult, hevents⟩
  case absent =>
    intro hresult
    rw [hresult] at hending
    exact hending.of_none
  case raised =>
    intro fault hresult
    rw [hresult] at hending
    obtain ⟨htext, rfl, -⟩ := hending.of_raised
    exact ⟨htext, hevents.trans (List.append_nil _)⟩
  case silent =>
    intro hsilent
    rw [hprogress, hsilent]
    rfl
  case grows =>
    intro url hplace
    rw [hprogress]
    split
    · exact hcourse.progress_grows hplace
    · exact ⟨List.Pairwise.nil, fun p hp => absurd hp List.not_mem_nil⟩
  case web =>
    intro url hplace hlistens
    rw [hprogress, if_pos hlistens]
    refine (hcourse.progress_web hplace).imp_left ?_
    rintro ⟨r, total, hanswer, haccepted, htotal, heq⟩
    rw [heq]
    exact ⟨r, total, hanswer, haccepted, htotal, rfl, length_progressOf _ _,
      fun p => snd_of_mem_progressOf⟩
  case file =>
    intro place hplace hlistens
    rw [hprogress, if_pos hlistens]
    exact hcourse.progress_file hplace
  case lost =>
    intro fault hplace
    rw [hprogress, (hcourse.of_lost hplace).2]
    exact ite_self _
  case broken =>
    intro url r b hplace hanswer hbreaks
    have hfault := text_fetch_ne_ok_of_breaks (t := t) hplace hanswer hbreaks
    obtain ⟨hresult, hfinal, hclock⟩ := hending.of_forall_ne_ok hfault
    refine ⟨hresult, fun x hx => ?_, hclock⟩
    rw [hevents] at hx
    rcases List.mem_append.mp hx with hx | hx
    · obtain ⟨p, -, hp⟩ := List.mem_map.mp hx
      exact absurd hp (by simp [LoadEvent.ofProgress])
    · exact hfinal x hx

end Loader

end Toolpath
