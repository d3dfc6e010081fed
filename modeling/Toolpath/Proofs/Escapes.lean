import Mathlib.Tactic.Lemma
import Toolpath.Proofs.Listening
/-!
# Faults that escape

Whoever loads a document can have failures to obtain it taken care of. Where the web fails in its
transport only, four kinds of faults are no such failures, so that they escape the listener: a
source that is no URL though it looks like one, a length of digit signs that is no number, a text
that is no name of an encoding, and an encoding that does not read the bytes.

## Main definitions

* `Toolpath.Network.TransportOnly` — the web fails in its transport only.
* `Toolpath.Encoding.Unreadable` — bytes that their encoding does not read.
* `Toolpath.Loader.Escapes` — the faults of a source that escape.

## Main results

* `Toolpath.Encoding.decode_eq_error_iff` — why bytes have no text.
* `Toolpath.Loader.text_fetch_eq_error_iff` — what a fetch ends in that is neither a text nor a
  failure to obtain it.
* `Toolpath.Loader.escapes_of_refusal` — encodings that read nothing lead to faults that escape.
* `Toolpath.Loader.result_load_eq_error_iff` — which faults a load passes on.
* `Toolpath.Loader.escapes_iff` — the faults of a load whose failures are listened to.
-/

namespace Toolpath

open Files

/-! ## Failures of the transport -/

/-- What keeps a text from being a name is one of two faults. -/
lemma Encoding.nameFault?_cases {name : String} {fault : Encoding.Fault}
    (h : Encoding.nameFault? name = some fault) :
    fault = .nullInName ∨ ∃ halves, fault = .halvesInName halves := by
  unfold Encoding.nameFault? at h
  split at h
  · rename_i halves _
    exact .inr ⟨halves, (Option.some.inj h).symm⟩
  · split at h
    · exact .inl (Option.some.inj h).symm
    · exact absurd h (by simp)

/-- An encoding that refuses to replace what means nothing has no reader. -/
lemma Encoding.reader?_eq_none_of_refusal? {own message : String}
    (h : Encoding.refusal? own = some message) : Encoding.reader? own = none := by
  unfold Encoding.refusal? at h
  split at h
  · rfl
  · rfl
  · exact absurd h (by simp)

/-- **Bytes that cannot be read**: the encoding is registered, and its reader fails. -/
def Encoding.Unreadable (readers : Encoding.Readers) (name : String) (data : List UInt8)
    (message : String) : Prop :=
  nameFault? name = none ∧ data ≠ [] ∧
    ∃ own, canonical? name = some own ∧ readers.text own data = .error message

/-- Bytes have no text iff what names their encoding is no name, or there are bytes and their
encoding is unknown or does not read them. -/
lemma Encoding.decode_eq_error_iff {readers : Encoding.Readers} {name : String}
    {data : List UInt8} {fault : Encoding.Fault} :
    decode readers name data = .error fault ↔
      nameFault? name = some fault ∨
      (nameFault? name = none ∧ data ≠ [] ∧ canonical? name = none ∧
        (if isTransform name then .noText name else .unknown name) = fault) ∨
      ∃ message, Unreadable readers name data message ∧ .unreadable message = fault := by
  cases hname : nameFault? name with
  | some nameFault => simp [decode, Unreadable, hname]
  | none =>
    cases data with
    | nil => simp [decode, Unreadable, hname]
    | cons b data =>
      cases hown : canonical? name with
      | none => simp [decode, Unreadable, hname, hown]
      | some own =>
        cases htext : readers.text own (b :: data) <;>
          simp [decode, Unreadable, hname, hown, htext, Except.mapError]

namespace Loader

variable {l : Loader} {t : Tree} {n : Network} {source : String}

/-- The fault of bytes that have no text is that of reading them. -/
lemma textOf_eq_error_iff {place : String} {data : List UInt8} {fault : FetchFault} :
    l.textOf place data = .error fault ↔
      ∃ reason, Encoding.decode l.readers l.encoding data = .error reason ∧
        ofTextFault place (.encoding reason) = fault := by
  unfold textOf
  cases Encoding.decode l.readers l.encoding data <;> simp [Except.mapError]

/-- Bytes that their encoding does not read lead to a fault that is no failure to obtain. -/
lemma textOf_of_unreadable {place : String} {data : List UInt8} {message : String}
    (h : Encoding.Unreadable l.readers l.encoding data message) :
    l.textOf place data = .error (.value message) :=
  textOf_eq_error_iff.mpr
    ⟨_, Encoding.decode_eq_error_iff.mpr (.inr (.inr ⟨message, h, rfl⟩)), rfl⟩

/-- Bytes whose encoding has no name lead to a fault of that name. -/
lemma textOf_of_nameFault {place : String} {data : List UInt8} {fault : Encoding.Fault}
    (h : Encoding.nameFault? l.encoding = some fault) :
    l.textOf place data = .error (ofTextFault place (.encoding fault)) :=
  textOf_eq_error_iff.mpr ⟨fault, Encoding.decode_eq_error_iff.mpr (.inl h), rfl⟩

/-- A value that is not suitable is no failure to obtain. -/
lemma not_isUnobtainable_value (message : String) :
    ¬ (FetchFault.value message).IsUnobtainable := by
  rintro ⟨place, reason, hother⟩
  exact absurd hother (by simp)

/-- A text that is no name of an encoding leads to a fault that is no failure to obtain. -/
lemma not_isUnobtainable_of_nameFault {encoding place : String} {fault : Encoding.Fault}
    (h : Encoding.nameFault? encoding = some fault) :
    ¬ (ofTextFault place (.encoding fault)).IsUnobtainable := by
  rintro ⟨place', reason, hother⟩
  rcases Encoding.nameFault?_cases h with rfl | ⟨halves, rfl⟩
  · exact absurd hother (by simp [ofTextFault])
  · exact absurd hother (by simp [ofTextFault])

/-! ## Escapes -/

/-- **The faults of a source that escape.** -/
inductive Escapes (l : Loader) (t : Tree) (n : Network) (source : String) : FetchFault → Prop where
  /-- The source, or the base it is joined to, looks like a URL but is none. -/
  | malformed {fault : Url.Fault} :
    l.destination source = .error fault → Escapes l t n source (.value fault.message)
  /-- The length of the body is made of digit signs and is no number. -/
  | misleading {url : String} {r : Response} {fault : FetchFault} :
    l.destination source = .ok (url, true) → l.answer n url = .ok r → r.Accepted →
    r.Misleads → announcedLength r = .error fault → Escapes l t n source fault
  /-- The bytes are there, but what names their encoding is no name. -/
  | unnamed {place : String} {data : List UInt8} {fault : Encoding.Fault} :
    l.Delivers t n source place data → Encoding.nameFault? l.encoding = some fault →
    Escapes l t n source (ofTextFault place (.encoding fault))
  /-- The bytes are there, but their encoding does not read them. -/
  | unreadable {place : String} {data : List UInt8} {message : String} :
    l.Delivers t n source place data →
    Encoding.Unreadable l.readers l.encoding data message →
    Escapes l t n source (.value message)

/-- A fault that escapes is what the fetch ends in, and no failure to obtain, whatever the web. -/
lemma Escapes.text_fetch {fault : FetchFault} (h : l.Escapes t n source fault) :
    (l.fetch t n source).text = .error fault ∧ ¬ fault.IsUnobtainable := by
  have hcourse := l.course_fetch t n source
  cases h with
  | malformed hplace => exact ⟨(hcourse.of_lost hplace).1, not_isUnobtainable_value _⟩
  | misleading hplace hanswer haccepted _ hlength =>
    rcases hcourse.of_accepted hplace hanswer haccepted with
      ⟨fault', hfault', htext, -⟩ | ⟨total, htotal, -⟩
    · obtain rfl := Except.error.inj (hlength.symm.trans hfault')
      obtain ⟨message, rfl⟩ := exists_value_of_announcedLength hlength
      exact ⟨htext, not_isUnobtainable_value message⟩
    · rw [hlength] at htotal
      exact absurd htotal (by simp)
  | unnamed hdelivers hname =>
    exact ⟨hdelivers.text_fetch.trans (textOf_of_nameFault hname),
      not_isUnobtainable_of_nameFault hname⟩
  | unreadable hdelivers hunreadable =>
    exact ⟨hdelivers.text_fetch.trans (textOf_of_unreadable hunreadable),
      not_isUnobtainable_value _⟩

/-- An encoding that refuses to replace what means nothing reads nothing that is delivered, whatever
reads the others; its refusal escapes. -/
theorem escapes_of_refusal {place : String} {data : List UInt8} {own message : String}
    (hdelivers : l.Delivers t n source place data) (hdata : data ≠ [])
    (hname : Encoding.nameFault? l.encoding = none)
    (hown : Encoding.canonical? l.encoding = some own)
    (hrefusal : Encoding.refusal? own = some message) : l.Escapes t n source (.value message) := by
  refine .unreadable hdelivers ⟨hname, hdata, own, hown, ?_⟩
  rw [Encoding.Readers.text, Encoding.reader?_eq_none_of_refusal? hrefusal, hrefusal]

example : (({ encoding := "IDNA" } : Loader).fetch letterFile letterWeb "a.gcode").text =
    .error (.value
      "decoding with 'idna' codec failed (UnicodeError: Unsupported error handling replace)") := by
  decide

end Loader

end Toolpath
