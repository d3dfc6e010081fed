import Mathlib.Data.List.Infix
import Mathlib.Tactic.Lemma
import Toolpath.Proofs.AnnouncedLength
import Toolpath.Proofs.Utf8
/-!
# What sources deliver

A source delivers bytes: a file those that it holds, and the web the chunks of a body, one after the
other. How the bytes were cut into chunks, and by which way they came, does not matter to the text
that is fetched; only the bytes and the encoding do.

## Main definitions

* `Toolpath.arrived` — the chunks of a body that arrive, without the empty ones;
  `Toolpath.progressOf` — the progress they make.
* `Toolpath.Loader.destination`, `Toolpath.Loader.answer` — what a fetch meets on its way.
* `Toolpath.Loader.Course` — the courses that a fetch takes.
* `Toolpath.Loader.Delivers` — the bytes that a source delivers as a whole.

## Main results

* `Toolpath.Transfer.received_ofChunks`, `Toolpath.Transfer.bytes_ofChunks_eq_ok_iff` — what is
  received of a body, and when it is whole.
* `Toolpath.Loader.course_fetch` — every fetch takes one of the courses.
* `Toolpath.Loader.text_fetch_eq_ok_iff` — a text is fetched iff the bytes of the source are
  delivered and can be read.
* `Toolpath.text_fetch_of_delivers` — sources that deliver the same bytes have the same text.
-/

namespace Toolpath

open Files Text

/-! ## Bodies -/

/-- The bytes of a chunk. -/
def Chunk.bytes? : Chunk → Option (List UInt8)
  | .data bytes => some bytes
  | .breaks _ => none

/-- The chunks of a body that arrive before it ends or breaks off, without the empty ones. -/
def arrived (body : List Chunk) : List (List UInt8) :=
  ((body.takeWhile fun chunk => chunk.bytes?.isSome).filterMap Chunk.bytes?).filter (· ≠ [])

namespace Transfer

/-- An empty chunk changes nothing. -/
lemma ofChunks_nil_cons (before : Nat) (rest : List Chunk) :
    ofChunks before (.data [] :: rest) = ofChunks before rest := rfl

/-- A chunk that is not empty is received, and put in front of the others. -/
lemma ofChunks_data_cons {bytes : List UInt8} (hne : bytes ≠ []) (before : Nat)
    (rest : List Chunk) :
    ofChunks before (.data bytes :: rest) =
      ⟨(before + bytes.length) :: (ofChunks (before + bytes.length) rest).received,
        (ofChunks (before + bytes.length) rest).bytes.map (bytes ++ ·)⟩ := by
  cases bytes with
  | nil => exact absurd rfl hne
  | cons b bytes => rfl

/-- A chunk that is not empty arrives. -/
lemma arrived_data_cons {bytes : List UInt8} (hne : bytes ≠ []) (rest : List Chunk) :
    arrived (.data bytes :: rest) = bytes :: arrived rest := by
  simp [arrived, Chunk.bytes?, hne]

/-- **What is received of a body** after each chunk that arrives are the bytes up to it. -/
theorem received_ofChunks (before : Nat) (body : List Chunk) :
    (ofChunks before body).received =
      (arrived body).inits.tail.map fun chunks => before + chunks.flatten.length := by
  induction body generalizing before with
  | nil => rfl
  | cons chunk rest ih =>
    cases chunk with
    | breaks b => rfl
    | data bytes =>
      by_cases hne : bytes = []
      · subst hne
        rw [ofChunks_nil_cons, ih]
        rfl
      · rw [ofChunks_data_cons hne, arrived_data_cons hne, ih, List.inits_cons, List.tail_cons]
        cases harrived : arrived rest with
        | nil => simp
        | cons next more => simp [Nat.add_assoc]

/-- What a transfer breaks off with stands in the body. -/
lemma breaks_mem_of_bytes_ofChunks {before : Nat} {body : List Chunk} {b : Breakdown}
    (h : (ofChunks before body).bytes = .error b) : .breaks b ∈ body := by
  induction body generalizing before with
  | nil => exact absurd h (by simp [ofChunks])
  | cons chunk rest ih =>
    cases chunk with
    | breaks b' =>
      obtain rfl := Except.error.inj h
      exact List.mem_cons_self
    | data bytes =>
      by_cases hne : bytes = []
      · subst hne
        exact List.mem_cons_of_mem _ (ih h)
      · rw [ofChunks_data_cons hne] at h
        cases hrest : (ofChunks (before + bytes.length) rest).bytes with
        | ok more => rw [hrest] at h; exact absurd h (by simp [Except.map])
        | error b' =>
          rw [hrest] at h
          obtain rfl := Except.error.inj h
          exact List.mem_cons_of_mem _ (ih hrest)

/-- The bytes of a body of whole chunks are those of the chunks, however they are cut. -/
lemma bytes_ofChunks_data (before : Nat) (chunks : List (List UInt8)) :
    (ofChunks before (chunks.map .data)).bytes = .ok chunks.flatten := by
  induction chunks generalizing before with
  | nil => rfl
  | cons bytes chunks ih =>
    by_cases hne : bytes = []
    · subst hne
      exact ih before
    · rw [List.map_cons, ofChunks_data_cons hne, ih]
      rfl

/-- **A body is whole** iff no chunk breaks off; its bytes are those of its chunks. -/
theorem bytes_ofChunks_eq_ok_iff {before : Nat} {body : List Chunk} {data : List UInt8} :
    (ofChunks before body).bytes = .ok data ↔
      ∃ chunks : List (List UInt8), body = chunks.map .data ∧ chunks.flatten = data := by
  constructor
  · intro h
    induction body generalizing before data with
    | nil => exact ⟨[], rfl, Except.ok.inj h⟩
    | cons chunk rest ih =>
      cases chunk with
      | breaks b => exact absurd h (by simp [ofChunks])
      | data bytes =>
        by_cases hne : bytes = []
        · subst hne
          obtain ⟨chunks, rfl, hdata⟩ := ih h
          exact ⟨[] :: chunks, rfl, hdata⟩
        · rw [ofChunks_data_cons hne] at h
          cases hrest : (ofChunks (before + bytes.length) rest).bytes with
          | error b => rw [hrest] at h; exact absurd h (by simp [Except.map])
          | ok more =>
            obtain ⟨chunks, rfl, hmore⟩ := ih hrest
            rw [hrest] at h
            refine ⟨bytes :: chunks, rfl, ?_⟩
            rw [List.flatten_cons, hmore]
            exact Except.ok.inj h
  · rintro ⟨chunks, rfl, rfl⟩
    exact bytes_ofChunks_data before chunks

end Transfer

/-- The progress that chunks of a body make: after each, the bytes up to it. -/
def progressOf (total : Option Nat) (chunks : List (List UInt8)) : List Progress :=
  chunks.inits.tail.map fun seen => (seen.flatten.length, total)

/-- What is reported of a body is the progress that the chunks that arrive make. -/
lemma progress_ofChunks (total : Option Nat) (body : List Chunk) :
    ((Transfer.ofChunks 0 body).received.map fun n => (n, total)) =
      progressOf total (arrived body) := by
  simp only [Transfer.received_ofChunks, progressOf, List.map_map, Function.comp_def, Nat.zero_add]

/-! ## The course of a fetch -/

/-- The responses whose status is no failure. -/
def Response.Accepted (r : Response) : Prop := r.status < 400 ∨ 600 ≤ r.status

/-- A response is accepted iff its status is no failure. -/
lemma Response.fault?_eq_none_iff (r : Response) (url : String) :
    r.fault? url = none ↔ r.Accepted := by
  unfold Response.fault? Response.Accepted
  simp only [Bool.and_eq_true, decide_eq_true_eq]
  split_ifs with hclient hserver
  · exact iff_of_false (by simp) (by omega)
  · exact iff_of_false (by simp) (by omega)
  · exact iff_of_true rfl (by omega)

namespace Loader

variable {l : Loader} {t : Tree} {n : Network} {source : String}

/-- The place that a source stands for, and whether it lies in the web. -/
def destination (l : Loader) (source : String) : Except Url.Fault (String × Bool) :=
  (l.resolve source.toList).bind fun place =>
    (Url.isHttp place).map fun web => (String.ofList place, web)

/-- What the request of a place is answered with. -/
def answer (l : Loader) (n : Network) (url : String) : Except Breakdown Response :=
  (n.request ⟨l.withCredentials, url, l.headers, l.timeout⟩).1

/-- **The courses that a fetch takes**, each with the text or the fault that it ends in and the
progress that it reports. -/
inductive Course (l : Loader) (t : Tree) (n : Network) (source : String) :
    Except FetchFault (List Char) → List Progress → Prop where
  /-- The source stands for no place. -/
  | lost {fault : Url.Fault} :
    l.destination source = .error fault → Course l t n source (.error (.value fault.message)) []
  /-- The request fails. -/
  | unanswered {url : String} {b : Breakdown} :
    l.destination source = .ok (url, true) → l.answer n url = .error b →
    Course l t n source (.error (ofBreakdown url b)) []
  /-- The status of the response is a failure. -/
  | refused {url : String} {r : Response} {reason : String} :
    l.destination source = .ok (url, true) → l.answer n url = .ok r → ¬ r.Accepted →
    Course l t n source (.error (.unobtainable url reason)) []
  /-- The length of the body is misleading. -/
  | misled {url : String} {r : Response} {fault : FetchFault} :
    l.destination source = .ok (url, true) → l.answer n url = .ok r → r.Accepted →
    announcedLength r = .error fault → Course l t n source (.error fault) []
  /-- The transfer of the body breaks off. -/
  | broken {url : String} {r : Response} {total : Option Nat} {b : Breakdown} :
    l.destination source = .ok (url, true) → l.answer n url = .ok r → r.Accepted →
    announcedLength r = .ok total → .breaks b ∈ r.body →
    Course l t n source (.error (ofBreakdown url b)) (progressOf total (arrived r.body))
  /-- The whole body is received. -/
  | received {url : String} {r : Response} {total : Option Nat} {chunks : List (List UInt8)} :
    l.destination source = .ok (url, true) → l.answer n url = .ok r → r.Accepted →
    announcedLength r = .ok total → r.body = chunks.map .data →
    Course l t n source (l.textOf url chunks.flatten) (progressOf total (arrived r.body))
  /-- There is no such file. -/
  | missing {place : String} {fault : Fault} :
    l.destination source = .ok (place, false) →
    t.readFile "File" (.ofText place.toList) = .error fault →
    Course l t n source (.error (ofTextFault place (.file fault))) []
  /-- The whole file is read. -/
  | opened {place : String} {data : List UInt8} :
    l.destination source = .ok (place, false) →
    t.readFile "File" (.ofText place.toList) = .ok data →
    Course l t n source (l.textOf place data) [(data.length, some data.length)]

/-- A session changes neither what a loader asks for nor what it is answered. -/
lemma exists_withSession_eq (l : Loader) (n : Network) :
    ∃ s n', l.withSession n = ({ l with session := s }, n') ∧ n'.answers = n.answers := by
  unfold withSession
  split
  · exact ⟨true, _, rfl, rfl⟩
  · exact ⟨l.session, n, rfl, rfl⟩

/-- The answer to a request depends on the answers to come only. -/
lemma fst_request_congr {n n' : Network} (h : n'.answers = n.answers) (r : Request) :
    (n'.request r).1 = (n.request r).1 := by
  unfold Network.request
  dsimp only
  rw [h]
  split <;> rfl

/-- A fetch from the web takes one of the courses. -/
lemma course_fetchWeb {url : String} (h : l.destination source = .ok (url, true)) :
    l.Course t n source (l.fetchWeb n url).text (l.fetchWeb n url).progress := by
  obtain ⟨s, n', hsession, hanswers⟩ := l.exists_withSession_eq n
  have hanswer : (n'.request ⟨l.withCredentials, url, l.headers, l.timeout⟩).1 =
      l.answer n url := fst_request_congr hanswers _
  unfold fetchWeb
  rw [hsession]
  dsimp only
  rw [hanswer]
  cases hr : l.answer n url with
  | error b => exact .unanswered h hr
  | ok r =>
    dsimp only
    unfold receive
    cases hfault : r.fault? url with
    | some reason =>
      refine .refused h hr fun haccepted => ?_
      rw [(r.fault?_eq_none_iff url).mpr haccepted] at hfault
      exact absurd hfault (by simp)
    | none =>
      have haccepted := (r.fault?_eq_none_iff url).mp hfault
      cases htotal : announcedLength r with
      | error fault => exact .misled h hr haccepted htotal
      | ok total =>
        dsimp only
        rw [progress_ofChunks]
        cases hbytes : (Transfer.ofChunks 0 r.body).bytes with
        | error b =>
          exact .broken h hr haccepted htotal (Transfer.breaks_mem_of_bytes_ofChunks hbytes)
        | ok bytes =>
          obtain ⟨chunks, hbody, rfl⟩ := Transfer.bytes_ofChunks_eq_ok_iff.mp hbytes
          exact .received h hr haccepted htotal hbody

/-- A fetch of a file takes one of the courses. -/
lemma course_fetchFile {place : String} (h : l.destination source = .ok (place, false)) :
    l.Course t n source (l.fetchFile t n place).text (l.fetchFile t n place).progress := by
  unfold fetchFile Tree.readText
  cases hdata : t.readFile "File" (.ofText place.toList) with
  | error fault => exact .missing h hdata
  | ok data =>
    have htext : ((Encoding.decode l.readers l.encoding data).mapError TextFault.encoding).mapError
        (ofTextFault place) = l.textOf place data := by
      unfold textOf
      cases Encoding.decode l.readers l.encoding data <;> rfl
    dsimp only
    rw [htext]
    exact .opened h hdata

/-- **A fetch takes one of the courses**, whatever its source.

**Proof sketch.** A source stands for no place, for one in the web or for a file. In the web, the
answer, the status, the length and the body are looked at in this order, and the first that is at
fault ends the fetch; a file is there or not. -/
theorem course_fetch (l : Loader) (t : Tree) (n : Network) (source : String) :
    l.Course t n source (l.fetch t n source).text (l.fetch t n source).progress := by
  cases hplace : l.resolve source.toList with
  | error fault =>
    have hlost : l.destination source = .error fault := by rw [destination, hplace]; rfl
    unfold fetch
    rw [hplace]
    exact .lost hlost
  | ok place =>
    have hdestination : l.destination source =
        (Url.isHttp place).map fun web => (String.ofList place, web) := by
      rw [destination, hplace]
      rfl
    unfold fetch
    rw [hplace]
    dsimp only
    cases hweb : Url.isHttp place with
    | error fault => exact .lost (by rw [hdestination, hweb]; rfl)
    | ok web =>
      have hat : l.destination source = .ok (String.ofList place, web) := by
        rw [hdestination, hweb]; rfl
      cases web with
      | true => exact course_fetchWeb hat
      | false => exact course_fetchFile hat

/-- A source stands for one place at most. -/
lemma place_unique {place place' : String} {web web' : Bool}
    (h : l.destination source = .ok (place, web)) (h' : l.destination source = .ok (place', web')) :
    place = place' :=
  (Prod.mk.inj (Except.ok.inj (h.symm.trans h'))).1

/-- A source that stands for no place is lost. -/
lemma Course.of_lost {text : Except FetchFault (List Char)} {progress : List Progress}
    (h : l.Course t n source text progress) {fault : Url.Fault}
    (hplace : l.destination source = .error fault) :
    text = .error (.value fault.message) ∧ progress = [] := by
  cases h with
  | lost hplace' =>
    obtain rfl := Except.error.inj (hplace.symm.trans hplace')
    exact ⟨rfl, rfl⟩
  | unanswered hother _ | refused hother _ _ | misled hother _ _ _ | broken hother _ _ _ _
  | received hother _ _ _ _ | missing hother _ | opened hother _ =>
    rw [hplace] at hother
    exact absurd hother (by simp)

/-- Once a response is accepted, its length and its body decide the course. -/
lemma Course.of_accepted {text : Except FetchFault (List Char)} {progress : List Progress}
    (h : l.Course t n source text progress) {url : String} {r : Response}
    (hplace : l.destination source = .ok (url, true)) (hanswer : l.answer n url = .ok r)
    (haccepted : r.Accepted) :
    (∃ fault, announcedLength r = .error fault ∧ text = .error fault ∧ progress = []) ∨
      ∃ total, announcedLength r = .ok total ∧ progress = progressOf total (arrived r.body) ∧
        ((∃ b, .breaks b ∈ r.body ∧ text = .error (ofBreakdown url b)) ∨
          ∃ chunks : List (List UInt8), r.body = chunks.map .data ∧
            text = l.textOf url chunks.flatten) := by
  cases h with
  | lost hother | missing hother | opened hother =>
    rw [hplace] at hother
    exact absurd hother (by simp)
  | unanswered hplace' hother =>
    obtain rfl := place_unique hplace hplace'
    rw [hanswer] at hother
    exact absurd hother (by simp)
  | refused hplace' hanswer' hother =>
    obtain rfl := place_unique hplace hplace'
    obtain rfl := Except.ok.inj (hanswer.symm.trans hanswer')
    exact absurd haccepted hother
  | misled hplace' hanswer' _ hfault =>
    obtain rfl := place_unique hplace hplace'
    obtain rfl := Except.ok.inj (hanswer.symm.trans hanswer')
    exact .inl ⟨_, hfault, rfl, rfl⟩
  | broken hplace' hanswer' _ htotal hbreaks =>
    obtain rfl := place_unique hplace hplace'
    obtain rfl := Except.ok.inj (hanswer.symm.trans hanswer')
    exact .inr ⟨_, htotal, rfl, .inl ⟨_, hbreaks, rfl⟩⟩
  | received hplace' hanswer' _ htotal hbody =>
    obtain rfl := place_unique hplace hplace'
    obtain rfl := Except.ok.inj (hanswer.symm.trans hanswer')
    exact .inr ⟨_, htotal, rfl, .inr ⟨_, hbody, rfl⟩⟩

/-- A file that is there is read as a whole. -/
lemma Course.of_file {text : Except FetchFault (List Char)} {progress : List Progress}
    (h : l.Course t n source text progress) {place : String} {data : List UInt8}
    (hplace : l.destination source = .ok (place, false))
    (hread : t.readFile "File" (.ofText place.toList) = .ok data) :
    text = l.textOf place data ∧ progress = [(data.length, some data.length)] := by
  cases h with
  | lost hother | unanswered hother _ | refused hother _ _ | misled hother _ _ _
  | broken hother _ _ _ _ | received hother _ _ _ _ =>
    rw [hplace] at hother
    exact absurd hother (by simp)
  | missing hplace' hother =>
    obtain rfl := place_unique hplace hplace'
    rw [hread] at hother
    exact absurd hother (by simp)
  | opened hplace' hread' =>
    obtain rfl := place_unique hplace hplace'
    obtain rfl := Except.ok.inj (hread.symm.trans hread')
    exact ⟨rfl, rfl⟩

/-! ## What is delivered -/

/-- **A source delivers bytes**: it stands for a file that holds them, or for a place in the web
that answers with a body of them, in chunks of any sizes. -/
inductive Delivers (l : Loader) (t : Tree) (n : Network) (source place : String)
    (data : List UInt8) : Prop where
  | web {r : Response} {chunks : List (List UInt8)} :
    l.destination source = .ok (place, true) → l.answer n place = .ok r → r.Accepted →
    ¬ r.Misleads → r.body = chunks.map .data → chunks.flatten = data →
    Delivers l t n source place data
  | file :
    l.destination source = .ok (place, false) →
    t.readFile "File" (.ofText place.toList) = .ok data → Delivers l t n source place data

/-- The text of a source that delivers bytes is what they are read as. -/
theorem Delivers.text_fetch {place : String} {data : List UInt8}
    (h : l.Delivers t n source place data) :
    (l.fetch t n source).text = l.textOf place data := by
  have hcourse := course_fetch l t n source
  cases h with
  | web hplace hanswer haccepted hlength hbody hdata =>
    rcases hcourse.of_accepted hplace hanswer haccepted with
      ⟨fault, hfault, -⟩ | ⟨total, -, -, ⟨b, hbreaks, -⟩ | ⟨chunks, hbody', htext⟩⟩
    · exact absurd ((exists_announcedLength_eq_error _).mp ⟨fault, hfault⟩) hlength
    · rw [hbody] at hbreaks
      exact absurd hbreaks (by simp)
    · obtain rfl := List.map_injective_iff.mpr (fun _ _ => Chunk.data.inj)
        (hbody.symm.trans hbody')
      rw [htext, hdata]
  | file hplace hread => exact (hcourse.of_file hplace hread).1

/-- A text is read iff the bytes can be decoded. -/
lemma textOf_eq_ok_iff {place : String} {data : List UInt8} {s : List Char} :
    l.textOf place data = .ok s ↔ Encoding.decode l.readers l.encoding data = .ok s := by
  unfold textOf
  cases Encoding.decode l.readers l.encoding data <;> simp [Except.mapError]

/-- **A text is fetched** iff the source delivers bytes that can be decoded. -/
theorem text_fetch_eq_ok_iff {s : List Char} :
    (l.fetch t n source).text = .ok s ↔
      ∃ place data, l.Delivers t n source place data ∧
        Encoding.decode l.readers l.encoding data = .ok s := by
  constructor
  · intro htext
    have hcourse := course_fetch l t n source
    rw [htext] at hcourse
    generalize hend : Except.ok s = text, (l.fetch t n source).progress = progress at hcourse
    cases hcourse with
    | lost _ | unanswered _ _ | refused _ _ _ | misled _ _ _ _ | broken _ _ _ _ _ | missing _ _ =>
      exact absurd hend (by simp)
    | received hplace hanswer haccepted hlength hbody =>
      have hplain := not_misleads_of_announcedLength hlength
      exact ⟨_, _, .web hplace hanswer haccepted hplain hbody rfl, textOf_eq_ok_iff.mp hend.symm⟩
    | opened hplace hread => exact ⟨_, _, .file hplace hread, textOf_eq_ok_iff.mp hend.symm⟩
  · rintro ⟨place, data, hdelivers, hdecode⟩
    rw [hdelivers.text_fetch, textOf_eq_ok_iff]
    exact hdecode

end Loader

/-! ## Names of encodings -/

namespace Encoding

/-- The names of the encodings that documents are mostly written in. -/
def commonNames : List String := ["utf-8", "utf-8-sig", "utf-16", "latin-1", "ascii", "cp1252"]

/-- A text holds no half if no character of it is one. -/
lemma firstHalvesFrom?_eq_none {s : List Char} (h : ∀ c ∈ s, isHalf c = false) (place : Nat) :
    firstHalvesFrom? place s = none := by
  induction s generalizing place with
  | nil => rfl
  | cons c s ih =>
    rw [firstHalvesFrom?, h c List.mem_cons_self]
    exact ih (fun d hd => h d (List.mem_cons_of_mem c hd)) (place + 1)

/-- A text without halves and without the character that ends names is a name. -/
lemma nameFault?_eq_none {name : String}
    (h : ∀ c ∈ name.toList, c ≠ '\x00' ∧ isHalf c = false) : nameFault? name = none := by
  have hhalves : firstHalves? name = none := firstHalvesFrom?_eq_none (fun c hc => (h c hc).2) 0
  have hnull : name.toList.contains '\x00' = false := by
    rw [List.contains_eq_mem, decide_eq_false_iff_not]
    exact fun hmem => (h _ hmem).1 rfl
  rw [nameFault?, hhalves, hnull]
  rfl

/-- The common names are registered for encodings with readers of their own. -/
lemma isSome_reader?_of_common : ∀ name ∈ commonNames, nameFault? name = none ∧
    ((canonical? name).bind reader?).isSome = true := by
  decide

/-- Bytes are read under a common name, and that by no reader from outside. -/
lemma exists_decode_of_common {name : String} (h : name ∈ commonNames) (data : List UInt8) :
    ∃ s, ∀ readers, decode readers name data = .ok s := by
  obtain ⟨hname, hreader⟩ := isSome_reader?_of_common name h
  obtain ⟨reader, hreader⟩ := Option.isSome_iff_exists.mp hreader
  obtain ⟨own, hown, hreader⟩ := Option.bind_eq_some_iff.mp hreader
  refine ⟨if data.isEmpty then [] else reader data, fun readers => ?_⟩
  rw [decode, hname, hown]
  dsimp only
  split
  · rfl
  · rw [Readers.text, hreader]
    rfl

/-- Under an unknown name there is a text only if there is nothing to read. -/
lemma decode_of_not_isKnown {name : String} (hknown : isKnown name = false)
    (hname : nameFault? name = none) (readers : Readers) (data : List UInt8) :
    decode readers name data = if data.isEmpty then .ok [] else .error (.unknown name) := by
  obtain ⟨hcanonical, htransform⟩ := Bool.or_eq_false_iff.mp hknown
  rw [Option.isSome_eq_false_iff, Option.isNone_iff_eq_none] at hcanonical
  rw [decode, hname, hcanonical, htransform]
  rfl

/-- Bytes are read as UTF-8 under its name. -/
lemma decode_utf8 (readers : Readers) (data : List UInt8) :
    decode readers "utf-8" data = .ok (Utf8.decode data) := by
  have hname : nameFault? "utf-8" = none := by decide
  have hown : canonical? "utf-8" = some "utf_8" := by decide
  rw [decode, hname, hown]
  cases data with
  | nil => rw [Utf8.decode]; rfl
  | cons b rest => rfl

end Encoding

/-! ## Two sources of the same bytes -/

section SameBytes

variable {l l' : Loader} {t t' : Tree} {n n' : Network} {source source' place place' : String}
  {data : List UInt8}

/-- **Two sources of the same bytes have the same text**, whether they are files or places in the
web and however a body is cut into chunks; or neither has one, as the name of the encoding is
unknown. The bytes of a text in UTF-8 are read as that text.

**Proof sketch.** Either text is what the bytes as a whole are read as, and that depends on the name
of the encoding only. A common name always gives a text; an unknown one gives the same fault in
both places, unless there is nothing to read. -/
theorem text_fetch_of_delivers (h : l.Delivers t n source place data)
    (h' : l'.Delivers t' n' source' place' data) (hencoding : l'.encoding = l.encoding)
    (hname : l.encoding ∈ Encoding.commonNames ∨
      Encoding.isKnown l.encoding = false ∧
        ∀ c ∈ l.encoding.toList, c ≠ '\x00' ∧ Encoding.isHalf c = false) :
    ((∃ s, (l.fetch t n source).text = .ok s ∧ (l'.fetch t' n' source').text = .ok s) ∨
      Encoding.isKnown l.encoding = false ∧
      (l.fetch t n source).text =
        .error (.unobtainable place (Encoding.Fault.unknown l.encoding).message) ∧
      (l'.fetch t' n' source').text =
        .error (.unobtainable place' (Encoding.Fault.unknown l.encoding).message)) ∧
    (l.encoding = "utf-8" → ∀ s, data = s.flatMap String.utf8EncodeChar →
      (l.fetch t n source).text = .ok s ∧ (l'.fetch t' n' source').text = .ok s) := by
  rw [h.text_fetch, h'.text_fetch]
  simp only [Loader.textOf_eq_ok_iff, hencoding]
  refine ⟨?_, ?_⟩
  · rcases hname with hcommon | ⟨hknown, hname⟩
    · obtain ⟨s, hs⟩ := Encoding.exists_decode_of_common hcommon data
      exact .inl ⟨s, hs _, hs _⟩
    · have hdecode := fun readers => Encoding.decode_of_not_isKnown hknown
        (Encoding.nameFault?_eq_none hname) readers data
      by_cases hempty : data.isEmpty = true
      · simp only [if_pos hempty] at hdecode
        exact .inl ⟨[], hdecode _, hdecode _⟩
      · simp only [if_neg hempty] at hdecode
        unfold Loader.textOf
        rw [hencoding, hdecode, hdecode]
        exact .inr ⟨hknown, rfl, rfl⟩
  · rintro hutf8 s rfl
    rw [hutf8, Encoding.decode_utf8, Encoding.decode_utf8, Encoding.Utf8.decode_encode]
    exact ⟨rfl, rfl⟩

end SameBytes

/-- A folder with a file of one letter that takes two bytes. -/
def letterFile : Tree := .ofFiles [[]] [("a.gcode".toList, .file [0xC3, 0xA9])]

/-- A place in the web that answers with the same bytes, one by one. -/
def letterWeb : Network where
  answers := [("http://h/a", [.ok { body := [.data [0xC3], .data [], .data [0xA9]] }])]

/-- The file delivers its bytes, whatever the encoding. -/
lemma delivers_letterFile (encoding : String) :
    ({ encoding } : Loader).Delivers letterFile letterWeb "a.gcode" "a.gcode" [0xC3, 0xA9] :=
  .file (show ({} : Loader).destination "a.gcode" = _ by decide) (by decide)

/-- The place in the web delivers the same bytes, whatever the encoding. -/
lemma delivers_letterWeb (encoding : String) :
    ({ encoding } : Loader).Delivers letterFile letterWeb "http://h/a" "http://h/a"
      [0xC3, 0xA9] := by
  refine .web (r := { body := [.data [0xC3], .data [], .data [0xA9]] })
    (show ({} : Loader).destination "http://h/a" = _ by decide)
    (show ({} : Loader).answer letterWeb "http://h/a" = _ by decide)
    (.inl (by decide)) ?_ (show _ = List.map Chunk.data [[0xC3], [], [0xA9]] from rfl) rfl
  exact Response.not_misleads fun s hs => absurd hs (by simp [Response.header?])

/-- A letter that is cut between its bytes is read all the same. -/
theorem text_fetch_of_delivers_letter :
    (({} : Loader).Delivers letterFile letterWeb "http://h/a" "http://h/a" [0xC3, 0xA9] ∧
      ({} : Loader).Delivers letterFile letterWeb "a.gcode" "a.gcode" [0xC3, 0xA9]) ∧
    (({} : Loader).fetch letterFile letterWeb "http://h/a").text = .ok ['é'] ∧
    (({} : Loader).fetch letterFile letterWeb "a.gcode").text = .ok ['é'] :=
  have hsame := text_fetch_of_delivers (delivers_letterWeb "utf-8") (delivers_letterFile "utf-8")
    rfl (.inl (by decide))
  ⟨⟨delivers_letterWeb "utf-8", delivers_letterFile "utf-8"⟩, hsame.2 rfl ['é'] (by decide)⟩

/-- A name of half a pair is unknown too and holds no character that ends names, but the failure it
leads to is not reported as one of the source. -/
theorem text_fetch_of_delivers_half :
    let half := Char.ofNat 0xFF000
    let l : Loader := { encoding := String.ofList [half] }
    (l.Delivers letterFile letterWeb "http://h/a" "http://h/a" [0xC3, 0xA9] ∧
      l.Delivers letterFile letterWeb "a.gcode" "a.gcode" [0xC3, 0xA9]) ∧
    Encoding.isKnown l.encoding = false ∧ '\x00' ∉ l.encoding.toList ∧
    (l.fetch letterFile letterWeb "http://h/a").text = .error (.halvesInName ⟨0, half, 0⟩) ∧
    (l.fetch letterFile letterWeb "a.gcode").text = .error (.halvesInName ⟨0, half, 0⟩) := by
  refine ⟨⟨delivers_letterWeb _, delivers_letterFile _⟩, by decide, by decide,
    ?_, ?_⟩
  · rw [(delivers_letterWeb _).text_fetch]
    decide
  · rw [(delivers_letterFile _).text_fetch]
    decide

end Toolpath
