import Toolpath.Decimal.Whole
import Toolpath.Files.Document
import Toolpath.Log.Record
import Toolpath.Source.Loader
import Toolpath.Source.Network
/-!
# Fetching documents

The text of a document, from a file or over the network. A body comes in chunks and is put
together before it is read as text, so the chunks do not matter; every chunk that is not empty is
reported as progress.

## Main definitions

* `Toolpath.FetchFault` — why there is no text.
* `Toolpath.Transfer`, `Transfer.ofChunks` — a body put together.
* `Toolpath.Loader.announcement`, `Loader.fetch` — what is reported first, and the text of a source.
-/

namespace Toolpath

open Files Text

/-- Why there is no text. -/
inductive FetchFault where
  /-- The document cannot be obtained, which is reported as such. -/
  | unobtainable (place reason : String)
  /-- A value is not suitable, or bytes cannot be read. -/
  | value (message : String)
  /-- The system fails. -/
  | system (message : String)
  /-- The name of the encoding cannot be written as bytes. -/
  | halvesInName (halves : Encoding.Halves)
  deriving DecidableEq, Repr

/-- The wording of a fault. -/
def FetchFault.message : FetchFault → String
  | unobtainable place reason => s!"Failed to load {place}: {reason}"
  | value message => message
  | system message => message
  | halvesInName halves => halves.message

/-- A report of progress: the bytes received so far, and how many there will be, if known. -/
abbrev Progress := Nat × Option Nat

/-! ## Bodies -/

/-- A body put together: the bytes received after each chunk, and all bytes unless the transfer
broke off. -/
structure Transfer where
  received : List Nat
  bytes : Except Breakdown (List UInt8)

/-- The chunks of a body put together, of which some bytes were received before. -/
def Transfer.ofChunks (before : Nat) : List Chunk → Transfer
  | [] => ⟨[], .ok []⟩
  | .breaks b :: _ => ⟨[], .error b⟩
  | .data [] :: rest => ofChunks before rest
  | .data bytes :: rest =>
    let now := before + bytes.length
    let t := ofChunks now rest
    ⟨now :: t.received, t.bytes.map (bytes ++ ·)⟩

/-- The length of a body that its header tells. A header that is not made of digit signs tells
nothing. -/
def announcedLength (r : Response) : Except FetchFault (Option Nat) :=
  match r.header? "Content-Length" with
  | none => .ok none
  | some s =>
    if s.isEmpty || !s.toList.all isDigitSign then .ok none
    else
      match Decimal.Whole.read 10 s.toList with
      | .ok n => .ok (some n.toNat)
      | .error fault => .error (.value fault.message)

/-! ## Fetching -/

/-- The name of the part that fetches. -/
def fetchLogger : String := "gcode_layers.loader.source"

/-- The outcome of a fetch. -/
structure Fetch where
  text : Except FetchFault (List Char)
  progress : List Progress := []
  /-- The reports behind the announcement. -/
  reports : List Log.Record := []
  loader : Loader
  network : Network

namespace Loader

/-- What stands in the way of a file's text. -/
def ofTextFault (place : String) : TextFault → FetchFault
  | .file .nullInPath => .value Fault.nullInPath.message
  | .encoding .nullInName => .value Encoding.Fault.nullInName.message
  | .encoding (.unreadable message) => .value message
  | .encoding (.halvesInName halves) => .halvesInName halves
  | fault => .unobtainable place fault.message

/-- What stands in the way of a transfer. -/
def ofBreakdown (url : String) : Breakdown → FetchFault
  | .transport message => .unobtainable url message
  | .value message => .value message
  | .system message => .system message

/-- The bytes of a body as text. -/
def textOf (l : Loader) (url : String) (bytes : List UInt8) : Except FetchFault (List Char) :=
  (Encoding.decode l.readers l.encoding bytes).mapError fun fault =>
    ofTextFault url (.encoding fault)

/-- The text in a response, with the progress and the reports of its transfer. -/
def receive (l : Loader) (url : String) (r : Response) :
    Except FetchFault (List Char) × List Progress × List Log.Record :=
  match r.fault? url with
  | some reason => (.error (.unobtainable url reason), [], [])
  | none =>
    match announcedLength r with
    | .error fault => (.error fault, [], [])
    | .ok total =>
      let t := Transfer.ofChunks 0 r.body
      let progress := t.received.map (·, total)
      match t.bytes with
      | .error b => (.error (ofBreakdown url b), progress, [])
      | .ok bytes =>
        let report := s!"Received {bytes.length} bytes from {url}"
        (l.textOf url bytes, progress, [.of fetchLogger .debug report])

/-- The loader and the network with a session open, if the loader wants one. -/
def withSession (l : Loader) (n : Network) : Loader × Network :=
  if l.withCredentials && !l.session then
    ({ l with session := true }, { n with sessionsOpened := n.sessionsOpened + 1 })
  else (l, n)

/-- The loader and the network without a session. -/
def close (l : Loader) (n : Network) : Loader × Network :=
  if l.session then
    ({ l with session := false }, { n with sessionsClosed := n.sessionsClosed + 1 })
  else (l, n)

/-- The text of a URL of the web. -/
def fetchWeb (l : Loader) (n : Network) (url : String) : Fetch :=
  let (l, n) := l.withSession n
  let (answer, n) := n.request ⟨l.withCredentials, url, l.headers, l.timeout⟩
  match answer with
  | .error b => { text := .error (ofBreakdown url b), loader := l, network := n }
  | .ok r =>
    let (text, progress, reports) := l.receive url r
    { text, progress, reports, loader := l, network := n }

/-- The text of a file. -/
def fetchFile (l : Loader) (t : Tree) (n : Network) (place : String) : Fetch :=
  let r := t.readText (.ofText place.toList) l.encoding l.readers
  { text := r.text.mapError (ofTextFault place)
    progress := r.size.toList.map fun size => (size, some size)
    loader := l
    network := n }

/-- The report in front of a fetch, before anything is read. -/
def announcement (l : Loader) (source : String) : List Log.Record :=
  match l.resolve source.toList with
  | .error _ => []
  | .ok place => [.of fetchLogger .info s!"Fetching G-code from {String.ofList place}"]

/-- The text of a source. -/
def fetch (l : Loader) (t : Tree) (n : Network) (source : String) : Fetch :=
  let refusal (fault : Url.Fault) : Fetch :=
    { text := .error (.value fault.message), loader := l, network := n }
  match l.resolve source.toList with
  | .error fault => refusal fault
  | .ok place =>
    match Url.isHttp place with
    | .error fault => refusal fault
    | .ok true => l.fetchWeb n (String.ofList place)
    | .ok false => l.fetchFile t n (String.ofList place)

end Loader

end Toolpath
