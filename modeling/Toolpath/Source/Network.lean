import Toolpath.Entries
import Toolpath.Text.Case
/-!
# The network

What requests are answered with, and what was asked. A URL has a list of answers that are given
one after the other, the last for ever; a URL without answers refuses every request.

## Main definitions

* `Toolpath.Breakdown`, `Toolpath.Response` — what a request can lead to.
* `Toolpath.Network.request` — the answer to a request.
* `Toolpath.Response.fault?` — the reason why a status is a failure.
-/

namespace Toolpath

open Text

/-- Why a request or the transfer of a body stops. -/
inductive Breakdown where
  /-- The transport fails. -/
  | transport (message : String)
  /-- Something else fails: a value is not suitable. -/
  | value (message : String)
  /-- Something else fails: the system does. -/
  | system (message : String)
  deriving DecidableEq, Repr

/-- A piece of a body, or the end of the transfer. -/
inductive Chunk where
  | data (bytes : List UInt8)
  | breaks (breakdown : Breakdown)
  deriving DecidableEq, Repr

/-- The answer to a request. -/
structure Response where
  status : Nat := 200
  reason : String := "OK"
  headers : List (String × String) := []
  body : List Chunk := []
  deriving DecidableEq, Repr

/-- The value of a header, whatever the case of its name; of several the last counts. -/
def Response.header? (r : Response) (name : String) : Option String :=
  let key (s : String) : List Char := s.toList.flatMap lowerChar
  (r.headers.reverse.find? fun (k, _) => key k == key name).map (·.2)

/-- The reason why the status of a response is a failure, if it is one. -/
def Response.fault? (r : Response) (url : String) : Option String :=
  if 400 ≤ r.status && r.status < 500 then
    some s!"{r.status} Client Error: {r.reason} for url: {url}"
  else if 500 ≤ r.status && r.status < 600 then
    some s!"{r.status} Server Error: {r.reason} for url: {url}"
  else none

/-- A request. -/
structure Request where
  /-- Whether it is part of a session. -/
  inSession : Bool
  url : String
  headers : List (String × String)
  timeout : Float
  deriving DecidableEq, Repr

/-- What requests are answered with, and what was asked. -/
structure Network where
  /-- The answers still to come, by URL. -/
  answers : List (String × List (Except Breakdown Response)) := []
  /-- The requests so far. -/
  requests : List Request := []
  /-- The responses so far; every one was closed again. -/
  responses : Nat := 0
  sessionsOpened : Nat := 0
  sessionsClosed : Nat := 0

namespace Network

/-- The answer where there is none. -/
def refusal : Except Breakdown Response := .error (.transport "refused")

/-- The first of the answers to come, and those after it. -/
def next : List (Except Breakdown Response) →
    Except Breakdown Response × List (Except Breakdown Response)
  | [] => (refusal, [])
  | [a] => (a, [a])
  | a :: more => (a, more)

/-- The answer to a request. -/
def request (n : Network) (r : Request) : Except Breakdown Response × Network :=
  let n := { n with requests := n.requests ++ [r] }
  match Entries.find? n.answers r.url with
  | none => (refusal, n)
  | some answers =>
    let (answer, rest) := next answers
    let opened := match answer with
      | .ok _ => 1
      | .error _ => 0
    (answer, { n with answers := Entries.put n.answers r.url rest, responses := n.responses + opened })

end Network

end Toolpath
