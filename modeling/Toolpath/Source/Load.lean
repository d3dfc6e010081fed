import Toolpath.Run
import Toolpath.Source.Fetch
/-!
# Loading documents

A document fetched and interpreted. Whoever loads can listen: to the progress of the transfer, to
the result, and to a failure. A failure that is listened to is no error any more.

## Main definitions

* `Toolpath.Listeners`, `Toolpath.LoadEvent` — who listens, and what is heard.
* `Toolpath.Loader.load` — a document fetched and interpreted.
-/

namespace Toolpath

open Files

/-- What is listened to. -/
structure Listeners where
  progress : Bool := false
  loaded : Bool := false
  failed : Bool := false
  deriving DecidableEq, Repr

/-- What is heard. -/
inductive LoadEvent where
  | progress (received : Nat) (total : Option Nat)
  | loaded (result : Result)
  | failed (place reason : String)
  deriving DecidableEq, Repr

/-- The outcome of a load. -/
structure Load where
  /-- The result; nothing if a listener took care of the failure. -/
  result : Except FetchFault (Option Result)
  events : List LoadEvent
  /-- The reports behind the announcement. -/
  reports : List Log.Record
  loader : Loader
  network : Network
  clock : Clock

namespace Loader

/-- The progress that is heard. -/
def heard (listening : Bool) (progress : List Progress) : List LoadEvent :=
  if listening then progress.map fun (received, total) => .progress received total else []

/-- A document fetched and interpreted. -/
def load (l : Loader) (t : Tree) (n : Network) (clock : Clock) (listeners : Listeners)
    (source : String) : Load :=
  let f := l.fetch t n source
  let progress := heard listeners.progress f.progress
  match f.text with
  | .ok text =>
    let i := interpret l.instrument clock text
    { result := .ok (some i.result)
      events := progress ++ (if listeners.loaded then [.loaded i.result] else [])
      reports := f.reports ++ i.reports
      loader := f.loader
      network := f.network
      clock := i.clock }
  | .error fault =>
    match fault, listeners.failed with
    | .unobtainable place reason, true =>
      { result := .ok none
        events := progress ++ [.failed place reason]
        reports := f.reports ++ [.of fetchLogger .error fault.message]
        loader := f.loader
        network := f.network
        clock := clock }
    | _, _ =>
      { result := .error fault
        events := progress
        reports := f.reports
        loader := f.loader
        network := f.network
        clock := clock }

end Loader

end Toolpath
