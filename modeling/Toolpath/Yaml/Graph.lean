import Toolpath.Yaml.Key
import Toolpath.Yaml.Merge
import Toolpath.Yaml.Scalar
/-!
# What documents stand for

The values of nodes. A value may have parts that are shared or that hold the value itself, so the
parts are named by the numbers of their nodes. Scalars get their values at once. Lists and mappings
wait in a queue until it is their turn to get their parts, so that a fault in a part shows only after
the faults of the parts next to what holds it.

## Main definitions

* `Toolpath.Yaml.Piece`, `Graph` — the values of nodes, and those of a document.
* `Toolpath.Yaml.Graph.ofDocument` — what a document stands for.
* `Toolpath.Yaml.Graph.value`, `Graph.valueTo` — the value as a tree, whole or down to a depth.
-/

namespace Toolpath.Yaml

/-- What a node stands for; parts are given by the numbers of their nodes. -/
inductive Piece where
  | plain (key : Key)
  | list (items : List Nat)
  | pairs (items : List (Nat × Nat))
  | set (keys : List Nat)
  | map (entries : List (Nat × Nat))

/-- What the nodes of a document stand for. -/
structure Graph where
  pieces : Array (Option Piece)
  root : Nat

namespace Graph

/-! ## The builder's state -/

/-- The document, the values so far, and the nodes whose parts are to come. -/
structure Builder where
  document : Document
  pieces : Array (Option Piece)
  waiting : Array Nat := #[]

/-- A step that may fail. -/
abbrev Step := StateT Builder (Except Fault)

/-- The document means nothing. -/
def refuse {α : Type} : Step α := throw .malformed

/-- What a node stands for, once it is known. -/
def put (n : Nat) (piece : Piece) : Step Unit :=
  modify fun s => { s with pieces := s.pieces.setIfInBounds n (some piece) }

/-- The nodes in front of those that wait already. -/
def await (n : Nat) : Step Unit := modify fun s => { s with waiting := s.waiting.push n }

/-! ## Nodes -/

/-- The text of a node: a mapping has the text of its main value. -/
def textOf (d : Document) : (fuel : Nat) → (n : Nat) → Except Fault (List Char)
  | 0, _ => .error .tooDeep
  | fuel + 1, n =>
    match d.content n with
    | .scalar text => .ok text
    | .list _ => .error .malformed
    | .map _ entries =>
      match entries.find? fun (k, _) => d.tag k == Plain.mainTag with
      | some (_, v) => textOf d fuel v
      | none => .error .malformed

/-- A scalar's value as a key. A double has a mark of its own, unless it is the one that has a
name. -/
def scalar (d : Document) (n : Nat) (kind : Kind) : Except Fault Key := do
  let text ← textOf d (d.nodes.size + 1) n
  if kind = .date && d.isMap n then throw .dateOfMap
  let mark := if kind = .float && Kind.isNanName text then 0 else n + 1
  return ⟨← kind.value text, mark⟩

/-- What the tag of a list or a mapping makes of it before it has its parts. -/
def hollow? (tag : String) : Option Piece :=
  if tag = Plain.listTag then some (.list [])
  else if tag = Plain.mapTag then some (.map [])
  else if tag = Plain.setTag then some (.set [])
  else if tag = Plain.orderedTag || tag = Plain.pairsTag then some (.pairs [])
  else none

/-- The value of a node, unless it is known; parts are left for later. -/
def build (n : Nat) : Step Unit := do
  let s ← get
  match s.pieces[n]? with
  | some none =>
    let tag := s.document.tag n
    match Kind.ofTag? tag with
    | some kind => put n (.plain (← scalar s.document n kind))
    | none =>
      match hollow? tag with
      | some piece =>
        put n piece
        await n
      | none => refuse
  | _ => return

/-! ## Parts -/

/-- The value of a node as a key, if it can be one. -/
def key? (s : Builder) (n : Nat) : Option Key :=
  match s.pieces[n]? with
  | some (some (.plain key)) => some key
  | _ => none

/-- The entries with a value stored under a key; a known key keeps its place and its form. -/
def putEntry (entries : List (Key × Nat × Nat)) (key : Key) (k v : Nat) : List (Key × Nat × Nat) :=
  match entries with
  | [] => [(key, k, v)]
  | (key', k', v') :: rest =>
    if key'.isSame key then (key', k', v) :: rest else (key', k', v') :: putEntry rest key k v

/-- The entries of a mapping in which a later one wins. -/
def buildEntries (es : List (Nat × Nat)) : Step (List (Nat × Nat)) := do
  let keyed ← es.mapM fun (k, v) => do
    build k
    match key? (← get) k with
    | none => refuse
    | some key =>
      build v
      return (key, k, v)
  return (keyed.foldl (fun es (key, k, v) => putEntry es key k v) []).map (·.2)

/-- The entries of a node that has to be a mapping, with those that it merges in front. -/
def entriesOf (fuel : Nat) (n : Nat) : Step (List (Nat × Nat)) := do
  if !(← get).document.isMap n then refuse
  let d ← (← get).document.settle fuel n []
  modify fun s => { s with document := d }
  buildEntries (d.entries n)

/-- The only entry of a node that has to be a mapping. -/
def pairOf (n : Nat) : Step (Nat × Nat) := do
  match (← get).document.content n with
  | .map [] [(k, v)] =>
    build k
    build v
    return (k, v)
  | _ => refuse

/-- The parts of a node. -/
def fill (fuel : Nat) (n : Nat) : Step Unit := do
  let s ← get
  match s.pieces[n]?, s.document.content n with
  | some (some (.list _)), .list items =>
    items.forM build
    put n (.list items)
  | some (some (.pairs _)), .list items => put n (.pairs (← items.mapM pairOf))
  | some (some (.set _)), _ => put n (.set ((← entriesOf fuel n).map (·.1)))
  | some (some (.map _)), _ => put n (.map (← entriesOf fuel n))
  | _, _ => refuse

/-- The parts of all nodes that wait, from a place in the queue on. -/
def fillAll (mergeFuel : Nat) : (fuel : Nat) → (place : Nat) → Step Unit
  | 0, _ => return
  | fuel + 1, place => do
    match (← get).waiting[place]? with
    | none => return
    | some n =>
      fill mergeFuel n
      fillAll mergeFuel fuel (place + 1)

/-- What a document stands for. -/
def ofDocument (d : Document) : Except Fault Graph := do
  let start : Builder := { document := d, pieces := Array.replicate d.nodes.size none }
  let steps : Step Unit := do
    build d.root
    fillAll d.mergeFuel (d.nodes.size + 1) 0
  let (_, s) ← steps.run start
  return ⟨s.pieces, d.root⟩

/-! ## Trees -/

/-- The value of a node as a tree, down to a depth. -/
def unfold (g : Graph) : (depth : Nat) → (n : Nat) → Value
  | depth, n =>
    match g.pieces[n]?, depth with
    | some (some (.plain key)), _ => key.value
    | some (some (.list items)), depth + 1 => .list (items.map (g.unfold depth))
    | some (some (.pairs items)), depth + 1 =>
      .list (items.map fun (k, v) => .pair (g.unfold depth k) (g.unfold depth v))
    | some (some (.set keys)), depth + 1 => .set (keys.map (g.unfold depth))
    | some (some (.map entries)), depth + 1 =>
      .map (entries.map fun (k, v) => (g.unfold depth k, g.unfold depth v))
    | _, _ => .deep

/-- The value down to a depth. -/
def valueTo (g : Graph) (depth : Nat) : Value := g.unfold depth g.root

/-- Whether a node stands for a value with parts. -/
def hasParts : Option Piece → Bool
  | none => false
  | some (.plain _) => false
  | some _ => true

/-- The whole value. A path that passes through more values with parts than there are has no end. -/
def value (g : Graph) : Value := g.valueTo (g.pieces.countP hasParts)

end Graph

end Toolpath.Yaml
