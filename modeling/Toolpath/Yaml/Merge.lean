import Toolpath.Yaml.Node
/-!
# Merged mappings

A mapping may merge others: their entries come first, those of a list of mappings in reverse order,
and what a merged mapping merges comes in front of its own entries. A mapping may merge itself, for
each merge is taken off before it is followed.

## Main definitions

* `Toolpath.Yaml.Document.settle` — a document in which a mapping has nothing left to merge.
-/

namespace Toolpath.Yaml.Document

/-! ## Nodes of a document -/

/-- What a node holds. -/
def content (d : Document) (n : Nat) : Content := (d.nodes[n]?.map (·.content)).getD (.scalar [])

/-- The tag of a node. -/
def tag (d : Document) (n : Nat) : String := (d.nodes[n]?.map (·.tag)).getD ""

/-- The mappings that a node still has to merge. -/
def merges (d : Document) (n : Nat) : List Nat :=
  match d.content n with
  | .map merges _ => merges
  | _ => []

/-- The entries of a node. -/
def entries (d : Document) (n : Nat) : List (Nat × Nat) :=
  match d.content n with
  | .map _ entries => entries
  | _ => []

/-- Whether a node is a mapping. -/
def isMap (d : Document) (n : Nat) : Bool :=
  match d.content n with
  | .map .. => true
  | _ => false

/-- A document with a node changed. -/
def change (d : Document) (n : Nat) (f : Node → Node) : Document :=
  { d with nodes := d.nodes.modify n f }

/-- A document in which a mapping has the given mappings left to merge. -/
def withMerges (d : Document) (n : Nat) (merges : List Nat) : Document :=
  d.change n fun node =>
    match node.content with
    | .map _ entries => { node with content := .map merges entries }
    | _ => node

/-- A document in which a mapping has more entries in front. -/
def withFront (d : Document) (n : Nat) (front : List (Nat × Nat)) : Document :=
  d.change n fun node =>
    match node.content with
    | .map merges entries => { node with content := .map merges (front ++ entries) }
    | _ => node

/-- A document in which a node that is the key for a main value is a text. -/
def withPlainKey (d : Document) (n : Nat) : Document :=
  d.change n fun node => if node.tag == Plain.mainTag then { node with tag := Plain.textTag } else node

/-! ## Merging -/

mutual

/-- A document in which a mapping has nothing left to merge; `front` are the entries that it has
merged so far. -/
def settle : (fuel : Nat) → (n : Nat) → (front : List (Nat × Nat)) → Document →
    Except Fault Document
  | 0, _, _, _ => .error .malformed
  | fuel + 1, n, front, d =>
    match d.merges n with
    | [] =>
      let d := (d.entries n).foldl (fun d (k, _) => d.withPlainKey k) d
      .ok (d.withFront n front)
    | m :: rest =>
      let d := d.withMerges n rest
      match d.content m with
      | .map .. => do
        let d ← settle fuel m [] d
        settle fuel n (front ++ d.entries m) d
      | .list items => do
        let (parts, d) ← settleAll fuel items d
        settle fuel n (front ++ parts) d
      | .scalar _ => .error .malformed

/-- The entries of mappings that are merged, the last first, and a document in which they have
nothing left to merge. -/
def settleAll : (fuel : Nat) → List Nat → Document → Except Fault (List (Nat × Nat) × Document)
  | 0, _, _ => .error .malformed
  | _, [], d => .ok ([], d)
  | fuel + 1, m :: ms, d =>
    if d.isMap m then do
      let d ← settle fuel m [] d
      let part := d.entries m
      let (parts, d) ← settleAll fuel ms d
      return (parts ++ part, d)
    else .error .malformed

end

/-- The number of merges that are left in a document. -/
def mergeCount (d : Document) : Nat :=
  d.nodes.foldl (fun sum node => match node.content with
    | .map merges _ => sum + merges.length
    | _ => sum) 0

/-- The length of the longest list of a document. -/
def longest (d : Document) : Nat :=
  d.nodes.foldl (fun most node => match node.content with
    | .list items => max most items.length
    | _ => most) 0

/-- The steps that merging takes at most: each merge is followed once, through one list at most. -/
def mergeFuel (d : Document) : Nat := (d.mergeCount + 1) * (d.longest + 3)

end Toolpath.Yaml.Document
