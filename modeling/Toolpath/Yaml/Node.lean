import Toolpath.Yaml.Plain
import Toolpath.Yaml.Token
/-!
# Nodes of a document

A document as nodes: scalars, lists and mappings, each with a tag that says what it means. The parts
of a node are nodes of the same document, named by their numbers, so that a node with an anchor can
stand in several places, and even inside itself.

## Main definitions

* `Toolpath.Yaml.Node`, `Document` — the nodes, and all nodes of a document.
* `Toolpath.Yaml.Document.ofScan` — the only document that tokens spell.
-/

namespace Toolpath.Yaml

/-- What a node holds; parts are given by their numbers. -/
inductive Content where
  | scalar (text : List Char)
  | list (items : List Nat)
  /-- The mappings that a mapping still has to merge, and its entries. -/
  | map (merges : List Nat) (entries : List (Nat × Nat))
  deriving Repr, Inhabited

/-- A node of a document. -/
structure Node where
  tag : String
  content : Content
  deriving Repr, Inhabited

/-- The nodes of a document by their numbers, and the number of its root. -/
structure Document where
  nodes : Array Node
  root : Nat
  deriving Repr

namespace Document

/-! ## The composer's state -/

/-- The tokens to come and the fault behind them, the meaning of tag handles, the nodes so far, those
with a name, and how many are not complete yet. -/
structure Composer where
  tokens : List Token
  fault : Option Fault
  handles : List (String × String) := []
  nodes : Array Node := #[]
  named : List (String × Nat) := []
  depth : Nat := 0

/-- A step that may fail. -/
abbrev Step := StateT Composer (Except Fault)

/-- The tokens mean nothing. -/
def refuse {α : Type} : Step α := throw .malformed

/-- The token to come; a fault if it stands there. -/
def peek : Step (Option Token) := do
  let s ← get
  match s.tokens, s.fault with
  | t :: _, _ => return some t
  | [], none => return none
  | [], some fault => throw fault

/-- The next token taken. -/
def skip : Step Unit := modify fun s => { s with tokens := s.tokens.tail }

/-- The next token taken if it is the given one, and whether it was. -/
def accept (t : Token) : Step Bool := do
  if (← peek) == some t then
    skip
    return true
  else return false

/-- The next token, which has to be the given one. -/
def expect (t : Token) : Step Unit := do
  if !(← accept t) then refuse

/-- Whether the next token is one of the given ones. -/
def nextIn (ts : List Token) : Step Bool := do
  match ← peek with
  | some t => return ts.contains t
  | none => return false

/-! ## Nodes -/

/-- The number of a new node with a tag. -/
def add (tag : String) (content : Content) : Step Nat :=
  modifyGet fun s => (s.nodes.size, { s with nodes := s.nodes.push ⟨tag, content⟩ })

/-- A node without a token. -/
def empty : Step Nat := add Plain.nullTag (.scalar [])

/-- A new node with a tag and perhaps a name, which has to be new too. -/
def begin (name : Option String) (tag : String) (content : Content) : Step Nat := do
  match name with
  | none => add tag content
  | some name =>
    if (← get).named.any (·.1 == name) then refuse
    let n ← add tag content
    modify fun s => { s with named := (name, n) :: s.named }
    return n

/-- The most nodes that lie in each other. -/
def depthLimit : Nat := 490

/-- A new node that holds others. -/
def enter (name : Option String) (tag : String) (content : Content) : Step Nat := do
  if depthLimit ≤ (← get).depth then throw .tooDeep
  modify fun s => { s with depth := s.depth + 1 }
  begin name tag content

/-- What a node holds, once it is known. -/
def complete (n : Nat) (content : Content) : Step Nat := do
  modify fun s =>
    { s with
      nodes := s.nodes.modify n fun node => { node with content }
      depth := s.depth - 1 }
  return n

/-- Entries as what a mapping holds: those whose keys ask to merge are kept apart. -/
def contentOf (entries : List (Nat × Nat)) : Step Content := do
  let nodes := (← get).nodes
  let isMerge (k : Nat) : Bool := nodes[k]?.any (·.tag == Plain.mergeTag)
  return .map ((entries.filter (isMerge ·.1)).map (·.2)) (entries.filter (!isMerge ·.1))

/-! ## Properties -/

/-- The anchor to come, if any. -/
def anchor? : Step (Option String) := do
  match ← peek with
  | some (.anchor name) =>
    skip
    return some name
  | _ => return none

/-- The tag to come as it is written, if any. -/
def tagName? : Step (Option TagName) := do
  match ← peek with
  | some (.tag name) =>
    skip
    return some name
  | _ => return none

/-- A tag with its handle replaced. -/
def tagOf : TagName → Step String
  | ⟨none, suffix⟩ => return suffix
  | ⟨some handle, suffix⟩ => do
    match (← get).handles.find? (·.1 == handle) with
    | some (_, expansion) => return expansion ++ suffix
    | none => refuse

/-- The anchor and the tag to come, in any order. -/
def properties : Step (Option String × Option String) := do
  let before ← anchor?
  let tag ← tagName?
  let name ← if before.isSome || tag.isNone then pure before else anchor?
  match tag with
  | none => return (name, none)
  | some tag => return (name, some (← tagOf tag))

/-- A tag, or another one if it leaves the meaning open. -/
def tagOr (tag : Option String) (other : String) : String :=
  match tag with
  | none => other
  | some tag => if tag == "!" then other else tag

/-! ## Nodes from tokens -/

mutual

/-- The node to come. Where `block` is set it may be a block list or a block mapping, and where
`flat` is set also a list that is indented no more than what is around it. -/
def node : (fuel : Nat) → (block flat : Bool) → Step Nat
  | 0, _, _ => refuse
  | fuel + 1, block, flat => do
    match ← peek with
    | some (.alias name) =>
      skip
      match (← get).named.find? (·.1 == name) with
      | some (_, n) => return n
      | none => refuse
    | _ =>
      let (name, tag) ← properties
      let next ← peek
      if flat && next == some Token.item then
        let n ← enter name (tagOr tag Plain.listTag) (.list [])
        complete n (.list (← flatItems fuel))
      else
        match next with
        | some (.scalar text plain) =>
          skip
          let resolved :=
            if tag == some "!" || (tag.isNone && plain) then Plain.tagOf text else Plain.textTag
          begin name (tagOr tag resolved) (.scalar text)
        | some .listOpen =>
          skip
          let n ← enter name (tagOr tag Plain.listTag) (.list [])
          complete n (.list (← flowItems fuel true))
        | some .mapOpen =>
          skip
          let n ← enter name (tagOr tag Plain.mapTag) (.map [] [])
          complete n (← contentOf (← flowEntries fuel true))
        | some .blockListStart =>
          if !block then refuse
          skip
          let n ← enter name (tagOr tag Plain.listTag) (.list [])
          complete n (.list (← blockItems fuel))
        | some .blockMapStart =>
          if !block then refuse
          skip
          let n ← enter name (tagOr tag Plain.mapTag) (.map [] [])
          complete n (← contentOf (← blockEntries fuel))
        | _ =>
          if name.isSome || tag.isSome then
            begin name (tagOr tag Plain.nullTag) (.scalar [])
          else refuse

/-- The node to come, or an empty one in front of certain tokens and at the end. -/
def nodeUnless : (fuel : Nat) → (stops : List Token) → (block flat : Bool) → Step Nat
  | 0, _, _, _ => refuse
  | fuel + 1, stops, block, flat => do
    if ← nextIn stops then empty else node fuel block flat

/-- The items of a block list. -/
def blockItems : (fuel : Nat) → Step (List Nat)
  | 0 => refuse
  | fuel + 1 => do
    if ← accept .item then
      let n ← nodeUnless fuel [.item, .blockEnd] true false
      return n :: (← blockItems fuel)
    else
      expect .blockEnd
      return []

/-- The items of a list that is indented no more than what is around it. -/
def flatItems : (fuel : Nat) → Step (List Nat)
  | 0 => refuse
  | fuel + 1 => do
    if ← accept .item then
      let n ← nodeUnless fuel [.item, .key, .value, .blockEnd] true false
      return n :: (← flatItems fuel)
    else return []

/-- The entries of a block mapping. -/
def blockEntries : (fuel : Nat) → Step (List (Nat × Nat))
  | 0 => refuse
  | fuel + 1 => do
    if ← accept .key then
      let k ← nodeUnless fuel [.key, .value, .blockEnd] true true
      let v ←
        if ← accept .value then nodeUnless fuel [.key, .value, .blockEnd] true true
        else empty
      return (k, v) :: (← blockEntries fuel)
    else
      expect .blockEnd
      return []

/-- The items of a list between brackets. A key and a value among them are a mapping of one
entry. -/
def flowItems : (fuel : Nat) → (first : Bool) → Step (List Nat)
  | 0, _ => refuse
  | fuel + 1, first => do
    if ← accept .listClose then return []
    else
      if !first then expect .comma
      if ← accept .listClose then return []
      else if ← accept .key then
        let k ← nodeUnless fuel [.value, .comma, .listClose] false false
        let v ←
          if ← accept .value then nodeUnless fuel [.comma, .listClose] false false
          else empty
        let n ← add Plain.mapTag (← contentOf [(k, v)])
        return n :: (← flowItems fuel false)
      else
        let n ← node fuel false false
        return n :: (← flowItems fuel false)

/-- The entries of a mapping between brackets. -/
def flowEntries : (fuel : Nat) → (first : Bool) → Step (List (Nat × Nat))
  | 0, _ => refuse
  | fuel + 1, first => do
    if ← accept .mapClose then return []
    else
      if !first then expect .comma
      if ← accept .mapClose then return []
      else if ← accept .key then
        let k ← nodeUnless fuel [.value, .comma, .mapClose] false false
        let v ←
          if ← accept .value then nodeUnless fuel [.comma, .mapClose] false false
          else empty
        return (k, v) :: (← flowEntries fuel false)
      else
        let k ← node fuel false false
        let v ← empty
        return (k, v) :: (← flowEntries fuel false)

end

/-! ## Documents -/

/-- The handles that every document knows. -/
def knownHandles : List (String × String) := [("!", "!"), ("!!", Plain.standard)]

/-- The directives to come: the handles that they define. The version may be asked for once, and a
handle be defined once. -/
def directives : (fuel : Nat) → (versioned : Bool) → (handles : List (String × String)) →
    Step (List (String × String))
  | 0, _, _ => refuse
  | fuel + 1, versioned, handles => do
    match ← peek with
    | some (.version major) =>
      if versioned || major != 1 then refuse
      skip
      directives fuel true handles
    | some (.tagHandle handle expansion) =>
      if handles.any (·.1 == handle) then refuse
      skip
      directives fuel versioned ((handle, expansion) :: handles)
    | some .otherDirective =>
      skip
      directives fuel versioned handles
    | _ => return handles

/-- Whether a token is a directive. -/
def isDirective : Token → Bool
  | .version _ => true
  | .tagHandle _ _ => true
  | .otherDirective => true
  | _ => false

/-- The directives to come and the sign of a document's start, which has to follow. -/
def head (fuel : Nat) : Step Unit := do
  let handles ← directives fuel false []
  expect .documentStart
  modify fun s => { s with handles := handles ++ knownHandles }

/-- The end of the only document: nothing but signs of its end may follow. -/
def close : (fuel : Nat) → Step Unit
  | 0 => refuse
  | fuel + 1 => do
    match ← peek with
    | none => return
    | some .documentEnd =>
      skip
      close fuel
    | some _ =>
      head fuel
      refuse

/-- The root of the only document; nothing if there is none. -/
def compose (fuel : Nat) : Step (Option Nat) := do
  match ← peek with
  | none => return none
  | some t =>
    let root ←
      if t == .documentStart || isDirective t then
        head fuel
        match ← peek with
        | none => empty
        | some t =>
          if t == .documentEnd || t == .documentStart || isDirective t then empty
          else node fuel true false
      else
        modify fun s => { s with handles := knownHandles }
        node fuel true false
    close fuel
    return some root

/-- The only document that tokens spell; nothing is inside if there is none. -/
def ofScan (scan : Scan) : Except Fault (Option Document) := do
  let fuel := 4 * scan.tokens.length + 4
  let (root, s) ← (compose fuel).run { tokens := scan.tokens, fault := scan.fault }
  return root.map (⟨s.nodes, ·⟩)

end Document

end Toolpath.Yaml
