import Toolpath.Proofs.Numeral
import Toolpath.Proofs.Steps
/-!
# Interpreting without faults

Some of the work on a document could fail: a number that was found may be refused when it is read, a
word may have no first character, a command no handler and a layer no last path, and the time may be
missing from the summary. The definitions of a run leave no room for such faults. Here the work is
spelled out once more with a guard in front of each of these operations, and layers are kept as bare
lists of paths. No guard ever stops a document: what comes out is the interpretation.

## Main definitions

* `Toolpath.Guarded.Fault` — what could go wrong.
* `Toolpath.Guarded.read` — a line with a guard at every number and every first character.
* `Toolpath.Guarded.Builder` — layers as lists of paths, with a guard at the last path.
* `Toolpath.Guarded.handlers`, `Toolpath.Guarded.execute` — a command passed to the handler of its
  kind.
* `Toolpath.Guarded.interpret` — a document interpreted under guards.

## Main results

* `Toolpath.Guarded.read_eq_ok` — no line is stopped.
* `Toolpath.Guarded.execute_ofRun` — no command is stopped, and it does what the run does.
* `Toolpath.Guarded.interpret_eq_ok` — no document is stopped.
-/

namespace Toolpath.Guarded

open Text Decimal

/-- What could go wrong while a document is interpreted. -/
inductive Fault where
  /-- A number was found and is refused. -/
  | refused (lexeme : List Char)
  /-- A word has no first character. -/
  | noLetter
  /-- There is no handler for a command. -/
  | noHandler (command : Command)
  /-- The layer being drawn has no path. -/
  | noPath
  /-- The time of a measured run is missing. -/
  | unmeasured
  deriving DecidableEq, Repr

/-! ## Lines -/

/-- The number in front of a text. A number that is found has to be read, with the short name of
infinity. -/
def leading? (s : List Char) : Except Fault (Option Float) :=
  match Leading.split? (trimLeft s) with
  | none => .ok none
  | some (lexeme, _) =>
    match read? (respelled lexeme) with
    | none => .error (.refused lexeme)
    | some x => .ok (some x)

/-- The word that a piece of a line spells. It has to have a first character. -/
def word (piece : List Char) : Except Fault Word :=
  match piece.head? with
  | none => .error .noLetter
  | some letter => do
    let value ← leading? piece.tail
    return ⟨piece, lowerChar letter, value⟩

/-- A line read as code and words; empty pieces are passed over. -/
def read (line : List Char) : Except Fault Block :=
  match Block.tokens line with
  | [] => .ok ⟨line, [], []⟩
  | first :: rest => do
    let words ← (rest.filter fun piece => !piece.isEmpty).mapM word
    return ⟨line, upper first, words⟩

/-- No number is refused. -/
lemma leading?_eq_ok (s : List Char) : leading? s = .ok (Decimal.leading? s) := by
  unfold leading? Decimal.leading?
  cases h : Leading.split? (trimLeft s) with
  | none => rfl
  | some found =>
    obtain ⟨lexeme, rest⟩ := found
    obtain ⟨x, hshort, hlong⟩ := (Leading.numeral_of_split? h).1.exists_read?_respelled
    simp only [hshort, hlong]

/-- The pieces that are not empty spell their words. -/
lemma mapM_word (pieces : List (List Char)) :
    (pieces.filter fun piece => !piece.isEmpty).mapM word = .ok (pieces.filterMap Word.ofPiece?) := by
  induction pieces with
  | nil => rfl
  | cons piece rest ih =>
    cases piece with
    | nil => exact ih
    | cons c s =>
      have hword : word (c :: s) = .ok ⟨c :: s, lowerChar c, Decimal.leading? s⟩ := by
        simp [word, leading?_eq_ok, bind, Except.bind, pure, Except.pure]
      rw [List.filter_cons_of_pos (by simp), List.mapM_cons, hword, ih]
      rfl

/-- **No line is stopped.** -/
theorem read_eq_ok (line : List Char) : read line = .ok (Block.read line) := by
  unfold read Block.read
  cases Block.tokens line with
  | nil => rfl
  | cons first rest =>
    simp only [mapM_word]
    rfl

/-! ## Layers -/

/-- Layers that are recorded as lists of paths. -/
structure Builder where
  finished : List Layer := []
  current : Option Layer := none
  deriving DecidableEq, Repr

/-- A layer after a straight move. It has to have a last path, where the move draws or which it
ends. -/
def record (l : Layer) (before after : Machine) : Except Fault Layer :=
  match l.paths.getLast? with
  | none => .error .noPath
  | some last =>
    let paths :=
      if after.extruding then l.paths.dropLast ++ [last ++ [before.position, after.position]]
      else if last = [] then l.paths
      else l.paths ++ [[]]
    .ok { l with paths }

namespace Builder

/-- The layers as lists of paths. -/
def ofRecorder (r : Recorder) : Builder := ⟨r.finished.toList, r.current.map OpenLayer.layer⟩

/-- Whether a move that draws at a height needs a new layer. -/
def needsLayer (b : Builder) (z : Float) : Bool :=
  match b.current with
  | none => true
  | some l => !(z == l.z)

/-- The layers with a new one opened, which has one empty path. -/
def openLayer (b : Builder) (z : Float) (line : Int) : Builder :=
  ⟨b.finished ++ b.current.toList, some ⟨z, line, [[]]⟩⟩

/-- The layers after a straight move. -/
def record (b : Builder) (before after : Machine) : Except Fault Builder :=
  match b.current with
  | none => .ok b
  | some l => do
    let l ← Guarded.record l before after
    return { b with current := some l }

/-- All layers. -/
def layers (b : Builder) : List Layer := b.finished ++ b.current.toList

end Builder

/-- A layer being drawn has a last path, the one under the pen. -/
lemma record_layer (l : OpenLayer) (before after : Machine) :
    record l.layer before after = .ok (l.record before after).layer := by
  have hlast : l.layer.paths.getLast? = some l.pen.toList := by simp [OpenLayer.layer]
  have hfront : l.layer.paths.dropLast = l.ended.toList := by simp [OpenLayer.layer]
  rw [record, hlast, OpenLayer.record]
  simp only [hfront]
  by_cases hd : after.extruding = true
  · simp [hd, OpenLayer.draw, OpenLayer.layer]
  · by_cases hpen : l.pen.isEmpty = true
    · have hnil : l.pen.toList = [] := by simpa using hpen
      simp [hd, OpenLayer.lift, hpen, hnil, OpenLayer.layer]
    · have hne : ¬ l.pen.toList = [] := by simpa using hpen
      simp [hd, OpenLayer.lift, hpen, hne, OpenLayer.layer]

/-- A straight move finds the last path of the layer being drawn. -/
lemma record_ofRecorder (r : Recorder) (before after : Machine) :
    (Builder.ofRecorder r).record before after = .ok (.ofRecorder (r.record before after)) := by
  unfold Builder.record Builder.ofRecorder Recorder.record
  cases r.current with
  | none => rfl
  | some l =>
    simp only [Option.map_some, record_layer]
    rfl

/-- A layer is needed in the lists iff it is in the recorder. -/
lemma needsLayer_ofRecorder (r : Recorder) (z : Float) :
    (Builder.ofRecorder r).needsLayer z = r.needsLayer z := by
  unfold Builder.needsLayer Builder.ofRecorder Recorder.needsLayer
  cases r.current <;> rfl

/-- A layer opened in the lists is one opened in the recorder. -/
lemma openLayer_ofRecorder (r : Recorder) (z : Float) (line : Int) :
    (Builder.ofRecorder r).openLayer z line = .ofRecorder (r.openLayer z line) := by
  unfold Builder.openLayer Builder.ofRecorder Recorder.openLayer
  cases r.current <;> simp [OpenLayer.start, OpenLayer.layer]

/-! ## Commands -/

/-- Everything that is carried from line to line. -/
structure State where
  machine : Machine := {}
  builder : Builder := {}
  tally : Tally := {}
  journal : Array Event := #[]

/-- The state of a run. -/
def State.ofRun (r : Run) : State := ⟨r.machine, .ofRecorder r.recorder, r.tally, r.journal⟩

/-- The kinds of commands. -/
inductive Kind where
  | linear
  | arc
  | absolute
  | relative
  | origin
  | unsupported
  deriving DecidableEq, Repr

/-- The kind of a command. -/
def kind : Command → Kind
  | .linear _ => .linear
  | .arc _ => .arc
  | .positioning .absolute => .absolute
  | .positioning .relative => .relative
  | .origin _ => .origin
  | .unsupported _ => .unsupported

/-- What is done for a command on a line. -/
abbrev Handler := State → Int → Command → Except Fault State

/-- The handler of straight moves. -/
def move : Handler
  | g, line, .linear m => do
    let after := g.machine.move m
    let opened : State :=
      if after.extruding && g.builder.needsLayer after.z then
        let builder := g.builder.openLayer after.z line
        { g with builder
                 journal := g.journal.push (.layerOpened builder.finished.length after.z line) }
      else g
    let builder ← opened.builder.record g.machine after
    return { opened with
      machine := after
      builder
      tally := g.tally.countMove after.extruding }
  | _, _, c => .error (.noHandler c)

/-- The handler of arcs. -/
def skipArc : Handler
  | g, line, .arc clockwise =>
    .ok { g with tally := g.tally.count (.arc clockwise), journal := g.journal.push (.arcSkipped line) }
  | _, _, c => .error (.noHandler c)

/-- The handler of declared coordinates. -/
def declare : Handler
  | g, _, .origin origin => .ok { g with machine := g.machine.declare origin }
  | _, _, c => .error (.noHandler c)

/-- The handlers of the two kinds of positioning. -/
def switch (mode : Positioning) : Handler
  | g, _, _ => .ok { g with machine := g.machine.switch mode }

/-- The handler of other codes. -/
def ignore : Handler
  | g, line, .unsupported code =>
    .ok { g with
      tally := g.tally.count (.unsupported code)
      journal := g.journal.push (.unsupported code line) }
  | _, _, c => .error (.noHandler c)

/-- The handlers of all kinds of commands. -/
def handlers : List (Kind × Handler) := [
  (.linear, move), (.arc, skipArc), (.absolute, switch .absolute), (.relative, switch .relative),
  (.origin, declare), (.unsupported, ignore)]

/-- The state after a command on a line. The command has to have a handler. -/
def execute : Handler
  | g, line, c =>
    match Entries.find? handlers (kind c) with
    | none => .error (.noHandler c)
    | some handler => handler g line c

/-- A straight move is not stopped. -/
lemma move_ofRun (r : Run) (line : Int) (m : Move) :
    move (.ofRun r) line (.linear m) = .ok (.ofRun (r.move line m)) := by
  unfold move Run.move State.ofRun
  simp only [needsLayer_ofRecorder]
  split
  · simp only [openLayer_ofRecorder, record_ofRecorder]
    rfl
  · simp only [record_ofRecorder]
    rfl

/-- **No command is stopped**, and it does what the run does. -/
theorem execute_ofRun (r : Run) (line : Int) (c : Command) :
    execute (.ofRun r) line c = .ok (.ofRun (r.execute line c)) := by
  cases c with
  | linear m => exact move_ofRun r line m
  | arc | unsupported | origin => rfl
  | positioning mode => cases mode <;> rfl

/-! ## Documents -/

/-- The state after a line. -/
def readLine (g : State) (line : Nat) (text : List Char) : Except Fault State := do
  let b ← read text
  let g := { g with
    journal := g.journal ++ (b.malformed.map fun w => Event.malformed w.written b.line) }
  if b.isBlank then return g
  else
    let tally := { g.tally with malformed := g.tally.malformed + b.malformed.length }
    execute { g with tally } line (.ofBlock b)

/-- The state after lines that are numbered from `first` on. -/
def readLines (g : State) (first : Nat) : List (List Char) → Except Fault State
  | [] => .ok g
  | text :: rest => do
    let g ← readLine g first text
    readLines g (first + 1) rest

/-- The summary of a measured run. The time has to be there. -/
def summary (t : Tally) (layers : Nat) : Except Fault (List Log.Record) :=
  match t.elapsed with
  | none => .error .unmeasured
  | some elapsed => .ok (t.summary layers elapsed)

/-- The interpretation of a document under guards. -/
def interpret (measured : Bool) (clock : Clock) (s : List Char) : Except Fault Interpretation := do
  let lines := sourceLines s
  let g ← readLines { tally := { lines := lines.length } } 0 lines
  let layers := g.builder.layers
  let reports := g.journal.toList.map Event.record
  if measured then
    let (elapsed, clock) := clock.stretch
    let tally := { g.tally with elapsed := some elapsed }
    let sum ← summary tally layers.length
    return ⟨⟨layers, g.machine, tally⟩, reports ++ sum, clock⟩
  else return ⟨⟨layers, g.machine, g.tally⟩, reports, clock⟩

/-- No line is stopped, and it does what the run does. -/
lemma readLine_ofRun (r : Run) (line : Nat) (text : List Char) :
    readLine (.ofRun r) line text = .ok (.ofRun (r.readLine line text)) := by
  unfold readLine Run.readLine
  simp only [read_eq_ok]
  cases hblank : (Block.read text).isBlank with
  | true =>
    simp only [bind, Except.bind, hblank, if_true]
    rfl
  | false =>
    let r' := r.complain (Block.read text)
    let tally := { r'.tally with
      malformed := r'.tally.malformed + (Block.read text).malformed.length }
    simp only [bind, Except.bind, hblank, Bool.false_eq_true, if_false]
    exact execute_ofRun { r' with tally } line (.ofBlock (Block.read text))

/-- No lines are stopped, and they do what the run does. -/
lemma readLines_ofRun (r : Run) (first : Nat) (lines : List (List Char)) :
    readLines (.ofRun r) first lines = .ok (.ofRun (r.readLines first lines)) := by
  induction lines generalizing r first with
  | nil => rfl
  | cons text rest ih =>
    rw [readLines, readLine_ofRun]
    exact ih (r.readLine first text) (first + 1)

/-- No document is stopped under guards. -/
lemma interpret_eq (measured : Bool) (clock : Clock) (s : List Char) :
    interpret measured clock s = .ok (Toolpath.interpret measured clock s) := by
  have hrun : readLines { tally := { lines := (sourceLines s).length } } 0 (sourceLines s) =
      .ok (.ofRun (Run.ofText s)) :=
    readLines_ofRun { tally := { lines := (sourceLines s).length } } 0 (sourceLines s)
  unfold interpret
  simp only [hrun]
  cases measured <;> rfl

/-- **No document is stopped.** Every numeral that can be found in front of a text is read, with the
short name of infinity as with the long one. Whatever the document and whether it is measured or not,
no number is refused, no first character, handler, path or time is missing, and what comes out is
the interpretation. A measured interpretation has the result of one that is not, and the time
besides.

**Proof sketch.** What is found in front of a text is a numeral (`Leading.numeral_of_split?`), and
numerals are read (`Numeral.exists_read?_respelled`). The layer being drawn ends with the path under
the pen (`record_layer`), so the guarded state stays that of the run (`readLines_ofRun`). -/
theorem interpret_eq_ok (clock clock' : Clock) (s : List Char) :
    (∀ t lexeme rest, Leading.split? t = some (lexeme, rest) →
        Numeral lexeme ∧ lexeme ++ rest = t) ∧
      (∀ lexeme, Numeral lexeme → ∃ x, read? (respelled lexeme) = some x ∧ read? lexeme = some x) ∧
      (∀ measured, interpret measured clock s = .ok (Toolpath.interpret measured clock s)) ∧
      (Toolpath.interpret false clock' s).result.tally.elapsed = none ∧
      (Toolpath.interpret true clock s).result =
        { (Toolpath.interpret false clock' s).result with
          tally := { (Toolpath.interpret false clock' s).result.tally with
            elapsed := some clock.stretch.1 } } := by
  refine ⟨fun t lexeme rest h => Leading.numeral_of_split? h,
    fun lexeme h => h.exists_read?_respelled, fun measured => interpret_eq measured clock s, ?_, rfl⟩
  have htally : (Toolpath.interpret false clock' s).result.tally = _ := tally_ofText s
  rw [htally, Tally.elapsed_foldl_take]

/-- A layer without paths would stop a move. -/
example : record ⟨0.0, 0, []⟩ {} {} = .error .noPath := rfl

end Toolpath.Guarded
