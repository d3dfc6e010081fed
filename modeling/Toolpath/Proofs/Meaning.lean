import Toolpath.Proofs.LastWrite
import Toolpath.Proofs.LetterCase
/-!
# What a line means

The tokens of a line are its pieces between spaces, without the white space around them. What a line
asks for is told by its tokens alone: the first one names the command, and for each register the
last of the others that starts with its letter decides. Letters may be written in either case, and
nothing else spells a supported code. Tokens for different registers may change places.

## Main definitions

* `Toolpath.Says` — what tokens say for a letter.
* `Toolpath.Spells` — a token that spells a code, in either case of its letter.
* `Toolpath.Asks` — the command that the tokens of a line ask for.
* `Toolpath.Reordered` — tokens in another order, where those with the same key keep theirs.

## Main results

* `Toolpath.Entries.find?_putAll` — of entries put one after the other, the last one with a key wins.
* `Toolpath.Block.says_value` — a line gives for a letter what its tokens say.
* `Toolpath.spells_iff` — what spells a supported code.
* `Toolpath.Command.ofBlock_read_eq_iff` — a line asks for what its tokens ask for.
-/

namespace Toolpath

open Text

/-! ## Entries put one after the other -/

/-- **Of entries put one after the other**, the last one with a key wins. -/
theorem Entries.find?_putAll {κ ν : Type} [DecidableEq κ] (entries new : List (κ × ν)) (key : κ) :
    find? (putAll entries new) key =
      ((new.reverse.find? fun entry => entry.1 = key).map Prod.snd).or (find? entries key) := by
  induction new generalizing entries with
  | nil => rfl
  | cons entry new ih =>
    obtain ⟨k, v⟩ := entry
    have hput : putAll entries ((k, v) :: new) = putAll (put entries k v) new := rfl
    rw [hput, ih, put, find?_alter, List.reverse_cons, List.find?_append]
    cases new.reverse.find? fun entry => entry.1 = key with
    | some entry => rfl
    | none =>
      have hkeep : ∀ old : Option ν, (old.map fun _ => v).getD v = v := fun old => by
        cases old <;> rfl
      by_cases hk : k = key <;> simp [hk, hkeep]

/-! ## What tokens say for a letter -/

/-- The key of a token: its first character in lower case. An empty token has none. -/
def keyOf (token : List Char) : Option (List Char) := token.head?.map lowerChar

/-- Whether a token starts with a letter, in either case. -/
def startsWithLetter (letter : Char) (token : List Char) : Bool :=
  token.head? = some letter || token.head? = some letter.toUpper

/-- What tokens say for a letter: the last one that starts with it decides, and says the number
behind its letter, or nothing if no number stands there. -/
inductive Says (letter : Char) (tokens : List (List Char)) : Option Float → Prop where
  | absent (h : ∀ token ∈ tokens, startsWithLetter letter token = false) : Says letter tokens none
  | last {front back : List (List Char)} {token : List Char}
      (htokens : tokens = front ++ token :: back) (htoken : startsWithLetter letter token = true)
      (hback : ∀ later ∈ back, startsWithLetter letter later = false) :
      Says letter tokens (Decimal.leading? token.tail)

/-- What is said is found by a search from the right. -/
lemma says_iff {letter : Char} {tokens : List (List Char)} {v : Option Float} :
    Says letter tokens v ↔
      (tokens.reverse.find? (startsWithLetter letter)).bind (Decimal.leading? ·.tail) = v := by
  constructor
  · intro h
    cases h with
    | absent h =>
      have hnone : tokens.reverse.find? (startsWithLetter letter) = none :=
        List.find?_eq_none.mpr fun token htoken => by simp [h token (List.mem_reverse.mp htoken)]
      rw [hnone]
      rfl
    | @last front back token htokens htoken hback =>
      have hlast : tokens.reverse.find? (startsWithLetter letter) = some token := by
        refine List.find?_eq_some_iff_append.mpr ⟨htoken, back.reverse, front.reverse, ?_, ?_⟩
        · simp [htokens]
        · intro later hlater
          simp [hback later (List.mem_reverse.mp hlater)]
      rw [hlast]
      rfl
  · rintro rfl
    cases hfind : tokens.reverse.find? (startsWithLetter letter) with
    | none =>
      refine .absent fun token htoken => ?_
      simpa using List.find?_eq_none.mp hfind token (List.mem_reverse.mpr htoken)
    | some token =>
      obtain ⟨htoken, back, front, htokens, hback⟩ := List.find?_eq_some_iff_append.mp hfind
      have hsplit : tokens = front.reverse ++ token :: back.reverse := by
        rw [← List.reverse_reverse tokens, htokens]
        simp
      refine .last hsplit htoken fun later hlater => ?_
      simpa using hback later (List.mem_reverse.mp hlater)

/-- A token has the letter of a register as its key iff it starts with it. -/
lemma keyOf_eq_some_iff {letter : Char} (hletter : letter ∈ registerLetters) (token : List Char) :
    keyOf token = some [letter] ↔ startsWithLetter letter token = true := by
  cases token with
  | nil => simp [keyOf, startsWithLetter]
  | cons c rest => simp [keyOf, startsWithLetter, lowerChar_eq_iff hletter]

namespace Block

/-- The last word of a line with a key is spelled by its last token with it. -/
lemma find?_words_read (line key : List Char) :
    (Block.read line).words.reverse.find? (fun w => w.key = key) =
      ((tokens line).tail.reverse.find? fun token => keyOf token = some key).bind
        Word.ofPiece? := by
  rw [words_read, ← List.filterMap_reverse, List.find?_filterMap]
  congr 1
  refine congrArg (List.find? · _) (funext fun token => ?_)
  cases token <;> simp [Word.ofPiece?, keyOf]

/-- The number that a line gives for a key stands in its last token with it. -/
lemma value_read (line key : List Char) :
    (Block.read line).value key =
      ((tokens line).tail.reverse.find? fun token => keyOf token = some key).bind
        (Decimal.leading? ·.tail) := by
  rw [value, find?_words_read, Option.bind_assoc]
  cases hfind : (tokens line).tail.reverse.find? fun token => keyOf token = some key with
  | none => rfl
  | some token =>
    have hkey := List.find?_some hfind
    cases token with
    | nil => simp [keyOf] at hkey
    | cons c rest => rfl

/-- **A line gives for a letter** what its tokens behind the first one say. -/
theorem says_value {letter : Char} (hletter : letter ∈ registerLetters) (line : List Char) :
    Says letter (tokens line).tail ((Block.read line).value [letter]) := by
  refine says_iff.mpr ?_
  rw [value_read]
  congr 2
  exact funext fun token => Bool.eq_iff_iff.mpr (by simp [keyOf_eq_some_iff hletter])

/-- The entries of a line, put one after the other, give the same number. -/
lemma find?_parameters (b : Block) (key : List Char) :
    (Entries.find? b.parameters key).join = b.value key := by
  rw [parameters, Entries.find?_putAll, ← List.map_reverse, List.find?_map]
  have hkey : (fun entry : List Char × Option Float => decide (entry.1 = key)) ∘
      (fun w : Word => (w.key, w.value)) = fun w => decide (w.key = key) := rfl
  rw [hkey, value]
  cases b.words.reverse.find? (fun w => w.key = key) <;> rfl

end Block

/-! ## What the first token spells -/

/-- A token spells a code: the letter in either case, and its digits. -/
def Spells (token digits : List Char) : Prop := token = 'G' :: digits ∨ token = 'g' :: digits

/-- The digits of the supported codes. -/
def supportedDigits : List (List Char) :=
  [['0'], ['1'], ['2'], ['3'], ['9', '0'], ['9', '1'], ['9', '2']]

/-- **What spells a supported code** is what has it as its upper case. -/
theorem spells_iff {token digits : List Char} (h : digits ∈ supportedDigits) :
    Spells token digits ↔ upper token = 'G' :: digits := by
  have hdigits : ∀ ds ∈ supportedDigits, (ds.all fun d => d ∈ codeDigits) = true := by
    decide +kernel
  exact (upper_eq_code_iff (List.all_iff_forall_prop.mp (hdigits digits h))).symm

/-! ## The command of a line -/

/-- The command that the tokens of a line ask for: `first` names it, and `rest` says the numbers. -/
inductive Asks (first : List Char) (rest : List (List Char)) : Command → Prop where
  | linear {digit : Char} {move : Move} (hdigit : digit = '0' ∨ digit = '1')
      (hfirst : Spells first [digit]) (hrapid : move.rapid = (digit == '0'))
      (hx : Says 'x' rest move.x) (hy : Says 'y' rest move.y) (hz : Says 'z' rest move.z)
      (he : Says 'e' rest move.e) (hf : Says 'f' rest move.f) : Asks first rest (.linear move)
  | arc {digit : Char} (hdigit : digit = '2' ∨ digit = '3') (hfirst : Spells first [digit]) :
      Asks first rest (.arc (digit == '2'))
  | absolute (hfirst : Spells first ['9', '0']) : Asks first rest (.positioning .absolute)
  | relative (hfirst : Spells first ['9', '1']) : Asks first rest (.positioning .relative)
  | origin {origin : Origin} (hfirst : Spells first ['9', '2']) (hx : Says 'x' rest origin.x)
      (hy : Says 'y' rest origin.y) (hz : Says 'z' rest origin.z) (he : Says 'e' rest origin.e) :
      Asks first rest (.origin origin)
  | unsupported (hfirst : ∀ digits ∈ supportedDigits, ¬ Spells first digits) :
      Asks first rest (.unsupported (upper first))

namespace Command

variable {line : List Char}

/-- The code of a line is spelled by its first token. -/
lemma spells_headD_iff {digits : List Char} (h : digits ∈ supportedDigits) :
    Spells ((Block.tokens line).headD []) digits ↔ (Block.read line).code = 'G' :: digits := by
  rw [spells_iff h, code_read]
  rfl

/-- What the tokens of a line say for a letter is the number that its command gets. -/
lemma says_iff_axis {letter : Char} (hletter : letter ∈ registerLetters) {v : Option Float} :
    Says letter (Block.tokens line).tail v ↔ axis (Block.read line) letter = v := by
  rw [says_iff, says_iff.mp (Block.says_value hletter line)]
  rfl

/-- The tokens say the coordinates of a move one by one. -/
lemma says_move_iff {move : Move} :
    (Says 'x' (Block.tokens line).tail move.x ∧ Says 'y' (Block.tokens line).tail move.y ∧
        Says 'z' (Block.tokens line).tail move.z ∧ Says 'e' (Block.tokens line).tail move.e ∧
        Says 'f' (Block.tokens line).tail move.f) ↔
      moveOf (Block.read line) move.rapid = move := by
  obtain ⟨x, y, z, e, f, rapid⟩ := move
  rw [says_iff_axis (by decide), says_iff_axis (by decide), says_iff_axis (by decide),
    says_iff_axis (by decide), says_iff_axis (by decide)]
  simp [moveOf]

/-- The tokens say the coordinates that are declared one by one. -/
lemma says_origin_iff {origin : Origin} :
    (Says 'x' (Block.tokens line).tail origin.x ∧ Says 'y' (Block.tokens line).tail origin.y ∧
        Says 'z' (Block.tokens line).tail origin.z ∧ Says 'e' (Block.tokens line).tail origin.e) ↔
      originOf (Block.read line) = origin := by
  obtain ⟨x, y, z, e⟩ := origin
  rw [says_iff_axis (by decide), says_iff_axis (by decide), says_iff_axis (by decide),
    says_iff_axis (by decide)]
  simp [originOf]

/-- A line with the code of a straight move asks for one. -/
lemma asks_linear {digit : Char} (hdigit : digit = '0' ∨ digit = '1')
    (hfirst : Spells ((Block.tokens line).headD []) [digit]) :
    Asks ((Block.tokens line).headD []) (Block.tokens line).tail
      (.linear (moveOf (Block.read line) (digit == '0'))) := by
  obtain ⟨hx, hy, hz, he, hf⟩ :=
    (@says_move_iff line (moveOf (Block.read line) (digit == '0'))).mpr rfl
  exact .linear hdigit hfirst rfl hx hy hz he hf

/-- The tokens of a line ask for its command. -/
lemma asks_ofBlock (line : List Char) :
    Asks ((Block.tokens line).headD []) (Block.tokens line).tail (ofBlock (Block.read line)) := by
  have hspells : ∀ {digits : List Char}, digits ∈ supportedDigits →
      (Block.read line).code = 'G' :: digits → Spells ((Block.tokens line).headD []) digits :=
    fun hdigits hcode => (spells_headD_iff hdigits).mpr hcode
  unfold ofBlock
  split
  · rename_i hcode
    exact asks_linear (.inl rfl) (hspells (by decide) hcode)
  · rename_i hcode
    exact asks_linear (.inr rfl) (hspells (by decide) hcode)
  · rename_i hcode
    exact .arc (.inl rfl) (hspells (by decide) hcode)
  · rename_i hcode
    exact .arc (.inr rfl) (hspells (by decide) hcode)
  · rename_i hcode
    exact .absolute (hspells (by decide) hcode)
  · rename_i hcode
    exact .relative (hspells (by decide) hcode)
  · rename_i hcode
    obtain ⟨hx, hy, hz, he⟩ := (@says_origin_iff line (originOf (Block.read line))).mpr rfl
    exact .origin (hspells (by decide) hcode) hx hy hz he
  · rw [code_read]
    refine .unsupported fun digits hdigits hfirst => ?_
    have hcode := (spells_headD_iff hdigits).mp hfirst
    simp only [supportedDigits, List.mem_cons, List.not_mem_nil, or_false] at hdigits
    rcases hdigits with rfl | rfl | rfl | rfl | rfl | rfl | rfl <;> contradiction

/-- A line has the command that its tokens ask for. -/
lemma ofBlock_eq_of_asks {c : Command}
    (h : Asks ((Block.tokens line).headD []) (Block.tokens line).tail c) :
    ofBlock (Block.read line) = c := by
  cases h with
  | linear hdigit hfirst hrapid hx hy hz he hf =>
    have hmove := says_move_iff.mp ⟨hx, hy, hz, he, hf⟩
    rw [hrapid] at hmove
    rcases hdigit with rfl | rfl
    all_goals
      rw [ofBlock, (spells_headD_iff (by decide)).mp hfirst, ← hmove]
      rfl
  | arc hdigit hfirst =>
    rcases hdigit with rfl | rfl
    all_goals
      rw [ofBlock, (spells_headD_iff (by decide)).mp hfirst]
      rfl
  | absolute hfirst | relative hfirst =>
    rw [ofBlock, (spells_headD_iff (by decide)).mp hfirst]
    rfl
  | origin hfirst hx hy hz he =>
    rw [ofBlock, (spells_headD_iff (by decide)).mp hfirst, ← says_origin_iff.mp ⟨hx, hy, hz, he⟩]
    rfl
  | unsupported hfirst =>
    refine ofBlock_eq_unsupported_iff.mpr ⟨fun hcode => ?_, (code_read line).symm⟩
    have hsupported : ∀ code ∈ supportedCodes, ∃ digits ∈ supportedDigits, code = 'G' :: digits := by
      decide +kernel
    obtain ⟨digits, hdigits, heq⟩ := hsupported _ hcode
    exact hfirst digits hdigits ((spells_headD_iff hdigits).mpr heq)

end Command

/-! ## Tokens in another order -/

/-- Tokens in another order, where those with the same key keep theirs: for every key, the same
tokens stand in the same order. -/
def Reordered (tokens tokens' : List (List Char)) : Prop :=
  ∀ key, tokens.filter (fun token => keyOf token = some key) =
    tokens'.filter fun token => keyOf token = some key

/-- Neighbours with different keys may change places. -/
lemma Reordered.swap {a b : List Char} (h : keyOf a ≠ keyOf b) (front back : List (List Char)) :
    Reordered (front ++ a :: b :: back) (front ++ b :: a :: back) := by
  intro key
  rw [List.filter_append, List.filter_append]
  by_cases ha : keyOf a = some key
  · have hb : ¬ keyOf b = some key := fun hb => h (ha.trans hb.symm)
    simp [ha, hb]
  · simp [List.filter_cons, ha]

/-- What a line gives for a key does not depend on the order of its tokens with other keys. -/
lemma Reordered.value_eq {line line' : List Char}
    (h : Reordered (Block.tokens line).tail (Block.tokens line').tail) (key : List Char) :
    (Block.read line).value key = (Block.read line').value key := by
  rw [Block.value_read, Block.value_read, ← List.head?_filter, ← List.head?_filter,
    List.filter_reverse, List.filter_reverse, h key]

/-- Lines with the same code that give the same numbers ask for the same. -/
lemma Command.ofBlock_congr {b b' : Block} (hcode : b.code = b'.code)
    (hvalue : ∀ key, b.value key = b'.value key) : ofBlock b = ofBlock b' := by
  have haxis : axis b = axis b' := funext fun letter => hvalue [letter]
  unfold ofBlock moveOf originOf
  rw [hcode, haxis]

/-- **What a line means** is told by its tokens. Its command is the one that they ask for: a straight
move, an arc, a positioning or a declaration iff the first token is a supported code with its letter
in either case, and otherwise an unsupported code, which is the first token in upper case. The
number for a register is what the last token with its letter, in either case, says, be it a number
or none, and there is none without such a token; that is also what is left for the letter when the
entries of the line are put one after the other. So two lines with the same first token, whose other
tokens stand in another order but for those with the same key, have the same command.

**Proof sketch.** No character but a letter in its two cases has that letter as its upper case or
its lower case (`Text.upper_eq_code_iff`, `Text.lowerChar_eq_iff`), so what spells a code and what
starts with a letter can be read off the tokens (`spells_iff`, `Block.says_value`). -/
theorem Command.ofBlock_read_eq_iff (line : List Char) :
    (∀ c, ofBlock (Block.read line) = c ↔
        Asks ((Block.tokens line).headD []) (Block.tokens line).tail c) ∧
      (∀ letter ∈ registerLetters, Says letter (Block.tokens line).tail
        (Entries.find? (Block.read line).parameters [letter]).join) ∧
      ∀ line', (Block.tokens line').headD [] = (Block.tokens line).headD [] →
        Reordered (Block.tokens line).tail (Block.tokens line').tail →
          ofBlock (Block.read line') = ofBlock (Block.read line) := by
  refine ⟨fun c => ⟨?_, ofBlock_eq_of_asks⟩, fun letter hletter => ?_, fun line' hfirst h => ?_⟩
  · rintro rfl
    exact asks_ofBlock line
  · rw [Block.find?_parameters]
    exact Block.says_value hletter line
  · refine ofBlock_congr ?_ fun key => (h.value_eq key).symm
    rw [code_read, code_read, codeOf, codeOf, hfirst]

/-- A word for `y`, malformed or not, may stand in front of both words for `x` or between them. -/
theorem Command.ofBlock_read_eq_iff_swap :
    Reordered (Block.tokens "g1 X1 Ybad X3".toList).tail
        (Block.tokens "g1 Ybad X1 X3".toList).tail ∧
      ofBlock (Block.read "g1 Ybad X1 X3".toList) = ofBlock (Block.read "g1 X1 Ybad X3".toList) := by
  have htokens : Block.tokens "g1 X1 Ybad X3".toList =
      ["g1".toList, "X1".toList, "Ybad".toList, "X3".toList] := by decide +kernel
  have htokens' : Block.tokens "g1 Ybad X1 X3".toList =
      ["g1".toList, "Ybad".toList, "X1".toList, "X3".toList] := by decide +kernel
  have hreordered : Reordered (Block.tokens "g1 X1 Ybad X3".toList).tail
      (Block.tokens "g1 Ybad X1 X3".toList).tail := by
    rw [htokens, htokens']
    exact .swap (by decide) [] ["X3".toList]
  exact ⟨hreordered, (ofBlock_read_eq_iff _).2.2 _ (by rw [htokens, htokens']; rfl) hreordered⟩

/-- A malformed word hides the number in front of it, and the code may be written small. -/
example : Command.ofBlock (Block.read "g0  X1 Y2\tXbad xbad".toList) =
    .linear { y := some 2.0, rapid := true } := by decide +kernel

end Toolpath
