import Toolpath.Proofs.Alike
import Toolpath.Proofs.Comments
import Toolpath.Proofs.LongestNumeral
import Toolpath.Proofs.Meaning
/-!
# Capital and small letters

The letters of a document may be written in either case. Codes are read in upper case and keys in
lower case, and a number has no letter but the one that marks its exponent, which may be either.
Only the name of infinity has to be written as it is. A document that does not hold this name, in
any mixture of cases, has the same result as the document in small letters, and so all documents
have that are equal to it but for the case of ASCII letters.

## Main definitions

* `Toolpath.Decimal.NamesInfinity` — texts that hold the name of infinity in any mixture of cases.

## Main results

* `Toolpath.sourceLines_asciiLower`, `Toolpath.Block.tokens_asciiLower` — the lines and the tokens
  of a document in small letters.
* `Toolpath.Decimal.leading?_asciiLower` — the number in front of a text in small letters.
* `Toolpath.readAlike_asciiLower` — a line and the same line in small letters are read alike.
* `Toolpath.result_interpret_recased` — the case of letters does not matter.
-/

namespace Toolpath

open Text

/-! ## Characters in small letters -/

namespace Text

/-- The capital letters of ASCII. -/
def capitals : List Char := "ABCDEFGHIJKLMNOPQRSTUVWXYZ".toList

/-- What small letters do not change for any capital, they change for no character. -/
lemma apply_toLower {α : Type} [DecidableEq α] {f : Char → α}
    (h : capitals.all (fun c => decide (f c.toLower = f c)) = true) (c : Char) :
    f c.toLower = f c := by
  by_cases hc : c.isUpper = true
  · have hcapital : ∀ n ∈ List.range' 65 26, Char.ofNat n ∈ capitals :=
      List.all_iff_forall_prop.mp (by decide +kernel)
    simp only [Char.isUpper, decide_eq_true_eq, ge_iff_le, UInt32.le_iff_toNat_le] at hc
    have hrange : c.toNat ∈ List.range' 65 26 := by
      have hle : 65 ≤ c.toNat := hc.1
      have hge : c.toNat ≤ 90 := hc.2
      exact List.mem_range'_1.mpr ⟨hle, by omega⟩
    have hmem := hcapital _ hrange
    rw [Char.ofNat_toNat] at hmem
    exact List.all_iff_forall_prop.mp h c hmem
  · rw [Char.toLower_eq_of_not_isUpper hc]

/-- A letter is white space in no case. -/
lemma isBlank_toLower (c : Char) : isBlank c.toLower = isBlank c :=
  apply_toLower (by decide +kernel) c

/-- A letter is a digit in no case. -/
lemma digitValue?_toLower (c : Char) : digitValue? c.toLower = digitValue? c :=
  apply_toLower (by decide +kernel) c

lemma isDecimal_toLower (c : Char) : isDecimal c.toLower = isDecimal c := by
  rw [isDecimal, digitValue?_toLower, isDecimal]

lemma upperChar_toLower (c : Char) : upperChar c.toLower = upperChar c :=
  apply_toLower (by decide +kernel) c

lemma lowerChar_toLower (c : Char) : lowerChar c.toLower = lowerChar c :=
  apply_toLower (by decide +kernel) c

/-- The characters that a document is cut at, and those of numbers that are neither digits nor
letters. -/
def separators : List Char := ['\n', ' ', ';', '+', '-', '.']

/-- A separator is a letter in no case. -/
lemma toLower_eq_iff {d : Char} (hd : d ∈ separators) (c : Char) : c.toLower = d ↔ c = d := by
  have hall : ∀ d ∈ separators,
      capitals.all (fun c => decide (decide (c.toLower = d) = decide (c = d))) = true :=
    List.all_iff_forall_prop.mp (by decide +kernel)
  exact decide_eq_decide.mp (apply_toLower (f := fun c => decide (c = d)) (hall d hd) c)

/-! ## Texts in small letters -/

lemma asciiLower_nil : asciiLower [] = [] := rfl

lemma asciiLower_cons (c : Char) (s : List Char) :
    asciiLower (c :: s) = c.toLower :: asciiLower s := rfl

lemma asciiLower_append (s t : List Char) :
    asciiLower (s ++ t) = asciiLower s ++ asciiLower t := List.map_append

section Tests

variable {p : Char → Bool} (hp : ∀ c, p c.toLower = p c)

include hp

/-- A test that no case changes takes as many characters from the front. -/
lemma takeWhile_asciiLower (s : List Char) :
    (asciiLower s).takeWhile p = asciiLower (s.takeWhile p) := by
  have htest : p ∘ Char.toLower = p := funext hp
  rw [asciiLower, List.takeWhile_map, htest]
  rfl

/-- A test that no case changes drops as many characters from the front. -/
lemma dropWhile_asciiLower (s : List Char) :
    (asciiLower s).dropWhile p = asciiLower (s.dropWhile p) := by
  have htest : p ∘ Char.toLower = p := funext hp
  rw [asciiLower, List.dropWhile_map, htest]
  rfl

end Tests

/-- White space in front is cut off in every case. -/
lemma trimLeft_asciiLower (s : List Char) : trimLeft (asciiLower s) = asciiLower (trimLeft s) :=
  dropWhile_asciiLower isBlank_toLower s

/-- White space around a text is cut off in every case. -/
lemma trim_asciiLower (s : List Char) : trim (asciiLower s) = asciiLower (trim s) := by
  have hreverse : ∀ t : List Char, (asciiLower t).reverse = asciiLower t.reverse :=
    fun t => List.map_reverse.symm
  rw [trim, trimLeft_asciiLower, trimRight, hreverse, dropWhile_asciiLower isBlank_toLower,
    hreverse]
  rfl

/-- A text is cut at a separator in every case. -/
lemma pieces_asciiLower {sep : Char} (hsep : sep ∈ separators) (s : List Char) :
    pieces sep (asciiLower s) = (pieces sep s).map asciiLower := by
  induction s with
  | nil => rfl
  | cons c s ih =>
    by_cases hc : c = sep
    · rw [asciiLower_cons, pieces, pieces, if_pos hc, if_pos ((toLower_eq_iff hsep c).mpr hc), ih]
      rfl
    · have hlower : c.toLower ≠ sep := fun h => hc ((toLower_eq_iff hsep c).mp h)
      rw [asciiLower_cons, pieces_cons_of_ne hc, pieces_cons_of_ne hlower, ih,
        ← headD_cons_tail_pieces sep s]
      rfl

/-- Both cases of a text have the same upper case. -/
lemma upper_asciiLower (s : List Char) : upper (asciiLower s) = upper s := by
  rw [upper, asciiLower, List.flatMap_map, upper]
  exact congrArg (List.flatMap · s) (funext upperChar_toLower)

/-- The values of the digits do not depend on the case. -/
lemma digitValues_asciiLower (s : List Char) :
    Decimal.digitValues (asciiLower s) = Decimal.digitValues s := by
  rw [Decimal.digitValues, asciiLower, List.filterMap_map, Decimal.digitValues]
  exact congrArg (List.filterMap · s) (funext digitValue?_toLower)

/-- A text without letters in other cases is itself in small letters. -/
lemma asciiLower_eq_self {s : List Char} (h : ∀ c ∈ s, c.toLower = c) : asciiLower s = s :=
  (List.map_congr_left h).trans (List.map_id _)

end Text

/-- A comment is dropped in every case. -/
lemma dropComments_asciiLower (inside : Bool) (s : List Char) :
    dropComments inside (asciiLower s) = asciiLower (dropComments inside s) := by
  induction s generalizing inside with
  | nil => rfl
  | cons c s ih =>
    have hsemicolon : (c.toLower == ';') = (c == ';') := by
      rw [Bool.eq_iff_iff, beq_iff_eq, beq_iff_eq, toLower_eq_iff (by decide)]
    rw [asciiLower_cons, dropComments, dropComments, hsemicolon]
    simp only [toLower_eq_iff (show '\n' ∈ separators by decide)]
    split
    · rw [ih]
      rfl
    · split
      · exact ih true
      · rw [ih]
        rfl

/-- **The lines of a document in small letters** are its lines in small letters. -/
theorem sourceLines_asciiLower (s : List Char) :
    sourceLines (asciiLower s) = (sourceLines s).map asciiLower := by
  rw [sourceLines, stripComments, dropComments_asciiLower, pieces_asciiLower (by decide)]
  rfl

/-- **The tokens of a line in small letters** are its tokens in small letters. -/
theorem Block.tokens_asciiLower (line : List Char) :
    tokens (asciiLower line) = (tokens line).map asciiLower := by
  rw [tokens, pieces_asciiLower (by decide), List.map_map, tokens, List.map_map]
  exact List.map_congr_left fun piece _ => trim_asciiLower piece

/-! ## Numbers in small letters -/

namespace Decimal

/-- A digit has one case. -/
lemma asciiLower_of_isDecimal {ds : List Char} (h : ∀ c ∈ ds, isDecimal c = true) :
    asciiLower ds = ds :=
  asciiLower_eq_self fun c hc => toLower_of_isDecimal (h c hc)

/-- A sign has one case. -/
lemma Sign.asciiLower_eq {s : List Char} (h : Sign s) : asciiLower s = s := by
  cases h <;> decide

/-- A mantissa has one case. -/
lemma Mantissa.asciiLower_eq {m : List Char} (h : Mantissa m) : asciiLower m = m := by
  have hpoint : ∀ fs, (∀ c ∈ fs, isDecimal c = true) → asciiLower ('.' :: fs) = '.' :: fs := by
    intro fs hfs
    rw [asciiLower_cons, asciiLower_of_isDecimal hfs]
    rfl
  cases h with
  | whole h => exact asciiLower_of_isDecimal h.2
  | point h h' => rw [asciiLower_append, asciiLower_of_isDecimal h.2, hpoint _ h']
  | fraction h => exact hpoint _ h.2

/-- An exponent has two cases. -/
lemma Exponent.asciiLower {e : List Char} (h : Exponent e) : Exponent (asciiLower e) := by
  cases h with
  | none => exact .none
  | some hc hsign hds =>
    rw [asciiLower_cons, asciiLower_append, hsign.asciiLower_eq, asciiLower_of_isDecimal hds.2]
    refine .some (.inl ?_) hsign hds
    rcases hc with rfl | rfl <;> rfl

/-- Both cases of an exponent stand for the same power. -/
lemma power_asciiLower (e : List Char) : power (Text.asciiLower e) = power e := by
  have hminus : '-' ∈ Text.asciiLower e ↔ '-' ∈ e := by
    simp [Text.asciiLower, toLower_eq_iff (show '-' ∈ separators by decide)]
  rw [power, power, digitValues_asciiLower]
  simp only [hminus]

/-- A text holds the name of infinity in some mixture of cases. -/
def NamesInfinity (s : List Char) : Prop :=
  Text.asciiLower Leading.infinityName <:+: Text.asciiLower s

instance : DecidablePred NamesInfinity := fun s =>
  inferInstanceAs (Decidable (Text.asciiLower Leading.infinityName <:+: Text.asciiLower s))

/-- What holds the name as it is written holds it. -/
lemma NamesInfinity.of_inside {s : List Char} (h : Leading.infinityName <:+: s) : NamesInfinity s :=
  h.map Char.toLower

/-- What holds a text with the name holds the name. -/
lemma NamesInfinity.mono {s t : List Char} (hs : NamesInfinity s) (h : s <:+: t) :
    NamesInfinity t :=
  hs.trans (h.map Char.toLower)

/-- In small letters, a text holds the name iff it does. -/
lemma namesInfinity_asciiLower {s : List Char} :
    NamesInfinity (Text.asciiLower s) ↔ NamesInfinity s := by
  have hidem : Text.asciiLower (Text.asciiLower s) = Text.asciiLower s := by
    rw [Text.asciiLower, Text.asciiLower, List.map_map]
    exact List.map_congr_left fun c _ => by simp
  rw [NamesInfinity, hidem]
  rfl

/-- **Both cases of a number** stand for the same double, but for the name of infinity. -/
theorem Denotes.asciiLower {s : List Char} {x : Float} (h : Denotes s x) (hs : ¬ NamesInfinity s) :
    Denotes (asciiLower s) x := by
  cases h with
  | @number sign m e hsign hm he =>
    rw [asciiLower_append, asciiLower_append, hsign.asciiLower_eq, hm.asciiLower_eq,
      ← power_asciiLower e]
    exact .number hsign hm he.asciiLower
  | infinity hsign => exact absurd (.of_inside (List.suffix_append _ _).isInfix) hs

namespace Leading

/-- Both parts of a text that is cut in two, in small letters. -/
def lowered (cut : List Char × List Char) : List Char × List Char :=
  (asciiLower cut.1, asciiLower cut.2)

/-- The same digits are found in every case. -/
lemma digits_asciiLower (s : List Char) : digits (asciiLower s) = lowered (digits s) := by
  rw [digits, takeWhile_asciiLower isDecimal_toLower, dropWhile_asciiLower isDecimal_toLower]
  rfl

/-- The same sign is found in every case. -/
lemma sign_asciiLower (s : List Char) : sign (asciiLower s) = lowered (sign s) := by
  cases s with
  | nil => rfl
  | cons c s =>
    simp only [asciiLower_cons, sign, toLower_eq_iff (show '+' ∈ separators by decide),
      toLower_eq_iff (show '-' ∈ separators by decide)]
    split <;> rfl

/-- The same mantissa is found in every case. -/
lemma mantissa?_asciiLower (s : List Char) :
    mantissa? (asciiLower s) = (mantissa? s).map lowered := by
  unfold mantissa?
  rw [digits_asciiLower]
  obtain ⟨ds, rest⟩ := digits s
  cases rest with
  | nil => cases ds <;> rfl
  | cons c behind =>
    by_cases hc : c = '.'
    · subst hc
      have hpoint : '.'.toLower = '.' := rfl
      have hdigits := digits_asciiLower behind
      cases ds with
      | nil =>
        simp only [lowered, asciiLower_nil, asciiLower_cons, hpoint] at hdigits ⊢
        rw [hdigits]
        obtain ⟨fs, rest⟩ := digits behind
        cases fs with
        | nil => rfl
        | cons d fs => simp [lowered, asciiLower_cons, hpoint]
      | cons d ds => simp [lowered, asciiLower_cons, asciiLower_append, hpoint, hdigits]
    · have hlower : c.toLower ≠ '.' := fun h => hc ((toLower_eq_iff (by decide) c).mp h)
      cases ds <;> simp [lowered, asciiLower_nil, asciiLower_cons, hc, hlower]

/-- The same exponent is found in every case. -/
lemma exponent_asciiLower (s : List Char) : exponent (asciiLower s) = lowered (exponent s) := by
  cases s with
  | nil => rfl
  | cons e s =>
    have hletter : (decide (e.toLower = 'e') || decide (e.toLower = 'E')) =
        (decide (e = 'e') || decide (e = 'E')) :=
      apply_toLower (f := fun c => decide (c = 'e') || decide (c = 'E')) (by decide +kernel) e
    rw [asciiLower_cons, exponent_cons, exponent_cons, hletter, sign_asciiLower]
    have hdigits := digits_asciiLower (sign s).2
    split
    · simp only [lowered] at hdigits ⊢
      rw [hdigits]
      obtain ⟨ds, rest⟩ := digits (sign s).2
      cases ds with
      | nil => rfl
      | cons d ds => simp [asciiLower_cons, asciiLower_append]
    · rfl

/-- **The same number is found in every case** in front of a text without the name of infinity. -/
theorem split?_asciiLower {s : List Char} (hs : ¬ NamesInfinity s) :
    split? (asciiLower s) = (split? s).map lowered := by
  have happend := (sign_spec s).2
  have hrest : ¬ NamesInfinity (sign s).2 := fun h =>
    hs (h.mono ⟨(sign s).1, [], by simpa using happend⟩)
  have hname : ∀ t, ¬ NamesInfinity t → infinityName.isPrefixOf t = false := by
    intro t ht
    refine Bool.eq_false_iff.mpr fun h => ht (.of_inside ?_)
    exact (List.isPrefixOf_iff_prefix.mp h).isInfix
  rw [split?_eq, split?_eq, sign_asciiLower]
  simp only [lowered, mantissa?_asciiLower]
  cases mantissa? (sign s).2 with
  | none =>
    have hlower : ¬ NamesInfinity (asciiLower (sign s).2) := fun h =>
      hrest (namesInfinity_asciiLower.mp h)
    simp [hname _ hrest, hname _ hlower]
  | some found =>
    simp [lowered, exponent_asciiLower, asciiLower_append]

end Leading

/-- **The number in front of a text** without the name of infinity is the same in every case. -/
theorem leading?_asciiLower {s : List Char} (hs : ¬ NamesInfinity s) :
    leading? (asciiLower s) = leading? s := by
  have htrim : ¬ NamesInfinity (trimLeft s) := fun h =>
    hs (h.mono (List.dropWhile_suffix _).isInfix)
  rw [leading?_eq_bind, leading?_eq_bind, trimLeft_asciiLower, Leading.split?_asciiLower htrim]
  cases hsplit : Leading.split? (trimLeft s) with
  | none => rfl
  | some found =>
    obtain ⟨lexeme, rest⟩ := found
    obtain ⟨hnumeral, happend⟩ := Leading.numeral_of_split? hsplit
    have hlexeme : ¬ NamesInfinity lexeme := fun h => htrim (h.mono ⟨[], rest, happend⟩)
    obtain ⟨x, hx⟩ := hnumeral.exists_denotes
    show read? (asciiLower lexeme) = read? lexeme
    rw [(hx.asciiLower hlexeme).read?, hx.read?]

/-- A text without the name of infinity starts with a number in every case. -/
lemma startsNumeral_asciiLower {s : List Char} (hs : ¬ NamesInfinity s) :
    StartsNumeral (asciiLower s) ↔ StartsNumeral s := by
  rw [← isSome_leading?_iff, ← isSome_leading?_iff, leading?_asciiLower hs]

end Decimal

/-! ## Lines in small letters -/

section Lines

open Decimal

/-- A piece stands in what the pieces are put together to. -/
lemma Text.isInfix_joined {sep p : List Char} {ps : List (List Char)} (h : p ∈ ps) :
    p <:+: joined sep ps := by
  induction ps with
  | nil => exact absurd h List.not_mem_nil
  | cons q qs ih =>
    cases qs with
    | nil => rw [List.mem_singleton.mp h, joined]
    | cons r rs =>
      have hjoined : joined sep (q :: r :: rs) = q ++ (sep ++ joined sep (r :: rs)) := by
        simp [joined]
      rw [hjoined]
      rcases List.mem_cons.mp h with rfl | h
      · exact (List.prefix_append _ _).isInfix
      · have hback := (List.suffix_append sep (joined sep (r :: rs))).trans (List.suffix_append q _)
        exact (ih h).trans hback.isInfix

/-- A piece of a text stands in it. -/
lemma Text.isInfix_of_mem_pieces {sep : Char} {s p : List Char} (h : p ∈ pieces sep s) :
    p <:+: s := by
  have hjoined := @isInfix_joined [sep] p _ h
  rwa [joined_pieces] at hjoined

/-- A text without the white space around it stands in the text. -/
lemma Text.isInfix_trim (s : List Char) : trim s <:+: s := by
  have hright : trimRight (trimLeft s) <+: trimLeft s := by
    rw [← List.reverse_suffix, trimRight, List.reverse_reverse]
    exact List.dropWhile_suffix _
  exact hright.isInfix.trans (List.dropWhile_suffix _).isInfix

/-- A token stands in its line. -/
lemma Block.isInfix_of_mem_tokens {line token : List Char} (h : token ∈ tokens line) :
    token <:+: line := by
  obtain ⟨piece, hpiece, rfl⟩ := List.mem_map.mp h
  exact (isInfix_trim piece).trans (isInfix_of_mem_pieces hpiece)

/-- A line stands in its document. -/
lemma isInfix_of_mem_sourceLines {s line : List Char} (h : line ∈ sourceLines s) :
    line <:+: s := by
  rw [sourceLines_eq_map_beforeComment] at h
  obtain ⟨piece, hpiece, rfl⟩ := List.mem_map.mp h
  exact (List.takeWhile_prefix _).isInfix.trans (isInfix_of_mem_pieces hpiece)

/-- The key of a token is the same in every case. -/
lemma keyOf_asciiLower (token : List Char) : keyOf (asciiLower token) = keyOf token := by
  cases token with
  | nil => rfl
  | cons c rest => exact congrArg some (lowerChar_toLower c)

variable {line : List Char} (hline : ¬ NamesInfinity line)

include hline

/-- Behind its letter, no token of a line without the name of infinity holds it. -/
lemma not_namesInfinity_tail {token : List Char} (h : token ∈ Block.tokens line) :
    ¬ NamesInfinity token.tail := fun hname =>
  hline (hname.mono ((List.tail_suffix token).isInfix.trans (Block.isInfix_of_mem_tokens h)))

/-- A line gives the same numbers in every case. -/
lemma Block.value_read_asciiLower (key : List Char) :
    (Block.read (asciiLower line)).value key = (Block.read line).value key := by
  have hkey : (fun token => decide (keyOf token = some key)) ∘ asciiLower =
      fun token => decide (keyOf token = some key) :=
    funext fun token => by simp [keyOf_asciiLower]
  rw [value_read, value_read, tokens_asciiLower, ← List.map_tail, ← List.map_reverse,
    List.find?_map, hkey]
  cases hfind : (tokens line).tail.reverse.find? fun token => keyOf token = some key with
  | none => rfl
  | some token =>
    have hmem := List.mem_of_mem_tail (List.mem_reverse.mp (List.mem_of_find?_eq_some hfind))
    have htail : (asciiLower token).tail = asciiLower token.tail := List.map_tail.symm
    show leading? (asciiLower token).tail = leading? token.tail
    rw [htail, leading?_asciiLower (not_namesInfinity_tail hline hmem)]

/-- A line has as many pieces without a number in every case. -/
lemma numberless_asciiLower : numberless (asciiLower line) = numberless line := by
  rw [numberless, Block.tokens_asciiLower, ← List.map_tail, List.countP_map, numberless]
  refine List.countP_congr fun token htoken => ?_
  have htail : (asciiLower token).tail = asciiLower token.tail := List.map_tail.symm
  have hnot := not_namesInfinity_tail hline (List.mem_of_mem_tail htoken)
  have hnil : asciiLower token = [] ↔ token = [] := List.map_eq_nil_iff
  simp [htail, hnil, startsNumeral_asciiLower hnot]

/-- **A line in small letters** is read alike if it does not hold the name of infinity. -/
theorem readAlike_asciiLower : ReadAlike (asciiLower line) line where
  code := by
    have hfirst : (Block.tokens (asciiLower line)).headD [] =
        asciiLower ((Block.tokens line).headD []) := by
      rw [Block.tokens_asciiLower]
      cases Block.tokens line <;> rfl
    rw [codeOf, hfirst, upper_asciiLower, codeOf]
  value r := Block.value_read_asciiLower hline [r.letter]
  malformed := numberless_asciiLower hline

end Lines

/-! ## Documents in another case -/

/-- A document in small letters has the same result if it does not hold the name of infinity. -/
lemma resultOf_asciiLower {s : List Char} (hs : ¬ Decimal.NamesInfinity s) :
    resultOf (asciiLower s) = resultOf s := by
  refine resultOf_eq_of_readAlike ?_
  rw [sourceLines_asciiLower, List.forall₂_map_left_iff, List.forall₂_same]
  exact fun line hline => readAlike_asciiLower fun h =>
    hs (h.mono (isInfix_of_mem_sourceLines hline))

/-- **The case of letters does not matter.** If a document does not hold the name of infinity, in
any mixture of cases, every document that is equal to it but for the case of ASCII letters has the
same interpretation: the same layers, the same final state, and the same counters, those of
malformed words and the unsupported codes with their numbers included. Beyond ASCII nothing is asked
of the document.

**Proof sketch.** Both documents are equal in small letters, and a document has the same result as
in small letters: it is cut into lines and tokens at the same places, codes are compared in upper
case and keys in lower case, and the number in front of a text has no letter but that of its
exponent, so it ends at the same place and stands for the same double
(`Decimal.Leading.split?_asciiLower`, `Decimal.Denotes.asciiLower`). -/
theorem result_interpret_recased (measured : Bool) (clock : Clock) {s : List Char}
    (hs : ¬ Decimal.NamesInfinity s) (s' : List Char) (h : asciiLower s' = asciiLower s) :
    (interpret measured clock s').result = (interpret measured clock s).result := by
  have hs' : ¬ Decimal.NamesInfinity s' := by
    rwa [Decimal.NamesInfinity, h]
  rw [result_interpret, result_interpret, ← resultOf_asciiLower hs', h, resultOf_asciiLower hs]

/-- A move with an exponent and a malformed word, and a line with an unsupported code. -/
def capitalStroke : List Char := "G1 X1E2 E.5e-1 YBAD ;Note\nM104 S2".toList

/-- The same in another case. -/
def smallStroke : List Char := "g1 x1e2 e.5E-1 ybad ;nOTE\nm104 s2".toList

/-- The two documents have the same result. -/
theorem result_interpret_recased_stroke :
    ¬ Decimal.NamesInfinity capitalStroke ∧ asciiLower smallStroke = asciiLower capitalStroke ∧
      (interpret false {} smallStroke).result = (interpret false {} capitalStroke).result := by
  have hname : ¬ Decimal.NamesInfinity capitalStroke := by decide +kernel
  have hlower : asciiLower smallStroke = asciiLower capitalStroke := by decide +kernel
  exact ⟨hname, hlower, result_interpret_recased false {} hname smallStroke hlower⟩

/-- The name of infinity is no number in small letters. -/
example : (resultOf "g1 xinfinity e1".toList).tally.malformed = 1 ∧
    (resultOf "G1 XInfinity E1".toList).tally.malformed = 0 := by decide +kernel

end Toolpath
