import Toolpath.Json.Printer
import Toolpath.Proofs.Finite
import Toolpath.Proofs.Recasing
/-!
# Names of numbers in JSON

A number that is not finite is written in JSON as a name that JSON itself does not know. A reader of
the text meets it outside strings, since a string may hold the same letters. The text of a value
holds such a name outside its strings iff a number of the value is not finite.

## Main definitions

* `Toolpath.Json.Place`, `Toolpath.Json.bare` — where a reader is in a text, and what is written
  outside strings.
* `Toolpath.Json.HoldsName` — a text holds a name of a number outside its strings.
* `Toolpath.Value.numbers` — the doubles of a value.
* `Toolpath.Json.Spells` — a text spells numbers: its names are those of the ones not finite.

## Main results

* `Toolpath.Json.spells_renderAt` — the text of a value spells its numbers.
* `Toolpath.Json.holdsName_renderIndented_iff` — the text of a value holds a name iff a number of
  the value is not finite.
-/

namespace Toolpath

namespace Json

open Text

/-! ## Outside strings -/

/-- Where a reader of JSON is: outside strings, inside one, or behind a backslash in one. -/
inductive Place where
  | outside
  | inside
  | escaped
  deriving DecidableEq, Repr

/-- Where a reader is behind a character. -/
def Place.next : Place → Char → Place
  | .outside, c => if c = '"' then .inside else .outside
  | .inside, c => if c = '"' then .outside else if c = '\\' then .escaped else .inside
  | .escaped, _ => .inside

/-- What is written outside strings, from a place on; quotes belong to the strings. -/
def bare : Place → List Char → List Char
  | _, [] => []
  | p, c :: rest => (if p = .outside ∧ c ≠ '"' then [c] else []) ++ bare (p.next c) rest

/-- What is written outside strings in two texts is what is in each. -/
lemma bare_append (p : Place) (s t : List Char) :
    bare p (s ++ t) = bare p s ++ bare (s.foldl Place.next p) t := by
  induction s generalizing p with
  | nil => rfl
  | cons c s ih => rw [List.cons_append, bare, bare, ih, List.foldl_cons, List.append_assoc]

/-- A text holds, outside its strings, a name of a number that is not finite. -/
def HoldsName (s : List Char) : Prop :=
  "NaN".toList <:+: bare .outside s ∨ "Infinity".toList <:+: bare .outside s

/-- A text without quotes stands outside strings. -/
lemma bare_of_not_mem {s : List Char} (h : '"' ∉ s) :
    s.foldl Place.next .outside = .outside ∧ bare .outside s = s := by
  induction s with
  | nil => exact ⟨rfl, rfl⟩
  | cons c s ih =>
    have hc : c ≠ '"' := fun hc => h (hc ▸ List.mem_cons_self)
    obtain ⟨hplace, hbare⟩ := ih fun hs => h (List.mem_cons_of_mem c hs)
    have hnext : Place.next .outside c = .outside := if_neg hc
    rw [List.foldl_cons, bare, hnext, hbare, if_pos ⟨rfl, hc⟩]
    exact ⟨hplace, rfl⟩

/-- A text stays within a string. -/
def Within (s : List Char) : Prop :=
  s.foldl Place.next .inside = .inside ∧ bare .inside s = []

/-- Texts within a string stay there one behind the other. -/
lemma Within.append {s t : List Char} (hs : Within s) (ht : Within t) : Within (s ++ t) := by
  refine ⟨?_, ?_⟩
  · rw [List.foldl_append, hs.1, ht.1]
  · rw [bare_append, hs.1, hs.2, ht.2]
    rfl

/-- A character that is neither quote nor backslash stays within a string. -/
lemma within_singleton {c : Char} (hquote : c ≠ '"') (hback : c ≠ '\\') : Within [c] := by
  have hnext : Place.next .inside c = .inside := by
    rw [Place.next, if_neg hquote, if_neg hback]
  refine ⟨hnext, ?_⟩
  rw [bare, if_neg (by simp), hnext]
  rfl

/-- An escaped character stays within a string. -/
lemma within_escape (c : Char) : Within ['\\', c] := ⟨rfl, rfl⟩

/-- Texts that stay within a string do so in a row. -/
lemma within_flatMap {α : Type} {f : α → List Char} (h : ∀ a, Within (f a)) (as : List α) :
    Within (as.flatMap f) := by
  induction as with
  | nil => exact ⟨rfl, rfl⟩
  | cons a as ih =>
    rw [List.flatMap_cons]
    exact (h a).append ih

/-- Hexadecimal digits stay within a string. -/
lemma within_hex (count n : ℕ) : Within (hex count n) := by
  have hdigit : ∀ k < 16, Nat.digitChar k ≠ '"' ∧ Nat.digitChar k ≠ '\\' := by decide
  induction count generalizing n with
  | zero => exact ⟨rfl, rfl⟩
  | succ count ih =>
    obtain ⟨hquote, hback⟩ := hdigit (n % 16) (Nat.mod_lt _ (by decide))
    exact (ih _).append (within_singleton hquote hback)

/-- An escaped unit stays within a string. -/
lemma within_unitEscapes (c : Char) : Within (unitEscapes c) := by
  have hunit : ∀ n, Within ('\\' :: 'u' :: hex 4 n) :=
    fun n => (within_escape 'u').append (within_hex 4 n)
  unfold unitEscapes
  dsimp only
  split
  · exact hunit _
  · exact (hunit _).append (hunit _)

/-- A character of a string stays within it. -/
lemma within_stringChar (c : Char) : Within (stringChar c) := by
  unfold stringChar
  split
  · exact within_escape _
  · rename_i hquote
    split
    · exact within_escape _
    · rename_i hback
      iterate 5
        split
        · exact within_escape _
      split
      · exact within_singleton hquote hback
      · exact within_unitEscapes c

/-- Nothing of a string stands outside strings. -/
lemma bare_quoted (s : List Char) :
    (quoted s).foldl Place.next .outside = .outside ∧ bare .outside (quoted s) = [] := by
  obtain ⟨hplace, hbare⟩ := within_flatMap within_stringChar s
  have hfirst : Place.next .outside '"' = .inside := rfl
  refine ⟨?_, ?_⟩
  · rw [quoted, List.cons_append, List.foldl_cons, hfirst, List.foldl_append, hplace]
    rfl
  · rw [quoted, List.cons_append, bare, hfirst, bare_append, hplace, hbare]
    rfl

end Json

/-! ## Letters of numbers -/

/-- A character is neither a quote nor an initial of a name. -/
def Plain (c : Char) : Prop := c ≠ '"' ∧ c ≠ 'I' ∧ c ≠ 'N'

instance (c : Char) : Decidable (Plain c) :=
  inferInstanceAs (Decidable (c ≠ '"' ∧ c ≠ 'I' ∧ c ≠ 'N'))

/-- The characters of a text are plain if each is found to be. -/
lemma plain_of_all {s : List Char} (h : (s.all fun c => decide (Plain c)) = true) :
    ∀ c ∈ s, Plain c :=
  List.all_iff_forall_prop.mp h

/-- Digits are plain. -/
lemma plain_of_mem_ofNat {n : ℕ} : ∀ c ∈ Text.ofNat n, Plain c := by
  intro c hc
  have hdigit : c.isDigit = true := Nat.isDigit_of_mem_toDigits (by decide) (by decide) hc
  refine ⟨?_, ?_, ?_⟩ <;> rintro rfl <;> exact absurd hdigit (by decide)

lemma plain_of_mem_ofInt {n : ℤ} : ∀ c ∈ Text.ofInt n, Plain c := by
  cases n with
  | ofNat n => exact plain_of_mem_ofNat
  | negSucc n => exact List.forall_mem_cons.mpr ⟨by decide, plain_of_mem_ofNat⟩

namespace Decimal

/-- The text of an exponent is plain. -/
lemma plain_of_mem_exponentText {k : ℤ} : ∀ c ∈ exponentText k, Plain c := by
  unfold exponentText
  dsimp only
  refine List.forall_mem_cons.mpr ⟨by decide, List.forall_mem_cons.mpr ⟨?_, ?_⟩⟩
  · split <;> decide
  · split
    · exact List.forall_mem_cons.mpr ⟨by decide, plain_of_mem_ofNat⟩
    · exact plain_of_mem_ofNat

section Write

variable {digits : List Char} (h : ∀ c ∈ digits, Plain c)

include h

lemma plain_of_mem_place (point : ℤ) (wholePoint : Bool) :
    ∀ c ∈ place digits point wholePoint, Plain c := by
  have hzeros : ∀ n, ∀ c ∈ List.replicate n '0', Plain c := by
    intro n c hc
    rw [List.eq_of_mem_replicate hc]
    decide
  unfold place
  split
  · refine List.forall_mem_append.mpr ⟨?_, h⟩
    exact List.forall_mem_cons.mpr ⟨by decide, List.forall_mem_cons.mpr ⟨by decide, hzeros _⟩⟩
  · dsimp only
    split
    · refine List.forall_mem_append.mpr ⟨List.forall_mem_append.mpr ⟨h, hzeros _⟩, ?_⟩
      split
      · exact plain_of_all rfl
      · exact List.forall_mem_nil _
    · refine List.forall_mem_append.mpr ⟨fun c hc => h c (List.mem_of_mem_take hc), ?_⟩
      exact List.forall_mem_cons.mpr ⟨by decide, fun c hc => h c (List.mem_of_mem_drop hc)⟩

lemma plain_of_mem_write (layout : Layout) (k : ℤ) : ∀ c ∈ layout.write digits k, Plain c := by
  unfold Layout.write
  split
  · exact plain_of_mem_place h _ _
  · split
    · exact plain_of_mem_exponentText
    · exact List.forall_mem_cons.mpr ⟨h _ (by simp), plain_of_mem_exponentText⟩
    · rename_i d ds _
      refine List.forall_mem_append.mpr ⟨?_, plain_of_mem_exponentText⟩
      obtain ⟨hd, hds⟩ := List.forall_mem_cons.mp h
      exact List.forall_mem_cons.mpr ⟨hd, List.forall_mem_cons.mpr ⟨by decide, hds⟩⟩

end Write

lemma plain_of_mem_signed {s : List Char} (h : ∀ c ∈ s, Plain c) (negative : Bool) :
    ∀ c ∈ signed negative s, Plain c := by
  unfold signed
  split
  · exact List.forall_mem_cons.mpr ⟨by decide, h⟩
  · exact h

/-- The text of a finite number is plain. -/
lemma plain_of_mem_text {x : Float} (hx : isFinite x = true) : ∀ c ∈ text x, Plain c := by
  unfold isFinite at hx
  unfold text
  split at hx
  · rename_i negative m e hdecode
    rw [hdecode]
    refine plain_of_mem_signed ?_ negative
    split
    · exact plain_of_mem_write (plain_of_all rfl) _ _
    · exact plain_of_mem_write plain_of_mem_ofNat _ _
  · cases hx

end Decimal

/-! ## Numbers of a value -/

mutual

/-- The doubles of a value that are written as such; keys are strings. -/
def Value.numbers : Value → List Float
  | .float x => [x]
  | .pair a b => a.numbers ++ b.numbers
  | .list items => Value.numbersOf items
  | .map entries => Value.numbersIn entries
  | _ => []

/-- The doubles of values. -/
def Value.numbersOf : List Value → List Float
  | [] => []
  | v :: vs => v.numbers ++ Value.numbersOf vs

/-- The doubles of the values of entries. -/
def Value.numbersIn : List (Value × Value) → List Float
  | [] => []
  | (_, v) :: rest => v.numbers ++ Value.numbersIn rest

end

namespace Value

/-- The doubles of values are those of each in a row. -/
lemma numbersOf_eq (vs : List Value) : numbersOf vs = (vs.map numbers).flatten := by
  induction vs with
  | nil => rfl
  | cons v vs ih => rw [numbersOf, ih, List.map_cons, List.flatten_cons]

/-- The doubles of entries are those of each value in a row. -/
lemma numbersIn_eq (entries : List (Value × Value)) :
    numbersIn entries = (entries.map fun entry => entry.2.numbers).flatten := by
  induction entries with
  | nil => rfl
  | cons entry rest ih => rw [numbersIn, ih, List.map_cons, List.flatten_cons]

end Value

namespace Json

open Text

/-- A text spells numbers: it ends outside strings, what it holds there starts a name only if a
number is not finite, and it holds the names of all that are not. -/
structure Spells (s : List Char) (xs : List Float) : Prop where
  closed : s.foldl Place.next .outside = .outside
  plain : (∀ x ∈ xs, x.isFinite = true) → ∀ c ∈ bare .outside s, Plain c
  named : ∀ x ∈ xs, x.isFinite = false → number x <:+: bare .outside s

namespace Spells

/-- Plain characters spell nothing. -/
lemma of_plain {s : List Char} (h : ∀ c ∈ s, Plain c) : Spells s [] := by
  obtain ⟨hplace, hbare⟩ := bare_of_not_mem (s := s) fun hquote => (h _ hquote).1 rfl
  refine ⟨hplace, fun _ => ?_, by simp⟩
  rwa [hbare]

/-- Texts in a row spell their numbers in a row. -/
lemma append {s t : List Char} {xs ys : List Float} (hs : Spells s xs) (ht : Spells t ys) :
    Spells (s ++ t) (xs ++ ys) := by
  have hbare : bare .outside (s ++ t) = bare .outside s ++ bare .outside t := by
    rw [bare_append, hs.closed]
  refine ⟨?_, fun hfinite => ?_, fun x hx hnot => ?_⟩
  · rw [List.foldl_append, hs.closed, ht.closed]
  · obtain ⟨hxs, hys⟩ := List.forall_mem_append.mp hfinite
    rw [hbare]
    exact List.forall_mem_append.mpr ⟨hs.plain hxs, ht.plain hys⟩
  · rw [hbare]
    rcases List.mem_append.mp hx with hx | hx
    · exact (hs.named x hx hnot).trans (List.prefix_append _ _).isInfix
    · exact (ht.named x hx hnot).trans (List.suffix_append _ _).isInfix

/-- A string spells nothing. -/
lemma quoted (s : List Char) : Spells (quoted s) [] := by
  obtain ⟨hplace, hbare⟩ := bare_quoted s
  refine ⟨hplace, fun _ => ?_, by simp⟩
  rw [hbare]
  exact List.forall_mem_nil _

/-- Parts with a plain separator between them spell their numbers in a row. -/
lemma joined {sep : List Char} (hsep : ∀ c ∈ sep, Plain c) {parts : List (List Char)}
    {xss : List (List Float)} (h : List.Forall₂ Spells parts xss) :
    Spells (joined sep parts) xss.flatten := by
  induction h with
  | nil => exact of_plain (List.forall_mem_nil _)
  | @cons part xs parts xss hpart hparts ih =>
    rw [List.flatten_cons]
    cases hparts with
    | nil => simpa [Text.joined] using hpart
    | cons hnext hrest => simpa [Text.joined] using (hpart.append (of_plain hsep)).append ih

/-- A line feed and spaces spell nothing. -/
lemma plain_newline (depth : ℕ) : ∀ c ∈ newline depth, Plain c := by
  refine List.forall_mem_cons.mpr ⟨by decide, fun c hc => ?_⟩
  rw [List.eq_of_mem_replicate hc]
  decide

/-- Parts between plain brackets spell their numbers in a row. -/
lemma block {opening closing : Char} (ho : Plain opening) (hc : Plain closing) (depth : ℕ)
    {parts : List (List Char)} {xss : List (List Float)} (h : List.Forall₂ Spells parts xss) :
    Spells (block opening closing depth parts) xss.flatten := by
  have hsep : ∀ c ∈ ',' :: newline (depth + 1), Plain c :=
    List.forall_mem_cons.mpr ⟨by decide, plain_newline _⟩
  have hfront : Spells (opening :: newline (depth + 1)) [] :=
    of_plain (List.forall_mem_cons.mpr ⟨ho, plain_newline _⟩)
  have hback : Spells (newline depth ++ [closing]) [] :=
    of_plain (List.forall_mem_append.mpr ⟨plain_newline _, List.forall_mem_singleton.mpr hc⟩)
  unfold Json.block
  split
  · rename_i hempty
    cases h with
    | nil => exact of_plain (List.forall_mem_cons.mpr ⟨ho, List.forall_mem_singleton.mpr hc⟩)
    | cons => cases hempty
  · simpa using (hfront.append (joined hsep h)).append hback

end Spells

/-! ## Values -/

/-- The name of a number that is not finite is one of three. -/
lemma number_of_not_finite {x : Float} (hx : x.isFinite = false) :
    number x ∈ ["NaN".toList, "Infinity".toList, "-Infinity".toList] := by
  rw [← Decimal.isFinite_eq, Decimal.isFinite] at hx
  unfold number
  split
  · exact List.mem_cons_self
  · rename_i negative hdecode
    cases negative <;> decide
  · rename_i hdecode
    rw [hdecode] at hx
    cases hx

/-- The text of a finite number is plain. -/
lemma plain_of_mem_number {x : Float} (hx : x.isFinite = true) : ∀ c ∈ number x, Plain c := by
  rw [← Decimal.isFinite_eq] at hx
  have htext := Decimal.plain_of_mem_text hx
  rw [Decimal.isFinite] at hx
  unfold number
  split
  · rename_i hdecode
    rw [hdecode] at hx
    cases hx
  · rename_i hdecode
    rw [hdecode] at hx
    cases hx
  · exact htext

/-- The text of a number spells it. -/
lemma spells_number (x : Float) : Spells (number x) [x] := by
  have hquote : '"' ∉ number x := by
    cases hx : x.isFinite with
    | true => exact fun hquote => (plain_of_mem_number hx _ hquote).1 rfl
    | false =>
      have hnames : ∀ name ∈ ["NaN".toList, "Infinity".toList, "-Infinity".toList],
          '"' ∉ name := by decide
      exact hnames _ (number_of_not_finite hx)
  obtain ⟨hplace, hbare⟩ := bare_of_not_mem hquote
  refine ⟨hplace, fun hfinite => ?_, fun y hy _ => ?_⟩
  · rw [hbare]
    exact plain_of_mem_number (hfinite x List.mem_cons_self)
  · rw [hbare, List.mem_singleton.mp hy]

/-- The text of a value without parts spells its number, if it is one. -/
lemma spells_atom {v : Value} (h : ∀ x, v ≠ .float x) : Spells (atom v) [] := by
  cases v with
  | null => exact .of_plain (plain_of_all rfl)
  | bool b => cases b <;> exact .of_plain (plain_of_all rfl)
  | int n => exact .of_plain plain_of_mem_ofInt
  | float x => exact absurd rfl (h x)
  | str => exact .quoted _
  | bytes | day | time | pair | list | set | map | deep => exact .of_plain (List.forall_mem_nil _)

/-- A key spells nothing. -/
lemma spells_key (v : Value) : Spells (key v) [] := by
  cases v <;> exact .quoted _

mutual

/-- **The text of a value spells its numbers.** -/
lemma spells_renderAt (depth : ℕ) : ∀ v : Value, Spells (renderAt depth v) v.numbers
  | .pair a b => by
    have hparts : List.Forall₂ Spells [renderAt (depth + 1) a, renderAt (depth + 1) b]
        [a.numbers, b.numbers] :=
      .cons (spells_renderAt (depth + 1) a) (.cons (spells_renderAt (depth + 1) b) .nil)
    have hnumbers : (Value.pair a b).numbers = [a.numbers, b.numbers].flatten := by
      rw [Value.numbers, List.flatten_cons, List.flatten_singleton]
    rw [renderAt, hnumbers]
    exact .block (by decide) (by decide) depth hparts
  | .list items => by
    rw [renderAt, Value.numbers, Value.numbersOf_eq]
    exact .block (by decide) (by decide) depth (spells_renderAllAt (depth + 1) items)
  | .map entries => by
    rw [renderAt, Value.numbers, Value.numbersIn_eq]
    exact .block (by decide) (by decide) depth (spells_renderEntriesAt (depth + 1) entries)
  | .float x => spells_number x
  | .null | .bool _ | .int _ | .str _ | .bytes _ | .day _ | .time _ | .set _ | .deep => by
    simp only [renderAt, Value.numbers]
    exact spells_atom (by simp)

/-- The texts of values spell their numbers. -/
lemma spells_renderAllAt (depth : ℕ) :
    ∀ vs : List Value, List.Forall₂ Spells (renderAllAt depth vs) (vs.map Value.numbers)
  | [] => .nil
  | v :: vs => .cons (spells_renderAt depth v) (spells_renderAllAt depth vs)

/-- The texts of entries spell the numbers of their values. -/
lemma spells_renderEntriesAt (depth : ℕ) : ∀ entries : List (Value × Value),
    List.Forall₂ Spells (renderEntriesAt depth entries) (entries.map fun entry => entry.2.numbers)
  | [] => .nil
  | (k, v) :: rest => by
    refine .cons ?_ (spells_renderEntriesAt depth rest)
    have hcolon : Spells [':', ' '] [] := .of_plain (plain_of_all rfl)
    simpa using ((spells_key k).append hcolon).append (spells_renderAt depth v)

end

/-- A text that spells numbers holds a name iff one of them is not finite. -/
lemma Spells.holdsName_iff {s : List Char} {xs : List Float} (h : Spells s xs) :
    HoldsName s ↔ ∃ x ∈ xs, x.isFinite = false := by
  constructor
  · intro hname
    by_contra hno
    have hfinite : ∀ x ∈ xs, x.isFinite = true :=
      fun x hx => Bool.not_eq_false _ ▸ fun hnot => hno ⟨x, hx, hnot⟩
    have hplain := h.plain hfinite
    rcases hname with hname | hname
    · exact (hplain 'N' (hname.subset (by decide))).2.2 rfl
    · exact (hplain 'I' (hname.subset (by decide))).2.1 rfl
  · rintro ⟨x, hx, hnot⟩
    have hinfix := h.named x hx hnot
    have hnumber := number_of_not_finite hnot
    simp only [List.mem_cons, List.not_mem_nil, or_false] at hnumber
    rcases hnumber with hnumber | hnumber | hnumber
    · rw [hnumber] at hinfix
      exact .inl hinfix
    · rw [hnumber] at hinfix
      exact .inr hinfix
    · rw [hnumber] at hinfix
      exact .inr ((List.suffix_append ['-'] _).isInfix.trans hinfix)

/-- **The text of a value holds a name** of a number, outside its strings, iff a number of the value
is not finite. -/
theorem holdsName_renderIndented_iff (v : Value) :
    HoldsName (renderIndented v) ↔ ∃ x ∈ v.numbers, x.isFinite = false :=
  (spells_renderAt 0 v).holdsName_iff

end Json

end Toolpath
