import Toolpath.Proofs.JsonTokens
import Toolpath.Proofs.NormalSettings
/-!
# Values in JSON

The text of a value is printable ASCII, whatever the value holds. If the value is JSON data, it is
read from its text, up to what JSON does not keep: pairs become lists, keys become texts, of equal
keys the last one decides, and halves of a character that meet are put together. The reader has fuel
for the depth of its calls; twice the length of a text is enough, since every two calls take a
character.

## Main definitions

* `Toolpath.Value.IsJson` — values that JSON has a text for.
* `Toolpath.Json.kept` — what JSON keeps of a value.
* `Toolpath.Json.Faithful` — values of which JSON keeps all.
* `Toolpath.Json.Reads` — a value is read from its text in front of others.

## Main results

* `Toolpath.Json.reads_render`, `Toolpath.Json.read?_render` — JSON data is read from its text.
* `Toolpath.Json.kept_eq_self`, `Toolpath.Json.read?_render_of_faithful` — it is read back as it was
  if JSON keeps all of it.
* `Toolpath.Json.printable_of_mem_render` — the text of a value is printable ASCII.
-/

namespace Toolpath

/-! ## JSON data -/

namespace Value

/-- A value is JSON data: no part of it is refused, and its numbers are finite. -/
structure IsJson (v : Value) : Prop where
  known : Json.refusal? v = none
  finite : ∀ x ∈ v.numbers, x.isFinite = true

/-- Nothing is refused in the values of a list in which nothing is. -/
lemma refusal?_of_mem {vs : List Value} (h : Json.refusalOf? vs = none) :
    ∀ v ∈ vs, Json.refusal? v = none := by
  induction vs with
  | nil => exact List.forall_mem_nil _
  | cons v vs ih =>
    rw [Json.refusalOf?, Option.or_eq_none_iff] at h
    exact List.forall_mem_cons.mpr ⟨h.1, ih h.2⟩

/-- Nothing is refused in the values of entries in which nothing is. -/
lemma refusal?_of_mem_entries {entries : List (Value × Value)}
    (h : Json.refusalIn? entries = none) : ∀ entry ∈ entries, Json.refusal? entry.2 = none := by
  induction entries with
  | nil => exact List.forall_mem_nil _
  | cons entry entries ih =>
    obtain ⟨k, v⟩ := entry
    rw [Json.refusalIn?, Option.or_eq_none_iff, Option.or_eq_none_iff] at h
    exact List.forall_mem_cons.mpr ⟨h.2.1, ih h.2.2⟩

/-- The items of a list that is JSON data are. -/
lemma IsJson.of_mem {items : List Value} (h : IsJson (.list items)) : ∀ v ∈ items, v.IsJson := by
  intro v hv
  refine ⟨refusal?_of_mem h.known v hv, fun x hx => h.finite x ?_⟩
  show x ∈ numbersOf items
  rw [numbersOf_eq]
  exact List.mem_flatten_of_mem (List.mem_map_of_mem hv) hx

/-- The list of both parts of a pair that is JSON data is. -/
lemma IsJson.list_of_pair {a b : Value} (h : IsJson (.pair a b)) : IsJson (.list [a, b]) := by
  have hknown : (Json.refusal? a).or (Json.refusal? b) = none := h.known
  refine ⟨?_, fun x hx => h.finite x ?_⟩
  · rwa [Json.refusal?, Json.refusalOf?, Json.refusalOf?, Json.refusalOf?, Option.or_none]
  · rwa [numbers, numbersOf, numbersOf, numbersOf, List.append_nil] at hx

/-- The values of a mapping that is JSON data are. -/
lemma IsJson.of_mem_entries {entries : List (Value × Value)} (h : IsJson (.map entries)) :
    ∀ entry ∈ entries, entry.2.IsJson := by
  intro entry hentry
  refine ⟨refusal?_of_mem_entries h.known entry hentry, fun x hx => h.finite x ?_⟩
  show x ∈ numbersIn entries
  rw [numbersIn_eq]
  exact List.mem_flatten_of_mem (List.mem_map_of_mem hentry) hx

end Value

namespace Json

open Text

/-! ## What is kept -/

/-- The text of a key. -/
def keyText : Value → List Char
  | .str s => s.toList
  | v => atom v

/-- A key is written as its text. -/
lemma key_eq (k : Value) : key k = quoted (keyText k) := by
  cases k <;> rfl

mutual

/-- What JSON keeps of a value: pairs are lists, keys are texts, the last of equal keys decides, and
two halves that meet in a text are the character that they spell. -/
def kept : Value → Value
  | .str s => .str (String.ofList (paired s.toList))
  | .pair a b => .list [kept a, kept b]
  | .list items => .list (keptAll items)
  | .map entries => .record (Entries.putAll [] (keptEntries entries))
  | v => v

/-- What JSON keeps of values. -/
def keptAll : List Value → List Value
  | [] => []
  | v :: vs => kept v :: keptAll vs

/-- What JSON keeps of entries. -/
def keptEntries : List (Value × Value) → List (String × Value)
  | [] => []
  | (k, v) :: rest => (String.ofList (paired (keyText k)), kept v) :: keptEntries rest

end

/-! ## The first character -/

/-- A text starts with a character of a value: neither white space nor a bracket that closes. -/
def Opens (s : List Char) : Prop := ∃ c t, s = c :: t ∧ isSpace c = false ∧ c ≠ ']'

/-- A character that is no white space is not cut off. -/
lemma skip_cons {c : Char} (h : isSpace c = false) (t : List Char) : skip (c :: t) = c :: t :=
  List.dropWhile_cons_of_neg (by simp [h])

lemma Opens.skip_append {s : List Char} (h : Opens s) (rest : List Char) :
    skip (s ++ rest) = s ++ rest := by
  obtain ⟨c, t, rfl, hspace, -⟩ := h
  exact skip_cons hspace (t ++ rest)

lemma Opens.append {s : List Char} (h : Opens s) (rest : List Char) : Opens (s ++ rest) := by
  obtain ⟨c, t, rfl, hc⟩ := h
  exact ⟨c, t ++ rest, rfl, hc⟩

lemma Opens.length_pos {s : List Char} (h : Opens s) : 0 < s.length := by
  obtain ⟨c, t, rfl, -⟩ := h
  exact Nat.succ_pos _

/-- A text starts as a number does. -/
def OpensNumber (s : List Char) : Prop := ∃ c t, s = c :: t ∧ (c.isDigit = true ∨ c = '-')

/-- A character that starts a number starts nothing else. -/
lemma ne_of_opensNumber {c d : Char} (h : c.isDigit = true ∨ c = '-') (hd : d.isDigit = false)
    (hminus : d ≠ '-') : c ≠ d := by
  rintro rfl
  rcases h with h | h
  · rw [h] at hd
    cases hd
  · exact hminus h

lemma OpensNumber.opens {s : List Char} (h : OpensNumber s) : Opens s := by
  obtain ⟨c, t, rfl, hc⟩ := h
  refine ⟨c, t, rfl, ?_, ne_of_opensNumber hc (by decide) (by decide)⟩
  unfold isSpace
  simp only [Bool.or_eq_false_iff, beq_eq_false_iff_ne]
  refine ⟨⟨⟨?_, ?_⟩, ?_⟩, ?_⟩ <;> exact ne_of_opensNumber hc (by decide) (by decide)

/-- Digits with a sign start as a number does. -/
lemma opensNumber_signed {whole part e : List Char} (h : Decimal.Written whole part e)
    (negative : Bool) : OpensNumber (Decimal.signed negative (whole ++ part ++ e)) := by
  cases negative with
  | true => exact ⟨'-', _, rfl, .inr rfl⟩
  | false =>
    obtain ⟨d, ds, rfl⟩ := List.exists_cons_of_ne_nil h.ne_nil
    exact ⟨d, _, rfl, .inl (h.isDigit d List.mem_cons_self)⟩

/-- A finite double is written as a number. -/
lemma number_spec {x : Float} (hx : x.isFinite = true) :
    number x = Decimal.text x ∧ OpensNumber (Decimal.text x) := by
  rw [← Decimal.isFinite_eq] at hx
  obtain ⟨⟨negative, s, v, htext, whole, part, e, hwritten, -, rfl, -⟩, -⟩ := Decimal.text_spec hx
  refine ⟨?_, htext ▸ opensNumber_signed hwritten negative⟩
  unfold number
  unfold Decimal.isFinite at hx
  split at hx
  · rename_i hdecode
    rw [hdecode]
  · cases hx

lemma opensNumber_ofInt (n : ℤ) : OpensNumber (ofInt n) := by
  have hdigits : ∀ m : ℕ, OpensNumber (ofNat m) := by
    intro m
    obtain ⟨d, ds, hds⟩ := List.exists_cons_of_ne_nil (ofNat_ne_nil m)
    exact ⟨d, ds, hds, .inl (isDigit_of_mem_ofNat (hds ▸ List.mem_cons_self))⟩
  cases n with
  | ofNat n => exact hdigits n
  | negSucc n => exact ⟨'-', _, rfl, .inr rfl⟩

/-- JSON data starts with a character of a value. -/
lemma opens_render {v : Value} (h : v.IsJson) : Opens (render v) := by
  have hknown := h.known
  cases v with
  | null => exact ⟨_, _, rfl, rfl, by decide⟩
  | bool b => cases b <;> exact ⟨_, _, rfl, rfl, by decide⟩
  | int n => exact (opensNumber_ofInt n).opens
  | float x =>
    obtain ⟨htext, hopens⟩ := number_spec (h.finite x List.mem_cons_self)
    rw [render, atom, htext]
    · exact hopens.opens
    all_goals simp
  | str s => exact ⟨'"', _, rfl, rfl, by decide⟩
  | pair a b => exact ⟨'[', _, rfl, rfl, by decide⟩
  | list items => exact ⟨'[', _, rfl, rfl, by decide⟩
  | map entries => exact ⟨'\x7b', _, rfl, rfl, by decide⟩
  | bytes | day | time | set | deep => cases hknown

/-! ## Reading -/

/-- White space in front of a value does not matter. -/
lemma value?_space (fuel : ℕ) (s : List Char) : value? fuel (' ' :: s) = value? fuel s := by
  cases fuel with
  | zero => rfl
  | succ fuel =>
    have hskip : skip (' ' :: s) = skip s := List.dropWhile_cons_of_pos rfl
    unfold value?
    rw [hskip]

/-- A text that starts as a number does is read as one. -/
lemma value?_number (fuel : ℕ) {s : List Char} (h : OpensNumber s) (rest : List Char) :
    value? (fuel + 1) (s ++ rest) = number? (s ++ rest) := by
  have hskip := h.opens.skip_append rest
  obtain ⟨c, t, rfl, hc⟩ := h
  rw [List.cons_append] at hskip ⊢
  unfold value?
  rw [hskip]
  have hne : ∀ {d : Char}, d.isDigit = false → d ≠ '-' → c ≠ d := ne_of_opensNumber hc
  split
  case h_7 => rfl
  all_goals
    rename_i heq
    exact absurd (List.cons.inj heq).1 (hne (by decide) (by decide))

/-- A value is read from its text as what JSON keeps of it, whatever follows and with fuel for the
length of the text. -/
def Reads (v : Value) : Prop :=
  ∀ ⦃fuel : ℕ⦄ ⦃rest : List Char⦄, Ends rest → 2 * (render v).length ≤ fuel + 1 →
    value? fuel (render v ++ rest) = some (kept v, rest)

/-- Values between brackets are read one after the other. -/
lemma items?_renderAll {vs : List Value} (hne : vs ≠ []) (h : ∀ v ∈ vs, v.IsJson ∧ Reads v)
    {fuel : ℕ} {rest : List Char}
    (hfuel : 2 * (joined [',', ' '] (renderAll vs)).length ≤ fuel) :
    items? fuel (joined [',', ' '] (renderAll vs) ++ ']' :: rest) = some (keptAll vs, rest) := by
  induction vs generalizing fuel with
  | nil => exact absurd rfl hne
  | cons v vs ih =>
    obtain ⟨⟨hjson, hreads⟩, hvs⟩ := List.forall_mem_cons.mp h
    have hpos := (opens_render hjson).length_pos
    cases vs with
    | nil =>
      change 2 * (render v).length ≤ fuel at hfuel
      obtain ⟨fuel, rfl⟩ : ∃ n, fuel = n + 1 := ⟨fuel - 1, by omega⟩
      change items? (fuel + 1) (render v ++ ']' :: rest) = some ([kept v], rest)
      have hends : Ends (']' :: rest) := by
        rintro c ⟨⟩
        decide
      rw [items?, hreads hends hfuel]
      rfl
    | cons w ws =>
      have hjoined : joined [',', ' '] (renderAll (v :: w :: ws)) =
          render v ++ ',' :: ' ' :: joined [',', ' '] (renderAll (w :: ws)) := by
        simp [renderAll, joined]
      rw [hjoined] at hfuel ⊢
      rw [List.length_append, List.length_cons, List.length_cons] at hfuel
      obtain ⟨fuel, rfl⟩ : ∃ n, fuel = n + 2 := ⟨fuel - 2, by omega⟩
      have hends : Ends
          (',' :: ' ' :: (joined [',', ' '] (renderAll (w :: ws)) ++ ']' :: rest)) := by
        rintro c ⟨⟩
        decide
      have htail : items? (fuel + 1) (joined [',', ' '] (renderAll (w :: ws)) ++ ']' :: rest) =
          some (keptAll (w :: ws), rest) := ih (List.cons_ne_nil _ _) hvs (by omega)
      have hspace : ∀ s, items? (fuel + 1) (' ' :: s) = items? (fuel + 1) s := by
        intro s
        rw [items?, items?, value?_space]
      rw [List.append_assoc, List.cons_append, List.cons_append, items?,
        hreads hends (by omega)]
      change (items? (fuel + 1) (' ' :: _)).map _ = _
      rw [hspace, htail]
      rfl

/-- A key is written in quotes. -/
lemma key_append (k : Value) (s : List Char) :
    key k ++ s = '"' :: ((keyText k).flatMap stringChar ++ '"' :: s) := by
  simp [key_eq, quoted]

/-- The last entry of a mapping is read. -/
lemma entries?_last (k : Value) {v : Value} {fuel : ℕ} {s rest : List Char}
    (h : value? fuel s = some (v, '\x7d' :: rest)) :
    entries? (fuel + 1) (key k ++ ':' :: ' ' :: s) =
      some ([(String.ofList (paired (keyText k)), v)], rest) := by
  have hquote : ∀ t, skip ('"' :: t) = '"' :: t := skip_cons rfl
  have hcolon : ∀ t, skip (':' :: t) = ':' :: t := skip_cons rfl
  have hbrace : ∀ t, skip ('\x7d' :: t) = '\x7d' :: t := skip_cons rfl
  rw [key_append, entries?]
  simp only [hquote, string?_quoted, hcolon, value?_space, h, hbrace]

/-- An entry of a mapping is read in front of others. -/
lemma entries?_next (k : Value) {v : Value} {fuel : ℕ} {s rest : List Char}
    (h : value? fuel s = some (v, ',' :: rest)) :
    entries? (fuel + 1) (key k ++ ':' :: ' ' :: s) =
      (entries? fuel rest).map fun read =>
        ((String.ofList (paired (keyText k)), v) :: read.1, read.2) := by
  have hquote : ∀ t, skip ('"' :: t) = '"' :: t := skip_cons rfl
  have hcolon : ∀ t, skip (':' :: t) = ':' :: t := skip_cons rfl
  have hcomma : ∀ t, skip (',' :: t) = ',' :: t := skip_cons rfl
  rw [key_append, entries?]
  simp only [hquote, string?_quoted, hcolon, value?_space, h, hcomma]

/-- Entries between brackets are read one after the other. -/
lemma entries?_renderEntries {entries : List (Value × Value)} (hne : entries ≠ [])
    (h : ∀ entry ∈ entries, Reads entry.2) {fuel : ℕ} {rest : List Char}
    (hfuel : 2 * (joined [',', ' '] (renderEntries entries)).length ≤ fuel) :
    entries? fuel (joined [',', ' '] (renderEntries entries) ++ '\x7d' :: rest) =
      some (keptEntries entries, rest) := by
  induction entries generalizing fuel with
  | nil => exact absurd rfl hne
  | cons entry entries ih =>
    obtain ⟨k, v⟩ := entry
    have hreads : Reads v := h _ List.mem_cons_self
    have hentries : ∀ entry ∈ entries, Reads entry.2 := fun entry hentry =>
      h entry (List.mem_cons_of_mem _ hentry)
    cases entries with
    | nil =>
      have hjoined : joined [',', ' '] (renderEntries [(k, v)]) = key k ++ ':' :: ' ' :: render v :=
        rfl
      rw [hjoined] at hfuel ⊢
      rw [List.length_append, List.length_cons, List.length_cons] at hfuel
      obtain ⟨fuel, rfl⟩ : ∃ n, fuel = n + 1 := ⟨fuel - 1, by omega⟩
      have hends : Ends ('\x7d' :: rest) := by
        rintro c ⟨⟩
        decide
      rw [List.append_assoc, List.cons_append, List.cons_append,
        entries?_last k (hreads hends (by omega))]
      rfl
    | cons entry' entries =>
      have hjoined : joined [',', ' '] (renderEntries ((k, v) :: entry' :: entries)) =
          key k ++ ':' :: ' ' :: (render v ++
            ',' :: ' ' :: joined [',', ' '] (renderEntries (entry' :: entries))) := by
        simp [renderEntries, joined]
      rw [hjoined] at hfuel ⊢
      simp only [List.length_append, List.length_cons] at hfuel
      obtain ⟨fuel, rfl⟩ : ∃ n, fuel = n + 2 := ⟨fuel - 2, by omega⟩
      have hends : Ends (',' :: ' ' ::
          (joined [',', ' '] (renderEntries (entry' :: entries)) ++ '\x7d' :: rest)) := by
        rintro c ⟨⟩
        decide
      have htail : entries? (fuel + 1)
          (joined [',', ' '] (renderEntries (entry' :: entries)) ++ '\x7d' :: rest) =
            some (keptEntries (entry' :: entries), rest) :=
        ih (List.cons_ne_nil _ _) hentries (by omega)
      have hspace : ∀ s, entries? (fuel + 1) (' ' :: s) = entries? (fuel + 1) s := by
        intro s
        have hskip : skip (' ' :: s) = skip s := List.dropWhile_cons_of_pos rfl
        rw [entries?, entries?, hskip]
      rw [List.append_assoc, List.cons_append, List.cons_append, List.append_assoc,
        List.cons_append, List.cons_append, entries?_next k (hreads hends (by omega)), hspace,
        htail]
      rfl

/-- A word in front of a text is read. -/
lemma word?_append (word : String) (v : Value) (rest : List Char) :
    word? word v (word.toList ++ rest) = some (v, rest) := by
  have hprefix : word.toList.isPrefixOf (word.toList ++ rest) = true :=
    List.isPrefixOf_iff_prefix.mpr (List.prefix_append _ _)
  rw [word?, if_pos hprefix, ← String.length_toList, List.drop_left]

/-- A list is read from what is inside it. -/
lemma value?_list {fuel : ℕ} {s rest : List Char} {vs : List Value} (hopens : Opens s)
    (h : items? fuel (s ++ ']' :: rest) = some (vs, rest)) :
    value? (fuel + 1) ('[' :: (s ++ ']' :: rest)) = some (.list vs, rest) := by
  have hbracket : ∀ t, skip ('[' :: t) = '[' :: t := skip_cons rfl
  rw [value?]
  simp only [hbracket, hopens.skip_append]
  obtain ⟨c, t, rfl, -, hc⟩ := hopens
  split
  · rename_i heq
    exact absurd (List.cons.inj heq).1 hc
  · rw [h]
    rfl

/-- A mapping is read from what is inside it. -/
lemma value?_map {fuel : ℕ} {s rest : List Char} {fields : List (String × Value)}
    (h : entries? fuel ('"' :: (s ++ '\x7d' :: rest)) = some (fields, rest)) :
    value? (fuel + 1) ('\x7b' :: '"' :: (s ++ '\x7d' :: rest)) =
      some (.record (Entries.putAll [] fields), rest) := by
  have hbrace : ∀ t, skip ('\x7b' :: t) = '\x7b' :: t := skip_cons rfl
  have hquote : ∀ t, skip ('"' :: t) = '"' :: t := skip_cons rfl
  rw [value?]
  simp only [hbrace, hquote, h]
  rfl

/-- Parts in a row start with the first one. -/
lemma joined_cons (sep p : List Char) (ps : List (List Char)) :
    ∃ rest, joined sep (p :: ps) = p ++ rest := by
  cases ps with
  | nil => exact ⟨[], (List.append_nil p).symm⟩
  | cons q ps => exact ⟨sep ++ joined sep (q :: ps), List.append_assoc _ _ _⟩

/-- The text of a value is not empty, so that there is fuel for the first call. -/
lemma Reads.of_succ {v : Value} (h : v.IsJson)
    (hread : ∀ ⦃fuel : ℕ⦄ ⦃rest : List Char⦄, Ends rest → 2 * (render v).length ≤ fuel + 2 →
      value? (fuel + 1) (render v ++ rest) = some (kept v, rest)) : Reads v := by
  intro fuel rest hends hfuel
  have hpos := (opens_render h).length_pos
  obtain ⟨fuel, rfl⟩ : ∃ n, fuel = n + 1 := ⟨fuel - 1, by omega⟩
  exact hread hends hfuel

/-- A double is read from its text. -/
lemma reads_float {x : Float} (h : (Value.float x).IsJson) : Reads (.float x) := by
  refine Reads.of_succ h fun fuel rest hends _ => ?_
  have hx := h.finite x List.mem_cons_self
  obtain ⟨htext, hopens⟩ := number_spec hx
  change value? (fuel + 1) (number x ++ rest) = some (.float x, rest)
  rw [htext, value?_number fuel hopens rest, number?_number hx hends]

/-- A text is read from its string. -/
lemma reads_str (s : String) : Reads (.str s) := by
  refine Reads.of_succ ⟨rfl, List.forall_mem_nil _⟩ fun fuel rest _ _ => ?_
  have hstring : render (.str s) ++ rest = '"' :: (s.toList.flatMap stringChar ++ '"' :: rest) := by
    simp [render, atom, quoted]
  have hquote : ∀ t, skip ('"' :: t) = '"' :: t := skip_cons rfl
  rw [hstring, value?]
  simp only [hquote, string?_quoted]
  rfl

/-- A list is read from its text if its items are. -/
lemma reads_list {items : List Value} (h : (Value.list items).IsJson)
    (hitems : ∀ v ∈ items, Reads v) : Reads (.list items) := by
  refine Reads.of_succ h fun fuel rest _ hfuel => ?_
  cases items with
  | nil => rfl
  | cons w ws =>
    have hlist : render (.list (w :: ws)) =
        '[' :: (joined [',', ' '] (renderAll (w :: ws)) ++ [']']) := rfl
    rw [hlist] at hfuel ⊢
    rw [List.length_cons, List.length_append] at hfuel
    rw [List.cons_append, List.append_assoc, List.singleton_append]
    apply value?_list
    · obtain ⟨tail, htail⟩ := joined_cons [',', ' '] (render w) (renderAll ws)
      rw [renderAll, htail]
      exact (opens_render (h.of_mem w List.mem_cons_self)).append tail
    · exact items?_renderAll (List.cons_ne_nil w ws) (fun u hu => ⟨h.of_mem u hu, hitems u hu⟩)
        (by omega)

/-- A pair is read from its text, as a list, if its parts are. -/
lemma reads_pair {a b : Value} (h : (Value.pair a b).IsJson) (ha : Reads a) (hb : Reads b) :
    Reads (.pair a b) :=
  reads_list h.list_of_pair (List.forall_mem_cons.mpr ⟨ha, List.forall_mem_singleton.mpr hb⟩)

/-- A mapping is read from its text if its values are. -/
lemma reads_map {entries : List (Value × Value)} (h : (Value.map entries).IsJson)
    (hvalues : ∀ entry ∈ entries, Reads entry.2) : Reads (.map entries) := by
  refine Reads.of_succ h fun fuel rest _ hfuel => ?_
  cases entries with
  | nil => rfl
  | cons entry entries =>
    obtain ⟨k, w⟩ := entry
    have hmap : render (.map ((k, w) :: entries)) =
        '\x7b' :: (joined [',', ' '] (renderEntries ((k, w) :: entries)) ++ ['\x7d']) := rfl
    obtain ⟨tail, htail⟩ : ∃ tail,
        joined [',', ' '] (renderEntries ((k, w) :: entries)) = '"' :: tail := by
      obtain ⟨tail, htail⟩ :=
        joined_cons [',', ' '] (key k ++ ':' :: ' ' :: render w) (renderEntries entries)
      rw [renderEntries, htail, key_eq]
      exact ⟨_, rfl⟩
    rw [hmap] at hfuel ⊢
    rw [List.length_cons, List.length_append] at hfuel
    have hentries : entries? fuel
        (joined [',', ' '] (renderEntries ((k, w) :: entries)) ++ '\x7d' :: rest) =
          some (keptEntries ((k, w) :: entries), rest) :=
      entries?_renderEntries (List.cons_ne_nil (k, w) entries) hvalues (by omega)
    rw [htail, List.cons_append] at hentries
    rw [htail, List.cons_append, List.cons_append, List.cons_append, List.append_assoc,
      List.singleton_append]
    exact value?_map hentries

mutual

/-- **JSON data is read from its text.** -/
theorem reads_render (v : Value) (h : v.IsJson) : Reads v := by
  match v, h with
  | .null, h => exact Reads.of_succ h fun _ _ _ _ => word?_append "null" .null _
  | .bool true, h => exact Reads.of_succ h fun _ _ _ _ => word?_append "true" (.bool true) _
  | .bool false, h => exact Reads.of_succ h fun _ _ _ _ => word?_append "false" (.bool false) _
  | .int n, h =>
    exact Reads.of_succ h fun _ _ hends _ =>
      (value?_number _ (opensNumber_ofInt n) _).trans (number?_ofInt n hends)
  | .float x, h => exact reads_float h
  | .str s, _ => exact reads_str s
  | .pair a b, h =>
    have ha := h.list_of_pair.of_mem a List.mem_cons_self
    have hb := h.list_of_pair.of_mem b (List.mem_cons_of_mem a List.mem_cons_self)
    exact reads_pair h (reads_render a ha) (reads_render b hb)
  | .list items, h => exact reads_list h (reads_of_mem items h.of_mem)
  | .map entries, h => exact reads_map h (reads_of_mem_entries entries h.of_mem_entries)
  | .bytes _, h | .day _, h | .time _, h | .set _, h | .deep, h => cases h.known
termination_by structural v

/-- The items of JSON data are read from their texts. -/
theorem reads_of_mem (items : List Value) (h : ∀ v ∈ items, v.IsJson) : ∀ v ∈ items, Reads v := by
  match items with
  | [] => exact fun v hv => absurd hv List.not_mem_nil
  | v :: vs =>
    obtain ⟨hv, hvs⟩ := List.forall_mem_cons.mp h
    exact List.forall_mem_cons.mpr ⟨reads_render v hv, reads_of_mem vs hvs⟩
termination_by structural items

/-- The values of entries of JSON data are read from their texts. -/
theorem reads_of_mem_entries (entries : List (Value × Value))
    (h : ∀ entry ∈ entries, entry.2.IsJson) : ∀ entry ∈ entries, Reads entry.2 := by
  match entries with
  | [] => exact fun entry hentry => absurd hentry List.not_mem_nil
  | (k, v) :: rest =>
    have hv : v.IsJson := h (k, v) List.mem_cons_self
    have hrest := reads_of_mem_entries rest fun entry hentry =>
      h entry (List.mem_cons_of_mem _ hentry)
    intro entry hentry
    rcases List.mem_cons.mp hentry with rfl | hentry
    · exact reads_render v hv
    · exact hrest entry hentry
termination_by structural entries

end

/-- **JSON data is read from a whole text.** -/
theorem read?_render {v : Value} (h : v.IsJson) : read? (render v) = some (kept v) := by
  have hends : Ends [] := by
    rintro c ⟨⟩
  have hread : value? (2 * (render v).length + 2) (render v ++ []) = some (kept v, []) :=
    reads_render v h hends (by omega)
  rw [List.append_nil] at hread
  rw [read?, hread]
  rfl

/-! ## Nothing lost -/

mutual

/-- JSON keeps all of a value: it holds no pairs, no halves meet in its texts, and the keys of its
mappings are texts that differ. -/
def Faithful : Value → Prop
  | .str s => Unpaired s.toList
  | .pair _ _ => False
  | .list items => FaithfulAll items
  | .map entries => (entries.map (·.1)).Nodup ∧ FaithfulEntries entries
  | _ => True

/-- JSON keeps all of some values. -/
def FaithfulAll : List Value → Prop
  | [] => True
  | v :: vs => Faithful v ∧ FaithfulAll vs

/-- JSON keeps all of some entries. -/
def FaithfulEntries : List (Value × Value) → Prop
  | [] => True
  | (.str k, v) :: rest => Unpaired k.toList ∧ Faithful v ∧ FaithfulEntries rest
  | _ :: _ => False

end

mutual

/-- A value of which JSON keeps all is kept. -/
theorem kept_eq_self (v : Value) (h : Faithful v) : kept v = v := by
  match v, h with
  | .str s, h =>
    have htext : paired s.toList = s.toList := paired_eq_self h
    rw [kept, htext, String.ofList_toList]
  | .list items, h => rw [kept, keptAll_eq_self items h]
  | .map entries, ⟨hkeys, h⟩ =>
    have hentries := keptEntries_eq_self entries h
    have hnodup : ((keptEntries entries).map (·.1)).Nodup := by
      rw [← hentries, List.map_map] at hkeys
      exact List.Nodup.of_map Value.str (by rwa [List.map_map])
    rw [kept, Entries.putAll_of_nodup (by rwa [List.nil_append]), List.nil_append, Value.record,
      hentries]
  | .pair _ _, h => exact h.elim
  | .null, _ | .bool _, _ | .int _, _ | .float _, _ | .bytes _, _ | .day _, _ | .time _, _
  | .set _, _ | .deep, _ => rfl
termination_by structural v

/-- Values of which JSON keeps all are kept. -/
theorem keptAll_eq_self (vs : List Value) (h : FaithfulAll vs) : keptAll vs = vs := by
  match vs, h with
  | [], _ => rfl
  | v :: vs, ⟨hv, hvs⟩ => rw [keptAll, kept_eq_self v hv, keptAll_eq_self vs hvs]
termination_by structural vs

/-- Entries of which JSON keeps all are kept. -/
theorem keptEntries_eq_self (entries : List (Value × Value)) (h : FaithfulEntries entries) :
    (keptEntries entries).map (fun (k, v) => (.str k, v)) = entries := by
  match entries, h with
  | [], _ => rfl
  | (.str k, v) :: rest, ⟨hk, hv, hrest⟩ =>
    have htext : paired k.toList = k.toList := paired_eq_self hk
    rw [keptEntries, keyText, htext, String.ofList_toList, kept_eq_self v hv, List.map_cons,
      keptEntries_eq_self rest hrest]
termination_by structural entries

end

/-- **JSON data is read back as it was** if JSON keeps all of it. -/
theorem read?_render_of_faithful {v : Value} (h : v.IsJson) (hkept : Faithful v) :
    read? (render v) = some v := by
  rw [read?_render h, kept_eq_self v hkept]

/-! ## One line -/

/-- A character of printable ASCII. -/
def Printable (c : Char) : Prop := 32 ≤ c.toNat ∧ c.toNat < 127

instance (c : Char) : Decidable (Printable c) :=
  inferInstanceAs (Decidable (32 ≤ c.toNat ∧ c.toNat < 127))

/-- The characters of a text are printable if each is found to be. -/
lemma printable_of_all {s : List Char} (h : (s.all fun c => decide (Printable c)) = true) :
    ∀ c ∈ s, Printable c :=
  List.all_iff_forall_prop.mp h

lemma printable_of_isDigit {c : Char} (h : c.isDigit = true) : Printable c := by
  simp only [Char.isDigit, Bool.and_eq_true, decide_eq_true_eq, ge_iff_le, UInt32.le_iff_toNat_le]
    at h
  have hlow : 48 ≤ c.toNat := h.1
  have hhigh : c.toNat ≤ 57 := h.2
  exact ⟨by omega, by omega⟩

lemma printable_of_mem_ofInt {n : ℤ} : ∀ c ∈ ofInt n, Printable c := by
  have hdigits : ∀ m : ℕ, ∀ c ∈ ofNat m, Printable c :=
    fun m c hc => printable_of_isDigit (isDigit_of_mem_ofNat hc)
  cases n with
  | ofNat n => exact hdigits n
  | negSucc n => exact List.forall_mem_cons.mpr ⟨by decide, hdigits _⟩

/-- A number as it is written is printable. -/
lemma printable_of_mem_signed {whole part e : List Char} (h : Decimal.Written whole part e)
    (negative : Bool) : ∀ c ∈ Decimal.signed negative (whole ++ part ++ e), Printable c := by
  have hpart : ∀ c ∈ part, Printable c := by
    cases h.places with
    | none => exact List.forall_mem_nil _
    | point hne hds =>
      exact List.forall_mem_cons.mpr ⟨by decide, fun c hc => printable_of_isDigit (hds c hc)⟩
  have he : ∀ c ∈ e, Printable c := by
    cases h.power with
    | none => exact List.forall_mem_nil _
    | some hsign hne hds =>
      refine List.forall_mem_cons.mpr ⟨by decide, List.forall_mem_cons.mpr ⟨?_, fun c hc =>
        printable_of_isDigit (hds c hc)⟩⟩
      rcases hsign with rfl | rfl <;> decide
  have hbody : ∀ c ∈ whole ++ part ++ e, Printable c :=
    List.forall_mem_append.mpr ⟨List.forall_mem_append.mpr
      ⟨fun c hc => printable_of_isDigit (h.isDigit c hc), hpart⟩, he⟩
  cases negative with
  | true => exact List.forall_mem_cons.mpr ⟨by decide, hbody⟩
  | false => exact hbody

lemma printable_of_mem_number {x : Float} : ∀ c ∈ number x, Printable c := by
  cases hx : x.isFinite with
  | true =>
    rw [(number_spec hx).1]
    obtain ⟨⟨negative, s, v, htext, whole, part, e, hwritten, -, rfl, -⟩, -⟩ :=
      Decimal.text_spec ((Decimal.isFinite_eq x).trans hx)
    rw [htext]
    exact printable_of_mem_signed hwritten negative
  | false =>
    have hnames : ∀ name ∈ ["NaN".toList, "Infinity".toList, "-Infinity".toList],
        (name.all fun c => decide (Printable c)) = true := by decide
    exact printable_of_all (hnames _ (number_of_not_finite hx))

/-- An escaped unit is printable. -/
lemma printable_of_mem_hex (count n : ℕ) : ∀ c ∈ hex count n, Printable c := by
  have hdigit : ∀ k < 16, Printable (Nat.digitChar k) := by decide
  induction count generalizing n with
  | zero => exact List.forall_mem_nil _
  | succ count ih =>
    exact List.forall_mem_append.mpr
      ⟨ih _, List.forall_mem_singleton.mpr (hdigit _ (Nat.mod_lt _ (by decide)))⟩

/-- What stands for a character in a string is printable. -/
lemma printable_of_mem_stringChar (a : Char) : ∀ c ∈ stringChar a, Printable c := by
  unfold stringChar
  split_ifs with hquote hback hfeed hreturn htab hbackspace hform hplain
  iterate 7 exact printable_of_all rfl
  · rw [Bool.and_eq_true, decide_eq_true_eq, decide_eq_true_eq] at hplain
    exact List.forall_mem_singleton.mpr hplain
  · rw [unitEscapes_eq]
    intro c hc
    obtain ⟨n, -, hc⟩ := List.mem_flatMap.mp hc
    have hunit : ∀ c ∈ '\\' :: 'u' :: hex 4 n, Printable c :=
      List.forall_mem_cons.mpr ⟨by decide, List.forall_mem_cons.mpr
        ⟨by decide, printable_of_mem_hex 4 n⟩⟩
    exact hunit c hc

lemma printable_of_mem_quoted (s : List Char) : ∀ c ∈ quoted s, Printable c := by
  refine List.forall_mem_cons.mpr ⟨by decide, List.forall_mem_append.mpr ⟨fun c hc => ?_, ?_⟩⟩
  · obtain ⟨a, -, hc⟩ := List.mem_flatMap.mp hc
    exact printable_of_mem_stringChar a c hc
  · exact List.forall_mem_singleton.mpr (by decide)

lemma printable_of_mem_atom (v : Value) : ∀ c ∈ atom v, Printable c := by
  cases v with
  | null => exact printable_of_all rfl
  | bool b => cases b <;> exact printable_of_all rfl
  | int n => exact printable_of_mem_ofInt
  | float x => exact printable_of_mem_number
  | str s => exact printable_of_mem_quoted _
  | bytes | day | time | pair | list | set | map | deep => exact List.forall_mem_nil _

lemma printable_of_mem_joined {parts : List (List Char)} (h : ∀ p ∈ parts, ∀ c ∈ p, Printable c) :
    ∀ c ∈ joined [',', ' '] parts, Printable c := by
  induction parts with
  | nil => exact List.forall_mem_nil _
  | cons p ps ih =>
    obtain ⟨hp, hps⟩ := List.forall_mem_cons.mp h
    cases ps with
    | nil => exact hp
    | cons q ps =>
      exact List.forall_mem_append.mpr
        ⟨List.forall_mem_append.mpr ⟨hp, printable_of_all rfl⟩, ih hps⟩

/-- What stands between two printable brackets is printable with them. -/
lemma printable_of_mem_brackets {opening closing : Char} {s : List Char} (ho : Printable opening)
    (hc : Printable closing) (hs : ∀ c ∈ s, Printable c) :
    ∀ c ∈ opening :: s ++ [closing], Printable c :=
  List.forall_mem_append.mpr ⟨List.forall_mem_cons.mpr ⟨ho, hs⟩, List.forall_mem_singleton.mpr hc⟩

mutual

/-- **The text of a value is printable ASCII**, whatever the value holds. -/
theorem printable_of_mem_render (v : Value) : ∀ c ∈ render v, Printable c := by
  match v with
  | .pair a b =>
    exact printable_of_mem_brackets (by decide) (by decide) (printable_of_mem_joined
      (List.forall_mem_cons.mpr ⟨printable_of_mem_render a,
        List.forall_mem_singleton.mpr (printable_of_mem_render b)⟩))
  | .list items =>
    exact printable_of_mem_brackets (by decide) (by decide)
      (printable_of_mem_joined (printable_of_mem_renderAll items))
  | .map entries =>
    exact printable_of_mem_brackets (by decide) (by decide)
      (printable_of_mem_joined (printable_of_mem_renderEntries entries))
  | .null => exact printable_of_mem_atom .null
  | .bool b => exact printable_of_mem_atom (.bool b)
  | .int n => exact printable_of_mem_atom (.int n)
  | .float x => exact printable_of_mem_atom (.float x)
  | .str s => exact printable_of_mem_atom (.str s)
  | .bytes data => exact printable_of_mem_atom (.bytes data)
  | .day d => exact printable_of_mem_atom (.day d)
  | .time t => exact printable_of_mem_atom (.time t)
  | .set items => exact printable_of_mem_atom (.set items)
  | .deep => exact printable_of_mem_atom .deep
termination_by structural v

/-- The texts of values are printable ASCII. -/
theorem printable_of_mem_renderAll (vs : List Value) :
    ∀ p ∈ renderAll vs, ∀ c ∈ p, Printable c := by
  match vs with
  | [] => exact List.forall_mem_nil _
  | v :: vs =>
    exact List.forall_mem_cons.mpr ⟨printable_of_mem_render v, printable_of_mem_renderAll vs⟩
termination_by structural vs

/-- The texts of entries are printable ASCII. -/
theorem printable_of_mem_renderEntries (entries : List (Value × Value)) :
    ∀ p ∈ renderEntries entries, ∀ c ∈ p, Printable c := by
  match entries with
  | [] => exact List.forall_mem_nil _
  | (k, v) :: rest =>
    have hkey : ∀ c ∈ key k, Printable c := key_eq k ▸ printable_of_mem_quoted _
    have hvalue : ∀ c ∈ ':' :: ' ' :: render v, Printable c :=
      List.forall_mem_cons.mpr ⟨by decide, List.forall_mem_cons.mpr
        ⟨by decide, printable_of_mem_render v⟩⟩
    exact List.forall_mem_cons.mpr
      ⟨List.forall_mem_append.mpr ⟨hkey, hvalue⟩, printable_of_mem_renderEntries rest⟩
termination_by structural entries

end

end Json

end Toolpath
