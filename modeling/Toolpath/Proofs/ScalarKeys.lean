import Mathlib.Tactic.Lemma
import Toolpath.Yaml.Reader
/-!
# Scalars as keys

The keys of every mapping in a document are scalars. The builder finds this out of a key when it
puts the mapping together, and it stays true: what is known stays known, and a scalar stays one while
the parts of other nodes are filled in.

## Main definitions

* `Toolpath.Yaml.Graph.IsScalar`, `Graph.ScalarKeys` — scalars, and mappings with scalars as keys.
* `Toolpath.Yaml.Graph.Advance` — what the values of nodes before a step say about those after it.

## Main results

* `Toolpath.Yaml.Graph.fill_advance`, `fillAll_advance` — what the parts of one node, and of all
  nodes that wait, leave as it is.
* `Toolpath.Yaml.Graph.scalarKeys_ofDocument`, `Yaml.scalarKeys_read` — the keys of all mappings in
  a document, and in what a text stands for, are scalars.
-/

namespace Toolpath.Yaml

/-- What follows something else succeeds if both do. -/
lemma ok_of_bind {α β : Type} {x : Except Fault α} {f : α → Except Fault β} {b : β}
    (h : x >>= f = .ok b) : ∃ a, x = .ok a ∧ f a = .ok b := by
  cases x with
  | error fault => cases h
  | ok a => exact ⟨a, rfl, h⟩

namespace Graph

/-! ## Known values -/

/-- The values of nodes, as far as they are known. -/
abbrev Pieces := Array (Option Piece)

/-- Whether the value of a node is known. -/
def IsKnown (pieces : Pieces) (n : Nat) : Prop := ∃ piece, pieces[n]? = some (some piece)

/-- Whether the value of a node is known, and is a scalar. -/
def IsScalar (pieces : Pieces) (n : Nat) : Prop := ∃ key, pieces[n]? = some (some (.plain key))

/-- The keys of all mappings are scalars. -/
def ScalarKeys (pieces : Pieces) : Prop :=
  ∀ (n : Nat) entries, pieces[n]? = some (some (Piece.map entries)) →
    ∀ e ∈ entries, IsScalar pieces e.1

/-- What the values of nodes before a step say about those after it: what is known stays known, with
parts or without, and keys stay scalars. -/
structure Advance (old new : Pieces) : Prop where
  known : ∀ n, IsKnown old n → IsKnown new n ∧ (IsScalar new n ↔ IsScalar old n)
  keys : ScalarKeys old → ScalarKeys new

variable {old new pieces : Pieces}

/-- A scalar is known. -/
lemma IsScalar.known {n : Nat} (h : IsScalar pieces n) : IsKnown pieces n :=
  h.imp' Piece.plain fun _ => id

namespace Advance

/-- Nothing changes. -/
lemma refl (pieces : Pieces) : Advance pieces pieces := ⟨fun _ h => ⟨h, Iff.rfl⟩, id⟩

/-- One step follows another. -/
lemma trans {later : Pieces} (h : Advance old new) (h' : Advance new later) :
    Advance old later where
  known n hn :=
    have hnew := h.known n hn
    have hlater := h'.known n hnew.1
    ⟨hlater.1, hlater.2.trans hnew.2⟩
  keys := h'.keys ∘ h.keys

/-- A scalar stays one. -/
lemma scalar {n : Nat} (h : Advance old new) (hn : IsScalar old n) : IsScalar new n :=
  (h.known n hn.known).2.mpr hn

/-- A value is put where there was none, or parts where there were others. -/
lemma put {n : Nat} {piece : Piece}
    (hold : IsKnown pieces n → ¬ IsScalar pieces n ∧ ∀ key, piece ≠ .plain key)
    (hkeys : ∀ entries, piece = .map entries → ∀ e ∈ entries, IsScalar pieces e.1) :
    Advance pieces (pieces.setIfInBounds n (some piece)) := by
  have hother {m : Nat} (hm : m ≠ n) : (pieces.setIfInBounds n (some piece))[m]? = pieces[m]? := by
    rw [Array.getElem?_setIfInBounds_ne hm.symm]
  have hsame {q : Piece} (hq : (pieces.setIfInBounds n (some piece))[n]? = some (some q)) :
      q = piece := by
    rw [Array.getElem?_setIfInBounds_self] at hq
    split at hq
    · exact (Option.some.inj (Option.some.inj hq)).symm
    · exact absurd hq (by simp)
  have hknown (m : Nat) (hm : IsKnown pieces m) :
      IsKnown (pieces.setIfInBounds n (some piece)) m ∧
        (IsScalar (pieces.setIfInBounds n (some piece)) m ↔ IsScalar pieces m) := by
    by_cases hmn : m = n
    · subst hmn
      obtain ⟨hplain, hpiece⟩ := hold hm
      obtain ⟨old, hget⟩ := hm
      have hbound : m < pieces.size := (Array.getElem?_eq_some_iff.mp hget).1
      refine ⟨⟨piece, Array.getElem?_setIfInBounds_self_of_lt hbound⟩, iff_of_false ?_ hplain⟩
      rintro ⟨key, hkey⟩
      exact hpiece key (hsame hkey).symm
    · unfold IsKnown IsScalar
      rw [hother hmn]
      exact ⟨hm, Iff.rfl⟩
  refine ⟨hknown, fun hscalar m entries hget e he => ?_⟩
  have hbefore : IsScalar pieces e.1 := by
    by_cases hmn : m = n
    · subst hmn
      exact hkeys entries (hsame hget).symm e he
    · exact hscalar m entries (by rwa [hother hmn] at hget) e he
  exact (hknown e.1 hbefore.known).2.mpr hbefore

end Advance

/-! ## Steps that succeed -/

section Steps

variable {α β : Type} {s s' : Builder}

/-- A step after another succeeds if both do. -/
lemma bind_inv {x : Step α} {f : α → Step β} {b : β} (h : (x >>= f) s = .ok (b, s')) :
    ∃ a s₁, x s = .ok (a, s₁) ∧ f a s₁ = .ok (b, s') := by
  obtain ⟨p, hx, hf⟩ := ok_of_bind h
  exact ⟨p.1, p.2, hx, hf⟩

/-- A result changes nothing. -/
lemma pure_inv {a b : α} (h : (pure a : Step α) s = .ok (b, s')) : b = a ∧ s' = s := by
  cases h
  exact ⟨rfl, rfl⟩

/-- What was found outside changes nothing. -/
lemma lift_inv {x : Except Fault α} {a : α} (h : (liftM x : Step α) s = .ok (a, s')) :
    x = .ok a ∧ s' = s := by
  cases x with
  | error fault => cases h
  | ok b => cases h; exact ⟨rfl, rfl⟩

/-- A refusal is no success. -/
lemma refuse_inv {a : α} (h : (refuse : Step α) s = .ok (a, s')) : False := by cases h

/-! ## What steps leave as it is -/

/-- A value is put where there was none, or parts where there were others. -/
lemma put_advance {n : Nat} {piece : Piece} (h : put n piece s = .ok ((), s'))
    (hold : IsKnown s.pieces n → ¬ IsScalar s.pieces n ∧ ∀ key, piece ≠ .plain key)
    (hkeys : ∀ entries, piece = .map entries → ∀ e ∈ entries, IsScalar s.pieces e.1) :
    Advance s.pieces s'.pieces := by
  cases h
  exact Advance.put hold hkeys

/-- What a tag makes of a list or a mapping has no parts yet. -/
lemma eq_nil_of_hollow {tag : String} {entries : List (Nat × Nat)}
    (h : hollow? tag = some (.map entries)) : entries = [] := by
  unfold hollow? at h
  split at h
  · cases h
  split at h
  · cases h; rfl
  split at h
  · cases h
  split at h <;> cases h

/-- A node gets its value. -/
lemma build_advance {n : Nat} (h : build n s = .ok ((), s')) : Advance s.pieces s'.pieces := by
  obtain ⟨s, _, hget, h⟩ := bind_inv h
  cases hget
  rcases hfresh : s.pieces[n]? with _ | _ | piece <;> simp only [hfresh] at h
  · obtain ⟨-, rfl⟩ := pure_inv h
    exact Advance.refl _
  · have hold {piece : Piece} (hknown : IsKnown s.pieces n) :
        ¬ IsScalar s.pieces n ∧ ∀ key, piece ≠ .plain key := by
      obtain ⟨piece, hpiece⟩ := hknown
      exact absurd (hfresh.symm.trans hpiece) (by simp)
    cases hkind : Kind.ofTag? (s.document.tag n) with
    | some kind =>
      simp only [hkind] at h
      obtain ⟨key, s₁, hkey, hput⟩ := bind_inv h
      obtain ⟨-, rfl⟩ := lift_inv hkey
      exact put_advance hput hold (by simp)
    | none =>
      cases hpiece : hollow? (s.document.tag n) with
      | some piece =>
        simp only [hkind, hpiece] at h
        obtain ⟨⟨⟩, s₁, hput, hawait⟩ := bind_inv h
        have hadvance : Advance s.pieces s₁.pieces := by
          refine put_advance hput hold fun entries hmap e he => ?_
          subst hmap
          rw [eq_nil_of_hollow hpiece] at he
          exact absurd he List.not_mem_nil
        cases hawait
        exact hadvance
      | none =>
        simp only [hkind, hpiece] at h
        exact (refuse_inv h).elim
  · obtain ⟨-, rfl⟩ := pure_inv h
    exact Advance.refl _

/-- Nodes get their values. -/
lemma forM_build_advance {items : List Nat} (h : items.forM build s = .ok ((), s')) :
    Advance s.pieces s'.pieces := by
  induction items generalizing s with
  | nil =>
    obtain ⟨-, rfl⟩ := pure_inv h
    exact Advance.refl _
  | cons n items ih =>
    obtain ⟨_, s₁, hn, hitems⟩ := bind_inv h
    exact (build_advance hn).trans (ih hitems)

/-- Nodes that hold pairs give them. -/
lemma pairOf_advance {n : Nat} {pair : Nat × Nat} (h : pairOf n s = .ok (pair, s')) :
    Advance s.pieces s'.pieces := by
  obtain ⟨s, _, hget, h⟩ := bind_inv h
  cases hget
  generalize s.document.content n = content at h
  split at h
  · obtain ⟨_, s₁, hk, hrest⟩ := bind_inv h
    obtain ⟨_, s₂, hv, hpure⟩ := bind_inv hrest
    obtain ⟨-, rfl⟩ := pure_inv hpure
    exact (build_advance hk).trans (build_advance hv)
  · exact (refuse_inv h).elim

/-- A step for each of several things keeps what each step keeps, and each result has what a step
gives it and later steps leave alone. -/
lemma mapM_advance {step : α → Step β} {P : Pieces → β → Prop}
    (hstep : ∀ a b s s', step a s = .ok (b, s') → Advance s.pieces s'.pieces ∧ P s'.pieces b)
    (hlater : ∀ b old new, Advance old new → P old b → P new b) {as : List α} {bs : List β}
    (h : as.mapM step s = .ok (bs, s')) :
    Advance s.pieces s'.pieces ∧ ∀ b ∈ bs, P s'.pieces b := by
  induction as generalizing s bs with
  | nil =>
    obtain ⟨rfl, rfl⟩ := pure_inv h
    exact ⟨Advance.refl _, by simp⟩
  | cons a as ih =>
    rw [List.mapM_cons] at h
    obtain ⟨b, s₁, ha, h⟩ := bind_inv h
    obtain ⟨bs, s₂, has, h⟩ := bind_inv h
    obtain ⟨rfl, rfl⟩ := pure_inv h
    obtain ⟨hfirst, hb⟩ := hstep a b _ _ ha
    obtain ⟨hrest, hbs⟩ := ih has
    refine ⟨hfirst.trans hrest, ?_⟩
    rintro c (_ | ⟨_, hc⟩)
    · exact hlater _ _ _ hrest hb
    · exact hbs c hc

/-- An entry has the node of a key that is given, or of one that was there. -/
lemma mem_putEntry {entries : List (Key × Nat × Nat)} {key : Key} {k v : Nat}
    {e : Key × Nat × Nat} (h : e ∈ putEntry entries key k v) :
    e.2.1 = k ∨ ∃ e' ∈ entries, e.2.1 = e'.2.1 := by
  induction entries with
  | nil =>
    rw [putEntry, List.mem_singleton] at h
    exact .inl (by rw [h])
  | cons e' rest ih =>
    rw [putEntry] at h
    split at h
    · rcases List.mem_cons.mp h with rfl | h
      · exact .inr ⟨_, List.mem_cons_self, rfl⟩
      · exact .inr ⟨e, List.mem_cons_of_mem _ h, rfl⟩
    · rcases List.mem_cons.mp h with rfl | h
      · exact .inr ⟨_, List.mem_cons_self, rfl⟩
      · exact (ih h).imp_right fun ⟨e'', hmem, heq⟩ => ⟨e'', List.mem_cons_of_mem _ hmem, heq⟩

/-- Entries put one after the other have the nodes of the keys that are given. -/
lemma mem_foldl_putEntry {P : Nat → Prop} {given entries : List (Key × Nat × Nat)}
    (hgiven : ∀ e ∈ given, P e.2.1) (hentries : ∀ e ∈ entries, P e.2.1) :
    ∀ e ∈ given.foldl (fun es (key, k, v) => putEntry es key k v) entries, P e.2.1 := by
  induction given generalizing entries with
  | nil => exact hentries
  | cons e given ih =>
    refine ih (fun e' he' => hgiven e' (List.mem_cons_of_mem _ he')) fun e' he' => ?_
    rcases mem_putEntry he' with hk | ⟨e'', hmem, hk⟩
    · rw [hk]
      exact hgiven e List.mem_cons_self
    · rw [hk]
      exact hentries e'' hmem

/-- A node that is found to be a key is a scalar. -/
lemma isScalar_of_key {n : Nat} {key : Key} (h : key? s n = some key) : IsScalar s.pieces n := by
  unfold key? at h
  split at h
  · rename_i key' hget
    exact ⟨key', hget⟩
  · cases h

/-- The entries of a mapping have scalars as keys. -/
lemma buildEntries_advance {es entries : List (Nat × Nat)}
    (h : buildEntries es s = .ok (entries, s')) :
    Advance s.pieces s'.pieces ∧ ∀ e ∈ entries, IsScalar s'.pieces e.1 := by
  obtain ⟨keyed, s₁, hkeyed, h⟩ := bind_inv h
  obtain ⟨rfl, rfl⟩ := pure_inv h
  suffices hsteps : Advance s.pieces s'.pieces ∧ ∀ e ∈ keyed, IsScalar s'.pieces e.2.1 by
    refine ⟨hsteps.1, fun e he => ?_⟩
    obtain ⟨e', he', rfl⟩ := List.mem_map.mp he
    exact mem_foldl_putEntry (P := IsScalar s'.pieces) hsteps.2 (by simp) e' he'
  refine mapM_advance (P := fun pieces e => IsScalar pieces e.2.1) (fun ⟨k, v⟩ e s s' he => ?_)
    (fun e _ _ hadvance => hadvance.scalar (n := e.2.1)) hkeyed
  obtain ⟨_, s₁, hk, he⟩ := bind_inv he
  obtain ⟨_, _, hget, he⟩ := bind_inv he
  cases hget
  cases hkey : key? s₁ k with
  | none =>
    simp only [hkey] at he
    exact (refuse_inv he).elim
  | some key =>
    simp only [hkey] at he
    obtain ⟨_, s₂, hv, he⟩ := bind_inv he
    obtain ⟨rfl, rfl⟩ := pure_inv he
    exact ⟨(build_advance hk).trans (build_advance hv),
      (build_advance hv).scalar (isScalar_of_key hkey)⟩

/-- The entries of a node, merged ones too, have scalars as keys. -/
lemma entriesOf_advance {fuel n : Nat} {entries : List (Nat × Nat)}
    (h : entriesOf fuel n s = .ok (entries, s')) :
    Advance s.pieces s'.pieces ∧ ∀ e ∈ entries, IsScalar s'.pieces e.1 := by
  obtain ⟨s, _, hget, h⟩ := bind_inv h
  cases hget
  split at h
  · obtain ⟨_, _, hrefuse, -⟩ := bind_inv h
    exact (refuse_inv hrefuse).elim
  · obtain ⟨s, _, hget, hfollow⟩ := bind_inv h
    cases hget
    obtain ⟨d, _, hsettle, hrest⟩ := bind_inv hfollow
    obtain ⟨-, rfl⟩ := lift_inv hsettle
    obtain ⟨_, _, hmodify, hbuild⟩ := bind_inv hrest
    cases hmodify
    have hentries := buildEntries_advance hbuild
    exact hentries

/-- Parts are put in the place of a value that had none. -/
lemma put_after {n : Nat} {piece : Piece} {s₀ : Builder} (h : Advance s₀.pieces s.pieces)
    (hknown : IsKnown s₀.pieces n) (hscalar : ¬ IsScalar s₀.pieces n)
    (hput : put n piece s = .ok ((), s')) (hpiece : ∀ key, piece ≠ .plain key)
    (hkeys : ∀ entries, piece = .map entries → ∀ e ∈ entries, IsScalar s.pieces e.1) :
    Advance s₀.pieces s'.pieces :=
  h.trans (put_advance hput (fun _ => ⟨mt (h.known n hknown).2.mp hscalar, hpiece⟩) hkeys)

/-- **The parts of a node** leave what is known as it is. -/
theorem fill_advance {fuel n : Nat} (h : fill fuel n s = .ok ((), s')) :
    Advance s.pieces s'.pieces := by
  obtain ⟨s, _, hget, h⟩ := bind_inv h
  cases hget
  rcases hpiece : s.pieces[n]? with _ | _ | piece <;> simp only [hpiece] at h
  · exact (refuse_inv h).elim
  · exact (refuse_inv h).elim
  · have hknown : IsKnown s.pieces n := ⟨piece, hpiece⟩
    have hscalar (hhollow : ∀ key, piece ≠ .plain key) : ¬ IsScalar s.pieces n := by
      rintro ⟨key, hkey⟩
      exact hhollow key (Option.some.inj (Option.some.inj (hpiece.symm.trans hkey)))
    cases piece with
    | plain key => exact (refuse_inv h).elim
    | list items =>
      cases hcontent : s.document.content n with
      | list items =>
        simp only [hcontent] at h
        obtain ⟨_, s₁, hitems, hput⟩ := bind_inv h
        have hadvance := forM_build_advance hitems
        exact put_after hadvance hknown (hscalar (by simp)) hput (by simp) (by simp)
      | _ =>
        simp only [hcontent] at h
        exact (refuse_inv h).elim
    | pairs items =>
      cases hcontent : s.document.content n with
      | list items =>
        simp only [hcontent] at h
        obtain ⟨pairs, s₁, hpairs, hput⟩ := bind_inv h
        have hadvance := (mapM_advance (P := fun _ _ => True)
          (fun _ _ _ _ hpair => ⟨pairOf_advance hpair, trivial⟩) (by simp) hpairs).1
        exact put_after hadvance hknown (hscalar (by simp)) hput (by simp) (by simp)
      | _ =>
        simp only [hcontent] at h
        exact (refuse_inv h).elim
    | set keys =>
      obtain ⟨entries, s₁, hentries, hput⟩ := bind_inv h
      have hadvance := (entriesOf_advance hentries).1
      exact put_after hadvance hknown (hscalar (by simp)) hput (by simp) (by simp)
    | map old =>
      obtain ⟨entries, s₁, hentries, hput⟩ := bind_inv h
      obtain ⟨hadvance, hkeys⟩ := entriesOf_advance hentries
      refine put_after hadvance hknown (hscalar (by simp)) hput (by simp) fun entries' heq => ?_
      cases heq
      exact hkeys

/-- **The parts of all nodes that wait** leave what is known as it is. -/
theorem fillAll_advance {mergeFuel fuel place : Nat}
    (h : fillAll mergeFuel fuel place s = .ok ((), s')) : Advance s.pieces s'.pieces := by
  induction fuel generalizing place s with
  | zero =>
    obtain ⟨-, rfl⟩ := pure_inv h
    exact Advance.refl _
  | succ fuel ih =>
    obtain ⟨s, _, hget, h⟩ := bind_inv h
    cases hget
    cases hwaiting : s.waiting[place]? with
    | none =>
      simp only [hwaiting] at h
      obtain ⟨-, rfl⟩ := pure_inv h
      exact Advance.refl _
    | some n =>
      simp only [hwaiting] at h
      obtain ⟨_, s₁, hfill, hrest⟩ := bind_inv h
      exact (fill_advance hfill).trans (ih hrest)

end Steps

/-- **The keys of all mappings in a document are scalars.** -/
theorem scalarKeys_ofDocument {d : Document} {g : Graph} (h : ofDocument d = .ok g) :
    ScalarKeys g.pieces := by
  have hstart : ScalarKeys (Array.replicate d.nodes.size none) := by
    intro n entries hmap
    rw [Array.getElem?_replicate] at hmap
    split at hmap <;> simp at hmap
  obtain ⟨r, hsteps, hg⟩ := ok_of_bind h
  obtain ⟨_, s, hbuild, hfill⟩ := bind_inv hsteps
  cases hg
  exact ((build_advance hbuild).trans (fillAll_advance hfill)).keys hstart

end Graph

/-- In what a text stands for, the keys of all mappings are scalars. -/
lemma scalarKeys_read {s : List Char} {g : Graph} (h : read s = .ok (some g)) :
    Graph.ScalarKeys g.pieces := by
  simp only [read] at h
  split at h
  · cases h
  · obtain ⟨d?, -, hd⟩ := ok_of_bind h
    cases d? with
    | none => cases hd
    | some d =>
      obtain ⟨g', hgraph, hg⟩ := ok_of_bind hd
      cases hg
      exact Graph.scalarKeys_ofDocument hgraph

end Toolpath.Yaml
