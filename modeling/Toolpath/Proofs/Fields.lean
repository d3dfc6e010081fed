import Mathlib.Data.List.Perm.Basic
import Mathlib.Data.Option.Basic
import Mathlib.Tactic.Lemma
import Toolpath.Config.Check
/-!
# Fields of settings

How checks of parts are put together, and what a field depends on: the value under the first of its
names that is there, and nothing else. So other keys and the order of the keys do not matter, and a
field that is sound has its default or a value that its check accepts.

## Main definitions

* `Toolpath.Check.names` — the texts among the keys of a mapping.
* `Toolpath.Check.Rearranged` — the same entries in any order, with more keys that are not known.

## Main results

* `Toolpath.Check.find?_eq_some_iff` — what stands under a name, where no name stands twice.
* `Toolpath.Check.field_congr` — a field depends on what stands under its names.
* `Toolpath.Check.find?_rearranged` — what stands under a known name does not depend on the others.
-/

namespace Toolpath

/-! ## Checks put together -/

namespace Checked

variable {α β : Type}

/-- A changed result is sound iff the result is. -/
lemma map_eq_sound_iff {f : α → β} {x : Checked α} {b : β} :
    f <$> x = .sound b ↔ ∃ a, x = .sound a ∧ f a = b := by
  cases x with
  | sound a => simp [Functor.map, map]
  | faulty issues => simp [Functor.map, map]

/-- Two checks put together are sound iff both are. -/
lemma seq_eq_sound_iff {f : Checked (α → β)} {x : Checked α} {b : β} :
    f <*> x = .sound b ↔ ∃ g a, f = .sound g ∧ x = .sound a ∧ g a = b := by
  cases f <;> cases x <;> simp [Seq.seq, both]

/-- A check that follows another is sound iff both are. -/
lemma andThen_eq_sound_iff {x : Checked α} {f : α → Checked β} {b : β} :
    x.andThen f = .sound b ↔ ∃ a, x = .sound a ∧ f a = .sound b := by
  cases x <;> simp [andThen]

/-- The place of issues does not matter to what is sound. -/
lemma under_eq_sound_iff {place : Value} {x : Checked α} {a : α} :
    x.under place = .sound a ↔ x = .sound a := by
  cases x <;> simp [under]

/-- Checks of several values are sound iff all are. -/
lemma all_eq_sound_iff {xs : List (Checked α)} {as : List α} :
    all xs = .sound as ↔ xs = as.map .sound := by
  induction xs generalizing as with
  | nil => cases as <;> simp [all]
  | cons x xs ih =>
    rw [all, seq_eq_sound_iff]
    constructor
    · rintro ⟨g, bs, hg, hbs, rfl⟩
      obtain ⟨b, rfl, rfl⟩ := map_eq_sound_iff.mp hg
      rw [ih.mp hbs]
      rfl
    · intro h
      obtain ⟨b, bs, rfl⟩ : ∃ b bs, as = b :: bs := by cases as <;> simp at h ⊢
      obtain ⟨rfl, hbs⟩ := List.cons.inj h
      exact ⟨List.cons b, bs, rfl, ih.mpr hbs, rfl⟩

end Checked

namespace Check

/-! ## Names of entries -/

/-- The texts among the keys of a mapping. -/
def names (es : Entries) : List String :=
  es.filterMap fun (k, _) => match k with
    | .str s => some s
    | _ => none

/-- A name is the key of an entry. -/
lemma mem_names_iff {es : Entries} {name : String} :
    name ∈ names es ↔ ∃ v, (.str name, v) ∈ es := by
  rw [names, List.mem_filterMap]
  constructor
  · rintro ⟨⟨k, v⟩, hmem, hk⟩
    cases k with
    | str s => exact ⟨v, by rwa [← Option.some.inj hk]⟩
    | _ => exact absurd hk (by simp)
  · rintro ⟨v, hmem⟩
    exact ⟨_, hmem, rfl⟩

/-- An entry is looked up by the text that its key is. -/
lemma isNamed_iff (e : Value × Value) (name : String) :
    (match e with
      | (k, _) => match k with
        | .str s => s == name
        | _ => false) = true ↔ e.1 = .str name := by
  obtain ⟨k, v⟩ := e
  cases k <;> simp

/-- The first entry with a name decides. -/
lemma find?_cons_self (name : String) (v : Value) (es : Entries) :
    find? ((.str name, v) :: es) name = some v := by simp [find?]

/-- An entry without the name is passed over. -/
lemma find?_cons_of_ne {k : Value} {name : String} (h : k ≠ .str name) (v : Value) (es : Entries) :
    find? ((k, v) :: es) name = find? es name := by
  rw [find?, List.find?_cons]
  split
  · rename_i hk
    exact absurd ((isNamed_iff (k, v) name).mp hk) h
  · rfl

/-- What stands under a name is the value of an entry. -/
lemma mem_of_find? {es : Entries} {name : String} {v : Value} (h : find? es name = some v) :
    (.str name, v) ∈ es := by
  obtain ⟨⟨k, w⟩, hfind, rfl⟩ := Option.map_eq_some_iff.mp h
  have hk := List.find?_some hfind
  obtain rfl : k = .str name := (isNamed_iff (k, w) name).mp hk
  exact List.mem_of_find?_eq_some hfind

/-- Something stands under the name of an entry. -/
lemma exists_find?_of_mem {es : Entries} {name : String} {v : Value} (h : (.str name, v) ∈ es) :
    ∃ w, find? es name = some w := by
  cases hfind : find? es name with
  | some w => exact ⟨w, rfl⟩
  | none =>
    have hnone := List.find?_eq_none.mp (Option.map_eq_none_iff.mp hfind) _ h
    exact absurd ((isNamed_iff (.str name, v) name).mpr rfl) hnone

/-- **What stands under a name**, where no name stands twice. -/
theorem find?_eq_some_iff {es : Entries} (h : (names es).Nodup) {name : String} {v : Value} :
    find? es name = some v ↔ (.str name, v) ∈ es := by
  refine ⟨mem_of_find?, fun hmem => ?_⟩
  induction es with
  | nil => exact absurd hmem List.not_mem_nil
  | cons e es ih =>
    obtain ⟨k, w⟩ := e
    by_cases hk : k = .str name
    · subst hk
      rw [find?_cons_self]
      rcases List.mem_cons.mp hmem with hmem | hmem
      · rw [(Prod.mk.inj hmem).2]
      · exact absurd (mem_names_iff.mpr ⟨v, hmem⟩) (List.nodup_cons.mp h).1
    · rw [find?_cons_of_ne hk]
      have hrest : (names es).Nodup := h.sublist ((List.sublist_cons_self _ es).filterMap _)
      refine ih hrest ((List.mem_cons.mp hmem).resolve_left fun hfirst => ?_)
      exact hk (Prod.mk.inj hfirst).1.symm

/-! ## Fields -/

variable {α : Type} {es es' : Entries}

/-- **A field depends on what stands under its names**, and on that as far as its check does. -/
theorem field_congr {default : α} {check : Value → Checked α} {known : List String}
    (h : ∀ name ∈ known,
      Option.Rel (fun v w => check v = check w) (find? es name) (find? es' name)) :
    field es default check known = field es' default check known := by
  induction known with
  | nil => rfl
  | cons name known ih =>
    have hrest := ih fun other hother => h other (List.mem_cons_of_mem name hother)
    have hname := h name List.mem_cons_self
    rw [field, field]
    cases hv : find? es name with
    | none =>
      rw [hv] at hname
      cases hw : find? es' name with
      | none => exact hrest
      | some w => rw [hw] at hname; cases hname
    | some v =>
      rw [hv] at hname
      cases hw : find? es' name with
      | none => rw [hw] at hname; cases hname
      | some w =>
        rw [hw] at hname
        cases hname with
        | some hcheck => simp only [hcheck]

/-- A sound field has its default, or what its check makes of a value. -/
lemma eq_default_or_of_field {default a : α} {check : Value → Checked α} {known : List String}
    (h : field es default check known = .sound a) : a = default ∨ ∃ v, check v = .sound a := by
  induction known with
  | nil => exact .inl (Checked.sound.inj h).symm
  | cons name known ih =>
    rw [field] at h
    cases hv : find? es name with
    | none =>
      rw [hv] at h
      exact ih h
    | some v =>
      rw [hv] at h
      exact .inr ⟨v, Checked.under_eq_sound_iff.mp h⟩

/-! ## Other keys -/

/-- The same entries, of which no two have the same name, in any order, and with more keys that are
not known. -/
def Rearranged (known : List String) (es es' : Entries) : Prop :=
  (names es).Nodup ∧ ∃ more : Entries, es'.Perm (es ++ more) ∧ ∀ name ∈ names more, name ∉ known

/-- **What stands under a known name** does not depend on other keys, nor on the order. -/
theorem find?_rearranged {known : List String} (h : Rearranged known es es') {name : String}
    (hname : name ∈ known) : find? es' name = find? es name := by
  obtain ⟨hnodup, more, hperm, hmore⟩ := h
  have hold : ∀ v, (.str name, v) ∈ es' ↔ (.str name, v) ∈ es := by
    intro v
    rw [hperm.mem_iff, List.mem_append, or_iff_left]
    exact fun hmem => hmore name (mem_names_iff.mpr ⟨v, hmem⟩) hname
  have hfind : ∀ v, find? es' name = some v → find? es name = some v := fun v hv =>
    (find?_eq_some_iff hnodup).mpr ((hold v).mp (mem_of_find? hv))
  cases hv' : find? es' name with
  | some v => exact (hfind v hv').symm
  | none =>
    cases hv : find? es name with
    | none => rfl
    | some v =>
      obtain ⟨w, hw⟩ := exists_find?_of_mem ((hold v).mpr (mem_of_find? hv))
      rw [hv'] at hw
      exact absurd hw (by simp)

end Check

end Toolpath
