import Mathlib.Tactic.Lemma
import Toolpath.Config.File
import Toolpath.Proofs.Fields
import Toolpath.Proofs.ScalarKeys
/-!
# How deep settings are looked at

A document is looked at down to a depth, because a value may hold itself. Checks of settings look
no deeper than `Config.depth`: a check of a single value sees of one with parts only that it has
some, and each mapping around it takes one level more. So what a check makes of a document is what
it makes of the document down to any greater depth.

## Main definitions

* `Toolpath.Yaml.Graph.entriesTo` — the entries of a mapping down to a depth.
* `Toolpath.Yaml.Graph.Looks`, `LooksInto` — how deep a check of a value, or of the entries of a
  mapping, looks.

## Main results

* `Toolpath.Yaml.Graph.looks_sectionOf` — a section is looked at one level deeper than its fields.
* `Toolpath.Yaml.Graph.looksInto_settings` — how deep settings are looked at.
* `Toolpath.Yaml.Graph.looks_ofValue` — nothing below `Config.depth` matters.
-/

namespace Toolpath.Yaml.Graph

open Check

variable {α : Type} {g : Graph}

/-! ## Looking at values -/

/-- The entries of a mapping down to a depth. -/
def entriesTo (g : Graph) (depth : Nat) (entries : List (Nat × Nat)) : Entries :=
  entries.map fun (k, v) => (g.unfold depth k, g.unfold depth v)

/-- A check looks at values so deep: what lies deeper does not matter to it. -/
def Looks (g : Graph) (depth : Nat) (check : Value → α) : Prop :=
  ∀ n d d', depth ≤ d → depth ≤ d' → check (g.unfold d n) = check (g.unfold d' n)

/-- A check looks so deep at the keys and the values of a mapping whose keys are scalars. -/
def LooksInto (g : Graph) (depth : Nat) (check : Entries → α) : Prop :=
  ∀ entries : List (Nat × Nat), (∀ e ∈ entries, IsScalar g.pieces e.1) →
    ∀ d d', depth ≤ d → depth ≤ d' → check (g.entriesTo d entries) = check (g.entriesTo d' entries)

/-- A check that looks so deep looks deeper. -/
lemma Looks.mono {check : Value → α} {depth depth' : Nat} (h : g.Looks depth check)
    (hle : depth ≤ depth') : g.Looks depth' check :=
  fun n d d' hd hd' => h n d d' (Nat.le_trans hle hd) (Nat.le_trans hle hd')

/-- A scalar is the same at every depth. -/
lemma unfold_of_isScalar {n : Nat} (h : IsScalar g.pieces n) (d d' : Nat) :
    g.unfold d n = g.unfold d' n := by
  obtain ⟨key, hkey⟩ := h
  unfold Graph.unfold
  simp only [hkey]

/-- A check that sees of a value with parts only that it has some does not look into values. -/
lemma looks_single {check : Value → α} (depth : Nat)
    (hlist : ∀ items, check (.list items) = check .deep := by intro; rfl)
    (hset : ∀ items, check (.set items) = check .deep := by intro; rfl)
    (hmap : ∀ es, check (.map es) = check .deep := by intro; rfl) : g.Looks depth check := by
  have hsame (n d : Nat) (hn : ¬ IsScalar g.pieces n) : check (g.unfold d n) = check .deep := by
    unfold Graph.unfold
    split
    · rename_i key hkey
      exact absurd ⟨key, hkey⟩ hn
    · exact hlist _
    · exact hlist _
    · exact hset _
    · exact hmap _
    · rfl
  intro n d d' _ _
  by_cases hn : IsScalar g.pieces n
  · rw [unfold_of_isScalar hn d d']
  · rw [hsame n d hn, hsame n d' hn]

/-- A check that sees of a list or a set only whether it is empty looks into a value one level
deeper than into mappings. -/
lemma looks_succ {check : Value → α} {depth : Nat}
    (hlist : ∀ items items', items.isEmpty = items'.isEmpty →
      check (.list items) = check (.list items'))
    (hset : ∀ items items', items.isEmpty = items'.isEmpty →
      check (.set items) = check (.set items'))
    (hkeys : ScalarKeys g.pieces) (hmap : g.LooksInto depth fun es => check (.map es)) :
    g.Looks (depth + 1) check := by
  intro n d d' hd hd'
  obtain ⟨d, rfl⟩ : ∃ e, d = e + 1 := ⟨d - 1, by omega⟩
  obtain ⟨d', rfl⟩ : ∃ e, d' = e + 1 := ⟨d' - 1, by omega⟩
  unfold Graph.unfold
  rcases hpiece : g.pieces[n]? with _ | _ | _ | items | items | keys | entries <;> simp only
  · exact hlist _ _ (by simp)
  · exact hlist _ _ (by simp)
  · exact hset _ _ (by simp)
  · exact hmap entries (hkeys n entries hpiece) d d' (Nat.le_of_succ_le_succ hd)
      (Nat.le_of_succ_le_succ hd')

/-- A mapping of texts is looked at one level deep. -/
lemma looks_textMap (hkeys : ScalarKeys g.pieces) : g.Looks 1 textMap := by
  refine looks_succ (fun _ _ _ => rfl) (fun _ _ _ => rfl) hkeys
    fun entries hscalar d d' hd hd' => ?_
  refine congrArg (fun checks => (Checked.all checks).map (Toolpath.Entries.putAll [])) ?_
  rw [entriesTo, entriesTo, List.map_map, List.map_map]
  refine List.map_congr_left fun e he => ?_
  have hlooks : g.Looks 0 text := looks_single 0
  have hv : text (g.unfold d e.2) = text (g.unfold d' e.2) := hlooks e.2 d d' hd hd'
  simp only [Function.comp_apply, textEntry, unfold_of_isScalar (hscalar e he) d d', hv]

/-! ## Fields and sections -/

/-- What stands under a name is the same node at every depth. -/
lemma find?_entriesTo {entries : List (Nat × Nat)} (hscalar : ∀ e ∈ entries, IsScalar g.pieces e.1)
    (d d' : Nat) (name : String) :
    Option.Rel (fun v w => ∃ n, v = g.unfold d n ∧ w = g.unfold d' n)
      (find? (g.entriesTo d entries) name) (find? (g.entriesTo d' entries) name) := by
  induction entries with
  | nil => exact .none
  | cons e entries ih =>
    obtain ⟨k, n⟩ := e
    have hrest := ih fun e he => hscalar e (List.mem_cons_of_mem _ he)
    have hk : g.unfold d k = g.unfold d' k :=
      unfold_of_isScalar (hscalar (k, n) List.mem_cons_self) d d'
    simp only [entriesTo, List.map_cons] at hrest ⊢
    by_cases hname : g.unfold d' k = .str name
    · rw [hk, hname, find?_cons_self, find?_cons_self]
      exact .some ⟨n, rfl, rfl⟩
    · rw [hk, find?_cons_of_ne hname, find?_cons_of_ne hname]
      exact hrest

/-- A field is looked at as deep as its check looks. -/
lemma field_entriesTo {check : Value → Checked α} {depth d d' : Nat} (h : g.Looks depth check)
    {entries : List (Nat × Nat)} (hscalar : ∀ e ∈ entries, IsScalar g.pieces e.1) (hd : depth ≤ d)
    (hd' : depth ≤ d') (default : α) (names : List String) :
    field (g.entriesTo d entries) default check names =
      field (g.entriesTo d' entries) default check names := by
  refine field_congr fun name _ => ?_
  have hfind := find?_entriesTo hscalar d d' name
  generalize find? (g.entriesTo d entries) name = v,
    find? (g.entriesTo d' entries) name = w at hfind ⊢
  cases hfind with
  | none => exact .none
  | some hn =>
    obtain ⟨n, rfl, rfl⟩ := hn
    exact .some (h n d d' hd hd')

/-- **A section is looked at one level deeper** than its fields. -/
theorem looks_sectionOf (hkeys : ScalarKeys g.pieces) {check : Entries → Checked α} {depth : Nat}
    (h : g.LooksInto depth check) (name : String) : g.Looks (depth + 1) (sectionOf name check) :=
  looks_succ (fun _ _ _ => rfl) (fun _ _ _ => rfl) hkeys h

section Sections

variable (hkeys : ScalarKeys g.pieces)

include hkeys

/-- The headers are what is looked at deepest. -/
lemma looksInto_loaderSettings : g.LooksInto 1 LoaderSettings.check := by
  intro entries hscalar d d' hd hd'
  have htext : g.Looks 1 text := looks_single 1
  have htruth : g.Looks 1 truth := looks_single 1
  have hpositive : g.Looks 1 positive := looks_single 1
  have hencoding : g.Looks 1 encodingName := looks_single 1
  unfold LoaderSettings.check
  rw [field_entriesTo htext hscalar hd hd', field_entriesTo (looks_textMap hkeys) hscalar hd hd',
    field_entriesTo htruth hscalar hd hd', field_entriesTo hpositive hscalar hd hd',
    field_entriesTo hencoding hscalar hd hd']

omit hkeys in
/-- The fields are values without parts. -/
lemma looksInto_parserSettings : g.LooksInto 0 ParserSettings.check := by
  intro entries hscalar d d' hd hd'
  have htruth : g.Looks 0 truth := looks_single 0
  unfold ParserSettings.check
  rw [field_entriesTo htruth hscalar hd hd']

omit hkeys in
/-- The fields are values without parts. -/
lemma looksInto_logSettings : g.LooksInto 0 LogSettings.check := by
  intro entries hscalar d d' hd hd'
  have hlevel : g.Looks 0 levelName := looks_single 0
  have hfile : g.Looks 0 optionalText := looks_single 0
  have htruth : g.Looks 0 truth := looks_single 0
  unfold LogSettings.check
  rw [field_entriesTo hlevel hscalar hd hd', field_entriesTo hfile hscalar hd hd',
    field_entriesTo htruth hscalar hd hd', field_entriesTo htruth hscalar hd hd']

/-- **How deep settings are looked at**: sections, their fields, and the entries of those. -/
theorem looksInto_settings : g.LooksInto 2 Settings.check := by
  intro entries hscalar d d' hd hd'
  have hversion : g.Looks 2 versionText := looks_single 2
  have hloader := looks_sectionOf hkeys (looksInto_loaderSettings hkeys) "LoaderConfig"
  have hparser := (looks_sectionOf hkeys looksInto_parserSettings "ParserConfig").mono Nat.le.refl.step
  have hlog := (looks_sectionOf hkeys looksInto_logSettings "LoggingConfig").mono Nat.le.refl.step
  unfold Settings.check
  rw [field_entriesTo hversion hscalar hd hd', field_entriesTo hloader hscalar hd hd',
    field_entriesTo hparser hscalar hd hd', field_entriesTo hlog hscalar hd hd']

/-- Whether a value counts as something is seen at its first level. -/
lemma looks_isTrue : g.Looks 1 Value.isTrue := by
  refine looks_succ (fun items items' h => ?_) (fun items items' h => ?_) hkeys
    fun entries _ d d' _ _ => ?_
  · simp only [Value.isTrue, h]
  · simp only [Value.isTrue, h]
  · simp [Value.isTrue, entriesTo]

/-- **Nothing below `Config.depth` matters** to what the value of a file stands for. -/
theorem looks_ofValue (path : Files.FilePath) : g.Looks Config.depth (Config.ofValue path) := by
  refine looks_succ (fun _ _ _ => rfl) (fun _ _ _ => rfl) hkeys
    fun entries hscalar d d' hd hd' => ?_
  have hsame : (g.entriesTo d entries).map (·.1) = (g.entriesTo d' entries).map (·.1) := by
    rw [entriesTo, entriesTo, List.map_map, List.map_map]
    exact List.map_congr_left fun e he => unfold_of_isScalar (hscalar e he) d d'
  have htexts : (g.entriesTo d entries).all (Config.isText ·.1) =
      (g.entriesTo d' entries).all (Config.isText ·.1) := by
    simpa only [List.all_map, Function.comp_def] using congrArg (·.all Config.isText) hsame
  simp only [Config.ofValue, htexts, looksInto_settings hkeys entries hscalar d d' hd hd']

end Sections

end Toolpath.Yaml.Graph
