import Mathlib.Data.List.Forall2
import Mathlib.Data.List.Nodup
import Toolpath.Proofs.Fields
/-!
# Settings in normal form

What a mapping is accepted as is in a normal form: the timeout is a number above zero, the level
and the encoding have known names, and no header stands twice. Settings in normal form are accepted
as they are, so that settings written as a mapping are read back. Other keys next to the known ones,
and the order of the keys, do not matter.

## Main definitions

* `Toolpath.LoaderSettings.Normal` — the normal form of the settings that need one.
* `Toolpath.Settings.Rearranged` — settings with other keys besides, and all keys in any order.

## Main results

* `Toolpath.LoaderSettings.normal_of_check` — what is accepted is in normal form.
* `Toolpath.LoaderSettings.check_value` — settings in normal form are read back.
* `Toolpath.Settings.check_rearranged` — other keys and the order of keys do not matter.
* `Toolpath.Settings.normal_of_accepted` — all this for whatever mapping is accepted.
-/

namespace Toolpath

open Check

/-! ## Entries without repeated keys -/

namespace Entries

variable {κ ν : Type} [DecidableEq κ] {entries new : List (κ × ν)}

/-- A new key goes to the end. -/
lemma put_of_not_mem {key : κ} (h : key ∉ entries.map (·.1)) (value : ν) :
    put entries key value = entries ++ [(key, value)] := by
  unfold put
  induction entries with
  | nil => rfl
  | cons e entries ih =>
    obtain ⟨k, v⟩ := e
    rw [List.map_cons, List.mem_cons, not_or] at h
    rw [alter, if_neg (Ne.symm h.1), ih h.2]
    rfl

/-- Storing keeps keys apart. -/
lemma nodup_put (h : (entries.map (·.1)).Nodup) (key : κ) (value : ν) :
    ((put entries key value).map (·.1)).Nodup := by
  rw [put, keys_alter]
  split
  · exact h
  · rename_i hkey
    exact List.nodup_append.mpr ⟨h, List.nodup_singleton key, by
      rintro k hk _ hmem rfl
      exact hkey (List.mem_singleton.mp hmem ▸ hk)⟩

/-- Entries put one after the other keep keys apart. -/
lemma nodup_putAll (h : (entries.map (·.1)).Nodup) (new : List (κ × ν)) :
    ((putAll entries new).map (·.1)).Nodup := by
  induction new generalizing entries with
  | nil => exact h
  | cons e new ih => exact ih (nodup_put h e.1 e.2)

/-- Entries whose keys are apart are put one behind the other. -/
lemma putAll_of_nodup (h : ((entries ++ new).map (·.1)).Nodup) :
    putAll entries new = entries ++ new := by
  induction new generalizing entries with
  | nil => exact (List.append_nil entries).symm
  | cons e new ih =>
    have hkey : e.1 ∉ entries.map (·.1) := by
      rw [List.map_append, List.map_cons] at h
      exact fun hmem => (List.nodup_append.mp h).2.2 _ hmem _ List.mem_cons_self rfl
    have hput : putAll entries (e :: new) = putAll (put entries e.1 e.2) new := rfl
    rw [hput, put_of_not_mem hkey, ih (by simpa using h), List.append_assoc]
    rfl

end Entries

/-! ## Checks of single values -/

namespace Check

/-- A number above zero is what its check lets through. -/
lemma pos_of_positive {v : Value} {x : Float} (h : positive v = .sound x) : 0.0 < x := by
  obtain ⟨y, -, hy⟩ := Checked.andThen_eq_sound_iff.mp h
  by_cases hpos : 0.0 < y
  · rw [if_pos hpos] at hy
    exact Checked.sound.inj hy ▸ hpos
  · rw [if_neg hpos] at hy
    exact absurd hy (by simp [Checked.complain])

/-- The name of an encoding is what its check lets through. -/
lemma encodingName_eq_sound_iff {v : Value} {s : String} :
    encodingName v = .sound s ↔
      text v = .sound s ∧ Encoding.nameFault? s = none ∧ Encoding.isKnown s = true := by
  rw [encodingName, Checked.andThen_eq_sound_iff]
  constructor
  · rintro ⟨t, ht, hname⟩
    cases hfault : Encoding.nameFault? t with
    | some fault =>
      rw [hfault] at hname
      exact absurd hname (by simp [Checked.complain])
    | none =>
      rw [hfault] at hname
      by_cases hknown : Encoding.isKnown t = true
      · obtain rfl : t = s := by simpa [hknown] using hname
        exact ⟨ht, hfault, hknown⟩
      · exact absurd hname (by simp [hknown, Checked.complain])
  · rintro ⟨ht, hfault, hknown⟩
    exact ⟨s, ht, by simp [hfault, hknown]⟩

/-- The keys of a mapping of texts are apart. -/
lemma nodup_of_textMap {v : Value} {headers : List (String × String)}
    (h : textMap v = .sound headers) : (headers.map (·.1)).Nodup := by
  cases v with
  | map es =>
    obtain ⟨new, -, rfl⟩ := Checked.map_eq_sound_iff.mp h
    have hnil : (([] : List (String × String)).map (·.1)).Nodup := List.nodup_nil
    exact Entries.nodup_putAll hnil new
  | _ => exact absurd h (by simp [textMap, Checked.complain])

/-- Texts under keys that are apart are read back. -/
lemma textMap_record {headers : List (String × String)} (h : (headers.map (·.1)).Nodup) :
    textMap (.record (headers.map fun (k, v) => (k, .str v))) = .sound headers := by
  refine Checked.map_eq_sound_iff.mpr ⟨headers, ?_, Entries.putAll_of_nodup (by simpa using h)⟩
  rw [Checked.all_eq_sound_iff, List.map_map, List.map_map]
  rfl

/-- The name of a level is read back. -/
lemma levelName_name (l : Log.Level) : levelName (.str l.name) = .sound l := by
  have hupper : Log.Level.ofName? (String.ofList (Text.upper l.name.toList)) = some l := by
    cases l <;> decide +kernel
  have htext : text (.str l.name) = .sound l.name := rfl
  simp only [levelName, htext, Checked.andThen, hupper]

/-- A text that may be left out is read back. -/
lemma optionalText_elim (s : Option String) : optionalText (s.elim .null .str) = .sound s := by
  cases s <;> rfl

/-- A field that is there is sound if its value is. -/
lemma field_of_find? {α : Type} {es : Entries} {name : String} {v : Value} {a default : α}
    {check : Value → Checked α} {more : List String} (hfind : find? es name = some v)
    (hcheck : check v = .sound a) : field es default check (name :: more) = .sound a := by
  simp only [field, hfind, hcheck, Checked.under]

/-- A name that is not there leaves a field to its other names. -/
lemma field_of_find?_eq_none {α : Type} {es : Entries} {name : String} {default : α}
    {check : Value → Checked α} {more : List String} (hfind : find? es name = none) :
    field es default check (name :: more) = field es default check more := by
  simp only [field, hfind]

/-- A section is sound iff it is a mapping that its check accepts. -/
lemma sectionOf_eq_sound_iff {α : Type} {kind : String} {check : Entries → Checked α} {v : Value}
    {a : α} : sectionOf kind check v = .sound a ↔ ∃ es, v = .map es ∧ check es = .sound a := by
  cases v <;> simp [sectionOf, Checked.complain]

/-- What stands under a name in a mapping with names as keys. -/
lemma find?_record (fields : List (String × Value)) (name : String) :
    find? (fields.map fun (k, v) => (.str k, v)) name = Entries.find? fields name := by
  induction fields with
  | nil => rfl
  | cons e fields ih =>
    obtain ⟨k, v⟩ := e
    rw [List.map_cons, Entries.find?_cons]
    by_cases hk : k = name
    · rw [if_pos hk, hk, find?_cons_self]
    · rw [if_neg hk, ← ih]
      exact find?_cons_of_ne (fun h => hk (Value.str.inj h)) v _

end Check

/-! ## Numbers -/

/-- What is above a number is a number. -/
lemma isNaN_eq_false_of_lt {x y : Float} (h : x < y) : y.isNaN = false := by
  have hlt : (x.toModel.unpack.compare y.toModel.unpack == some .lt) = true := of_decide_eq_true h
  show y.toModel.unpack.isNaN = false
  cases hy : y.toModel.unpack with
  | notANumber =>
    rw [hy] at hlt
    cases hx : x.toModel.unpack <;> rw [hx] at hlt <;> exact absurd hlt Bool.false_ne_true
  | _ => rfl

/-! ## Normal forms -/

/-- The normal form of the settings that need one. -/
structure LoaderSettings.Normal (s : LoaderSettings) : Prop where
  timeout : 0.0 < s.timeout
  encoding : encodingName (.str s.encoding) = .sound s.encoding
  headers : (s.headers.map (·.1)).Nodup

/-- A section is sound iff its fields are. -/
lemma LoaderSettings.check_eq_sound_iff {es : Entries} {s : LoaderSettings} :
    LoaderSettings.check es = .sound s ↔
      field es "" text ["base_path"] = .sound s.basePath ∧
      field es [] textMap ["request_headers"] = .sound s.headers ∧
      field es false truth ["with_credentials"] = .sound s.withCredentials ∧
      field es 30.0 positive ["timeout_s"] = .sound s.timeout ∧
      field es "utf-8" encodingName ["encoding"] = .sound s.encoding := by
  unfold LoaderSettings.check
  constructor
  · intro h
    obtain ⟨_, encoding, h₁, hencoding, rfl⟩ := Checked.seq_eq_sound_iff.mp h
    obtain ⟨_, timeout, h₂, htimeout, rfl⟩ := Checked.seq_eq_sound_iff.mp h₁
    obtain ⟨_, credentials, h₃, hcredentials, rfl⟩ := Checked.seq_eq_sound_iff.mp h₂
    obtain ⟨_, headers, h₄, hheaders, rfl⟩ := Checked.seq_eq_sound_iff.mp h₃
    obtain ⟨basePath, hbasePath, rfl⟩ := Checked.map_eq_sound_iff.mp h₄
    exact ⟨hbasePath, hheaders, hcredentials, htimeout, hencoding⟩
  · rintro ⟨hbasePath, hheaders, hcredentials, htimeout, hencoding⟩
    rw [hbasePath, hheaders, hcredentials, htimeout, hencoding]
    rfl

/-- **What is accepted is in normal form.** -/
theorem LoaderSettings.normal_of_check {es : Entries} {s : LoaderSettings}
    (h : LoaderSettings.check es = .sound s) : s.Normal := by
  obtain ⟨-, hheaders, -, htimeout, hencoding⟩ := LoaderSettings.check_eq_sound_iff.mp h
  constructor
  · rcases eq_default_or_of_field htimeout with hdefault | ⟨v, hv⟩
    · rw [hdefault]
      exact (by decide +kernel : (0.0 : Float) < 30.0)
    · exact pos_of_positive hv
  · rw [encodingName_eq_sound_iff]
    rcases eq_default_or_of_field hencoding with hdefault | ⟨v, hv⟩
    · rw [hdefault]
      exact ⟨rfl, by decide +kernel, by decide +kernel⟩
    · exact ⟨rfl, (encodingName_eq_sound_iff.mp hv).2⟩
  · rcases eq_default_or_of_field hheaders with hdefault | ⟨v, hv⟩
    · rw [hdefault]
      exact List.nodup_nil
    · exact nodup_of_textMap hv

/-- **Settings in normal form are read back** from the mapping that they are written as. -/
theorem LoaderSettings.check_value {s : LoaderSettings} (h : s.Normal) :
    ∃ es, s.value = .map es ∧ LoaderSettings.check es = .sound s := by
  have hpositive : positive (.float s.timeout) = .sound s.timeout := if_pos h.timeout
  refine ⟨_, rfl, LoaderSettings.check_eq_sound_iff.mpr ⟨?_, ?_, ?_, ?_, ?_⟩⟩
  · exact field_of_find? (find?_record _ _) rfl
  · exact field_of_find? (find?_record _ _) (textMap_record h.headers)
  · exact field_of_find? (find?_record _ _) rfl
  · exact field_of_find? (find?_record _ _) hpositive
  · exact field_of_find? (find?_record _ _) h.encoding

/-- Settings of the interpreter are read back. -/
lemma ParserSettings.check_value (s : ParserSettings) :
    ∃ es, s.value = .map es ∧ ParserSettings.check es = .sound s :=
  ⟨_, rfl, Checked.map_eq_sound_iff.mpr ⟨_, field_of_find? (find?_record _ _) rfl, rfl⟩⟩

/-- A section is sound iff its fields are. -/
lemma LogSettings.check_eq_sound_iff {es : Entries} {s : LogSettings} :
    LogSettings.check es = .sound s ↔
      field es .info levelName ["level"] = .sound s.level ∧
      field es none optionalText ["file"] = .sound s.file ∧
      field es false truth ["json", "json_lines"] = .sound s.jsonLines ∧
      field es true truth ["color"] = .sound s.color := by
  unfold LogSettings.check
  constructor
  · intro h
    obtain ⟨_, color, h₁, hcolor, rfl⟩ := Checked.seq_eq_sound_iff.mp h
    obtain ⟨_, jsonLines, h₂, hjsonLines, rfl⟩ := Checked.seq_eq_sound_iff.mp h₁
    obtain ⟨_, file, h₃, hfile, rfl⟩ := Checked.seq_eq_sound_iff.mp h₂
    obtain ⟨level, hlevel, rfl⟩ := Checked.map_eq_sound_iff.mp h₃
    exact ⟨hlevel, hfile, hjsonLines, hcolor⟩
  · rintro ⟨hlevel, hfile, hjsonLines, hcolor⟩
    rw [hlevel, hfile, hjsonLines, hcolor]
    rfl

/-- Settings of the log are read back. -/
lemma LogSettings.check_value (s : LogSettings) :
    ∃ es, s.value = .map es ∧ LogSettings.check es = .sound s := by
  refine ⟨_, rfl, LogSettings.check_eq_sound_iff.mpr ⟨?_, ?_, ?_, ?_⟩⟩
  · exact field_of_find? (find?_record _ _) (levelName_name s.level)
  · exact field_of_find? (find?_record _ _) (optionalText_elim s.file)
  · rw [field_of_find?_eq_none (find?_record _ _)]
    exact field_of_find? (find?_record _ _) rfl
  · exact field_of_find? (find?_record _ _) rfl

/-- Settings are sound iff their version and their sections are. -/
lemma Settings.check_eq_sound_iff {es : Entries} {s : Settings} :
    Settings.check es = .sound s ↔
      field es () versionText ["schema", "schema_version"] = .sound () ∧
      field es {} (sectionOf "LoaderConfig" LoaderSettings.check) ["loader"] = .sound s.loader ∧
      field es {} (sectionOf "ParserConfig" ParserSettings.check) ["parser"] = .sound s.parser ∧
      field es {} (sectionOf "LoggingConfig" LogSettings.check) ["logging"] = .sound s.log := by
  unfold Settings.check
  constructor
  · intro h
    obtain ⟨_, log, h₁, hlog, rfl⟩ := Checked.seq_eq_sound_iff.mp h
    obtain ⟨_, parser, h₂, hparser, rfl⟩ := Checked.seq_eq_sound_iff.mp h₁
    obtain ⟨_, loader, h₃, hloader, rfl⟩ := Checked.seq_eq_sound_iff.mp h₂
    obtain ⟨_, hversion, rfl⟩ := Checked.map_eq_sound_iff.mp h₃
    exact ⟨hversion, hloader, hparser, hlog⟩
  · rintro ⟨hversion, hloader, hparser, hlog⟩
    rw [hversion, hloader, hparser, hlog]
    rfl

/-- The settings that are accepted fetch documents in normal form. -/
lemma Settings.normal_of_check {es : Entries} {s : Settings} (h : Settings.check es = .sound s) :
    s.loader.Normal := by
  obtain ⟨-, hloader, -, -⟩ := Settings.check_eq_sound_iff.mp h
  rcases eq_default_or_of_field hloader with hdefault | ⟨v, hv⟩
  · rw [hdefault]
    exact LoaderSettings.normal_of_check (show LoaderSettings.check [] = .sound {} from rfl)
  · obtain ⟨section', -, hsection⟩ := sectionOf_eq_sound_iff.mp hv
    exact LoaderSettings.normal_of_check hsection

/-- **Settings in normal form are read back** with their version. -/
theorem Settings.check_value {s : Settings} (h : s.loader.Normal) :
    ∃ es, s.value = .map es ∧ find? es "schema_version" = some (.str Settings.version) ∧
      Settings.check es = .sound s := by
  have hversion : versionText (.str Settings.version) = .sound () := rfl
  refine ⟨_, rfl, find?_record _ _, Settings.check_eq_sound_iff.mpr ⟨?_, ?_, ?_, ?_⟩⟩
  · rw [field_of_find?_eq_none (find?_record _ _)]
    exact field_of_find? (find?_record _ _) hversion
  · exact field_of_find? (find?_record _ _)
      (sectionOf_eq_sound_iff.mpr (LoaderSettings.check_value h))
  · exact field_of_find? (find?_record _ _) (sectionOf_eq_sound_iff.mpr s.parser.check_value)
  · exact field_of_find? (find?_record _ _) (sectionOf_eq_sound_iff.mpr s.log.check_value)

/-! ## Other keys -/

/-- The names of the fields of a section. -/
def LoaderSettings.fieldNames : List String :=
  ["base_path", "request_headers", "with_credentials", "timeout_s", "encoding"]

/-- The names of the fields of a section. -/
def ParserSettings.fieldNames : List String := ["instrument"]

/-- The names of the fields of a section. -/
def LogSettings.fieldNames : List String := ["level", "file", "json", "json_lines", "color"]

/-- The names of the version and of the sections. -/
def Settings.fieldNames : List String := ["schema", "schema_version", "loader", "parser", "logging"]

/-- The sections with the names of their fields. -/
def Settings.sections : List (String × List String) :=
  [("loader", LoaderSettings.fieldNames), ("parser", ParserSettings.fieldNames),
    ("logging", LogSettings.fieldNames)]

/-- An entry as it is, or a section with its keys rearranged. -/
inductive Settings.EntryRearranged : Value × Value → Value × Value → Prop where
  | same (e : Value × Value) : EntryRearranged e e
  | keys {name : String} {known : List String} {es es' : Entries}
      (hsection : (name, known) ∈ Settings.sections) (h : Check.Rearranged known es es') :
      EntryRearranged (.str name, .map es) (.str name, .map es')

/-- Settings with other keys besides, and all keys in any order: first in the sections, then next to
them. -/
def Settings.Rearranged (es es' : Entries) : Prop :=
  ∃ inside : Entries, List.Forall₂ Settings.EntryRearranged es inside ∧
    Check.Rearranged Settings.fieldNames inside es'

section Rearranged

variable {es es' : Entries}

/-- A field does not depend on keys that are not known. -/
lemma Check.field_rearranged {α : Type} {known : List String} (h : Check.Rearranged known es es')
    {own : List String} (hown : own ⊆ known) (default : α) (check : Value → Checked α) :
    field es' default check own = field es default check own := by
  refine field_congr fun name hname => ?_
  rw [find?_rearranged h (hown hname)]
  cases find? es name with
  | none => exact .none
  | some v => exact .some rfl

/-- Keys that are not known do not matter to a section. -/
lemma LoaderSettings.check_rearranged (h : Check.Rearranged LoaderSettings.fieldNames es es') :
    LoaderSettings.check es' = LoaderSettings.check es := by
  unfold LoaderSettings.check
  iterate 5 rw [field_rearranged h (by simp [LoaderSettings.fieldNames])]

/-- Keys that are not known do not matter to a section. -/
lemma ParserSettings.check_rearranged (h : Check.Rearranged ParserSettings.fieldNames es es') :
    ParserSettings.check es' = ParserSettings.check es := by
  unfold ParserSettings.check
  rw [field_rearranged h (by simp [ParserSettings.fieldNames])]

/-- Keys that are not known do not matter to a section. -/
lemma LogSettings.check_rearranged (h : Check.Rearranged LogSettings.fieldNames es es') :
    LogSettings.check es' = LogSettings.check es := by
  unfold LogSettings.check
  iterate 4 rw [field_rearranged h (by simp [LogSettings.fieldNames])]

namespace Settings

/-- What stands under a name is as it was, or a section with its keys rearranged. -/
lemma find?_inside (h : List.Forall₂ EntryRearranged es es') (name : String) :
    Option.Rel (fun v w => EntryRearranged (.str name, v) (.str name, w)) (find? es name)
      (find? es' name) := by
  induction h with
  | nil => exact .none
  | @cons e e' es es' he _ ih =>
    obtain ⟨k, v⟩ := e
    obtain ⟨k', w⟩ := e'
    obtain rfl : k' = k := by cases he <;> rfl
    by_cases hk : k' = .str name
    · subst hk
      rw [find?_cons_self, find?_cons_self]
      exact .some he
    · rw [find?_cons_of_ne hk, find?_cons_of_ne hk]
      exact ih

/-- A field does not depend on rearranged sections if its check does not. -/
lemma field_inside {α : Type} {default : α} {check : Value → Checked α} {own : List String}
    (h : List.Forall₂ EntryRearranged es es')
    (hcheck : ∀ name ∈ own, ∀ v w, EntryRearranged (.str name, v) (.str name, w) →
      check v = check w) : field es' default check own = field es default check own := by
  refine (field_congr fun name hname => ?_).symm
  have hfind := find?_inside h name
  generalize find? es name = old, find? es' name = new at hfind ⊢
  cases hfind with
  | none => exact .none
  | some hentry => exact .some (hcheck name hname _ _ hentry)

/-- What is no section is as it was. -/
lemma EntryRearranged.eq {name : String} {v w : Value}
    (h : EntryRearranged (.str name, v) (.str name, w))
    (hname : ∀ known, (name, known) ∉ sections) : w = v := by
  cases h with
  | same => rfl
  | keys hsection => exact absurd hsection (hname _)

/-- A section whose check does not depend on keys that are not known is checked as it was. -/
lemma field_section {α : Type} {name : String} {known : List String} {check : Entries → Checked α}
    (h : List.Forall₂ EntryRearranged es es')
    (hname : ∀ other, (name, other) ∈ sections → other = known)
    (hcheck : ∀ {es es' : Entries}, Check.Rearranged known es es' → check es' = check es)
    (default : α) (kind : String) :
    field es' default (sectionOf kind check) [name] =
      field es default (sectionOf kind check) [name] := by
  refine field_inside h fun own hown v w hentry => ?_
  obtain rfl := List.mem_singleton.mp hown
  cases hentry with
  | same => rfl
  | keys hsection h => exact (hcheck (hname _ hsection ▸ h)).symm

/-- The version is checked as it was. -/
lemma field_version (h : List.Forall₂ EntryRearranged es es') :
    field es' () versionText ["schema", "schema_version"] =
      field es () versionText ["schema", "schema_version"] := by
  refine field_inside h fun name hname v w hentry => ?_
  rw [hentry.eq fun known => ?_]
  simp only [List.mem_cons, List.not_mem_nil, or_false] at hname
  rcases hname with rfl | rfl <;> simp [sections]

/-- **Other keys and the order of keys** do not matter to settings.

**Proof sketch.** A field depends on what stands under its names (`field_congr`). Rearranged keys
leave that alone (`find?_rearranged`), and where a section stands under a name, the same argument
holds for the fields of the section. -/
theorem check_rearranged (h : Settings.Rearranged es es') :
    Settings.check es' = Settings.check es := by
  obtain ⟨inside, hinside, hkeys⟩ := h
  unfold Settings.check
  iterate 4 rw [field_rearranged hkeys (by simp [Settings.fieldNames])]
  rw [field_version hinside,
    field_section hinside (by simp [sections]) LoaderSettings.check_rearranged,
    field_section hinside (by simp [sections]) ParserSettings.check_rearranged,
    field_section hinside (by simp [sections]) LogSettings.check_rearranged]

end Settings

end Rearranged

/-! ## Accepted settings -/

/-- A field whose values another check accepts too is sound for that check. -/
lemma Check.field_of_field {α β : Type} {es : Entries} {a : α} {b : β} {check : Value → Checked α}
    {check' : Value → Checked β} {own : List String}
    (hcheck : ∀ v, check v = .sound a → check' v = .sound b)
    (h : field es a check own = .sound a) : field es b check' own = .sound b := by
  induction own with
  | nil => rfl
  | cons name own ih =>
    cases hfind : find? es name with
    | none =>
      rw [field_of_find?_eq_none hfind] at h ⊢
      exact ih h
    | some v =>
      simp only [field, hfind, Checked.under_eq_sound_iff] at h
      exact field_of_find? hfind (hcheck v h)

/-- The version that is accepted is the one that settings are written for. -/
lemma Check.text_of_versionText {v : Value} (h : versionText v = .sound ()) :
    text v = .sound Settings.version := by
  obtain ⟨s, hs, hversion⟩ := Checked.andThen_eq_sound_iff.mp h
  by_cases hsame : s = Settings.version
  · rw [hs, hsame]
  · rw [if_neg hsame] at hversion
    exact absurd hversion (by simp [Checked.complain])

/-- **Accepted settings.** Whatever mapping is accepted, in whatever way its fields are written: it
says the version that settings are written for, or none; the timeout is a number above zero, and the
level and the encoding have known names. Written as a mapping, the settings are accepted again, and
are the same. Other keys in the mapping or in its sections, and the order of the keys there, change
nothing. -/
theorem Settings.normal_of_accepted {es : Entries} {s : Settings}
    (h : Settings.check es = .sound s) :
    field es Settings.version text ["schema", "schema_version"] = .sound "gcode_layers.v1" ∧
    0.0 < s.loader.timeout ∧ s.loader.timeout.isNaN = false ∧
    s.log.level.name ∈ ["DEBUG", "INFO", "WARNING", "ERROR", "CRITICAL"] ∧
    Encoding.isKnown s.loader.encoding = true ∧
    (∃ written, s.value = .map written ∧
      find? written "schema_version" = some (.str "gcode_layers.v1") ∧
      Settings.check written = .sound s) ∧
    ∀ es', Settings.Rearranged es es' → Settings.check es' = .sound s := by
  have hnormal := Settings.normal_of_check h
  refine ⟨?_, hnormal.timeout, isNaN_eq_false_of_lt hnormal.timeout, ?_,
    (encodingName_eq_sound_iff.mp hnormal.encoding).2.2, Settings.check_value hnormal,
    fun es' hes' => (Settings.check_rearranged hes').trans h⟩
  · exact field_of_field (fun v => text_of_versionText) (Settings.check_eq_sound_iff.mp h).1
  · cases s.log.level <;> decide

/-- Settings whose level is written with a letter that has no dot, and whose timeout is written as
a text. -/
def Settings.loose : Entries :=
  [(.str "logging", .map [(.str "level", .str "ınfo"), (.str "json", .str "off")]),
    (.str "loader", .map [(.str "timeout_s", .str "1_0")])]

/-- The same settings with other keys besides, and in another order. -/
def Settings.looser : Entries :=
  [(.int 1, .null), (.str "loader", .map [(.str "timeout_s", .str "1_0")]),
    (.str "logging", .map [(.str "json", .str "off"), (.str "levels", .list []),
      (.str "level", .str "ınfo")])]

/-- Keys are rearranged in a section and next to the sections. -/
lemma Settings.rearranged_loose : Settings.Rearranged Settings.loose Settings.looser := by
  have hsection : ("logging", LogSettings.fieldNames) ∈ Settings.sections := by
    simp [Settings.sections]
  refine ⟨[(.str "logging", .map [(.str "json", .str "off"), (.str "levels", .list []),
    (.str "level", .str "ınfo")]), (.str "loader", .map [(.str "timeout_s", .str "1_0")])], ?_, ?_⟩
  · refine .cons (.keys hsection ?_) (.cons (.same _) .nil)
    refine ⟨by decide, [(.str "levels", .list [])], ?_, by decide⟩
    exact (List.Perm.swap _ _ _).trans (List.Perm.cons _ (List.Perm.swap _ _ _)) |>.symm
  · refine ⟨by decide, [(.int 1, .null)], ?_, by decide⟩
    exact List.perm_append_comm.trans ((List.Perm.swap _ _ _).cons _) |>.symm

/-- Loosely written settings are accepted, and come to the same in another order. -/
theorem Settings.normal_of_accepted_loose :
    Settings.check Settings.loose = .sound { loader := { timeout := 10.0 } } ∧
    Settings.check Settings.looser = .sound { loader := { timeout := 10.0 } } := by
  have h : Settings.check Settings.loose = .sound { loader := { timeout := 10.0 } } := rfl
  obtain ⟨-, -, -, -, -, -, hrearranged⟩ := Settings.normal_of_accepted h
  exact ⟨h, hrearranged _ Settings.rearranged_loose⟩

end Toolpath
