import Toolpath.Log.Line
import Toolpath.Proofs.JsonText
/-!
# Lines of JSON in a log

A record is written as one line of JSON, with the fields of the context. A field of the context
replaces one of the record that has its name, so what is read from the line is the context, and the
record where the context leaves room for it. What JSON does not keep is lost: two halves of a
character that meet become that character, pairs become lists, and keys become texts.

## Main definitions

* `Toolpath.Json.Fields` — fields of JSON data under names that differ and are kept.
* `Toolpath.Log.Deed`, `Toolpath.Log.Context.ofDeeds` — the calls that change the context, and the
  context after some of them.
* `Toolpath.Log.Stamped.Told` — fields tell of a record and the context.
* `Toolpath.Log.Stamped.Lossless` — a line carries all of its record and the context.

## Main results

* `Toolpath.Entries.find?_putAll_of_nodup` — entries that are put over others decide.
* `Toolpath.Json.Fields.read?_render` — fields of JSON data are read back.
* `Toolpath.Log.Context.fields_ofDeeds` — the context is JSON data after all calls.
* `Toolpath.Log.Stamped.json_told` — a line of JSON tells of its record and the context.
* `Toolpath.Log.Stamped.lossless_of` — when nothing is lost.
-/

namespace Toolpath

/-! ## Entries put one after the other -/

namespace Entries

variable {κ ν : Type} [DecidableEq κ] {entries new : List (κ × ν)}

/-- What is stored is there, besides what was there before. -/
lemma mem_of_mem_put {key : κ} {value : ν} {e : κ × ν} (h : e ∈ put entries key value) :
    e ∈ entries ∨ e = (key, value) := by
  unfold put at h
  induction entries with
  | nil => exact .inr (List.mem_singleton.mp h)
  | cons e' entries ih =>
    rw [alter] at h
    split at h
    · rename_i hkey
      rcases List.mem_cons.mp h with rfl | h
      · exact .inr (congrArg (·, value) hkey)
      · exact .inl (List.mem_cons_of_mem _ h)
    · rcases List.mem_cons.mp h with rfl | h
      · exact .inl List.mem_cons_self
      · exact (ih h).imp_left (List.mem_cons_of_mem _)

lemma mem_of_mem_putAll {e : κ × ν} (h : e ∈ putAll entries new) : e ∈ entries ∨ e ∈ new := by
  induction new generalizing entries with
  | nil => exact .inl h
  | cons e' new ih =>
    have h : e ∈ putAll (put entries e'.1 e'.2) new := h
    rcases ih h with h | h
    · rcases mem_of_mem_put h with h | rfl
      · exact .inl h
      · exact .inr List.mem_cons_self
    · exact .inr (List.mem_cons_of_mem _ h)

/-- A key that is not among the entries has no value. -/
lemma find?_eq_none {key : κ} (h : key ∉ entries.map (·.1)) : find? entries key = none := by
  induction entries with
  | nil => rfl
  | cons e entries ih =>
    obtain ⟨k, v⟩ := e
    rw [List.map_cons, List.mem_cons, not_or] at h
    rw [find?_cons, if_neg (Ne.symm h.1), ih h.2]

/-- **Of entries put over others**, those that are put decide, and the others where they do not. -/
lemma find?_putAll_of_nodup (h : (new.map (·.1)).Nodup) (key : κ) :
    find? (putAll entries new) key = (find? new key).or (find? entries key) := by
  induction new generalizing entries with
  | nil => rfl
  | cons e new ih =>
    obtain ⟨k, v⟩ := e
    obtain ⟨hk, hnew⟩ := List.nodup_cons.mp h
    have hput : putAll entries ((k, v) :: new) = putAll (put entries k v) new := rfl
    rw [hput, ih hnew, put, find?_alter, find?_cons]
    by_cases hkey : k = key
    · subst hkey
      rw [find?_eq_none hk, if_pos rfl, if_pos rfl]
      cases find? entries k <;> rfl
    · rw [if_neg hkey, if_neg hkey]

/-- The values of entries that are changed alike. -/
lemma find?_map {μ : Type} (f : ν → μ) (key : κ) :
    find? (entries.map fun (k, v) => (k, f v)) key = (find? entries key).map f := by
  induction entries with
  | nil => rfl
  | cons e entries ih =>
    obtain ⟨k, v⟩ := e
    rw [List.map_cons, find?_cons, find?_cons, ih]
    split <;> rfl

end Entries

/-! ## Fields -/

namespace Json

/-- Fields of JSON data: no name stands twice, no halves meet in a name, and the values are JSON
data. -/
structure Fields (fields : List (String × Value)) : Prop where
  nodup : (fields.map (·.1)).Nodup
  unpaired : ∀ field ∈ fields, Unpaired field.1.toList
  isJson : ∀ field ∈ fields, field.2.IsJson

namespace Fields

variable {fields new : List (String × Value)}

lemma nil : Fields [] := ⟨List.nodup_nil, List.forall_mem_nil _, List.forall_mem_nil _⟩

/-- Fields of JSON data put over others are. -/
lemma putAll (h : Fields fields)
    (hnew : ∀ field ∈ new, Unpaired field.1.toList ∧ field.2.IsJson) :
    Fields (Entries.putAll fields new) := by
  refine ⟨Entries.nodup_putAll h.nodup new, fun field hfield => ?_, fun field hfield => ?_⟩
  · rcases Entries.mem_of_mem_putAll hfield with hfield | hfield
    · exact h.unpaired field hfield
    · exact (hnew field hfield).1
  · rcases Entries.mem_of_mem_putAll hfield with hfield | hfield
    · exact h.isJson field hfield
    · exact (hnew field hfield).2

/-- Some of the fields are fields of JSON data too. -/
lemma sublist (h : Fields fields) (hsub : new.Sublist fields) : Fields new :=
  ⟨(hsub.map _).nodup h.nodup, fun field hfield => h.unpaired field (hsub.subset hfield),
    fun field hfield => h.isJson field (hsub.subset hfield)⟩

/-- A mapping of JSON data under texts is JSON data. -/
lemma isJson_record (h : ∀ field ∈ fields, field.2.IsJson) : (Value.record fields).IsJson := by
  have hknown : ∀ fields : List (String × Value), (∀ field ∈ fields, field.2.IsJson) →
      refusalIn? (fields.map fun field => (.str field.1, field.2)) = none := by
    intro fields hfields
    induction fields with
    | nil => rfl
    | cons field fields ih =>
      obtain ⟨k, v⟩ := field
      have hv : refusal? v = none := (hfields (k, v) List.mem_cons_self).known
      have hrest := ih fun field hfield => hfields field (List.mem_cons_of_mem _ hfield)
      rw [List.map_cons, refusalIn?, hv, hrest]
      rfl
  refine ⟨hknown fields h, fun x hx => ?_⟩
  have hx : x ∈ Value.numbersIn (fields.map fun field => (.str field.1, field.2)) := hx
  rw [Value.numbersIn_eq] at hx
  obtain ⟨xs, hxs, hx⟩ := List.mem_flatten.mp hx
  obtain ⟨entry, hentry, rfl⟩ := List.mem_map.mp hxs
  obtain ⟨field, hfield, rfl⟩ := List.mem_map.mp hentry
  exact (h field hfield).finite x hx

/-- **Fields of JSON data are read back** with what JSON keeps of their values. -/
theorem read?_render (h : Fields fields) :
    read? (render (.record fields)) = some (.record (fields.map fun (k, v) => (k, kept v))) := by
  have hentries : ∀ fields : List (String × Value), (∀ field ∈ fields, Unpaired field.1.toList) →
      keptEntries (fields.map fun (k, v) => (.str k, v)) =
        fields.map fun (k, v) => (k, kept v) := by
    intro fields hnames
    induction fields with
    | nil => rfl
    | cons field fields ih =>
      obtain ⟨k, v⟩ := field
      obtain ⟨hk, hfields⟩ := List.forall_mem_cons.mp hnames
      have htext : paired k.toList = k.toList := paired_eq_self hk
      rw [List.map_cons, keptEntries, keyText, htext, String.ofList_toList, ih hfields]
      rfl
  have hnodup : ((fields.map fun (k, v) => (k, kept v)).map (·.1)).Nodup := by
    rw [List.map_map]
    exact h.nodup
  rw [Json.read?_render (isJson_record h.isJson), Value.record, kept, hentries fields h.unpaired,
    Entries.putAll_of_nodup (by rwa [List.nil_append]), List.nil_append]

end Fields

end Json

namespace Log

open Json Text

/-! ## The context -/

/-- A call that changes the context. -/
inductive Deed where
  | push (fields : List (String × Value))
  | pop (keys : Option (List String))

/-- The context after a call. -/
def Context.after (c : Context) : Deed → Context
  | .push fields => c.push fields
  | .pop keys => c.pop keys

/-- The context after some calls, from the empty one. -/
def Context.ofDeeds (deeds : List Deed) : Context := deeds.foldl Context.after []

/-- What a call adds is JSON data, under names in which no halves meet. -/
def Deed.Suits : Deed → Prop
  | .push fields => ∀ field ∈ fields, Unpaired field.1.toList ∧ field.2.IsJson
  | .pop _ => True

/-- A call keeps the context JSON data. -/
lemma Context.fields_after {c : Context} (h : Fields c) {d : Deed} (hd : d.Suits) :
    Fields (c.after d) := by
  cases d with
  | push fields => exact h.putAll hd
  | pop keys =>
    cases keys with
    | none => exact .nil
    | some keys =>
      have hsub : ∀ (keys : List String) (c : Context),
          (keys.foldl Entries.remove c).Sublist c := by
        intro keys
        induction keys with
        | nil => exact List.Sublist.refl
        | cons key keys ih => exact fun c => (ih _).trans List.filter_sublist
      exact h.sublist (hsub keys c)

/-- The context is JSON data after all calls. -/
lemma Context.fields_ofDeeds {deeds : List Deed} (h : ∀ d ∈ deeds, d.Suits) :
    Fields (ofDeeds deeds) := by
  have hrun : ∀ c : Context, Fields c → Fields (deeds.foldl Context.after c) := by
    induction deeds with
    | nil => exact fun c hc => hc
    | cons d deeds ih =>
      obtain ⟨hd, hdeeds⟩ := List.forall_mem_cons.mp h
      exact fun c hc => ih hdeeds _ (Context.fields_after hc hd)
  exact hrun [] .nil

/-! ## Texts of a record -/

/-- No halves meet in a text of printable ASCII. -/
lemma unpaired_of_printable {s : List Char} (h : ∀ c ∈ s, Printable c) : Unpaired s := by
  apply unpaired_of_forall
  intro c hc
  cases hunit : halfUnit? c with
  | none => rfl
  | some n =>
    have hprintable := h c hc
    obtain ⟨-, -, hn⟩ := halfUnit?_eq_some.mp hunit
    unfold Printable at hprintable
    omega

/-- JSON keeps a text of printable ASCII. -/
lemma kept_of_printable {s : String} (h : ∀ c ∈ s.toList, Printable c) : kept (.str s) = .str s :=
  kept_eq_self (.str s) (unpaired_of_printable h)

/-- A moment is written in printable ASCII. -/
lemma Moment.printable_of_mem_iso (m : Moment) : ∀ c ∈ m.iso, Printable c := by
  have hpadded : ∀ width n, ∀ c ∈ padded width n, Printable c := by
    intro width n
    refine List.forall_mem_append.mpr ⟨fun c hc => ?_, fun c hc => ?_⟩
    · rw [List.eq_of_mem_replicate hc]
      decide
    · exact printable_of_isDigit (isDigit_of_mem_ofNat hc)
  have hmicro : ∀ c ∈ (if m.micro = 0 then [] else '.' :: padded 6 m.micro), Printable c := by
    split
    · exact List.forall_mem_nil _
    · exact List.forall_mem_cons.mpr ⟨by decide, hpadded _ _⟩
  have hzone : ∀ c ∈ "+00:00".toList, Printable c := printable_of_all rfl
  simp only [iso, sinceYear, List.forall_mem_append, List.forall_mem_cons, List.cons_append,
    and_assoc]
  exact ⟨hpadded _ _, by decide, hpadded _ _, by decide, hpadded _ _, by decide, hpadded _ _,
    by decide, hpadded _ _, by decide, hpadded _ _, hmicro, hzone⟩

/-- The name of a level is printable ASCII. -/
lemma printable_of_mem_levelName (n : ℤ) : ∀ c ∈ (levelName n).toList, Printable c := by
  have hname : ∀ level : Level, ∀ c ∈ level.name.toList, Printable c := by
    intro level
    cases level <;> exact printable_of_all rfl
  unfold levelName
  split
  · exact hname _
  · split
    · exact printable_of_all rfl
    · have htext : (s!"Level {n}").toList = "Level ".toList ++ ofInt n := by
        rw [← toList_toString_int, ← String.toList_append]
        rfl
      rw [htext]
      exact List.forall_mem_append.mpr ⟨printable_of_all rfl, printable_of_mem_ofInt⟩

/-! ## Lines -/

namespace Stamped

/-- Fields tell of a record and the context: each field of the context has its value, and those of
the record itself are there unless the context has a field of that name. -/
structure Told (s : Stamped) (c : Context) (fields : List (String × Value)) : Prop where
  context : ∀ key v, Entries.find? c key = some v → Entries.find? fields key = some (kept v)
  moment : Entries.find? c "t" = none →
    Entries.find? fields "t" = some (.str (String.ofList s.moment.iso))
  level : Entries.find? c "lvl" = none →
    Entries.find? fields "lvl" = some (.str (levelName s.record.level))
  logger : Entries.find? c "name" = none →
    Entries.find? fields "name" = some (kept (.str s.record.logger))
  process : Entries.find? c "pid" = none → Entries.find? fields "pid" = some (.int s.process)
  message : Entries.find? c "msg" = none →
    Entries.find? fields "msg" = some (kept (.str s.record.message))

/-- The fields of a record itself. -/
lemma fields_nil {s : Stamped} (hs : s.failure = none) :
    s.fields [] = [("t", .str (String.ofList s.moment.iso)),
      ("lvl", .str (levelName s.record.level)), ("name", .str s.record.logger),
      ("pid", .int s.process), ("msg", .str s.record.message)] := by
  unfold fields
  rw [hs]
  rfl

/-- The context is put over the fields of a record itself. -/
lemma fields_eq {s : Stamped} (hs : s.failure = none) (c : Context) :
    s.fields c = Entries.putAll (s.fields []) c := by
  rw [fields_nil hs]
  unfold fields
  rw [hs]

/-- The fields of a record itself are JSON data. -/
lemma fields_own {s : Stamped} (hs : s.failure = none) : Fields (s.fields []) := by
  rw [fields_nil hs]
  refine ⟨by simp, ?_, ?_⟩
  · simp only [List.forall_mem_cons]
    refine ⟨?_, ?_, ?_, ?_, ?_, List.forall_mem_nil _⟩ <;>
      exact unpaired_of_printable (printable_of_all rfl)
  · simp only [List.forall_mem_cons]
    exact ⟨⟨rfl, List.forall_mem_nil _⟩, ⟨rfl, List.forall_mem_nil _⟩, ⟨rfl, List.forall_mem_nil _⟩,
      ⟨rfl, List.forall_mem_nil _⟩, ⟨rfl, List.forall_mem_nil _⟩, List.forall_mem_nil _⟩

/-- The fields of a record with those of the context are JSON data. -/
lemma fields_fields {s : Stamped} (hs : s.failure = none) {c : Context} (hc : Fields c) :
    Fields (s.fields c) := by
  rw [fields_eq hs]
  exact (fields_own hs).putAll fun field hfield =>
    ⟨hc.unpaired field hfield, hc.isJson field hfield⟩

/-- What is read back of the fields of a record tells of it and the context. -/
lemma told_fields {s : Stamped} (hs : s.failure = none) {c : Context} (hc : Fields c) :
    s.Told c ((s.fields c).map fun (k, v) => (k, kept v)) := by
  have hfind : ∀ key, Entries.find? ((s.fields c).map fun (k, v) => (k, kept v)) key =
      ((Entries.find? c key).or (Entries.find? (s.fields []) key)).map kept := by
    intro key
    rw [Entries.find?_map, fields_eq hs, Entries.find?_putAll_of_nodup hc.nodup]
  have hown : ∀ {key v}, Entries.find? c key = none → Entries.find? (s.fields []) key = some v →
      Entries.find? ((s.fields c).map fun (k, v) => (k, kept v)) key = some (kept v) := by
    intro key v hkey hv
    rw [hfind, hkey, hv]
    rfl
  have hlist := fields_nil hs
  refine ⟨fun key v hv => ?_, fun ht => ?_, fun hlvl => ?_, fun hname => ?_, fun hpid => ?_,
    fun hmsg => ?_⟩
  · rw [hfind, hv]
    rfl
  · have hiso : ∀ c ∈ (String.ofList s.moment.iso).toList, Printable c := by
      rw [String.toList_ofList]
      exact s.moment.printable_of_mem_iso
    rw [hown ht (by rw [hlist]; rfl), kept_of_printable hiso]
  · rw [hown hlvl (by rw [hlist]; rfl), kept_of_printable (printable_of_mem_levelName _)]
  · exact hown hname (by rw [hlist]; rfl)
  · exact hown hpid (by rw [hlist]; rfl)
  · exact hown hmsg (by rw [hlist]; rfl)

/-- The fields of a record are not refused if those of the context are JSON data. -/
lemma json_eq_ok {s : Stamped} (hs : s.failure = none) {c : Context}
    (hc : ∀ field ∈ c, field.2.IsJson) :
    s.json c = .ok (render (.record (s.fields c))) ∧ (Value.record (s.fields c)).IsJson := by
  have hjson : ∀ field ∈ s.fields c, field.2.IsJson := by
    intro field hfield
    rw [fields_eq hs] at hfield
    rcases Entries.mem_of_mem_putAll hfield with hfield | hfield
    · exact (fields_own hs).isJson field hfield
    · exact hc field hfield
  have hrecord := Fields.isJson_record hjson
  refine ⟨?_, hrecord⟩
  rw [json, text, hrecord.known]

/-- A mapping whose keys are texts says which fields it has. -/
lemma record_inj {fields new : List (String × Value)} (h : Value.record fields = Value.record new) :
    fields = new := by
  have hinj : Function.Injective fun field : String × Value => (Value.str field.1, field.2) := by
    rintro ⟨k, v⟩ ⟨k', v'⟩ hfield
    obtain ⟨hkey, hv⟩ := Prod.mk.inj hfield
    exact Prod.ext (Value.str.inj hkey) hv
  exact List.map_injective_iff.mpr hinj (Value.map.inj h)

/-- Whatever the names of the fields are, what a line is read as is what JSON keeps of them. -/
lemma eq_of_read?_json {s : Stamped} (hs : s.failure = none) {c : Context}
    (hc : ∀ field ∈ c, field.2.IsJson) {line : List Char} (hline : s.json c = .ok line)
    {fields : List (String × Value)} (hread : Json.read? line = some (.record fields)) :
    fields = Entries.putAll [] (keptEntries ((s.fields c).map fun (k, v) => (.str k, v))) := by
  obtain ⟨hjson, hrecord⟩ := json_eq_ok hs hc
  obtain rfl := Except.ok.inj (hjson.symm.trans hline)
  have hkept := Json.read?_render hrecord
  exact (record_inj (Option.some.inj (hkept.symm.trans hread))).symm

/-- **A line of JSON tells of its record and the context.** After any calls that push JSON data and
pop, a record without a failure has a line, which is one of printable ASCII, and the fields that are
read from it are those of the context with what JSON keeps of their values, and the record's own
moment, level, logger, process and message where no field of the context has their name. -/
theorem json_told {deeds : List Deed} (hdeeds : ∀ d ∈ deeds, d.Suits) {s : Stamped}
    (hs : s.failure = none) :
    ∃ line, s.json (Context.ofDeeds deeds) = .ok line ∧ (∀ c ∈ line, Printable c) ∧
      ∃ fields, Json.read? line = some (.record fields) ∧
        (fields.map (·.1)).Nodup ∧ s.Told (Context.ofDeeds deeds) fields := by
  have hc := Context.fields_ofDeeds hdeeds
  have hfields := fields_fields hs hc
  have hnodup :
      (((s.fields (Context.ofDeeds deeds)).map fun (k, v) => (k, kept v)).map (·.1)).Nodup := by
    rw [List.map_map]
    exact hfields.nodup
  exact ⟨_, (json_eq_ok hs hc.isJson).1, printable_of_mem_render _, _, hfields.read?_render, hnodup,
    told_fields hs hc⟩

/-- After pushes of nested data, of which one hides the name of the logger and one holds a pair, and
a pop. -/
theorem json_told_nested :
    let deeds : List Deed := [.push [("source", .str "part.gcode"), ("name", .int 3)],
      .push [("sizes", .pair (.float 0.4) .null)], .pop (some ["source"])]
    let s : Stamped :=
      { record := ⟨"viewer", 20, "Parsed \"part\""⟩, moment := ⟨1970, 1, 1, 0, 0, 0, 0⟩,
        process := 4242 }
    (∀ d ∈ deeds, d.Suits) ∧ s.failure = none ∧
      ∃ line fields, s.json (Context.ofDeeds deeds) = .ok line ∧
        Json.read? line = some (.record fields) ∧
        Entries.find? fields "lvl" = some (.str "INFO") ∧
        Entries.find? fields "name" = some (.int 3) ∧
        Entries.find? fields "sizes" = some (.list [.float 0.4, .null]) := by
  intro deeds s
  have hname : ∀ {name : String}, (name.toList.all fun c => decide (Printable c)) = true →
      Unpaired name.toList := fun h => unpaired_of_printable (printable_of_all h)
  have hdeeds : ∀ d ∈ deeds, d.Suits := by
    refine List.forall_mem_cons.mpr ⟨?_, List.forall_mem_cons.mpr ⟨?_, List.forall_mem_singleton.mpr
      trivial⟩⟩
    · refine List.forall_mem_cons.mpr ⟨⟨hname rfl, rfl, List.forall_mem_nil _⟩,
        List.forall_mem_singleton.mpr ⟨hname rfl, rfl, List.forall_mem_nil _⟩⟩
    · exact List.forall_mem_singleton.mpr ⟨hname rfl, rfl, List.forall_mem_singleton.mpr rfl⟩
  obtain ⟨line, hline, -, fields, hread, -, htold⟩ := json_told hdeeds (s := s) rfl
  exact ⟨hdeeds, rfl, line, fields, hline, hread, htold.level rfl, htold.context "name" _ rfl,
    htold.context "sizes" _ rfl⟩

/-! ## Without loss -/

/-- A line of JSON carries a record and the context without loss: what is read from it has the
record's own moment, level, logger, process and message, and all fields of the context. -/
def Lossless (s : Stamped) (c : Context) : Prop :=
  ∃ line fields, s.json c = .ok line ∧ Json.read? line = some (.record fields) ∧
    Entries.find? fields "t" = some (.str (String.ofList s.moment.iso)) ∧
    Entries.find? fields "lvl" = some (.str (levelName s.record.level)) ∧
    Entries.find? fields "name" = some (.str s.record.logger) ∧
    Entries.find? fields "pid" = some (.int s.process) ∧
    Entries.find? fields "msg" = some (.str s.record.message) ∧
    ∀ key v, Entries.find? c key = some v → Entries.find? fields key = some v

/-- A field with the name of one of the record's own hides it, halves that meet are put together in
a message and in the name of a field, the keys of a mapping become texts, and a pair becomes a
list. -/
theorem not_lossless :
    let s (message : String) : Stamped :=
      { record := ⟨"x", 20, message⟩, moment := ⟨1970, 1, 1, 0, 0, 0, 0⟩, process := 4242 }
    let halves := String.ofList [ofCode 0xD83D, ofCode 0xDE00]
    ¬ (s "hello").Lossless (Context.ofDeeds [.push [("name", .str "part.gcode")]]) ∧
      ¬ (s halves).Lossless (Context.ofDeeds []) ∧
      ¬ (s "hello").Lossless (Context.ofDeeds [.push [(halves, .int 1)]]) ∧
      ¬ (s "hello").Lossless (Context.ofDeeds [.push [("sizes", .map [(.int 1, .int 2)])]]) ∧
      ¬ (s "hello").Lossless (Context.ofDeeds [.push [("size", .pair (.int 1) (.int 2))]]) := by
  intro s halves
  have hone : ∀ {key v}, v.IsJson → ∀ field ∈ Context.ofDeeds [.push [(key, v)]], field.2.IsJson :=
    fun h => List.forall_mem_singleton.mpr h
  refine ⟨?_, ?_, ?_, ?_, ?_⟩
  · rintro ⟨line, fields, hline, hread, -, -, hlogger, -⟩
    obtain rfl := eq_of_read?_json rfl (hone ⟨rfl, List.forall_mem_nil _⟩) hline hread
    have hhidden : some (Value.str "x") = some (.str "part.gcode") := hlogger.symm.trans rfl
    simp at hhidden
  · rintro ⟨line, fields, hline, hread, -, -, -, -, hmessage, -⟩
    obtain rfl := Except.ok.inj ((json_eq_ok rfl (List.forall_mem_nil _)).1.symm.trans hline)
    have hfields := (fields_fields (s := s halves) rfl .nil).read?_render
    obtain rfl := record_inj (Option.some.inj (hfields.symm.trans hread))
    have hjoined : paired halves.toList ≠ halves.toList := by decide
    have hkept := Option.some.inj (hmessage.symm.trans ((told_fields rfl .nil).message rfl))
    rw [kept] at hkept
    have htext := congrArg String.toList (Value.str.inj hkept)
    exact hjoined (String.toList_ofList.symm.trans htext.symm)
  · rintro ⟨line, fields, hline, hread, -, -, -, -, -, hcontext⟩
    obtain rfl := eq_of_read?_json rfl (hone ⟨rfl, List.forall_mem_nil _⟩) hline hread
    have hfound := congrArg Option.isSome (hcontext halves (.int 1) rfl)
    exact absurd hfound (by decide +kernel)
  · rintro ⟨line, fields, hline, hread, -, -, -, -, -, hcontext⟩
    obtain rfl := eq_of_read?_json rfl (hone ⟨rfl, List.forall_mem_nil _⟩) hline hread
    have hkey : some (Value.map [(.int 1, .int 2)]) = some (.map [(.str "1", .int 2)]) :=
      (hcontext "sizes" _ rfl).symm.trans rfl
    simp at hkey
  · rintro ⟨line, fields, hline, hread, -, -, -, -, -, hcontext⟩
    obtain rfl := eq_of_read?_json rfl (hone ⟨rfl, List.forall_mem_nil _⟩) hline hread
    have hpair : some (Value.pair (.int 1) (.int 2)) = some (.list [.int 1, .int 2]) :=
      (hcontext "size" _ rfl).symm.trans rfl
    simp at hpair

/-- **Nothing is lost** where no field of the context has the name of one of the record's own, and
JSON keeps all of the texts and values. -/
theorem lossless_of {s : Stamped} (hs : s.failure = none) {c : Context} (hc : Fields c)
    (hown : ∀ key ∈ ["t", "lvl", "name", "pid", "msg"], Entries.find? c key = none)
    (hlogger : Unpaired s.record.logger.toList) (hmessage : Unpaired s.record.message.toList)
    (hvalues : ∀ key v, Entries.find? c key = some v → Faithful v) : s.Lossless c := by
  have htold := told_fields hs hc
  have hread := (fields_fields hs hc).read?_render
  refine ⟨_, _, (json_eq_ok hs hc.isJson).1, hread, htold.moment (hown _ (by simp)),
    htold.level (hown _ (by simp)), ?_, htold.process (hown _ (by simp)), ?_, fun key v hv => ?_⟩
  · rw [htold.logger (hown _ (by simp)), kept_eq_self (.str s.record.logger) hlogger]
  · rw [htold.message (hown _ (by simp)), kept_eq_self (.str s.record.message) hmessage]
  · rw [htold.context key v hv, kept_eq_self v (hvalues key v hv)]

end Stamped

end Log

end Toolpath
