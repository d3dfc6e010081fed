import Toolpath.Proofs.Depth
/-!
# What settings files are taken for

The verdict on a file whose bytes are a text, for every document that the text may be. The default
settings stand for a file without a document, but also for every document that counts as nothing, be
it a list, a text or a number. A mapping is accepted if its keys are texts and its entries pass the
check. Whatever else is wrong is told with the path of the file, apart from a key that is no text.

## Main definitions

* `Toolpath.Config.document` — what bytes stand for, down to a depth.
* `Toolpath.Config.Fault.IsAt` — faults with the document at a path.

## Main results

* `Toolpath.Config.load_of_value` — what is made of a document, at any depth.
* `Toolpath.Config.Fault.IsAt.names_path` — a fault with a document names the path.
* `Toolpath.Config.load_verdict` — which documents are accepted, and how the others are turned down.
-/

namespace Toolpath.Config

open Files

/-! ## Documents -/

/-- What bytes stand for, down to a depth: nothing, or a value. -/
def document (depth : Nat) (data : List UInt8) : Except Yaml.Fault (Option Value) :=
  (Yaml.read (Encoding.Utf8.decode data)).map (Option.map (·.valueTo depth))

/-- A document is what the reader makes of the text. -/
lemma document_eq_ok_iff {d : Nat} {data : List UInt8} {v? : Option Value} :
    document d data = .ok v? ↔
      ∃ g?, Yaml.read (Encoding.Utf8.decode data) = .ok g? ∧ g?.map (·.valueTo d) = v? := by
  rw [document]
  cases Yaml.read (Encoding.Utf8.decode data) <;> simp [Except.map]

/-! ## What is made of a document -/

section File

variable {t : Tree} {path : List Char} {data : List UInt8} {d : Nat}
  (hfile : t.openToRead "Config" (.ofText path) = .ok data)
  (htext : Encoding.Utf8.firstFault? data = none)

include hfile htext

/-- A text that is no document is told with the path. -/
lemma load_of_malformed (h : document d data = .error .malformed) :
    load t (some path) = .error (.malformed (.ofText path)) := by
  rw [document] at h
  cases hread : Yaml.read (Encoding.Utf8.decode data) with
  | ok g? => rw [hread] at h; cases h
  | error fault =>
    rw [hread] at h
    cases h
    simp only [load, loadFile, loadValue, hfile, htext, hread]

/-- No document, and one that counts as nothing, stand for the default settings. -/
lemma load_of_idle {v? : Option Value} (h : document d data = .ok v?) (hd : depth ≤ d)
    (hidle : ∀ v ∈ v?, v.isTrue = false) : load t (some path) = .ok {} := by
  obtain ⟨g?, hread, rfl⟩ := document_eq_ok_iff.mp h
  cases g? with
  | none =>
    simp only [load, loadFile, loadValue, hfile, htext, hread]
    rfl
  | some g =>
    have hlooks := (Yaml.Graph.looks_isTrue (Yaml.scalarKeys_read hread)).mono (Nat.le_add_left 1 2)
    have hfalse : (g.valueTo depth).isTrue = false :=
      (hlooks g.root depth d Nat.le.refl hd).trans (hidle _ rfl)
    simp only [load, loadFile, loadValue, hfile, htext, hread, hfalse]
    rfl

/-- **What is made of a document** that counts as something, at any depth. -/
theorem load_of_value {v : Value} (h : document d data = .ok (some v)) (hd : depth ≤ d)
    (htrue : v.isTrue = true) : load t (some path) = ofValue (.ofText path) v := by
  obtain ⟨g?, hread, hv⟩ := document_eq_ok_iff.mp h
  obtain ⟨g, rfl, rfl⟩ := Option.map_eq_some_iff.mp hv
  have hkeys := Yaml.scalarKeys_read hread
  have hlooks := (Yaml.Graph.looks_isTrue hkeys).mono (Nat.le_add_left 1 2)
  have htrue' : (g.valueTo depth).isTrue = true :=
    (hlooks g.root depth d Nat.le.refl hd).trans htrue
  have hvalue : ofValue (.ofText path) (g.valueTo depth) = ofValue (.ofText path) (g.valueTo d) :=
    Yaml.Graph.looks_ofValue hkeys (.ofText path) g.root depth d Nat.le.refl hd
  simp only [load, loadFile, loadValue, hfile, htext, hread, htrue', if_true, hvalue]

end File

/-! ## Faults -/

/-- The keys of a mapping decide whether its entries are checked. -/
lemma ofValue_map (path : FilePath) (es : Check.Entries) :
    ofValue path (.map es) = if es.all (isText ·.1) then
        match Settings.check es with
        | .sound s => .ok s
        | .faulty issues => .error (.invalid path issues)
      else .error .keyNotText := rfl

/-- A value is accepted iff it is a mapping whose keys are texts and whose entries pass their
check. -/
lemma ofValue_eq_ok_iff {path : FilePath} {v : Value} {s : Settings} :
    ofValue path v = .ok s ↔
      ∃ es, v = .map es ∧ es.all (isText ·.1) = true ∧ Settings.check es = .sound s := by
  cases v with
  | map es =>
    rw [ofValue_map]
    constructor
    · intro h
      split at h
      · rename_i htexts
        cases hcheck : Settings.check es <;> rw [hcheck] at h <;> cases h
        exact ⟨es, rfl, htexts, hcheck⟩
      · cases h
    · rintro ⟨_, ⟨⟩, htexts, hcheck⟩
      rw [if_pos htexts, hcheck]
  | _ => simp [ofValue]

/-- A key that is no text is what a mapping is turned down for first. -/
lemma ofValue_eq_keyNotText_iff {path : FilePath} {v : Value} :
    ofValue path v = .error .keyNotText ↔ ∃ es, v = .map es ∧ es.all (isText ·.1) = false := by
  cases v with
  | map es =>
    rw [ofValue_map]
    constructor
    · intro h
      split at h
      · cases hcheck : Settings.check es <;> rw [hcheck] at h <;> cases h
      · rename_i htexts
        exact ⟨es, rfl, eq_false_of_ne_true htexts⟩
    · rintro ⟨_, ⟨⟩, htexts⟩
      rw [if_neg (ne_true_of_eq_false htexts)]
  | _ => simp [ofValue]

/-- Whether a fault is one with the document at a path, as it is told. -/
def Fault.IsAt (path : FilePath) : Fault → Prop
  | malformed p => p = path
  | notMapping p _ => p = path
  | invalid p _ => p = path
  | keyNotText => False
  | value _ => False

/-- **A fault with a document names the path** in its wording, whatever is remarked on it. -/
theorem Fault.IsAt.names_path {path : FilePath} {fault : Fault} (h : fault.IsAt path)
    (remark : Option String) :
    ∃ front back, fault.message remark = front ++ String.ofList path.text ++ back := by
  cases fault with
  | malformed p =>
    cases h
    let cause := (ValueFault.content path .malformed).message remark
    let behind := remarked ": " (remark.map fun _ => cause)
    refine ⟨"Config at ", " is not valid YAML" ++ behind, ?_⟩
    change "Config at " ++ String.ofList path.text ++ " is not valid YAML" ++ behind = _
    simp only [String.append_assoc]
  | notMapping p kind =>
    cases h
    refine ⟨"Config at ", " must be a mapping, got " ++ kind, ?_⟩
    change "Config at " ++ String.ofList path.text ++ " must be a mapping, got " ++ kind = _
    simp only [String.append_assoc]
  | invalid p issues =>
    cases h
    let count := countIssues issues.length
    let behind := remarked "\n" remark
    refine ⟨"Config validation failed at ", ": " ++ count ++ " for ViewerConfigV1" ++ behind, ?_⟩
    change "Config validation failed at " ++ String.ofList path.text ++ ": " ++ count ++
      " for ViewerConfigV1" ++ behind = _
    simp only [String.append_assoc]
  | _ => exact h.elim

/-- Values are turned down with faults at their path, apart from keys that are no texts. -/
lemma isAt_of_ofValue {path : FilePath} {v : Value} {fault : Fault}
    (h : ofValue path v = .error fault) (hkey : fault ≠ .keyNotText) : fault.IsAt path := by
  cases v with
  | map es =>
    rw [ofValue_map] at h
    split at h
    · cases hcheck : Settings.check es <;> rw [hcheck] at h <;> cases h
      rfl
    · exact absurd (Except.error.inj h).symm hkey
  | _ => cases h; rfl

/-- A mapping that counts as nothing has no entries. -/
lemma eq_nil_of_idle {es : Check.Entries} (h : (Value.map es).isTrue = false) : es = [] := by
  simpa [Value.isTrue] using h

/-! ## The verdict -/

/-- **The verdict on a settings file** whose bytes are a text, provided that the reader either finds
what the text stands for or finds it malformed. It is accepted iff there is no document, or one that
counts as nothing, and then stands for the default settings; or the document is a mapping whose keys
are texts and whose entries pass the check. A mapping with a key that is no text is turned down
without a word about the path. All else is turned down with a fault at the path, which its wording
names, whatever is remarked on it.

**Proof sketch.** What is made of the document does not depend on the depth that it is looked at
(`load_of_idle`, `load_of_value`), so each part is a fact about the value of the document alone. A
mapping that counts as nothing has no entries, and the check makes the default settings of those. -/
theorem load_verdict {t : Tree} {path : List Char} {data : List UInt8} {d : Nat}
    (hfile : t.openToRead "Config" (.ofText path) = .ok data)
    (htext : Encoding.Utf8.firstFault? data = none)
    (hread : ∀ fault, document d data = .error fault → fault = .malformed) (hd : depth ≤ d) :
    (∀ s, load t (some path) = .ok s ↔
      (s = {} ∧ ∃ v?, document d data = .ok v? ∧ ∀ v ∈ v?, v.isTrue = false) ∨
      ∃ es, document d data = .ok (some (.map es)) ∧ es.all (isText ·.1) = true ∧
        Settings.check es = .sound s) ∧
    (load t (some path) = .error .keyNotText ↔
      ∃ es, document d data = .ok (some (.map es)) ∧ es.all (isText ·.1) = false) ∧
    ∀ fault, load t (some path) = .error fault → fault ≠ .keyNotText →
      fault.IsAt (.ofText path) ∧
      ∀ remark, ∃ front back,
        fault.message remark = front ++ String.ofList (FilePath.ofText path).text ++ back := by
  suffices h : _ ∧ _ ∧ ∀ fault, load t (some path) = .error fault → fault ≠ .keyNotText →
      fault.IsAt (.ofText path) from
    ⟨h.1, h.2.1, fun fault hfault hkey =>
      have hat := h.2.2 fault hfault hkey
      ⟨hat, hat.names_path⟩⟩
  cases hdocument : document d data with
  | error fault =>
    obtain rfl := hread fault hdocument
    rw [load_of_malformed hfile htext hdocument]
    refine ⟨by simp, by simp, ?_⟩
    rintro _ ⟨⟩ -
    rfl
  | ok v? =>
    by_cases hidle : ∀ v ∈ v?, v.isTrue = false
    · rw [load_of_idle hfile htext hdocument hd hidle]
      refine ⟨fun s => ⟨?_, ?_⟩, ⟨?_, ?_⟩, ?_⟩
      · rintro ⟨⟩
        exact .inl ⟨rfl, v?, rfl, hidle⟩
      · rintro (⟨rfl, -⟩ | ⟨es, ⟨⟩, -, hcheck⟩)
        · rfl
        · obtain rfl := eq_nil_of_idle (hidle _ rfl)
          exact congrArg Except.ok (Checked.sound.inj hcheck)
      · rintro ⟨⟩
      · rintro ⟨es, ⟨⟩, htexts⟩
        obtain rfl := eq_nil_of_idle (hidle _ rfl)
        cases htexts
      · rintro _ ⟨⟩
    · obtain ⟨v, rfl, htrue⟩ : ∃ v, v? = some v ∧ v.isTrue = true := by
        simpa using hidle
      rw [load_of_value hfile htext hdocument hd htrue]
      refine ⟨fun s => ?_, ?_, fun fault => isAt_of_ofValue⟩
      · rw [ofValue_eq_ok_iff, or_iff_right]
        · simp
        · rintro ⟨-, _, ⟨⟩, hfalse⟩
          exact absurd (hfalse v rfl) (by simp [htrue])
      · rw [ofValue_eq_keyNotText_iff]
        simp

/-! ## Files that are told apart -/

/-- A list with an item, an empty list, and a mapping whose key is a number. -/
def desk : Tree :=
  .ofFiles [[]] [("list.yaml".toList, .file "- 1\n".toUTF8.toList),
    ("nothing.yaml".toList, .file "[]\n".toUTF8.toList),
    ("number.yaml".toList, .file "1: a\n".toUTF8.toList)]

/-- A document whose value shows some feature has a value. -/
lemma document_of_feature {α : Type} {d : Nat} {data : List UInt8} {feature : Value → α} {a : α}
    (h : (document d data).toOption.join.map feature = some a) :
    ∃ v, document d data = .ok (some v) ∧ feature v = a := by
  obtain ⟨v, hv, ha⟩ := Option.map_eq_some_iff.mp h
  refine ⟨v, ?_, ha⟩
  cases hdocument : document d data with
  | error fault => rw [hdocument] at hv; cases hv
  | ok v? => rw [hdocument] at hv; exact congrArg _ hv

/-- The list is turned down with its path. -/
theorem load_verdict_list :
    desk.openToRead "Config" (.ofText "list.yaml".toList) = .ok "- 1\n".toUTF8.toList ∧
    (∃ v, document depth "- 1\n".toUTF8.toList = .ok (some v) ∧ v.kind = "list") ∧
    ∃ fault, load desk (some "list.yaml".toList) = .error fault ∧
      fault.IsAt (.ofText "list.yaml".toList) := by
  have hseen : (document depth "- 1\n".toUTF8.toList).toOption.join.map
      (fun v => (v.kind, v.isTrue)) = some ("list", true) := by decide +kernel
  obtain ⟨v, hdocument, hv⟩ := document_of_feature hseen
  obtain ⟨hkind, htrue⟩ := Prod.mk.inj hv
  have hfile : desk.openToRead "Config" (.ofText "list.yaml".toList) =
      .ok "- 1\n".toUTF8.toList := by decide +kernel
  obtain ⟨hok, hkey, hfault⟩ := load_verdict hfile (by decide +kernel)
    (fun fault h => by rw [hdocument] at h; cases h) Nat.le.refl
  have hmap (es : Check.Entries) : document depth "- 1\n".toUTF8.toList ≠ .ok (some (.map es)) := by
    rw [hdocument]
    rintro ⟨⟩
    exact absurd hkind (by simp [Value.kind])
  refine ⟨hfile, ⟨v, hdocument, hkind⟩, ?_⟩
  cases hload : load desk (some "list.yaml".toList) with
  | ok s =>
    obtain ⟨-, v?, hv?, hidle⟩ | ⟨es, hes, -⟩ := (hok s).mp hload
    · obtain rfl := Except.ok.inj (hdocument.symm.trans hv?)
      exact absurd (hidle v rfl) (by simp [htrue])
    · exact absurd hes (hmap es)
  | error fault =>
    refine ⟨fault, rfl, (hfault fault hload ?_).1⟩
    rintro rfl
    obtain ⟨es, hes, -⟩ := hkey.mp hload
    exact hmap es hes

/-- **Not every document that is no mapping is turned down**: an empty list is accepted. And a key
that is a number is turned down without a word about the path. -/
theorem load_verdict_slips :
    (∃ v, document depth "[]\n".toUTF8.toList = .ok (some v) ∧ v.kind = "list" ∧
      load desk (some "nothing.yaml".toList) = .ok {}) ∧
    load desk (some "number.yaml".toList) = .error .keyNotText ∧
    Fault.keyNotText.message = "keywords must be strings" := by
  have hseen : (document depth "[]\n".toUTF8.toList).toOption.join.map
      (fun v => (v.kind, v.isTrue)) = some ("list", false) := by decide +kernel
  obtain ⟨v, hdocument, hv⟩ := document_of_feature hseen
  obtain ⟨hkind, hfalse⟩ := Prod.mk.inj hv
  have hfile : desk.openToRead "Config" (.ofText "nothing.yaml".toList) =
      .ok "[]\n".toUTF8.toList := by decide +kernel
  have hload := load_of_idle hfile (by decide +kernel) hdocument Nat.le.refl fun w hw => by
    rwa [← Option.some.inj hw]
  have hnumber : (match load desk (some "number.yaml".toList) with
      | .error .keyNotText => true
      | _ => false) = true := by decide +kernel
  refine ⟨⟨v, hdocument, hkind, hload⟩, ?_, rfl⟩
  split at hnumber
  · assumption
  · cases hnumber

end Toolpath.Config
