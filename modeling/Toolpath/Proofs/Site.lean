import Mathlib.Data.List.Infix
import Mathlib.Tactic.Lemma
import Toolpath.Proofs.Lines
import Toolpath.Url.Join
/-!
# Places in the web

A place in the web is a host and the names that lead to a folder or a document. Written as a URL it
is read back part by part, and joining names to a folder goes on where the folder ends: no name of
either side is lost, doubled or walked over.

## Main definitions

* `Toolpath.Url.IsName`, `Toolpath.Url.IsHost` — names on a path and hosts of plain characters.
* `Toolpath.Url.pathOf` — the path that leads along names.
* `Toolpath.Url.Plain` — URLs of the web made of plain characters.
* `Toolpath.Site` — a folder of the web.

## Main results

* `Toolpath.Url.split_text` — a plain URL is read back from its text.
* `Toolpath.Url.joinPaths_pathOf` — names joined to the path of a folder.
* `Toolpath.Site.join_folder` — names joined to a folder of the web.
-/

namespace Toolpath

open Text

/-! ## Cutting -/

/-- A text is cut before the first character with a property. -/
lemma Text.cutBefore_append {p : Char → Bool} {s : List Char} (h : ∀ c ∈ s, p c = false)
    {t : List Char} (ht : ∀ c ∈ t.head?, p c = true) : cutBefore p (s ++ t) = (s, t) := by
  have hs : ∀ c ∈ s, (!p c) = true := fun c hc => by rw [h c hc]; rfl
  unfold cutBefore
  rw [List.takeWhile_append_of_pos hs, List.dropWhile_append_of_pos hs]
  cases t with
  | nil => simp
  | cons c t =>
    have hc : p c = true := ht c rfl
    simp [hc]

/-- A text is cut at the first separator. -/
lemma Text.cutAt_append {sep : Char} {s : List Char} (h : sep ∉ s) (t : List Char) :
    cutAt sep (s ++ sep :: t) = (s, some t) := by
  have hs : ∀ c ∈ s, (c == sep) = false := fun c hc => by simpa using ne_of_mem_of_not_mem hc h
  rw [cutAt, cutBefore_append hs (by simp)]

/-- A text without the separator is not cut. -/
lemma Text.cutAt_of_not_mem {sep : Char} {s : List Char} (h : sep ∉ s) :
    cutAt sep s = (s, none) := by
  have hs : ∀ c ∈ s, (c == sep) = false := fun c hc => by simpa using ne_of_mem_of_not_mem hc h
  have hcut := cutBefore_append hs (t := []) (by simp)
  rw [List.append_nil] at hcut
  rw [cutAt, hcut]

/-- A text is cut at its first separator, if it has one. -/
lemma Text.cutAt_cases (sep : Char) (s : List Char) :
    (sep ∉ s ∧ cutAt sep s = (s, none)) ∨
    ∃ front rest, s = front ++ sep :: rest ∧ sep ∉ front ∧ cutAt sep s = (front, some rest) := by
  by_cases h : sep ∈ s
  · obtain ⟨front, rest, rfl, hfront⟩ := List.eq_append_cons_of_mem h
    exact .inr ⟨front, rest, rfl, hfront, cutAt_append hfront rest⟩
  · exact .inl ⟨h, cutAt_of_not_mem h⟩

/-- Pieces that do not hold the separator are read back. -/
lemma Text.pieces_joined {sep : Char} {ps : List (List Char)} (hne : ps ≠ [])
    (h : ∀ p ∈ ps, sep ∉ p) : pieces sep (joined [sep] ps) = ps := by
  induction ps with
  | nil => exact absurd rfl hne
  | cons p ps ih =>
    have hp := pieces_eq_singleton (h p List.mem_cons_self)
    cases ps with
    | nil => exact hp
    | cons q qs =>
      have hrest := ih (by simp) fun r hr => h r (List.mem_cons_of_mem p hr)
      have hjoined : joined [sep] (p :: q :: qs) = p ++ sep :: joined [sep] (q :: qs) := by
        simp [joined]
      rw [hjoined, pieces_append, hp, hrest]
      rfl

namespace Url

/-! ## Names and hosts -/

/-- The plain characters of names and hosts. -/
def isNameChar (c : Char) : Bool := c.isAlphanum || c == '-' || c == '_' || c == '.'

/-- A name on a path: plain characters, and no name of points. -/
structure IsName (name : List Char) : Prop where
  ne_nil : name ≠ []
  plain : ∀ c ∈ name, isNameChar c = true
  isPoints : isPoints name = false

instance (name : List Char) : Decidable (IsName name) :=
  decidable_of_iff
    (name ≠ [] ∧ name.all isNameChar = true ∧ Toolpath.Url.isPoints name = false)
    ⟨fun h => ⟨h.1, List.all_eq_true.mp h.2.1, h.2.2⟩,
      fun h => ⟨h.ne_nil, List.all_eq_true.mpr h.plain, h.isPoints⟩⟩

/-- A host of plain characters, perhaps with the number of a port. -/
def IsHost (authority : List Char) : Prop :=
  ∃ host port : List Char, authority = host ++ port ∧ host ≠ [] ∧
    (∀ c ∈ host, isNameChar c = true) ∧
    (port = [] ∨
      ∃ digits : List Char, port = ':' :: digits ∧ digits ≠ [] ∧ ∀ c ∈ digits, c.isDigit = true)

/-- A character that is not plain is none of the plain ones. -/
lemma ne_of_isNameChar {c : Char} (hc : isNameChar c = true) (d : Char)
    (hd : isNameChar d = false := by decide) : c ≠ d := by
  rintro rfl
  rw [hc] at hd
  exact absurd hd (by simp)

/-- Plain characters are visible and belong to ASCII. -/
lemma toNat_of_isNameChar {c : Char} (h : isNameChar c = true) : 32 < c.toNat ∧ c.toNat < 128 := by
  change (decide ('A'.val ≤ c.val ∧ c.val ≤ 'Z'.val) || 'a'.val ≤ c.val && c.val ≤ 'z'.val ||
    '0'.val ≤ c.val && c.val ≤ '9'.val || c == '-' || c == '_' || c == '.') = true at h
  simp only [Bool.or_eq_true, Bool.and_eq_true, decide_eq_true_eq, beq_iff_eq,
    UInt32.le_iff_toNat_le] at h
  rcases h with ((h | rfl) | rfl) | rfl
  · have : c.toNat = c.val.toNat := rfl
    have : 'Z'.val.toNat = 90 := rfl
    have : 'z'.val.toNat = 122 := rfl
    have : '9'.val.toNat = 57 := rfl
    have : 'A'.val.toNat = 65 := rfl
    have : 'a'.val.toNat = 97 := rfl
    have : '0'.val.toNat = 48 := rfl
    omega
  all_goals decide

/-- A text of plain characters, and of one other character. -/
def PlainOr (other : Char) (s : List Char) : Prop := ∀ c ∈ s, isNameChar c = true ∨ c = other

/-- No other character is in such a text. -/
lemma PlainOr.not_mem {other : Char} {s : List Char} (h : PlainOr other s) (d : Char)
    (hd : isNameChar d = false := by decide) (hother : d ≠ other := by decide) : d ∉ s := by
  intro hmem
  rcases h d hmem with hplain | rfl
  · exact ne_of_isNameChar hplain d hd rfl
  · exact hother rfl

/-- Such a text is visible if the other character is. -/
lemma PlainOr.visible {other : Char} {s : List Char} (h : PlainOr other s)
    (hother : 32 < other.toNat) : ∀ c ∈ s, 32 < c.toNat := by
  intro c hc
  rcases h c hc with hplain | rfl
  · exact (toNat_of_isNameChar hplain).1
  · exact hother

/-- The characters of hosts are plain ones and colons. -/
lemma IsHost.plainOr {authority : List Char} (h : IsHost authority) : PlainOr ':' authority := by
  obtain ⟨host, port, rfl, -, hhost, hport⟩ := h
  intro c hc
  rcases List.mem_append.mp hc with hc | hc
  · exact .inl (hhost c hc)
  · rcases hport with rfl | ⟨digits, rfl, -, hdigits⟩
    · exact absurd hc List.not_mem_nil
    · rcases List.mem_cons.mp hc with rfl | hc
      · exact .inr rfl
      · exact .inl (by simp [isNameChar, Char.isAlphanum, hdigits c hc])

/-! ## Plain URLs -/

/-- A URL of the web made of plain characters: a host, and a path that starts with a slash. -/
structure Plain (u : Url) : Prop where
  isWeb : isWeb u.scheme = true
  host : IsHost u.authority
  path : PlainOr '/' u.path
  head_path : ∀ c ∈ u.path.head?, c = '/'
  query : u.query = []
  fragment : u.fragment = []

/-- The schemes of the web are two. -/
lemma isWeb_iff {scheme : List Char} :
    isWeb scheme = true ↔ scheme = "http".toList ∨ scheme = "https".toList := by
  simp [isWeb]

/-- Visible characters are no dirt. -/
lemma cleaned_eq_self {s : List Char} (h : ∀ c ∈ s, 32 < c.toNat) : cleaned s = s := by
  have hdrop : s.dropWhile (·.toNat ≤ 32) = s := by
    cases s with
    | nil => rfl
    | cons c s => exact List.dropWhile_cons_of_neg (by simpa using h c List.mem_cons_self)
  rw [cleaned, hdrop, List.filter_eq_self]
  intro c hc
  have hne : ∀ d : Char, d.toNat ≤ 32 → c ≠ d := by
    rintro d hd rfl
    exact absurd (h c hc) (by omega)
  simp [hne '\t' (by decide), hne '\r' (by decide), hne '\n' (by decide)]

/-- A host of plain characters is accepted. -/
lemma IsHost.check {authority : List Char} (h : IsHost authority) :
    checkAuthority authority = .ok () := by
  have hopen : authority.contains '[' = false := by
    simpa using h.plainOr.not_mem '['
  have hclose : authority.contains ']' = false := by
    simpa using h.plainOr.not_mem ']'
  have hseen : (authority.any fun c => disguised.contains c.toNat) = false := by
    rw [List.any_eq_false]
    intro c hc
    have hascii : c.toNat < 128 := by
      rcases h.plainOr c hc with hplain | rfl
      · exact (toNat_of_isNameChar hplain).2
      · decide
    have hfar : ∀ n ∈ disguised, 128 ≤ n := by decide
    simpa using fun hmem => absurd (hfar _ hmem) (by omega)
  unfold checkAuthority checkBrackets
  rw [hopen, hclose]
  simp only [hseen]
  rfl

/-- A host is not empty. -/
lemma IsHost.ne_nil {authority : List Char} (h : IsHost authority) : authority ≠ [] := by
  obtain ⟨host, port, rfl, hne, -⟩ := h
  exact List.append_ne_nil_of_left_ne_nil hne port

/-- The text of a plain URL. -/
lemma Plain.text_eq {u : Url} (h : u.Plain) :
    u.text = u.scheme ++ ':' :: '/' :: '/' :: (u.authority ++ u.path) := by
  obtain ⟨hweb, hhost, -, hhead, hquery, hfragment⟩ := h
  have hscheme : u.scheme.isEmpty = false := by
    rcases isWeb_iff.mp hweb with h | h <;> rw [h] <;> rfl
  have hshows : u.showsAuthority = true := by simp [showsAuthority, hhost.ne_nil]
  have hpath : (u.path.isEmpty || u.path.head? = some '/') = true := by
    cases hp : u.path with
    | nil => rfl
    | cons c path =>
      rw [hp] at hhead
      simpa using hhead c rfl
  unfold text
  simp only [hshows, hscheme, hpath, hquery, hfragment]
  simp [behindSign]

/-- The characters of the text of a plain URL are visible. -/
lemma Plain.visible {u : Url} (h : u.Plain) : ∀ c ∈ u.text, 32 < c.toNat := by
  have hscheme : u.scheme.all (32 < ·.toNat) = true := by
    rcases isWeb_iff.mp h.isWeb with hweb | hweb <;> rw [hweb] <;> decide
  have hcolon : 32 < ':'.toNat := by decide
  have hslash : 32 < '/'.toNat := by decide
  intro c hc
  rw [h.text_eq] at hc
  simp only [List.mem_append, List.mem_cons] at hc
  rcases hc with hc | rfl | rfl | rfl | hc | hc
  · exact of_decide_eq_true (List.all_eq_true.mp hscheme c hc)
  · exact hcolon
  · exact hslash
  · exact hslash
  · exact h.host.plainOr.visible hcolon c hc
  · exact h.path.visible hslash c hc

/-- A scheme of the web is read in front of its colon. -/
lemma splitScheme_web {scheme : List Char} (h : isWeb scheme = true) (default rest : List Char) :
    splitScheme default (scheme ++ ':' :: rest) = (scheme, rest) := by
  rcases isWeb_iff.mp h with rfl | rfl
  all_goals
    rw [splitScheme, cutAt_append (by decide)]
    rfl

/-- A text without colons has no scheme. -/
lemma splitScheme_of_not_mem {s : List Char} (h : ':' ∉ s) (default : List Char) :
    splitScheme default s = (default, s) := by
  rw [splitScheme, cutAt_of_not_mem h]
  cases s <;> rfl

/-- **A plain URL is read back from its text.** -/
theorem split_text {u : Url} (h : u.Plain) : split u.text = .ok u := by
  have hclean := cleaned_eq_self h.visible
  have hhost : ∀ c ∈ u.authority, (c == '/' || c == '?' || c == '#') = false := by
    intro c hc
    rcases h.host.plainOr c hc with hplain | rfl
    · simp [ne_of_isNameChar hplain '/',
        ne_of_isNameChar hplain '?',
        ne_of_isNameChar hplain '#']
    · decide
  have hcut : cutBefore (fun c => c == '/' || c == '?' || c == '#') (u.authority ++ u.path) =
      (u.authority, u.path) :=
    cutBefore_append hhost fun c hc => by simp [h.head_path c hc]
  unfold split splitWith
  rw [hclean, h.text_eq, splitScheme_web h.isWeb]
  simp only [splitAuthority, hcut, h.host.check, cutAt_of_not_mem (h.path.not_mem '#'),
    cutAt_of_not_mem (h.path.not_mem '?')]
  obtain ⟨scheme, authority, path, query, fragment⟩ := u
  obtain rfl : query = [] := h.query
  obtain rfl : fragment = [] := h.fragment
  rfl

/-! ## Paths -/

/-- The path that leads along names. -/
def pathOf (names : List (List Char)) : List Char := names.flatMap ('/' :: ·)

/-- A path is a slash in front of its names between slashes. -/
lemma pathOf_eq {names : List (List Char)} (h : names ≠ []) :
    pathOf names = '/' :: joined ['/'] names := by
  induction names with
  | nil => exact absurd rfl h
  | cons name names ih =>
    cases names with
    | nil => simp [pathOf, joined]
    | cons next rest =>
      have hrest := ih (by simp)
      rw [pathOf] at hrest
      rw [pathOf, List.flatMap_cons, hrest]
      simp [joined]

/-- A path with a slash behind is one whose last name is empty. -/
lemma pathOf_append_slash (names : List (List Char)) :
    pathOf names ++ ['/'] = pathOf (names ++ [[]]) := by simp [pathOf]

/-- The characters of a path along names are plain, or slashes. -/
lemma plainOr_pathOf {names : List (List Char)} (h : ∀ name ∈ names, IsName name) :
    PlainOr '/' (pathOf names) := by
  intro c hc
  obtain ⟨name, hname, hc⟩ := List.mem_flatMap.mp hc
  rcases List.mem_cons.mp hc with rfl | hc
  · exact .inr rfl
  · exact .inl ((h name hname).plain c hc)

/-- The pieces of a path are its names behind an empty one. -/
lemma pieces_pathOf {names : List (List Char)} (h : ∀ name ∈ names, '/' ∉ name) :
    pieces '/' (pathOf names) = [] :: names := by
  by_cases hne : names = []
  · subst hne
    rfl
  · rw [pathOf_eq hne, pieces, if_pos rfl, pieces_joined hne h]

/-- Names that are not of points stay on the way. -/
lemma walked_eq_reverse {names : List (List Char)} (h : ∀ name ∈ names, isPoints name = false) :
    walked names = names.reverse := by
  have hpush : ∀ way : List (List Char), names.foldl (fun way name =>
      if name = ['.', '.'] then way.drop 1 else if name = ['.'] then way else name :: way) way =
      names.reverse ++ way := by
    induction names with
    | nil => exact fun way => rfl
    | cons name names ih =>
      intro way
      have hname := h name List.mem_cons_self
      simp only [isPoints, Bool.or_eq_false_iff, beq_eq_false_iff_ne] at hname
      rw [List.foldl_cons, if_neg hname.2, if_neg hname.1,
        ih fun other hother => h other (List.mem_cons_of_mem name hother)]
      simp
  rw [walked, hpush, List.append_nil]

/-- The walk along names that are not of points leads along all of them. -/
lemma walk_nil_cons {names : List (List Char)} (hne : names ≠ [])
    (h : ∀ name ∈ names, isPoints name = false) : walk ([] :: names) = pathOf names := by
  have hall : ∀ name ∈ [] :: names, isPoints name = false := by
    simpa using ⟨by decide, h⟩
  have hlast : isPoints (([] :: names).getLastD []) = false := by
    rw [List.getLastD_eq_getLast?, List.getLast?_eq_some_getLast (List.cons_ne_nil [] names)]
    exact hall _ (List.getLast_mem _)
  have hjoined : joined ['/'] ([] :: names) = '/' :: joined ['/'] names := by
    cases names with
    | nil => exact absurd rfl hne
    | cons name rest => rfl
  unfold walk
  simp only [walked_eq_reverse hall, List.reverse_reverse, hlast, Bool.false_eq_true, if_false,
    hjoined]
  exact (pathOf_eq hne).symm

/-- A name holds no slash. -/
lemma IsName.slash_not_mem {name : List Char} (h : IsName name) : '/' ∉ name :=
  fun hmem => ne_of_isNameChar (h.plain '/' hmem) '/' (by decide) rfl

/-- Names between slashes start with a plain character. -/
lemma exists_joined_eq_cons {names : List (List Char)} (hne : names ≠ [])
    (h : ∀ name ∈ names, IsName name) :
    ∃ c rest, joined ['/'] names = c :: rest ∧ isNameChar c = true := by
  obtain ⟨name, names, rfl⟩ := List.exists_cons_of_ne_nil hne
  have hname := h name List.mem_cons_self
  obtain ⟨c, name, rfl⟩ := List.exists_cons_of_ne_nil hname.ne_nil
  have hc := hname.plain c List.mem_cons_self
  cases names with
  | nil => exact ⟨c, name, rfl, hc⟩
  | cons next rest => exact ⟨c, _, rfl, hc⟩

/-- Between the first and the last of some names, the empty ones are gaps. -/
lemma withoutGaps_folder {folder names : List (List Char)} (hne : names ≠ [])
    (h : ∀ name ∈ folder ++ names, name ≠ []) :
    withoutGaps ([] :: (folder ++ [[]] ++ names)) = [] :: (folder ++ names) := by
  obtain ⟨front, last, rfl⟩ : ∃ front last, names = front ++ [last] :=
    ⟨_, _, (List.dropLast_append_getLast hne).symm⟩
  have hfilter : ∀ names : List (List Char), (∀ name ∈ names, name ≠ []) →
      names.filter (!·.isEmpty) = names := by
    intro names hnames
    rw [List.filter_eq_self]
    intro name hname
    simpa using hnames name hname
  obtain ⟨n, more, hmore⟩ := List.exists_cons_of_ne_nil
    (List.append_ne_nil_of_right_ne_nil (folder ++ [[]]) hne)
  rw [hmore, withoutGaps, ← hmore]
  · rw [← List.append_assoc, List.dropLast_concat, List.getLastD_concat, List.filter_append,
      List.filter_append, hfilter folder fun name hname => h name (by simp [hname]),
      hfilter front fun name hname => h name (by simp [hname])]
    simp
  · simp

/-- **Names joined to the path of a folder** follow those of the folder.

**Proof sketch.** The folder's path ends in a slash, so its last name is empty and stays; between
it and the names it is a gap, which is dropped. No name is one of points, so all are walked. -/
theorem joinPaths_pathOf {folder names : List (List Char)} (hne : names ≠ [])
    (hfolder : ∀ name ∈ folder, IsName name) (hnames : ∀ name ∈ names, IsName name) :
    joinPaths (pathOf folder ++ ['/']) (joined ['/'] names) = pathOf (folder ++ names) := by
  have hall : ∀ name ∈ folder ++ names, IsName name := fun name hname =>
    (List.mem_append.mp hname).elim (hfolder name) (hnames name)
  have hhead : ¬ (joined ['/'] names).head? = some '/' := by
    obtain ⟨c, rest, hc, hplain⟩ := exists_joined_eq_cons hne hnames
    rw [hc]
    exact fun h => ne_of_isNameChar hplain '/' (by decide) (Option.some.inj h)
  have hbase : pieces '/' (pathOf folder ++ ['/']) = [] :: (folder ++ [[]]) := by
    rw [pathOf_append_slash]
    refine pieces_pathOf fun name hname => ?_
    rcases List.mem_append.mp hname with hname | hname
    · exact (hfolder name hname).slash_not_mem
    · simp [List.mem_singleton.mp hname]
  have hlast : ([] :: folder ++ [[]]).getLastD [] = ([] : List Char) := List.getLastD_concat
  unfold joinPaths
  rw [if_neg hhead, hbase, pieces_joined hne fun name hname => (hnames name hname).slash_not_mem]
  rw [← List.cons_append]
  simp only [hlast, if_true]
  rw [List.cons_append, List.cons_append,
    withoutGaps_folder hne fun name hname => (hall name hname).ne_nil]
  exact walk_nil_cons (List.append_ne_nil_of_right_ne_nil folder hne)
    fun name hname => (hall name hname).isPoints

/-! ## Relative URLs -/

/-- URLs of the web can be relative, and have an authority. -/
lemma isIn_of_isWeb {scheme : List Char} (h : isWeb scheme = true) :
    isIn withRelative scheme = true ∧ isIn withAuthority scheme = true := by
  rcases isWeb_iff.mp h with rfl | rfl <;> decide +kernel

/-- A relative URL with a path of its own is read on the host of its base, and its path goes on
where that of the base ends. -/
lemma joinParts_of_path {base relative : List Char} {b u : Url} (hbase : split base = .ok b)
    (hrelative : splitWith b.scheme relative = .ok u) (hweb : isWeb b.scheme = true)
    (hscheme : u.scheme = b.scheme) (hauthority : u.authority = [])
    (hpath : (splitParameters u).1 ≠ []) :
    joinParts base relative = .ok (text { u with
      authority := b.authority
      path := withParametersText (joinPaths (splitParameters b).1 (splitParameters u).1)
        (splitParameters u).2 }) := by
  obtain ⟨hin, hwith⟩ := isIn_of_isWeb hweb
  have hsame : ¬ ((u.scheme != b.scheme || !isIn withRelative u.scheme) = true) := by
    simp [hscheme, hin]
  have hnone : ¬ ((isIn withAuthority u.scheme && !u.authority.isEmpty) = true) := by
    simp [hauthority]
  have hsome : ¬ (((splitParameters u).1.isEmpty && (splitParameters u).2.isEmpty) = true) := by
    simp [hpath]
  unfold joinParts
  simp only [hbase, hrelative, bind, Except.bind]
  rw [if_neg hsame, if_neg hnone, if_neg hsome, hscheme, hwith]
  rfl

/-- A path without semicolons has no parameters. -/
lemma splitParameters_of_not_mem {u : Url} (h : ';' ∉ u.path) :
    splitParameters u = (u.path, []) := by
  have hlast : ';' ∉ afterLast '/' u.path := by
    intro hmem
    rw [afterLast, List.mem_reverse] at hmem
    exact h (List.mem_reverse.mp ((List.takeWhile_subset _) hmem))
  unfold splitParameters
  simp only [cutAt_of_not_mem hlast, ite_self]

/-- The characters of names between slashes are plain, or slashes. -/
lemma plainOr_joined {names : List (List Char)} (hne : names ≠ [])
    (h : ∀ name ∈ names, IsName name) : PlainOr '/' (joined ['/'] names) := by
  intro c hc
  refine plainOr_pathOf h c ?_
  rw [pathOf_eq hne]
  exact List.mem_cons_of_mem '/' hc

/-- Names between slashes are a path and nothing else. -/
lemma splitWith_joined {names : List (List Char)} (hne : names ≠ [])
    (h : ∀ name ∈ names, IsName name) (default : List Char) :
    splitWith default (joined ['/'] names) = .ok ⟨default, [], joined ['/'] names, [], []⟩ := by
  have hplain := plainOr_joined hne h
  have hclean := cleaned_eq_self (hplain.visible (by decide))
  have hscheme := splitScheme_of_not_mem (hplain.not_mem ':') default
  have hauthority : splitAuthority (joined ['/'] names) = ([], joined ['/'] names) := by
    obtain ⟨c, rest, hc, hfirst⟩ := exists_joined_eq_cons hne h
    have hslash : c ≠ '/' := ne_of_isNameChar hfirst '/'
    rw [hc, splitAuthority]
    intro s hs
    exact absurd (List.cons.inj hs).1 hslash
  unfold splitWith
  rw [hclean, hscheme]
  simp only [hauthority, cutAt_of_not_mem (hplain.not_mem '#'),
    cutAt_of_not_mem (hplain.not_mem '?')]
  rfl

end Url

/-! ## Folders of the web -/

/-- A folder of the web: a scheme, a host, and the names that lead to the folder. -/
structure Site where
  scheme : List Char
  host : List Char
  names : List (List Char)
  isWeb : Url.isWeb scheme = true
  isHost : Url.IsHost host
  isName : ∀ name ∈ names, Url.IsName name

namespace Site

open Url

/-- The URL of a folder, without a slash behind. -/
def text (site : Site) : List Char := site.scheme ++ "://".toList ++ site.host ++ pathOf site.names

/-- What lies below a folder, with a slash behind or without. -/
def below (site : Site) (names : List (List Char)) (slash : Bool) : Url :=
  ⟨site.scheme, site.host, pathOf (site.names ++ names) ++ (if slash then ['/'] else []), [], []⟩

variable (site : Site) (names : List (List Char))

/-- What lies below a folder of the web is a plain URL. -/
lemma plain_below (h : ∀ name ∈ names, IsName name) (slash : Bool) :
    (site.below names slash).Plain where
  isWeb := site.isWeb
  host := site.isHost
  path := by
    have hall : ∀ name ∈ site.names ++ names, IsName name := fun name hname =>
      (List.mem_append.mp hname).elim (site.isName name) (h name)
    intro c hc
    rcases List.mem_append.mp hc with hc | hc
    · exact plainOr_pathOf hall c hc
    · cases slash with
      | false => exact absurd hc List.not_mem_nil
      | true => exact .inr (List.mem_singleton.mp hc)
  head_path := by
    cases hall : site.names ++ names with
    | nil => cases slash <;> simp [below, hall, pathOf]
    | cons name rest => simp [below, hall, pathOf]
  query := rfl
  fragment := rfl

/-- The text of what lies below a folder is that of the folder and the path from there. -/
lemma text_below (h : ∀ name ∈ names, IsName name) (slash : Bool) :
    (site.below names slash).text = site.text ++ pathOf names ++ if slash then ['/'] else [] := by
  rw [(site.plain_below names h slash).text_eq]
  simp [below, text, pathOf]

/-- What lies below a folder is read back from its text. -/
lemma split_below (h : ∀ name ∈ names, IsName name) (slash : Bool) :
    split (site.text ++ pathOf names ++ if slash then ['/'] else []) =
      .ok (site.below names slash) := by
  rw [← site.text_below names h slash]
  exact split_text (site.plain_below names h slash)

/-- The URL of a folder does not end in a slash. -/
lemma exists_text_eq_concat : ∃ front c, site.text = front ++ [c] ∧ c ≠ '/' := by
  have hlast : ∀ s : List Char, s ≠ [] → '/' ∉ s → ∃ front c, s = front ++ [c] ∧ c ≠ '/' :=
    fun s hne hslash => ⟨_, _, (List.dropLast_append_getLast hne).symm,
      ne_of_mem_of_not_mem (List.getLast_mem hne) hslash⟩
  have hsplit : ∃ before s, site.text = before ++ s ∧ s ≠ [] ∧ '/' ∉ s := by
    rcases List.eq_nil_or_concat site.names with hnames | ⟨front, name, hnames⟩
    · refine ⟨site.scheme ++ "://".toList, site.host, ?_, site.isHost.ne_nil,
        site.isHost.plainOr.not_mem '/'⟩
      simp [text, hnames, pathOf]
    · have hname := site.isName name (by simp [hnames])
      refine ⟨site.scheme ++ "://".toList ++ site.host ++ pathOf front ++ ['/'], name, ?_,
        hname.ne_nil, hname.slash_not_mem⟩
      simp [text, hnames, pathOf]
  obtain ⟨before, s, htext, hne, hslash⟩ := hsplit
  obtain ⟨front, c, rfl, hc⟩ := hlast s hne hslash
  exact ⟨before ++ front, c, by rw [htext, List.append_assoc], hc⟩

/-- **Names joined to a folder of the web** stand for what lies below the folder.

**Proof sketch.** Both texts are plain, so they have the parts that they are written with
(`split_text`), the names being a path and nothing else. That path goes on where the folder's ends
(`joinPaths_pathOf`). -/
theorem join_folder {names : List (List Char)} (hne : names ≠ [])
    (hnames : ∀ name ∈ names, IsName name) :
    join (site.text ++ ['/']) (joined ['/'] names) =
      .ok (site.text ++ '/' :: joined ['/'] names) := by
  have hbase := site.split_below [] (by simp) true
  have htarget : site.text ++ '/' :: joined ['/'] names = (site.below names false).text := by
    rw [site.text_below names hnames, ← pathOf_eq hne]
    simp
  have hfolder : (site.below [] true).path = pathOf site.names ++ ['/'] := by simp [below]
  have hbaseParameters := splitParameters_of_not_mem
    ((site.plain_below [] (by simp) true).path.not_mem ';')
  have hparameters := splitParameters_of_not_mem
    (u := ⟨site.scheme, [], joined ['/'] names, [], []⟩)
    ((plainOr_joined hne hnames).not_mem ';')
  have hsome : joined ['/'] names ≠ [] := by
    obtain ⟨c, rest, hc, -⟩ := exists_joined_eq_cons hne hnames
    simp [hc]
  have hparts := joinParts_of_path hbase (splitWith_joined hne hnames site.scheme) site.isWeb rfl rfl
    (by rw [hparameters]; exact hsome)
  rw [hbaseParameters, hparameters, hfolder, joinPaths_pathOf hne site.isName hnames] at hparts
  have hempty : pathOf [] = [] := rfl
  rw [hempty, List.append_nil, if_pos rfl] at hparts
  rw [join, if_neg (by simp), if_neg (by simpa using hsome), hparts, htarget]
  simp [below, withParametersText, behindSign]

end Site

end Toolpath
