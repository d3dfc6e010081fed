import Mathlib.Tactic.Lemma
import Toolpath.Proofs.Site
import Toolpath.Source.Fetch
/-!
# What sources stand for

A source is joined to the base of a loader unless it stands for itself. Names below a folder of the
web lead below that folder, and are fetched over the network. URLs of the web stand for themselves
whatever the base is. Absolute paths of files do so if the base is a path of files too; a base in
the web makes them URLs on its host.

## Main results

* `Toolpath.Loader.resolve_of_isHttp` — URLs of the web stand for themselves.
* `Toolpath.Loader.exists_resolve_of_web` — absolute paths on a base in the web are URLs of the web.
* `Toolpath.Loader.resolve_absolute` — when absolute sources stand for themselves.
* `Toolpath.Loader.resolve_below_site` — names below a folder of the web, and how they are fetched.
-/

namespace Toolpath

open Files Text

/-- A path is absolute iff it starts with a slash. -/
lemma Files.FilePath.isAbsolute_ofText_iff {s : List Char} :
    (ofText s).isAbsolute = true ↔ ∃ rest, s = '/' :: rest := by
  have hroot : (rootOf s).isEmpty = false ↔ (s.takeWhile (· == '/')).length ≠ 0 := by
    unfold rootOf
    split <;> simp_all
  rw [isAbsolute, ofText, Bool.not_eq_true', hroot]
  cases s with
  | nil => simp
  | cons c s => by_cases hc : c = '/' <;> simp [hc]

namespace Url

/-! ## Parts of URLs -/

/-- Whether a text is a URL of the web is told by its scheme. -/
lemma isHttp_eq_ok_iff {s : List Char} {web : Bool} :
    isHttp s = .ok web ↔ ∃ u, split s = .ok u ∧ isWeb u.scheme = web := by
  unfold isHttp
  cases split s with
  | error fault => simp [bind, Except.bind]
  | ok u => simp [bind, Except.bind, pure, Except.pure]

/-- A text has parts iff its authority is accepted; its scheme is the one in front. -/
lemma exists_splitWith_eq (default s : List Char) :
    ∃ u : Url, u.scheme = (splitScheme default (cleaned s)).1 ∧
      splitWith default s =
        (checkAuthority (splitAuthority (splitScheme default (cleaned s)).2).1).map fun _ => u := by
  rcases hscheme : splitScheme default (cleaned s) with ⟨scheme, rest⟩
  rcases hauthority : splitAuthority rest with ⟨authority, behind⟩
  simp only [splitWith, hscheme, hauthority]
  cases checkAuthority authority with
  | error fault => exact ⟨⟨scheme, [], [], [], []⟩, rfl, rfl⟩
  | ok _ => exact ⟨⟨scheme, authority, _, _, _⟩, rfl, rfl⟩

/-- A text that starts with a slash has no scheme of its own. -/
lemma splitScheme_slash (default s : List Char) :
    splitScheme default ('/' :: s) = (default, '/' :: s) := by
  rcases cutAt_cases ':' ('/' :: s) with ⟨-, hcut⟩ | ⟨front, rest, hs, -, hcut⟩
  · rw [splitScheme, hcut]
  · obtain ⟨more, rfl⟩ : ∃ more, front = '/' :: more := by
      cases front with
      | nil => exact absurd (List.cons.inj hs).1 (by decide)
      | cons c more => exact ⟨more, by rw [(List.cons.inj hs).1]⟩
    rw [splitScheme, hcut]
    rfl

/-- A text that starts with a slash takes any scheme that it is read with. -/
lemma exists_splitWith_slash {s : List Char} {u : Url} (h : split ('/' :: s) = .ok u)
    (default : List Char) : ∃ v, splitWith default ('/' :: s) = .ok v ∧ v.scheme = default := by
  obtain ⟨rest, hclean⟩ : ∃ rest, cleaned ('/' :: s) = '/' :: rest := by
    unfold cleaned
    rw [List.dropWhile_cons_of_neg (by decide), List.filter_cons_of_pos (by decide)]
    exact ⟨_, rfl⟩
  obtain ⟨v, hv, hsplit⟩ := exists_splitWith_eq default ('/' :: s)
  obtain ⟨w, -, hown⟩ := exists_splitWith_eq [] ('/' :: s)
  rw [hclean, splitScheme_slash] at hv hsplit hown
  rw [split, hown] at h
  cases hcheck : checkAuthority (splitAuthority ('/' :: rest)).1 with
  | error fault =>
    rw [hcheck] at h
    exact absurd h (by simp [Except.map])
  | ok _ => exact ⟨v, by rw [hsplit, hcheck]; rfl, hv⟩

/-- A text that starts with a slash is no URL of the web. -/
lemma isHttp_slash (s : List Char) : isHttp ('/' :: s) ≠ .ok true := by
  intro h
  obtain ⟨u, hu, hweb⟩ := isHttp_eq_ok_iff.mp h
  obtain ⟨v, hv, hscheme⟩ := exists_splitWith_slash hu []
  obtain rfl := Except.ok.inj (hu.symm.trans hv)
  rw [hscheme] at hweb
  exact absurd hweb (by decide)

/-- A slash behind a text does not belong to its scheme. -/
lemma splitScheme_append_slash (default s : List Char) :
    splitScheme default (s ++ ['/']) =
      ((splitScheme default s).1, (splitScheme default s).2 ++ ['/']) := by
  unfold splitScheme
  rcases cutAt_cases ':' s with ⟨hnone, hcut⟩ | ⟨front, rest, rfl, hfront, hcut⟩
  · rw [hcut, cutAt_of_not_mem (by simpa using hnone)]
    cases s <;> rfl
  · rw [hcut, List.append_assoc, List.cons_append, cutAt_append hfront]
    cases front with
    | nil => simp
    | cons c more =>
      dsimp only
      split <;> simp

/-- A slash behind a text does not belong to its authority. -/
lemma splitAuthority_append_slash (s : List Char) :
    (splitAuthority (s ++ ['/'])).1 = (splitAuthority s).1 := by
  match s with
  | [] => rfl
  | [c] =>
    by_cases hc : c = '/'
    · subst hc
      rfl
    · simp [splitAuthority, hc]
  | c :: d :: rest =>
    by_cases hc : c = '/'
    · by_cases hd : d = '/'
      · subst hc hd
        simp only [List.cons_append, splitAuthority, cutBefore]
        rw [List.takeWhile_append]
        split
        · rename_i hall
          simpa using (List.IsPrefix.eq_of_length (List.takeWhile_prefix _) hall).symm
        · rfl
      · simp [splitAuthority, hd]
    · simp [splitAuthority, hc]

/-- A slash behind a text is no dirt. -/
lemma cleaned_append_slash (s : List Char) : cleaned (s ++ ['/']) = cleaned s ++ ['/'] := by
  have hslash : ['/'].dropWhile (·.toNat ≤ 32) = ['/'] := rfl
  unfold cleaned
  rw [List.dropWhile_append, hslash]
  split
  · rename_i hnone
    rw [List.isEmpty_iff.mp hnone]
    rfl
  · rw [List.filter_append]
    rfl

/-- A slash behind a text changes nothing about its scheme, nor whether it is a URL. -/
lemma exists_split_append_slash {s : List Char} {u : Url} (h : split s = .ok u) :
    ∃ v, split (s ++ ['/']) = .ok v ∧ v.scheme = u.scheme := by
  obtain ⟨v, hv, hsplit⟩ := exists_splitWith_eq [] (s ++ ['/'])
  obtain ⟨w, hw, hown⟩ := exists_splitWith_eq [] s
  rw [cleaned_append_slash, splitScheme_append_slash] at hv hsplit
  rw [splitAuthority_append_slash] at hsplit
  rw [split, hown] at h
  cases hcheck : checkAuthority (splitAuthority (splitScheme [] (cleaned s)).2).1 with
  | error fault =>
    rw [hcheck] at h
    exact absurd h (by simp [Except.map])
  | ok _ =>
    rw [hcheck] at h
    obtain rfl := Except.ok.inj h
    exact ⟨v, by rw [split, hsplit, hcheck]; rfl, by rw [hv, hw]⟩

/-- Whatever is joined to a base in the web, unless it has a scheme of its own, is a URL of the
web. -/
lemma exists_joinParts_of_web {base relative : List Char} {b u : Url} (hbase : split base = .ok b)
    (hrelative : splitWith b.scheme relative = .ok u) (hweb : isWeb b.scheme = true)
    (hscheme : u.scheme = b.scheme) :
    ∃ v : Url, joinParts base relative = .ok v.text ∧ isWeb v.scheme = true := by
  obtain ⟨hin, -⟩ := isIn_of_isWeb hweb
  have hsame : ¬ ((u.scheme != b.scheme || !isIn withRelative u.scheme) = true) := by
    simp [hscheme, hin]
  rw [← hscheme] at hweb
  unfold joinParts
  simp only [hbase, hrelative, bind, Except.bind]
  rw [if_neg hsame]
  split
  · exact ⟨_, rfl, hweb⟩
  · split <;> exact ⟨_, rfl, hweb⟩

/-- The text of a URL of the web starts with no slash. -/
lemma head_text_of_isWeb {u : Url} (h : isWeb u.scheme = true) : u.text.head? ≠ some '/' := by
  unfold text
  rcases isWeb_iff.mp h with hscheme | hscheme
  all_goals
    rw [hscheme]
    simp

end Url

namespace Loader

variable {l : Loader} {source : List Char}

/-! ## Absolute sources -/

/-- Without a base, every source stands for itself. -/
lemma resolve_of_no_base (hbase : l.basePath = "") : l.resolve source = .ok source := by
  simp [resolve, hbase]

/-- With a base, a source that is no URL of the web is joined to it. -/
lemma resolve_of_base (hbase : l.basePath ≠ "") :
    l.resolve source = do
      if ← Url.isHttp source then return source
      else if ← Url.isHttp l.basePath.toList then Url.join (asFolder l.basePath.toList) source
      else return belowPath l.basePath.toList source := by
  have hne : l.basePath.toList.isEmpty = false := by
    simpa using fun h => hbase (String.toList_eq_nil_iff.mp h)
  simp only [resolve, hne, Bool.false_eq_true, if_false]

/-- **URLs of the web stand for themselves**, whatever the base is. -/
theorem resolve_of_isHttp (h : Url.isHttp source = .ok true) : l.resolve source = .ok source := by
  by_cases hbase : l.basePath = ""
  · exact resolve_of_no_base hbase
  · rw [resolve_of_base hbase, h]
    rfl

/-- A base with a slash behind is not empty. -/
lemma asFolder_ne_nil (base : List Char) : asFolder base ≠ [] := by
  unfold asFolder
  split
  · rename_i h
    rintro rfl
    exact absurd h (by simp)
  · simp

/-- A base in the web with a slash behind is one too. -/
lemma exists_split_asFolder {base : List Char} (h : Url.isHttp base = .ok true) :
    ∃ b, Url.split (asFolder base) = .ok b ∧ Url.isWeb b.scheme = true := by
  obtain ⟨u, hu, hweb⟩ := Url.isHttp_eq_ok_iff.mp h
  unfold asFolder
  split
  · exact ⟨u, hu, hweb⟩
  · obtain ⟨v, hv, hscheme⟩ := Url.exists_split_append_slash hu
    exact ⟨v, hv, by rw [hscheme, hweb]⟩

/-- **Absolute paths on a base in the web** are URLs of the web. -/
theorem exists_resolve_of_web (hsource : (FilePath.ofText source).isAbsolute = true)
    (h : Url.isHttp source = .ok false) (hbase : Url.isHttp l.basePath.toList = .ok true) :
    ∃ u : Url, l.resolve source = .ok u.text ∧ Url.isWeb u.scheme = true := by
  have hsome : l.basePath ≠ "" := by
    intro hnone
    rw [hnone] at hbase
    exact absurd hbase (by decide)
  obtain ⟨rest, rfl⟩ := FilePath.isAbsolute_ofText_iff.mp hsource
  obtain ⟨b, hb, hweb⟩ := exists_split_asFolder hbase
  obtain ⟨u, hu, -⟩ := Url.isHttp_eq_ok_iff.mp h
  obtain ⟨v, hv, hscheme⟩ := Url.exists_splitWith_slash hu b.scheme
  obtain ⟨target, htarget, htargetWeb⟩ := Url.exists_joinParts_of_web hb hv hweb hscheme
  refine ⟨target, ?_, htargetWeb⟩
  have hjoin : Url.join (asFolder l.basePath.toList) ('/' :: rest) = .ok target.text := by
    rw [Url.join, if_neg (by simpa using asFolder_ne_nil _), if_neg (by simp), htarget]
  rw [resolve_of_base hsome, h, hbase]
  exact hjoin

/-- **Absolute sources.** A URL of the web stands for itself whatever the base is. An absolute path
of files does so iff there is no base, or neither the path nor the base looks like a URL; a base in
the web makes it a URL of the web.

**Proof sketch.** A path that starts with a slash has no scheme, so a base in the web lends it its
own (`exists_resolve_of_web`), and the text of a URL with a scheme starts with no slash. Where the
path or the base looks like a URL and is none, there is no place at all. -/
theorem resolve_absolute (l : Loader) (source : List Char) :
    (Url.isHttp source = .ok true → l.resolve source = .ok source) ∧
    ((FilePath.ofText source).isAbsolute = true →
      (l.resolve source = .ok source ↔ l.basePath = "" ∨
        (Url.isHttp source = .ok false ∧ Url.isHttp l.basePath.toList = .ok false)) ∧
      (Url.isHttp source = .ok false → Url.isHttp l.basePath.toList = .ok true →
        ∃ u : Url, l.resolve source = .ok u.text ∧ Url.isWeb u.scheme = true)) := by
  refine ⟨resolve_of_isHttp, fun hsource => ⟨?_, exists_resolve_of_web hsource⟩⟩
  obtain ⟨rest, hrest⟩ := FilePath.isAbsolute_ofText_iff.mp hsource
  by_cases hbase : l.basePath = ""
  · exact iff_of_true (resolve_of_no_base hbase) (.inl hbase)
  rw [or_iff_right hbase]
  cases hown : Url.isHttp source with
  | error fault =>
    rw [resolve_of_base hbase, hown]
    exact iff_of_false (by simp [bind, Except.bind]) (by simp)
  | ok web =>
    cases web with
    | true => exact absurd (hrest ▸ hown) (Url.isHttp_slash rest)
    | false =>
      cases hweb : Url.isHttp l.basePath.toList with
      | error fault =>
        rw [resolve_of_base hbase, hown, hweb]
        exact iff_of_false (by simp [bind, Except.bind]) (by simp)
      | ok web =>
        cases web with
        | true =>
          obtain ⟨u, hu, hscheme⟩ := exists_resolve_of_web hsource hown hweb
          refine iff_of_false (fun hsame => ?_) (by simp)
          rw [hu] at hsame
          exact Url.head_text_of_isWeb hscheme (by rw [Except.ok.inj hsame, hrest]; rfl)
        | false =>
          have hbelow : belowPath l.basePath.toList source = source := if_pos hsource
          rw [resolve_of_base hbase, hown, hweb]
          exact iff_of_true (by simp [bind, Except.bind, pure, Except.pure, hbelow]) (by simp)

/-- A path on a base that is a folder of files stands for itself, and so does a URL on any base. -/
theorem resolve_absolute_shelf :
    Url.isHttp "https://cdn.example/a".toList = .ok true ∧
    (FilePath.ofText "/srv/a.gcode".toList).isAbsolute = true ∧
    ({ basePath := "http://h/f" } : Loader).resolve "https://cdn.example/a".toList =
      .ok "https://cdn.example/a".toList ∧
    ({ basePath := "/shelf" } : Loader).resolve "/srv/a.gcode".toList =
      .ok "/srv/a.gcode".toList := by
  have hweb : Url.isHttp "https://cdn.example/a".toList = .ok true := by decide
  have hpath : (FilePath.ofText "/srv/a.gcode".toList).isAbsolute = true := by decide
  refine ⟨hweb, hpath, (resolve_absolute _ _).1 hweb, ?_⟩
  exact ((resolve_absolute _ _).2 hpath).1.mpr (.inr ⟨by decide, by decide⟩)

/-- An absolute path of files on a base in the web does not stand for itself: it is taken for the
path of a URL on the host of the base. -/
theorem resolve_absolute_on_host :
    (FilePath.ofText "/srv/a.gcode".toList).isAbsolute = true ∧
    ({ basePath := "http://h/f" } : Loader).resolve "/srv/a.gcode".toList =
      .ok "http://h/srv/a.gcode".toList := by
  decide

/-! ## Relative sources -/

/-- With a slash behind, the URL of a folder ends in just one. -/
lemma asFolder_site (site : Site) (slash : Bool) :
    asFolder (site.text ++ if slash then ['/'] else []) = site.text ++ ['/'] := by
  cases slash with
  | true => simp [asFolder]
  | false =>
    obtain ⟨front, c, htext, hc⟩ := site.exists_text_eq_concat
    simp [asFolder, htext, hc]

/-- The URL of a folder of the web, and of what lies below it, is a URL of the web. -/
lemma isHttp_site (site : Site) (names : List (List Char)) (h : ∀ name ∈ names, Url.IsName name)
    (slash : Bool) :
    Url.isHttp (site.text ++ Url.pathOf names ++ if slash then ['/'] else []) = .ok true :=
  Url.isHttp_eq_ok_iff.mpr ⟨_, site.split_below names h slash, site.isWeb⟩

/-- **Names below a folder of the web.** Let the base of a loader be the URL of a folder of the web,
with a slash behind or without. Then names between slashes stand for the URL of the folder, one
slash, and the names as they are; and that URL is what is fetched, over the network.

**Proof sketch.** The base gets its slash if it has none (`asFolder_site`), and names joined to the
folder stand for what lies below it (`Site.join_folder`). That is a URL of the web again. -/
theorem resolve_below_site (l : Loader) (site : Site) (slash : Bool)
    (hbase : l.basePath.toList = site.text ++ if slash then ['/'] else [])
    {names : List (List Char)} (hne : names ≠ []) (hnames : ∀ name ∈ names, Url.IsName name) :
    l.resolve (joined ['/'] names) = .ok (site.text ++ '/' :: joined ['/'] names) ∧
    ∀ (t : Tree) (n : Network), l.fetch t n (String.ofList (joined ['/'] names)) =
      l.fetchWeb n (String.ofList (site.text ++ '/' :: joined ['/'] names)) := by
  have hweb : Url.isHttp l.basePath.toList = .ok true := by
    have h := isHttp_site site [] (by simp) slash
    rwa [Url.pathOf, List.flatMap_nil, List.append_nil, ← hbase] at h
  have hsome : l.basePath ≠ "" := by
    intro hnone
    rw [hnone] at hweb
    exact absurd hweb (by decide)
  have hown : Url.isHttp (joined ['/'] names) = .ok false :=
    Url.isHttp_eq_ok_iff.mpr ⟨_, Url.splitWith_joined hne hnames [], rfl⟩
  have htarget : Url.isHttp (site.text ++ '/' :: joined ['/'] names) = .ok true := by
    have h := isHttp_site site names hnames false
    rwa [Url.pathOf_eq hne, if_neg (by simp), List.append_nil] at h
  have hresolve : l.resolve (joined ['/'] names) = .ok (site.text ++ '/' :: joined ['/'] names) := by
    have hjoin := site.join_folder hne hnames
    rw [← asFolder_site site slash, ← hbase] at hjoin
    rw [resolve_of_base hsome, hown, hweb]
    exact hjoin
  refine ⟨hresolve, fun t n => ?_⟩
  unfold fetch
  rw [String.toList_ofList, hresolve]
  simp only [htarget]

/-- A folder on a host with a port. -/
def portSite : Site where
  scheme := "http".toList
  host := "h-1.local:80".toList
  names := ["files".toList, "v1.2".toList]
  isWeb := by decide
  isHost := ⟨"h-1.local".toList, ":80".toList, by decide, by decide,
    List.all_eq_true.mp (by decide),
    .inr ⟨"80".toList, by decide, by decide, List.all_eq_true.mp (by decide)⟩⟩
  isName := by decide

/-- A name of two points among others would be walked over, but one of three is a name. -/
theorem resolve_below_site_port :
    ({ basePath := "http://h-1.local:80/files/v1.2" } : Loader).basePath.toList =
      portSite.text ++ (if false then ['/'] else []) ∧
    (∀ name ∈ ["...".toList, "a.gcode".toList], Url.IsName name) ∧
    ({ basePath := "http://h-1.local:80/files/v1.2" } : Loader).resolve ".../a.gcode".toList =
      .ok "http://h-1.local:80/files/v1.2/.../a.gcode".toList := by
  have hbase : ({ basePath := "http://h-1.local:80/files/v1.2" } : Loader).basePath.toList =
      portSite.text ++ (if false then ['/'] else []) := by decide
  have hnames : ∀ name ∈ ["...".toList, "a.gcode".toList], Url.IsName name := by decide
  exact ⟨hbase, hnames, (resolve_below_site _ portSite false hbase (by simp) hnames).1⟩

end Loader

end Toolpath
