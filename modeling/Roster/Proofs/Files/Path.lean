import Mathlib.Data.List.Basic
import Roster.Files.Path
import Roster.Proofs.Text.Words

/-!
# Expanded paths

An expanded path is absolute and has no blanks at its ends, so there is nothing in it to expand a second time (`expand_settles`). A path from the home directory leads into it, with one exception: what follows `~/` may be absolute itself, as in `~//etc`, and then it stands for itself (`expand_home`).

Where a path leads is read off its components, as an operating system does: an empty name and a single dot lead nowhere. Two dots are a name like any other here.
-/

namespace Roster

open Text

namespace Path

/-! ### Components -/

/-- The names along a path that lead somewhere. -/
def components (path : Text) : List Text := (cut (· == '/') path).filter fun name => name ≠ [] ∧ name ≠ ['.']

/-- An absolute path that leads through the directory, or to it. -/
def Within (base path : Text) : Prop := isAbsolute path = true ∧ components base <+: components path

instance (base path : Text) : Decidable (Within base path) := inferInstanceAs (Decidable (_ ∧ _))

theorem components_append_slash (s t : Text) : components (s ++ '/' :: t) = components s ++ components t := by
  rw [components, cut_append_cons rfl, List.filter_append]
  rfl

/-! ### Joining -/

section

variable {base path : Text}

theorem isAbsolute_iff : isAbsolute path = true ↔ ∃ s, path = '/' :: s := by
  rw [isAbsolute, beq_iff_eq, List.head?_eq_some_iff]

theorem join_of_isAbsolute (h : isAbsolute path = true) : join base path = path := if_pos h

theorem isAbsolute_join (h : isAbsolute base = true) : isAbsolute (join base path) = true := by
  obtain ⟨s, rfl⟩ := isAbsolute_iff.1 h
  unfold join
  split
  · assumption
  split <;> rfl

theorem components_join (h : isAbsolute path = false) :
    components (join base path) = components base ++ components path := by
  rw [join, if_neg (by simp [h])]
  split
  · rename_i hbase
    rw [Bool.or_eq_true, List.isEmpty_iff, beq_iff_eq, List.getLast?_eq_some_iff] at hbase
    rcases hbase with rfl | ⟨s, rfl⟩
    · rfl
    · -- The slash at the end of the directory is the one between the two.
      rw [components_append_slash, List.append_assoc, List.singleton_append, components_append_slash]
      rw [show components [] = [] from rfl, List.append_nil]
  · exact components_append_slash base path

theorem getLast?_join (hne : path ≠ []) : (join base path).getLast? = path.getLast? := by
  unfold join
  split
  · rfl
  split
  · exact List.getLast?_append_of_ne_nil base hne
  · rw [List.getLast?_append_of_ne_nil base (List.cons_ne_nil _ _), ← List.singleton_append,
      List.getLast?_append_of_ne_nil _ hne]

theorem getLast?_join_nil (h : isAbsolute base = true) : (join base []).getLast? = some '/' := by
  obtain ⟨s, rfl⟩ := isAbsolute_iff.1 h
  rw [join, if_neg (by decide), List.append_nil]
  split
  · rename_i hbase
    simpa using hbase
  · rw [List.getLast?_concat]

theorem mem_join {c : Char} (h : c ∈ join base path) : c ∈ base ∨ c = '/' ∨ c ∈ path := by
  unfold join at h
  split at h
  · exact .inr (.inr h)
  split at h
  · exact (List.mem_append.1 h).imp_right .inr
  · rwa [List.mem_append, List.mem_cons] at h

end

/-! ### Expanding -/

section

variable {places : Places}

theorem isAbsolute_expand (hworking : isAbsolute places.working = true) (path : Text) :
    isAbsolute (expand places path) = true :=
  isAbsolute_join hworking

/-- An absolute path stands for itself. -/
theorem expand_of_isAbsolute {path : Text} (h : isAbsolute path = true)
    (hlast : ∀ c ∈ path.getLast?, isBlank c = false) : expand places path = path := by
  obtain ⟨s, rfl⟩ := isAbsolute_iff.1 h
  have htrim : trim ('/' :: s) = '/' :: s := by
    apply trim_eq_self _ hlast
    intro c hc
    cases hc
    decide
  have hhome : expandHome places.home ('/' :: s) = '/' :: s := by simp [expandHome]
  rw [expand, htrim, hhome, join_of_isAbsolute h]

theorem exists_getLast?_eq_some {s : Text} (hne : s ≠ []) (h : ∀ c ∈ s.getLast?, isBlank c = false) :
    ∃ c, s.getLast? = some c ∧ isBlank c = false := by
  have hlast := List.getLast?_eq_some_getLast hne
  exact ⟨_, hlast, h _ hlast⟩

/-- What comes out for a path ends in no blank if neither the path nor the home directory does. -/
theorem getLast?_expandHome {home path : Text} (hhome : isAbsolute home = true)
    (hlast : ∀ c ∈ home.getLast?, isBlank c = false) (hpath : ∀ c ∈ path.getLast?, isBlank c = false) :
    ∃ c, (expandHome home path).getLast? = some c ∧ isBlank c = false := by
  unfold expandHome
  split
  · exact ⟨'.', rfl, by decide⟩
  · obtain ⟨s, rfl⟩ := isAbsolute_iff.1 hhome
    exact exists_getLast?_eq_some (List.cons_ne_nil '/' s) hlast
  · rename_i rest
    cases rest with
    | nil => exact ⟨'/', getLast?_join_nil hhome, by decide⟩
    | cons c rest =>
      rw [getLast?_join (List.cons_ne_nil c rest)]
      exact exists_getLast?_eq_some (List.cons_ne_nil c rest) (by simpa using hpath)
  · exact exists_getLast?_eq_some ‹path ≠ []› hpath

theorem expand_expand (hworking : isAbsolute places.working = true) (hhome : isAbsolute places.home = true)
    (hlast : ∀ c ∈ places.home.getLast?, isBlank c = false) (path : Text) :
    expand places (expand places path) = expand places path := by
  obtain ⟨c, hc, hblank⟩ := getLast?_expandHome hhome hlast (not_isBlank_of_getLast?_trim path)
  have hne : expandHome places.home (trim path) ≠ [] := by
    intro hnil
    rw [hnil] at hc
    cases hc
  have hexpand : (expand places path).getLast? = some c := (getLast?_join hne).trans hc
  apply expand_of_isAbsolute (isAbsolute_expand hworking path)
  intro d hd
  rw [hexpand] at hd
  cases hd
  exact hblank

/-! ### Addresses -/

/-- The path starts in the home directory. -/
def StartsHome (path : Text) : Prop := path = ['~'] ∨ ∃ rest, path = '~' :: '/' :: rest

theorem not_startsHome_of_isAbsolute {path : Text} (h : isAbsolute path = true) (rest : Text) :
    ¬StartsHome (path ++ rest) := by
  obtain ⟨s, rfl⟩ := isAbsolute_iff.1 h
  simp [StartsHome]

theorem splitQuery_append {path query : Text} (hpath : '?' ∉ path) (hquery : ∀ c ∈ query.head?, c = '?') :
    splitQuery (path ++ query) = (path, query) := by
  have hmem : ∀ c ∈ path, (c != '?') = true := by
    intro c hc
    exact bne_iff_ne.2 fun he => hpath (he ▸ hc)
  rw [splitQuery, List.takeWhile_append_of_pos hmem, List.dropWhile_append_of_pos hmem]
  cases query with
  | nil => simp
  | cons c rest => simp [hquery c rfl]

/-- Two forms of the test on the path of an address. -/
theorem startsHome_iff {path : Text} :
    (path = ['~'] ∨ ['~', '/'].isPrefixOf path) ↔ StartsHome path := by
  rw [StartsHome, List.isPrefixOf_iff_prefix]
  exact or_congr_right ⟨fun ⟨rest, h⟩ => ⟨rest, h.symm⟩, fun ⟨rest, h⟩ => ⟨rest, h.symm⟩⟩

theorem expandUrl_of_startsHome {path : Text} (h : StartsHome path) :
    expandUrl places (urlScheme ++ path) = urlScheme ++ expand places (splitQuery path).1 ++ (splitQuery path).2 := by
  have hscheme : urlScheme.isPrefixOf? (urlScheme ++ path) = some path :=
    List.isPrefixOf?_eq_some_iff_append_eq.2 rfl
  rw [expandUrl, hscheme]
  exact if_pos (startsHome_iff.2 h)

theorem expandUrl_eq_self {url : Text} (h : ∀ path, url = urlScheme ++ path → ¬StartsHome path) :
    expandUrl places url = url := by
  unfold expandUrl
  split
  · rfl
  · rename_i path hscheme
    have hurl := (List.isPrefixOf?_eq_some_iff_append_eq.1 hscheme).symm
    exact if_neg fun hhome => h path hurl (startsHome_iff.1 hhome)

/-- An address whose path is absolute has nothing to expand. -/
theorem expandUrl_of_isAbsolute {path : Text} (h : isAbsolute path = true) (query : Text) :
    expandUrl places (urlScheme ++ path ++ query) = urlScheme ++ path ++ query := by
  apply expandUrl_eq_self
  intro path' hurl
  rw [List.append_assoc] at hurl
  rw [← List.append_cancel_left hurl]
  exact not_startsHome_of_isAbsolute h query

theorem expandUrl_expandUrl (hworking : isAbsolute places.working = true) (url : Text) :
    expandUrl places (expandUrl places url) = expandUrl places url := by
  by_cases h : ∃ path, url = urlScheme ++ path ∧ StartsHome path
  · obtain ⟨path, rfl, hhome⟩ := h
    rw [expandUrl_of_startsHome hhome, expandUrl_of_isAbsolute (isAbsolute_expand hworking _)]
  · have hurl : expandUrl places url = url := expandUrl_eq_self fun path he hhome => h ⟨path, he, hhome⟩
    rw [hurl, hurl]

/-- What stands after the first question mark stays there. -/
theorem exists_expandUrl_append {before : Text} (hbefore : '?' ∉ before) (query : Text) :
    ∃ before', expandUrl places (before ++ '?' :: query) = before' ++ '?' :: query := by
  by_cases h : ∃ path, before ++ '?' :: query = urlScheme ++ path ∧ StartsHome path
  · obtain ⟨path, hurl, hhome⟩ := h
    have hquery : ∀ c ∈ ('?' :: query).head?, c = '?' := by simp
    have hsplit := splitQuery_append hbefore hquery
    have hscheme : (splitQuery (urlScheme ++ path)).2 = (splitQuery path).2 := by
      rw [splitQuery, List.dropWhile_append_of_pos (List.all_eq_true.1 (by decide))]
      rfl
    rw [hurl] at hsplit ⊢
    rw [expandUrl_of_startsHome hhome, ← hscheme, hsplit]
    exact ⟨_, rfl⟩
  · exact ⟨before, expandUrl_eq_self fun path he hhome => h ⟨path, he, hhome⟩⟩

/-- An expanded path is absolute and stays as it is when it is expanded again, and so does an expanded address. Addresses that do not start in the home directory stay as they are, and whatever follows the first question mark of an address follows it still. -/
theorem expand_settles (hworking : isAbsolute places.working = true) (hhome : isAbsolute places.home = true)
    (hlast : ∀ c ∈ places.home.getLast?, isBlank c = false) :
    (∀ path, isAbsolute (expand places path) = true ∧ expand places (expand places path) = expand places path) ∧
      ∀ url, expandUrl places (expandUrl places url) = expandUrl places url ∧
        ((∀ path, url = urlScheme ++ path → ¬StartsHome path) → expandUrl places url = url) ∧
        ∀ before query, url = before ++ '?' :: query → '?' ∉ before →
          ∃ before', expandUrl places url = before' ++ '?' :: query := by
  constructor
  · intro path
    exact ⟨isAbsolute_expand hworking path, expand_expand hworking hhome hlast path⟩
  · intro url
    refine ⟨expandUrl_expandUrl hworking url, expandUrl_eq_self, ?_⟩
    rintro before query rfl hbefore
    exact exists_expandUrl_append hbefore query

/-- Blanks around a relative path, and an address with two question marks. -/
theorem expand_settles_blanks :
    let places : Places := ⟨"/work".toList, "/home/ann".toList⟩
    expand places " a/~ b ".toList = "/work/a/~ b".toList ∧
      expand places "/work/a/~ b".toList = "/work/a/~ b".toList ∧
      expandUrl places "sqlite://~/ u.db ?x?~".toList = "sqlite:///home/ann/ u.db?x?~".toList ∧
      expandUrl places "sqlite:///home/ann/ u.db?x?~".toList = "sqlite:///home/ann/ u.db?x?~".toList := by
  intro places
  have hworking : isAbsolute places.working = true := by decide
  have hhome : isAbsolute places.home = true := by decide
  have hpath : expand places " a/~ b ".toList = "/work/a/~ b".toList := by decide +kernel
  have hurl : expandUrl places "sqlite://~/ u.db ?x?~".toList = "sqlite:///home/ann/ u.db?x?~".toList := by
    decide +kernel
  have hlast : ∀ c ∈ places.home.getLast?, isBlank c = false := by
    rintro c ⟨⟩
    rfl
  obtain ⟨hpaths, hurls⟩ := expand_settles hworking hhome hlast
  have hpath' := (hpaths " a/~ b ".toList).2
  have hurl' := (hurls "sqlite://~/ u.db ?x?~".toList).1
  rw [hpath] at hpath'
  rw [hurl] at hurl'
  exact ⟨hpath, hpath', hurl, hurl'⟩

/-! ### The home directory -/

/-- What a path leads to that says `rest` after the home directory. -/
structure LeadsFrom (home rest target : Text) : Prop where
  within_iff : Within home target ↔ (isAbsolute rest = true → Within home rest)
  components_eq : isAbsolute rest = false → components target = components home ++ components rest
  eq_of_isAbsolute : isAbsolute rest = true → target = rest

theorem leadsFrom_join {home : Text} (hhome : isAbsolute home = true) (rest : Text) :
    LeadsFrom home rest (join home rest) := by
  cases h : isAbsolute rest with
  | true =>
    rw [join_of_isAbsolute h]
    exact ⟨by simp [h], fun hrelative => by simp [h] at hrelative, fun _ => rfl⟩
  | false =>
    have hcomponents : components (join home rest) = components home ++ components rest := components_join h
    have hwithin : Within home (join home rest) := by
      refine ⟨isAbsolute_join hhome, ?_⟩
      rw [hcomponents]
      exact List.prefix_append _ _
    exact ⟨iff_of_true hwithin (by simp [h]), fun _ => hcomponents, fun habsolute => by simp [h] at habsolute⟩

theorem expand_home_rest (hhome : isAbsolute places.home = true) {path rest : Text} (h : trim path = '~' :: '/' :: rest) :
    expand places path = join places.home rest := by
  rw [expand, h]
  exact join_of_isAbsolute (isAbsolute_join hhome)

theorem trim_home (path : Text) : trim ('~' :: '/' :: path) = '~' :: '/' :: trimEnd path := by
  rw [trim, trimStart, List.dropWhile_cons_of_neg (by decide), trimEnd_cons (by decide), trimEnd_cons (by decide)]

/-- A path from the home directory leads to it or into it, and so does the path of an address, whose query stays as it is. The exception is a path that goes on with another slash after `~/`, whose rest stands for itself. -/
theorem expand_home (hhome : isAbsolute places.home = true) :
    (∀ path, trim path = ['~'] → expand places path = places.home) ∧
      (∀ path rest, trim path = '~' :: '/' :: rest → LeadsFrom places.home rest (expand places path)) ∧
      ∀ path query, '?' ∉ path → (∀ c ∈ query.head?, c = '?') →
        ∃ target, expandUrl places (urlScheme ++ '~' :: '/' :: (path ++ query)) = urlScheme ++ (target ++ query) ∧
          LeadsFrom places.home (trimEnd path) target ∧
          ('?' ∉ places.home → splitQuery (target ++ query) = (target, query)) := by
  refine ⟨?_, ?_, ?_⟩
  · intro path h
    rw [expand, h]
    exact join_of_isAbsolute hhome
  · intro path rest h
    rw [expand_home_rest hhome h]
    exact leadsFrom_join hhome rest
  · intro path query hpath hquery
    have hhomePath : '?' ∉ '~' :: '/' :: path := by simpa using hpath
    have hsplit : splitQuery ('~' :: '/' :: (path ++ query)) = ('~' :: '/' :: path, query) :=
      splitQuery_append hhomePath hquery
    refine ⟨join places.home (trimEnd path), ?_, leadsFrom_join hhome _, ?_⟩
    · rw [expandUrl_of_startsHome (.inr ⟨_, rfl⟩), hsplit, expand_home_rest hhome (trim_home path), List.append_assoc]
    · intro hmark
      refine splitQuery_append (fun hmem => ?_) hquery
      rcases mem_join hmem with h | h | h
      · exact hmark h
      · simp at h
      · have hsublist : trimEnd path ⊆ path := by
          intro c hc
          exact List.mem_reverse.1 ((List.dropWhile_sublist _).subset (List.mem_reverse.1 hc))
        exact hpath (hsublist h)

end

/-- Dots of both kinds, repeated slashes, blanks around names, and a second question mark. -/
theorem expand_home_dots :
    let places : Places := ⟨"/work".toList, "/home/ann/".toList⟩
    expand places "\t~ ".toList = places.home ∧
      Within places.home (expand places " ~/./a//../ b".toList) ∧
      components (expand places " ~/./a//../ b".toList) = ["home", "ann", "a", "..", " b"].map String.toList ∧
      ∃ target, expandUrl places "sqlite://~/ u.db ?mode=rwc?~/".toList = urlScheme ++ (target ++ "?mode=rwc?~/".toList) ∧
        Within places.home target ∧
        splitQuery (target ++ "?mode=rwc?~/".toList) = (target, "?mode=rwc?~/".toList) := by
  intro places
  have habsolute : isAbsolute places.home = true := by decide
  obtain ⟨hhome, hrest, haddress⟩ := expand_home habsolute
  have hpath := hrest " ~/./a//../ b".toList "./a//../ b".toList (by decide +kernel)
  have hmark : ∀ c ∈ "?mode=rwc?~/".toList.head?, c = '?' := by
    rintro c ⟨⟩
    rfl
  obtain ⟨target, hurl, hleads, hquery⟩ := haddress " u.db ".toList "?mode=rwc?~/".toList (by decide) hmark
  refine ⟨hhome _ (by decide), hpath.within_iff.2 (by decide), ?_, target, hurl, hleads.within_iff.2 (by decide),
    hquery (by decide)⟩
  rw [hpath.components_eq (by decide)]
  decide +kernel

/-- Two slashes lead out of the home directory. -/
theorem expand_home_absolute :
    let places : Places := ⟨"/work".toList, "/home/ann".toList⟩
    isAbsolute places.home = true ∧ trim "~//etc/passwd".toList = '~' :: '/' :: "/etc/passwd".toList ∧
      expand places "~//etc/passwd".toList = "/etc/passwd".toList ∧
      ¬Within places.home (expand places "~//etc/passwd".toList) ∧
      expandUrl places "sqlite://~//etc/u.db?mode=rwc".toList = "sqlite:///etc/u.db?mode=rwc".toList := by
  decide +kernel

end Path

end Roster
