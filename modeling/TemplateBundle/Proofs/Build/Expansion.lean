import Mathlib.Data.List.Sort
import TemplateBundle.Build.Expansion
import TemplateBundle.Proofs.Path.Order

/-! The templates of a target as a set. Main statement: whatever matches patterns, the templates are
the files that are matched, each once and in the order of their paths, in whatever order the patterns
are given and however often, and one pattern that cannot be expanded spoils all. -/
namespace TemplateBundle

variable {p q last : Path} {paths files sorted : List Path}

instance : Std.Irrefl fun as bs => componentsBefore as bs = true :=
  ⟨fun as h => Bool.false_ne_true ((componentsBefore_irrefl as).symm.trans h)⟩

instance : Std.Antisymm fun as bs => componentsBefore as bs = true :=
  ⟨fun as _ hab hba => (irrefl (r := fun as bs => componentsBefore as bs = true) as
    (componentsBefore_trans hab hba)).elim⟩

namespace Path

instance : Std.Irrefl fun p q : Path => p.before q = true :=
  ⟨fun p h => Bool.false_ne_true (p.before_irrefl.symm.trans h)⟩

instance : Std.Antisymm fun p q : Path => p.before q = true :=
  ⟨fun p _ hpq hqp => (irrefl (r := fun p q : Path => p.before q = true) p
    (before_trans hpq hqp)).elim⟩

end Path

/-! Of equal paths the first one counts: this is what sorting and dropping keep of a list. -/

/-- The first of the paths that are equal to a path. -/
def firstSame (paths : List Path) (q : Path) : Option Path := paths.find? fun p => p.same q

theorem firstSame_cons :
    firstSame (p :: paths) q = if p.same q then some p else firstSame paths q := by
  rw [firstSame, List.find?_cons]
  cases p.same q <;> rfl

theorem firstSame_append :
    firstSame (paths ++ files) q = (firstSame paths q).or (firstSame files q) :=
  List.find?_append

theorem mem_of_firstSame (h : firstSame paths q = some p) : p ∈ paths :=
  List.mem_of_find?_eq_some h

theorem same_of_firstSame (h : firstSame paths q = some p) : p.same q = true :=
  (List.find?_eq_some_iff_append.mp h).1

theorem exists_firstSame (h : q ∈ paths) : ∃ p, firstSame paths q = some p :=
  Option.isSome_iff_exists.mp (List.find?_isSome.mpr ⟨q, h, q.same_refl⟩)

/-- Of the paths in strict order each is the first of its kind. -/
theorem mem_iff_firstSame (h : paths.Pairwise fun a b => a.before b = true) :
    q ∈ paths ↔ firstSame paths q = some q := by
  refine ⟨fun hq => ?_, mem_of_firstSame⟩
  induction paths with
  | nil => cases hq
  | cons p rest ih =>
      obtain ⟨hFirst, hRest⟩ := List.pairwise_cons.mp h
      rw [firstSame_cons]
      rcases List.mem_cons.mp hq with rfl | hq
      · rw [if_pos q.same_refl]
      · rw [Path.not_same_of_before (hFirst q hq), if_neg Bool.false_ne_true, ih hRest hq]

/-- Two lists in strict order are the same if each path has the same first equal in both. -/
theorem eq_of_firstSame (hPaths : paths.Pairwise fun a b => a.before b = true)
    (hFiles : files.Pairwise fun a b => a.before b = true)
    (h : ∀ q, firstSame paths q = firstSame files q) : paths = files :=
  hPaths.eq_of_mem_iff hFiles fun q => by
    rw [mem_iff_firstSame hPaths, mem_iff_firstSame hFiles, h]

/-- Dropping what repeats the path before it keeps the first of each kind. -/
theorem firstSame_dropRepeatedAfter :
    firstSame (last :: dropRepeatedAfter last paths) q = firstSame (last :: paths) q := by
  induction paths generalizing last with
  | nil => rfl
  | cons p rest ih =>
      rw [dropRepeatedAfter]
      split
      · next hSame =>
        rw [ih, firstSame_cons, firstSame_cons]
        cases hLast : last.same q with
        | true => rfl
        | false => rw [firstSame_cons, Path.not_same_of_same hSame hLast]; rfl
      · rw [firstSame_cons, ih, ← firstSame_cons]

theorem firstSame_dropRepeated : firstSame (dropRepeated paths) q = firstSame paths q := by
  cases paths with
  | nil => rfl
  | cons p rest => exact firstSame_dropRepeatedAfter

/-- Sorting leaves equal paths in their order. -/
theorem firstSame_mergeSort :
    firstSame (files.mergeSort fun p q => !q.before p) q = firstSame files q := by
  have hAlike : (files.filter fun p => p.same q).Pairwise fun a b => (!b.before a) = true := by
    refine List.pairwise_of_forall_mem_list fun a ha b hb => ?_
    obtain ⟨-, ha⟩ := List.mem_filter.mp ha
    obtain ⟨-, hb⟩ := List.mem_filter.mp hb
    rw [(Path.before_congr (Path.same_trans ha (Path.same_symm hb))).2, Path.before_irrefl]
    rfl
  have hKept := (List.sublist_mergeSort Path.notBehind_trans Path.notBehind_total hAlike
    List.filter_sublist).filter fun p : Path => p.same q
  rw [List.filter_filter] at hKept
  simp only [Bool.and_self] at hKept
  have hPerm := (files.mergeSort_perm fun p q => !q.before p).filter fun p : Path => p.same q
  rw [firstSame, firstSame, ← List.head?_filter, ← List.head?_filter,
    hKept.eq_of_length hPerm.length_eq.symm]

theorem pairwise_dropRepeatedAfter (h : (last :: paths).Pairwise fun p q => q.before p = false) :
    (last :: dropRepeatedAfter last paths).Pairwise fun p q => p.before q = true := by
  induction paths generalizing last with
  | nil => exact List.pairwise_singleton _ last
  | cons p rest ih =>
      obtain ⟨hLast, hRest⟩ := List.pairwise_cons.mp h
      rw [dropRepeatedAfter]
      split
      · exact ih (h.sublist ((List.sublist_cons_self p rest).cons_cons last))
      · next hNe =>
        have hBefore : last.before p = true :=
          Path.before_of_not_same (Bool.eq_false_iff.mpr hNe) (hLast p List.mem_cons_self)
        have hLater := ih hRest
        refine List.pairwise_cons.mpr ⟨fun q hq => ?_, hLater⟩
        rcases List.mem_cons.mp hq with rfl | hq
        · exact hBefore
        · exact Path.before_trans hBefore ((List.pairwise_cons.mp hLater).1 q hq)

theorem pairwise_dropRepeated (h : paths.Pairwise fun p q => q.before p = false) :
    (dropRepeated paths).Pairwise fun p q => p.before q = true := by
  cases paths with
  | nil => exact .nil
  | cons p rest => exact pairwise_dropRepeatedAfter h

namespace BuildTarget

variable {glob : Matcher} {tree : FileTree} {base : Path} {pattern : String}
  {patterns others : List String} {entries : List (Except String Path)} {sources : List Path}

/-- A path is put into a list as if it were put behind all others. -/
theorem firstSame_insertPath (h : sorted.Pairwise fun a b => a.before b = true) :
    firstSame (insertPath p sorted) q = firstSame (sorted ++ [p]) q := by
  induction sorted with
  | nil => rfl
  | cons first rest ih =>
      have hAll := pairwise_insertPath p h
      rw [insertPath] at hAll ⊢
      by_cases hFirst : first.before p = true
      · rw [if_pos hFirst, firstSame_cons, ih (List.pairwise_cons.mp h).2, List.cons_append,
          firstSame_cons]
      rw [if_neg hFirst] at hAll ⊢
      rw [firstSame_append]
      by_cases hSame : first.same p = true
      · rw [if_pos hSame]
        cases hq : first.same q with
        | true => rw [firstSame_cons, hq]; rfl
        | false =>
            rw [firstSame_cons (p := p), Path.not_same_of_same hSame hq]
            exact (Option.or_none ..).symm
      rw [if_neg hSame] at hAll ⊢
      rw [firstSame_cons, firstSame_cons (p := p)]
      cases hp : p.same q with
      | false => exact (Option.or_none ..).symm
      | true =>
          -- whatever else is equal to the path would be behind it
          have hNone : firstSame (first :: rest) q = none := by
            refine Option.eq_none_iff_forall_ne_some.mpr fun r hr => ?_
            have hBefore := (List.pairwise_cons.mp hAll).1 r (mem_of_firstSame hr)
            have hSame := Path.same_trans hp (Path.same_symm (same_of_firstSame hr))
            rw [Path.not_same_of_before hBefore] at hSame
            cases hSame
          rw [hNone]
          rfl

theorem firstSame_foldl_insertPath (h : sorted.Pairwise fun a b => a.before b = true) :
    firstSame (files.foldl (fun sorted p => insertPath p sorted) sorted) q =
      firstSame (sorted ++ files) q := by
  induction files generalizing sorted with
  | nil => rw [List.append_nil]; rfl
  | cons p rest ih =>
      rw [List.foldl_cons, ih (pairwise_insertPath p h), firstSame_append, firstSame_insertPath h,
        ← firstSame_append, List.append_assoc]
      rfl

/-! What a pattern can be expanded to, and how this fails. -/

/-- A pattern cannot be expanded: it is malformed, or a directory on its way cannot be read. -/
inductive PatternFails (glob : Matcher) (base : Path) (pattern : String) : Failure → Prop where
  | malformed {e : String} (h : glob (base.join pattern) = .error e) :
      PatternFails glob base pattern ⟨["Invalid glob pattern: " ++ pattern], .format e⟩
  | unread {entries : List (Except String Path)} {e : String}
      (h : glob (base.join pattern) = .ok entries) (hEntry : .error e ∈ entries) :
      PatternFails glob base pattern ⟨["Failed to expand pattern: " ++ pattern], .text e⟩

/-- A path is a file that one of the patterns matches. -/
def Matched (glob : Matcher) (tree : FileTree) (base : Path) (patterns : List String) (p : Path) :
    Prop :=
  tree.isFile p = true ∧
    ∃ pattern ∈ patterns, ∃ entries, glob (base.join pattern) = .ok entries ∧ .ok p ∈ entries

theorem matched_cons :
    Matched glob tree base (pattern :: patterns) p ↔
      (tree.isFile p = true ∧ ∃ entries, glob (base.join pattern) = .ok entries ∧ .ok p ∈ entries) ∨
        Matched glob tree base patterns p := by
  simp only [Matched, List.exists_mem_cons_iff, and_or_left]

theorem matched_congr (h : ∀ pattern, pattern ∈ others ↔ pattern ∈ patterns) :
    Matched glob tree base others p ↔ Matched glob tree base patterns p := by
  simp only [Matched, h]

/-- The files among entries, unless an entry is a complaint. -/
theorem filesAmong_spec (tree : FileTree) (pattern : String) (entries : List (Except String Path)) :
    (∃ files, filesAmong tree pattern entries = .ok files ∧ (∀ e, .error e ∉ entries) ∧
      ∀ p, p ∈ files ↔ tree.isFile p = true ∧ .ok p ∈ entries) ∨
    ∃ e, .error e ∈ entries ∧
      filesAmong tree pattern entries = .error ⟨["Failed to expand pattern: " ++ pattern], .text e⟩ := by
  induction entries with
  | nil => exact .inl ⟨[], rfl, by simp, by simp⟩
  | cons entry rest ih =>
      cases entry with
      | error e => exact .inr ⟨e, List.mem_cons_self, rfl⟩
      | ok path =>
          rw [filesAmong]
          rcases ih with ⟨files, hFiles, hEntries, hMem⟩ | ⟨e, hEntry, hFails⟩
          · refine .inl ⟨_, by rw [hFiles]; rfl, by simpa using hEntries, fun p => ?_⟩
            rw [List.mem_cons, Except.ok.injEq]
            split <;> grind
          · exact .inr ⟨e, List.mem_cons_of_mem _ hEntry, by rw [hFails]; rfl⟩

theorem not_patternFails (hGlob : glob (base.join pattern) = .ok entries)
    (hEntries : ∀ e, .error e ∉ entries) (failure : Failure) :
    ¬ PatternFails glob base pattern failure := by
  intro hFailure
  cases hFailure with
  | malformed hError => rw [hGlob] at hError; cases hError
  | unread hOk hEntry =>
      rw [hGlob] at hOk
      cases hOk
      exact hEntries _ hEntry

/-- All patterns are expanded, or one of those that cannot be is blamed. -/
theorem matchingBy_spec (glob : Matcher) (tree : FileTree) (base : Path) (patterns : List String) :
    (∃ files, matchingBy glob tree base patterns = .ok files ∧
      (∀ pattern ∈ patterns, ∀ failure, ¬ PatternFails glob base pattern failure) ∧
      ∀ p, p ∈ files ↔ Matched glob tree base patterns p) ∨
    ∃ pattern ∈ patterns, ∃ failure, PatternFails glob base pattern failure ∧
      matchingBy glob tree base patterns = .error failure := by
  induction patterns with
  | nil => exact .inl ⟨[], rfl, by simp, by simp [Matched]⟩
  | cons pattern rest ih =>
      rw [matchingBy]
      cases hGlob : glob (base.join pattern) with
      | error e => exact .inr ⟨pattern, List.mem_cons_self, _, .malformed hGlob, rfl⟩
      | ok entries =>
          rcases filesAmong_spec tree pattern entries with
            ⟨files, hFiles, hEntries, hMem⟩ | ⟨e, hEntry, hFails⟩
          · rcases ih with
              ⟨more, hMore, hPatterns, hMoreMem⟩ | ⟨blamed, hBlamed, failure, hFailure, hFails⟩
            · refine .inl ⟨files ++ more, by simp only [hFiles, hMore]; rfl, ?_, fun p => ?_⟩
              · exact List.forall_mem_cons.mpr ⟨not_patternFails hGlob hEntries, hPatterns⟩
              · rw [List.mem_append, hMem, hMoreMem, matched_cons, hGlob]
                simp only [Except.ok.injEq, exists_eq_left']
            · exact .inr ⟨blamed, List.mem_cons_of_mem _ hBlamed, failure, hFailure,
                by simp only [hFiles, hFails]; rfl⟩
          · exact .inr ⟨pattern, List.mem_cons_self, _, .unread hGlob hEntry,
              by simp only [hFails]; rfl⟩

/-- The paths are the files that patterns match, each once and in order. -/
structure Expanded (glob : Matcher) (tree : FileTree) (base : Path) (patterns : List String)
    (sources : List Path) : Prop where
  ordered : sources.Pairwise fun p q => p.before q = true ∧ p.same q = false
  matched : ∀ p ∈ sources, Matched glob tree base patterns p
  complete : ∀ p, Matched glob tree base patterns p → ∃ q ∈ sources, q.same p = true

namespace Expanded

/-- Which components the templates have depends only on what the patterns match. -/
theorem mem_components (h : Expanded glob tree base patterns sources) {cs : List Component} :
    cs ∈ sources.map Path.components ↔
      ∃ p, Matched glob tree base patterns p ∧ p.components = cs := by
  rw [List.mem_map]
  constructor
  · rintro ⟨p, hp, rfl⟩
    exact ⟨p, h.matched p hp, rfl⟩
  · rintro ⟨p, hp, rfl⟩
    obtain ⟨q, hq, hSame⟩ := h.complete p hp
    exact ⟨q, hq, Path.same_iff.mp hSame⟩

theorem pairwise_components (h : Expanded glob tree base patterns sources) :
    (sources.map Path.components).Pairwise fun as bs => componentsBefore as bs = true :=
  List.pairwise_map.mpr (h.ordered.imp And.left)

/-- The patterns as a set determine the templates. -/
theorem alike {others : List String} {found : List Path}
    (h : Expanded glob tree base patterns sources) (hOther : Expanded glob tree base others found)
    (hSet : ∀ pattern, pattern ∈ others ↔ pattern ∈ patterns) :
    List.Forall₂ (fun p q => p.same q = true) sources found := by
  have hComponents : sources.map Path.components = found.map Path.components := by
    refine h.pairwise_components.eq_of_mem_iff hOther.pairwise_components fun cs => ?_
    simp only [h.mem_components, hOther.mem_components, matched_congr hSet]
  rw [← List.forall₂_eq_eq_eq, List.forall₂_map_left_iff, List.forall₂_map_right_iff] at hComponents
  exact hComponents.imp fun _ _ => Path.same_iff.mpr

end Expanded

/-- Sorting what is matched and dropping what is repeated is enough. -/
theorem expanded_dropRepeated
    (hMem : ∀ p, p ∈ files ↔ Matched glob tree base patterns p) :
    Expanded glob tree base patterns (dropRepeated (files.mergeSort fun p q => !q.before p)) := by
  have hFirst : ∀ q, firstSame (dropRepeated (files.mergeSort fun p q => !q.before p)) q =
      firstSame files q := fun q => firstSame_dropRepeated.trans firstSame_mergeSort
  have hOrder := pairwise_dropRepeated (Path.pairwise_mergeSort files)
  refine ⟨hOrder.imp fun h => ⟨h, Path.not_same_of_before h⟩, fun p hp => ?_, fun p hp => ?_⟩
  · rw [mem_iff_firstSame hOrder, hFirst] at hp
    exact (hMem p).mp (mem_of_firstSame hp)
  · obtain ⟨q, hq⟩ := exists_firstSame ((hMem p).mpr hp)
    rw [← hFirst] at hq
    exact ⟨q, mem_of_firstSame hq, same_of_firstSame hq⟩

/-- Expansion succeeds with what is matched, or blames a pattern. -/
theorem expandBy_spec (glob : Matcher) (target : BuildTarget) (tree : FileTree) (base : Path) :
    (∃ sources, target.expandBy glob tree base = .ok sources ∧
      Expanded glob tree base target.patterns sources ∧
      ∀ pattern ∈ target.patterns, ∀ failure, ¬ PatternFails glob base pattern failure) ∨
    ∃ pattern ∈ target.patterns, ∃ failure, PatternFails glob base pattern failure ∧
      target.expandBy glob tree base = .error failure := by
  rw [expandBy]
  rcases matchingBy_spec glob tree base target.patterns with
    ⟨files, hFiles, hPatterns, hMem⟩ | ⟨pattern, hPattern, failure, hFailure, hFails⟩
  · exact .inl ⟨_, by rw [hFiles]; rfl, expanded_dropRepeated hMem, hPatterns⟩
  · exact .inr ⟨pattern, hPattern, failure, hFailure, by rw [hFails]; rfl⟩

/-! The patterns of a file tree. -/

/-- What a pattern matches in a tree are files of the tree. -/
theorem filter_files? {pattern : Path} (h : Glob.files? tree pattern = some files) :
    files.filter tree.isFile = files := by
  obtain ⟨steps, -, rfl⟩ := Option.map_eq_some_iff.mp h
  split
  · rfl
  · rw [List.filter_filter]
    simp only [Bool.and_self]

theorem filesAmong_map_ok :
    filesAmong tree pattern (files.map .ok) = .ok (files.filter tree.isFile) := by
  induction files with
  | nil => rfl
  | cons p rest ih =>
      rw [List.map_cons, filesAmong, ih, List.filter_cons]
      rfl

-- comparing the two sides must not begin to match the pattern
attribute [local irreducible] Glob.files? in
theorem matching_cons :
    matching tree base (pattern :: patterns) =
      (match Glob.files? tree (base.join pattern) with
      | none =>
        .error ⟨["Invalid glob pattern: " ++ pattern], .format "the pattern is malformed"⟩
      | some files => do
        let more ← matching tree base patterns
        .ok (files ++ more)) := rfl

theorem matchingBy_matcher :
    matchingBy (Glob.matcher tree) tree base patterns = matching tree base patterns := by
  induction patterns with
  | nil => rfl
  | cons pattern rest ih =>
      rw [matchingBy, matching_cons, ih, Glob.matcher]
      cases hFiles : Glob.files? tree (base.join pattern) with
      | none => rfl
      | some files => simp only [filesAmong_map_ok, filter_files? hFiles]; rfl

/-- Putting each file where it belongs is as good as sorting them all. -/
theorem expandSources_eq (target : BuildTarget) (tree : FileTree) (base : Path) :
    target.expandSources tree base = target.expandBy (Glob.matcher tree) tree base := by
  rw [expandSources, expandBy, matchingBy_matcher]
  refine bind_congr fun files => congrArg Except.ok ?_
  refine eq_of_firstSame (pairwise_foldl_insertPath .nil)
    (pairwise_dropRepeated (Path.pairwise_mergeSort files)) fun q => ?_
  rw [firstSame_foldl_insertPath .nil, firstSame_dropRepeated, firstSame_mergeSort, List.nil_append]

/-- If every pattern can be expanded, the templates of a target are the files that its patterns
match, each once and in order, and a target with the same patterns has the same templates, however
its patterns are ordered and repeated. If one cannot be expanded, neither can the target be. The
patterns of a file tree are a case of this. -/
theorem expandBy_sources (glob : Matcher) (target : BuildTarget) (tree : FileTree) (base : Path) :
    ((∀ pattern ∈ target.patterns, ∀ failure, ¬ PatternFails glob base pattern failure) →
      ∃ sources, target.expandBy glob tree base = .ok sources ∧
        Expanded glob tree base target.patterns sources ∧
        ∀ other : BuildTarget,
          (∀ pattern, pattern ∈ other.patterns ↔ pattern ∈ target.patterns) →
          ∃ found, other.expandBy glob tree base = .ok found ∧
            List.Forall₂ (fun p q => p.same q = true) sources found) ∧
    (∀ pattern ∈ target.patterns, ∀ failure, PatternFails glob base pattern failure →
      ∃ blamed ∈ target.patterns, ∃ failure, PatternFails glob base blamed failure ∧
        target.expandBy glob tree base = .error failure) ∧
    target.expandSources tree base = target.expandBy (Glob.matcher tree) tree base := by
  refine ⟨fun hPatterns => ?_, fun pattern hPattern failure hFailure => ?_,
    target.expandSources_eq tree base⟩
  · rcases target.expandBy_spec glob tree base with
      ⟨sources, hSources, hExpanded, -⟩ | ⟨pattern, hPattern, failure, hFailure, -⟩
    swap
    · exact absurd hFailure (hPatterns pattern hPattern failure)
    refine ⟨sources, hSources, hExpanded, fun other hSet => ?_⟩
    rcases other.expandBy_spec glob tree base with
      ⟨found, hFound, hOther, -⟩ | ⟨pattern, hPattern, failure, hFailure, -⟩
    · exact ⟨found, hFound, hExpanded.alike hOther hSet⟩
    · exact absurd hFailure (hPatterns pattern ((hSet pattern).mp hPattern) failure)
  · rcases target.expandBy_spec glob tree base with ⟨_, -, -, hPatterns⟩ | hBlamed
    · exact absurd hFailure (hPatterns pattern hPattern failure)
    · exact hBlamed

/-- Two patterns that overlap in a file, which one of them spells differently; and a malformed one. -/
theorem expandBy_sources_overlap :
    let tree : FileTree := ⟨[(["in"], .directory), (["in", "sub"], .directory),
      (["in", "b"], .file []), (["in", "a"], .file [])], []⟩
    let glob : Matcher := fun p =>
      if p.text = "in/*" then .ok [.ok ⟨"in//b"⟩, .ok ⟨"in/sub"⟩, .ok ⟨"in/a"⟩]
      else if p.text = "in/b" then .ok [.ok ⟨"in/./b"⟩]
      else .error "invalid range pattern"
    let target (patterns : List String) : BuildTarget := ⟨patterns, ⟨"out"⟩, {}⟩
    (∀ pattern ∈ ["*", "b"], ∀ failure, ¬ PatternFails glob ⟨"in"⟩ pattern failure) ∧
    (∃ sources found, (target ["*", "b"]).expandBy glob tree ⟨"in"⟩ = .ok sources ∧
      (target ["b", "*", "b"]).expandBy glob tree ⟨"in"⟩ = .ok found ∧
      List.Forall₂ (fun p q => p.same q = true) sources found ∧
      ∃ p ∈ sources, p.same ⟨"in/./b"⟩ = true) ∧
    ∃ failure, PatternFails glob ⟨"in"⟩ "[" failure ∧
      (target ["*", "[", "b"]).expandBy glob tree ⟨"in"⟩ = .error failure := by
  intro tree glob target
  have hStar : glob ((⟨"in"⟩ : Path).join "*") =
      .ok [.ok ⟨"in//b"⟩, .ok ⟨"in/sub"⟩, .ok ⟨"in/a"⟩] := rfl
  have hName : glob ((⟨"in"⟩ : Path).join "b") = .ok [.ok ⟨"in/./b"⟩] := rfl
  have hBroken : glob ((⟨"in"⟩ : Path).join "[") = .error "invalid range pattern" := rfl
  have hPatterns : ∀ pattern ∈ ["*", "b"], ∀ failure,
      ¬ PatternFails glob ⟨"in"⟩ pattern failure := by
    simp only [List.forall_mem_cons, List.not_mem_nil, false_imp_iff, implies_true, and_true]
    exact ⟨not_patternFails hStar (by simp), not_patternFails hName (by simp)⟩
  refine ⟨hPatterns, ?_, ?_⟩
  · obtain ⟨sources, hSources, hExpanded, hOrder⟩ :=
      (expandBy_sources glob (target ["*", "b"]) tree ⟨"in"⟩).1 hPatterns
    obtain ⟨found, hFound, hSame⟩ := hOrder (target ["b", "*", "b"]) (by simp [target, or_comm])
    have hMatched : Matched glob tree ⟨"in"⟩ ["*", "b"] ⟨"in/./b"⟩ :=
      ⟨by decide +kernel, "b", by simp, _, hName, List.mem_cons_self⟩
    exact ⟨sources, found, hSources, hFound, hSame, hExpanded.complete _ hMatched⟩
  · obtain ⟨pattern, hPattern, failure, hFailure, hFails⟩ :=
      (expandBy_sources glob (target ["*", "[", "b"]) tree ⟨"in"⟩).2.1 "[" (by simp [target]) _
        (.malformed hBroken)
    refine ⟨failure, ?_, hFails⟩
    have hOther : pattern = "*" ∨ pattern = "[" ∨ pattern = "b" := by simpa [target] using hPattern
    rcases hOther with rfl | rfl | rfl
    · exact absurd hFailure (hPatterns _ (by simp) _)
    · exact hFailure
    · exact absurd hFailure (hPatterns _ (by simp) _)

end BuildTarget
end TemplateBundle
