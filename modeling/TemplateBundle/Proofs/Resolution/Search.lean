import Mathlib.Data.Finset.Card
import TemplateBundle.Proofs.Resolution.Level
import TemplateBundle.Proofs.Resolution.Reachability

/-! The search for partials goes through the levels one after another: before each level it has
fetched exactly what is nearer to the text. Main statement: if everything that the text reaches has
a source, and that is finitely much, the search ends with exactly these partials, each fetched
once. -/
namespace TemplateBundle.Resolution

variable {ε : Type} {root : String} {fetch : String → Fetch ε}

/-- The course of a search from a level on: nothing is left to fetch, or the level fails, or it comes
and the search goes on with the next. -/
inductive Searches (fetch : String → Fetch ε) :
    List String → List String → List Partial → Resolution ε → Prop where
  | complete (done : List String) (found : List Partial) :
      Searches fetch done [] found ⟨done, .ok found⟩
  | failed (done : List String) {pending : List String} (found : List Partial) {e : ε}
      (hPending : pending ≠ []) (hLevel : fetchLevel fetch pending = .error e) :
      Searches fetch done pending found ⟨done ++ pending, .error e⟩
  | level {done pending : List String} {found level : List Partial} {course : Resolution ε}
      (hPending : pending ≠ []) (hLevel : fetchLevel fetch pending = .ok level)
      (later : Searches fetch (done ++ pending) (nextLevel (done ++ pending) level)
        (level.reverse ++ found) course) :
      Searches fetch done pending found course

theorem searches_of_search {levels : Nat} {done pending : List String} {found : List Partial}
    {course : Resolution ε} (h : search fetch levels done pending found = some course) :
    Searches fetch done pending found course := by
  induction levels generalizing done pending found with
  | zero =>
      cases pending with
      | nil =>
          rw [search_nil] at h
          cases h
          exact .complete done found
      | cons name names => cases h
  | succ levels ih =>
      by_cases hEmpty : pending = []
      · subst hEmpty
        rw [search_nil] at h
        cases h
        exact .complete done found
      cases hLevel : fetchLevel fetch pending with
      | error e =>
          rw [search_of_error hLevel _ done found hEmpty] at h
          cases h
          exact .failed done found hEmpty hLevel
      | ok level =>
          rw [search_of_level hLevel _ done found hEmpty] at h
          exact .level hEmpty hLevel (ih h)

theorem Searches.exists_levels {done pending : List String} {found : List Partial}
    {course : Resolution ε} (h : Searches fetch done pending found course) :
    ∃ levels, search fetch levels done pending found = some course := by
  induction h with
  | complete done found => exact ⟨0, search_nil fetch 0 done found⟩
  | failed done found hPending hLevel => exact ⟨1, search_of_error hLevel 0 done found hPending⟩
  | level hPending hLevel _ ih =>
      obtain ⟨levels, hLater⟩ := ih
      exact ⟨levels + 1, (search_of_level hLevel levels _ _ hPending).trans hLater⟩

/-- The search for what a text includes takes the one course there is. -/
theorem resolve_eq_iff_searches {store : PartialStore ε} {course : Resolution ε} :
    resolve root store = course ↔
      Searches store.fetch [] (Discovery.references root) [] course := by
  constructor
  · rintro rfl
    obtain ⟨levels, hRun⟩ := exists_run?_eq_resolve root store
    exact searches_of_search hRun
  · intro h
    obtain ⟨levels, hRun⟩ := h.exists_levels
    exact resolve_eq_of_run? hRun

/-- Where a search stands before a level: the names of all nearer levels are done and their partials
are found; the names of this level are pending. -/
structure Stage (root : String) (fetch : String → Fetch ε) (depth : Nat)
    (done pending : List String) (found : List Partial) : Prop where
  names : done ++ pending = discovered root fetch depth
  done_iff : ∀ name, name ∈ done ↔ ∃ d < depth, Chain root fetch d name
  found : done.map (fun name => (fetch name).outcome.map (Partial.mk name)) =
    found.reverse.map .ok

theorem Stage.initial (root : String) (fetch : String → Fetch ε) :
    Stage root fetch 0 [] (Discovery.references root) [] where
  names := rfl
  done_iff := by simp
  found := rfl

theorem Stage.nodup {depth : Nat} {done pending : List String} {found : List Partial}
    (stage : Stage root fetch depth done pending found) : (done ++ pending).Nodup := by
  rw [stage.names]
  exact discovered_nodup root fetch depth

/-- The pending names are those of the level. -/
theorem Stage.mem_pending {depth : Nat} {done pending : List String} {found : List Partial}
    (stage : Stage root fetch depth done pending found) {name : String} :
    name ∈ pending ↔ AtLevel root fetch depth name := by
  have hAll : name ∈ done ++ pending ↔ ∃ d ≤ depth, Chain root fetch d name := by
    rw [stage.names, mem_discovered]
  constructor
  · intro hPending
    have hNotDone : name ∉ done := fun hDone =>
      (List.nodup_append.mp stage.nodup).2.2 name hDone name hPending rfl
    have hNearer : ∀ less < depth, ¬ Chain root fetch less name := fun less hLess hChain =>
      hNotDone ((stage.done_iff name).mpr ⟨less, hLess, hChain⟩)
    obtain ⟨d, hd, hChain⟩ := hAll.mp (List.mem_append_right _ hPending)
    obtain rfl : d = depth := by
      by_contra hNe
      exact hNearer d (by omega) hChain
    exact ⟨hChain, hNearer⟩
  · rintro ⟨hChain, hNearer⟩
    rcases List.mem_append.mp (hAll.mpr ⟨depth, Nat.le_refl _, hChain⟩) with hDone | hPending
    · obtain ⟨less, hLess, hLessChain⟩ := (stage.done_iff name).mp hDone
      exact absurd hLessChain (hNearer less hLess)
    · exact hPending

/-- What the partials of a level include is what their names are known to include. -/
theorem flatMap_included {names : List String} {level : List Partial}
    (h : names.map (fun name => (fetch name).outcome.map (Partial.mk name)) = level.map .ok) :
    names.flatMap (included fetch) = level.flatMap fun p => Discovery.references p.source := by
  induction names generalizing level with
  | nil =>
      cases level with
      | nil => rfl
      | cons p rest => cases h
  | cons name names ih =>
      cases level with
      | nil => cases h
      | cons p rest =>
          rw [List.map_cons, List.map_cons, List.cons.injEq] at h
          obtain ⟨source, hSource, rfl⟩ := Outcome.map_eq_ok.mp h.1
          rw [List.flatMap_cons, List.flatMap_cons, ih h.2, included, hSource]

/-- The names of a new level are those that come to the discovery. -/
theorem append_nextLevel {depth : Nat} {done pending : List String} {found level : List Partial}
    (stage : Stage root fetch depth done pending found)
    (hLevel : fetchLevel fetch pending = .ok level) :
    done ++ pending ++ nextLevel (done ++ pending) level = discovered root fetch (depth + 1) := by
  have hKnown : ∀ name ∈ done.flatMap (included fetch), name ∈ done ++ pending := by
    intro name hName
    obtain ⟨p, hp, hIncluded⟩ := List.mem_flatMap.mp hName
    obtain ⟨d, hd, hChain⟩ := (stage.done_iff p).mp hp
    rw [stage.names, mem_discovered]
    exact ⟨d + 1, hd, .through hChain hIncluded⟩
  rw [discovered, ← stage.names, Discovery.firstOccurrences_append,
    Discovery.firstOccurrences_eq_self stage.nodup, List.flatMap_append,
    Discovery.filter_firstOccurrences_append hKnown, nextLevel,
    flatMap_included (map_name_of_fetchLevel hLevel)]

/-- A level that is fetched leads to the stage before the next level. -/
theorem Stage.next {depth : Nat} {done pending : List String} {found level : List Partial}
    (stage : Stage root fetch depth done pending found)
    (hLevel : fetchLevel fetch pending = .ok level) :
    Stage root fetch (depth + 1) (done ++ pending) (nextLevel (done ++ pending) level)
      (level.reverse ++ found) where
  names := append_nextLevel stage hLevel
  done_iff := by
    intro name
    rw [stage.names, mem_discovered]
    simp only [Nat.lt_succ_iff]
  found := by
    rw [List.map_append, stage.found, map_name_of_fetchLevel hLevel]
    simp

/-- The stage at which a search ends: there is nothing left to fetch, or the level fails. -/
inductive EndsAt (root : String) (fetch : String → Fetch ε) : Resolution ε → Prop where
  | complete {depth : Nat} {done : List String} {found : List Partial}
      (stage : Stage root fetch depth done [] found) : EndsAt root fetch ⟨done, .ok found⟩
  | failed {depth : Nat} {done pending : List String} {found : List Partial} {e : ε}
      (stage : Stage root fetch depth done pending found)
      (hLevel : fetchLevel fetch pending = .error e) :
      EndsAt root fetch ⟨done ++ pending, .error e⟩

/-- A search that goes on from a stage ends at a stage. -/
theorem Searches.endsAt {done pending : List String} {found : List Partial} {course : Resolution ε}
    (h : Searches fetch done pending found course) {depth : Nat}
    (stage : Stage root fetch depth done pending found) : EndsAt root fetch course := by
  induction h generalizing depth with
  | complete done found => exact .complete stage
  | failed done found hPending hLevel => exact .failed stage hLevel
  | level hPending hLevel _ ih => exact ih (stage.next hLevel)

/-- When nothing is pending, everything that can be reached is done. -/
theorem Stage.mem_done {depth : Nat} {done : List String} {found : List Partial}
    (stage : Stage root fetch depth done [] found) {name : String} :
    name ∈ done ↔ Reachable root fetch name := by
  rw [reachable_iff_chain]
  constructor
  · intro hDone
    obtain ⟨d, _, hChain⟩ := (stage.done_iff name).mp hDone
    exact ⟨d, hChain⟩
  · rintro ⟨d, hChain⟩
    have hAll : ∀ other, (∃ d ≤ depth, Chain root fetch d other) → other ∈ done := by
      intro other hOther
      have hNames := stage.names
      rw [List.append_nil] at hNames
      rw [hNames]
      exact mem_discovered.mpr hOther
    induction hChain with
    | direct h => exact hAll _ ⟨0, Nat.zero_le _, .direct h⟩
    | through _ last ih =>
        obtain ⟨nearer, hNearer, hPrior⟩ := (stage.done_iff _).mp ih
        exact hAll _ ⟨nearer + 1, hNearer, .through hPrior last⟩

theorem Stage.mem_found {depth : Nat} {done pending : List String} {found : List Partial}
    (stage : Stage root fetch depth done pending found) {p : Partial} :
    p ∈ found ↔ p.name ∈ done ∧ (fetch p.name).outcome = .ok p.source := by
  have hMem : p ∈ found ↔ Except.ok p ∈ found.reverse.map (Except.ok (ε := ε)) := by simp
  rw [hMem, ← stage.found, List.mem_map]
  constructor
  · rintro ⟨name, hName, hOutcome⟩
    obtain ⟨source, hSource, rfl⟩ := Outcome.map_eq_ok.mp hOutcome
    exact ⟨hName, hSource⟩
  · rintro ⟨hName, hSource⟩
    exact ⟨p.name, hName, by rw [hSource]; rfl⟩

theorem Stage.map_name_found {depth : Nat} {done pending : List String} {found : List Partial}
    (stage : Stage root fetch depth done pending found) :
    found.map Partial.name = done.reverse := by
  have hNames : ∀ {names : List String} {level : List Partial},
      names.map (fun name => (fetch name).outcome.map (Partial.mk name)) = level.map .ok →
        level.map Partial.name = names := by
    intro names
    induction names with
    | nil => intro level h; cases level <;> simp_all
    | cons name names ih =>
        intro level h
        cases level with
        | nil => cases h
        | cons p rest =>
            rw [List.map_cons, List.map_cons, List.cons.injEq] at h
            obtain ⟨source, _, rfl⟩ := Outcome.map_eq_ok.mp h.1
            rw [List.map_cons, ih h.2]
  rw [← hNames stage.found, List.map_reverse, List.reverse_reverse]

/-- A search that succeeds has found just what is reachable, and fetched nothing twice and nothing
else. -/
theorem EndsAt.of_ok {course : Resolution ε} {partials : List Partial}
    (h : EndsAt root fetch course) (hFound : course.outcome = .ok partials) :
    (partials.map Partial.name).Nodup ∧
      (∀ p, p ∈ partials ↔
        Reachable root fetch p.name ∧ (fetch p.name).outcome = .ok p.source) ∧
      course.fetched.Nodup ∧ ∀ name, name ∈ course.fetched ↔ Reachable root fetch name := by
  cases h with
  | @complete depth done found stage =>
      cases hFound
      have hNodup : done.Nodup := by simpa using stage.nodup
      refine ⟨?_, ?_, hNodup, fun name => stage.mem_done⟩
      · rw [stage.map_name_found]
        exact List.nodup_reverse.mpr hNodup
      · intro p
        rw [stage.mem_found, stage.mem_done]
  | failed stage hLevel => cases hFound

/-- Everything that is reachable is among the partials found. -/
theorem EndsAt.exists_partial {course : Resolution ε} {partials : List Partial}
    (h : EndsAt root fetch course) (hFound : course.outcome = .ok partials) {name : String}
    (hName : Reachable root fetch name) : ∃ p ∈ partials, p.name = name := by
  cases h with
  | complete stage =>
      cases hFound
      have hMem := List.mem_reverse.mpr (stage.mem_done.mpr hName)
      rw [← stage.map_name_found] at hMem
      exact List.mem_map.mp hMem
  | failed stage hLevel => cases hFound

theorem endsAt_resolve (root : String) (store : PartialStore ε) :
    EndsAt root store.fetch (resolve root store) :=
  (resolve_eq_iff_searches.mp rfl).endsAt (.initial root store.fetch)

/-- Nothing is fetched but what can be reached, whether the search succeeds or not. -/
theorem reachable_of_mem_fetched {store : PartialStore ε} {name : String}
    (h : name ∈ (resolve root store).fetched) : Reachable root store.fetch name := by
  have hEnds := endsAt_resolve root store
  rw [reachable_iff_chain]
  cases hCourse : resolve root store with
  | mk fetched outcome =>
      rw [hCourse] at h hEnds
      cases hEnds with
      | complete stage =>
          obtain ⟨d, -, hChain⟩ := (stage.done_iff name).mp h
          exact ⟨d, hChain⟩
      | failed stage hLevel =>
          rw [stage.names] at h
          obtain ⟨d, -, hChain⟩ := mem_discovered.mp h
          exact ⟨d, hChain⟩

/-- The search for what a text reaches ends and succeeds if all of it has sources and is finitely
much: it finds just what is reachable, and fetches nothing twice and nothing else. It goes through
no more levels than there are names, and one; so it comes out in any store with these fetches. -/
theorem run?_eq_reachable (root : String) (fetch : String → Fetch ε) (names : Finset String)
    (hReachable : ∀ name, Reachable root fetch name → name ∈ names)
    (hSources : ∀ name ∈ names, ∃ source, (fetch name).outcome = .ok source) :
    ∃ course partials, (∀ levels > names.card, run? root fetch levels = some course) ∧
      (∀ store : PartialStore ε, store.fetch = fetch → resolve root store = course) ∧
      course.outcome = .ok partials ∧ (partials.map Partial.name).Nodup ∧
      (∀ p, p ∈ partials ↔
        Reachable root fetch p.name ∧ (fetch p.name).outcome = .ok p.source) ∧
      course.fetched.Nodup ∧ ∀ name, name ∈ course.fetched ↔ Reachable root fetch name := by
  classical
  let reached := (names.filter (Reachable root fetch)).toList
  have hMem : ∀ name, name ∈ reached ↔ Reachable root fetch name := by
    intro name
    simp only [reached, Finset.mem_toList, Finset.mem_filter]
    exact ⟨fun h => h.2, fun h => ⟨hReachable name h, h⟩⟩
  have hFew : reached.length ≤ names.card := by
    rw [Finset.length_toList]
    exact Finset.card_filter_le _ _
  have hEnds : (run? root fetch (names.card + 1)).isSome := by
    apply search_isSome reached
    · intro p hp source hSource name hName
      exact (hMem name).mpr (.through ((hMem p).mp hp) hSource hName)
    · intro name hName
      exact (hMem name).mpr (.direct hName)
    · exact Nat.lt_succ_of_le ((List.length_filter_le ..).trans hFew)
  obtain ⟨course, hCourse⟩ := Option.isSome_iff_exists.mp hEnds
  have hAll : ∀ levels > names.card, run? root fetch levels = some course :=
    fun levels hLevels => search_of_le hLevels hCourse
  have hResolve : ∀ store : PartialStore ε, store.fetch = fetch → resolve root store = course := by
    rintro store rfl
    exact resolve_eq_of_run? hCourse
  cases (searches_of_search hCourse).endsAt (.initial root fetch) with
  | complete stage =>
      exact ⟨_, _, hAll, hResolve, rfl, (EndsAt.complete stage).of_ok rfl⟩
  | failed stage hLevel =>
      -- The name that the level fails with would be reachable and missing.
      obtain ⟨before, failing, after, rfl, hFirst⟩ := failsFirst_of_fetchLevel hLevel
      have hChain := (stage.mem_pending.mp (List.mem_append_right _ List.mem_cons_self)).1
      obtain ⟨source, hSource⟩ :=
        hSources failing (hReachable failing (reachable_iff_chain.mpr ⟨_, hChain⟩))
      rw [hFirst.outcome] at hSource
      cases hSource

/-- Two partials that include each other and themselves, and a third. -/
def circle : PartialStore String :=
  .ofSources [("a", "\x7b\x7b> b\x7d\x7d\x7b\x7b> a\x7d\x7d"),
    ("b", "\x7b\x7b> a\x7d\x7d\x7b\x7b~> 'c'\x7d\x7d\x7b\x7b> a\x7d\x7d"), ("c", "text")]
    (fun _ => 0) (fun name => "missing " ++ name)

theorem included_circle :
    included circle.fetch "a" = ["b", "a"] ∧ included circle.fetch "b" = ["a", "c"] ∧
      included circle.fetch "c" = [] := by decide +kernel

theorem run?_circle :
    let root := "\x7b\x7b> a\x7d\x7d"
    let names : Finset String := {"a", "b", "c"}
    (∀ name, Reachable root circle.fetch name → name ∈ names) ∧
      (∀ name ∈ names, ∃ source, (circle.fetch name).outcome = .ok source) ∧
      ∃ course partials, (∀ levels > names.card, run? root circle.fetch levels = some course) ∧
        (∀ store : PartialStore String, store.fetch = circle.fetch → resolve root store = course) ∧
        course.outcome = .ok partials ∧ (partials.map Partial.name).Nodup ∧
        (∀ p, p ∈ partials ↔
          Reachable root circle.fetch p.name ∧ (circle.fetch p.name).outcome = .ok p.source) ∧
        course.fetched.Nodup ∧
        ∀ name, name ∈ course.fetched ↔ Reachable root circle.fetch name := by
  intro root names
  have hRoot : Discovery.references root = ["a"] := by decide +kernel
  have hReachable : ∀ name, Reachable root circle.fetch name → name ∈ names := by
    intro name h
    induction h with
    | direct h =>
        rw [hRoot, List.mem_singleton] at h
        simp [names, h]
    | through _ hSource last ih =>
        have hIncluded := mem_included.mpr ⟨_, hSource, last⟩
        obtain ⟨ha, hb, hc⟩ := included_circle
        simp only [names, Finset.mem_insert, Finset.mem_singleton] at ih ⊢
        rcases ih with rfl | rfl | rfl
        · simp only [ha, List.mem_cons, List.not_mem_nil, or_false] at hIncluded
          grind
        · simp only [hb, List.mem_cons, List.not_mem_nil, or_false] at hIncluded
          grind
        · rw [hc] at hIncluded
          cases hIncluded
  have hSources : ∀ name ∈ names, ∃ source, (circle.fetch name).outcome = .ok source := by
    intro name hName
    simp only [names, Finset.mem_insert, Finset.mem_singleton] at hName
    rcases hName with rfl | rfl | rfl <;> exact ⟨_, rfl⟩
  exact ⟨hReachable, hSources, run?_eq_reachable root circle.fetch names hReachable hSources⟩

end TemplateBundle.Resolution
