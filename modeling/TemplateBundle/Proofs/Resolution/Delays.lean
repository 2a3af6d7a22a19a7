import TemplateBundle.Proofs.Resolution.Search

/-! What the rounds that fetches take can change about a search: nothing but which failure of a
level it ends with. Main statement: the names that are fetched, the success and the partials found
are the same under all delays; a search that meets missing names ends in the first level that has
any, with the one that is complete first. -/
namespace TemplateBundle

/-- The store with other delays. -/
def PartialStore.delayed {ε : Type} (store : PartialStore ε) (delays : String → Nat) :
    PartialStore ε where
  fetch name := ⟨delays name, (store.fetch name).outcome⟩
  sources := store.sources
  mem_sources := store.mem_sources

namespace Resolution

variable {ε : Type} {root : String} {fetch fetch' : String → Fetch ε}

/-- Two courses that may differ in the failure only. -/
inductive Agrees : Resolution ε → Resolution ε → Prop where
  | found (fetched : List String) (partials : List Partial) :
      Agrees ⟨fetched, .ok partials⟩ ⟨fetched, .ok partials⟩
  | failed (fetched : List String) (e f : ε) :
      Agrees ⟨fetched, .error e⟩ ⟨fetched, .error f⟩

/-- Two searches that differ in the rounds only go through the same levels. -/
theorem Searches.agrees (hSame : ∀ name, (fetch' name).outcome = (fetch name).outcome)
    {done pending : List String} {found : List Partial} {course : Resolution ε}
    (h : Searches fetch done pending found course) :
    ∃ course', Searches fetch' done pending found course' ∧ Agrees course course' := by
  induction h with
  | complete done found => exact ⟨_, .complete done found, .found done found⟩
  | @failed done pending found e hPending hLevel =>
      cases hLevel' : fetchLevel fetch' pending with
      | ok level =>
          have hOk : fetchLevel fetch pending = .ok level :=
            fetchLevel_of_sources (fun other _ => by rw [hSame]) hLevel'
          rw [hLevel] at hOk
          cases hOk
      | error f => exact ⟨_, .failed done found hPending hLevel', .failed _ e f⟩
  | @level done pending found level course hPending hLevel _ ih =>
      obtain ⟨course', hLater, hAgrees⟩ := ih
      have hLevel' : fetchLevel fetch' pending = .ok level :=
        fetchLevel_of_sources (fun other _ => by rw [hSame]) hLevel
      exact ⟨course', .level hPending hLevel' hLater, hAgrees⟩

theorem chain_congr (hSame : ∀ name, (fetch' name).outcome = (fetch name).outcome) {depth : Nat}
    {name : String} (h : Chain root fetch' depth name) : Chain root fetch depth name := by
  induction h with
  | direct h => exact .direct h
  | through _ last ih =>
      refine .through ih ?_
      rwa [included, hSame] at last

theorem discovered_congr (hSame : ∀ name, (fetch' name).outcome = (fetch name).outcome)
    (root : String) (depth : Nat) : discovered root fetch' depth = discovered root fetch depth := by
  have hIncluded : included fetch' = included fetch := by
    funext name
    rw [included, included, hSame]
  induction depth with
  | zero => rfl
  | succ depth ih => rw [discovered, discovered, ih, hIncluded]

/-- Whatever a search has done has a source. -/
theorem Stage.not_missing {depth : Nat} {done pending : List String} {found : List Partial}
    (stage : Stage root fetch depth done pending found) {name : String} (hDone : name ∈ done) :
    ¬ Missing fetch name := by
  rintro ⟨e, hError⟩
  have hMem := List.mem_map_of_mem (f := fun name =>
    (fetch name).outcome.map (Partial.mk name)) hDone
  rw [stage.found, hError] at hMem
  simp [Except.map] at hMem

theorem Stage.mem_done_iff_atLevel {depth : Nat} {done pending : List String}
    {found : List Partial} (stage : Stage root fetch depth done pending found) {name : String} :
    name ∈ done ↔ ∃ d < depth, AtLevel root fetch d name := by
  rw [stage.done_iff]
  constructor
  · rintro ⟨d, hd, hChain⟩
    obtain ⟨level, hLevel, hAt⟩ := exists_atLevel_of_chain hChain
    exact ⟨level, by omega, hAt⟩
  · rintro ⟨d, hd, hAt⟩
    exact ⟨d, hd, hAt.1⟩

theorem Stage.congr (hSame : ∀ name, (fetch' name).outcome = (fetch name).outcome) {depth : Nat}
    {done pending : List String} {found : List Partial}
    (stage : Stage root fetch' depth done pending found) :
    Stage root fetch depth done pending found where
  names := by rw [stage.names, discovered_congr hSame]
  done_iff := by
    intro name
    rw [stage.done_iff]
    constructor
    · rintro ⟨d, hd, hChain⟩
      exact ⟨d, hd, chain_congr hSame hChain⟩
    · rintro ⟨d, hd, hChain⟩
      exact ⟨d, hd, chain_congr (fun other => (hSame other).symm) hChain⟩
  found := by
    have hFound := stage.found
    simpa only [hSame] using hFound

theorem agrees_delayed (root : String) (store : PartialStore ε) (delays others : String → Nat) :
    Agrees (resolve root (store.delayed delays)) (resolve root (store.delayed others)) := by
  have hSame : ∀ name, ((store.delayed others).fetch name).outcome =
      ((store.delayed delays).fetch name).outcome := fun _ => rfl
  obtain ⟨course, hCourse, hAgrees⟩ := (resolve_eq_iff_searches.mp rfl).agrees hSame
  have hOther : resolve root (store.delayed others) = course := resolve_eq_iff_searches.mpr hCourse
  rwa [hOther]

/-- The delays of fetches decide neither what is fetched, nor whether the search succeeds, nor what
it finds. If a partial that is reachable is missing, the search ends in the first level with such a
partial, with the failure of the one that is complete first, the first in order among equals; then
just this level and the nearer ones have been fetched, each name once, as they were discovered. -/
theorem resolve_delayed (root : String) (store : PartialStore ε) (delays : String → Nat) :
    let course := resolve root (store.delayed delays)
    (∀ others,
      let other := resolve root (store.delayed others)
      other.fetched = course.fetched ∧ other.outcome.isOk = course.outcome.isOk ∧
        ∀ partials, course.outcome = .ok partials → other.outcome = .ok partials) ∧
    ((∃ name, Reachable root store.fetch name ∧ Missing store.fetch name) →
      ∃ depth nearer before failing after e,
        (store.fetch failing).outcome = .error e ∧ course.outcome = .error e ∧
        course.fetched = discovered root store.fetch depth ∧ course.fetched.Nodup ∧
        course.fetched = nearer ++ (before ++ failing :: after) ∧
        (∀ name, name ∈ nearer ↔ ∃ d < depth, AtLevel root store.fetch d name) ∧
        (∀ name, name ∈ before ++ failing :: after ↔ AtLevel root store.fetch depth name) ∧
        (∀ name ∈ nearer, ¬ Missing store.fetch name) ∧
        (∀ other ∈ before, Missing store.fetch other → delays failing < delays other) ∧
        (∀ other ∈ after, Missing store.fetch other → delays failing ≤ delays other)) := by
  intro course
  have hAgrees : ∀ others, Agrees course (resolve root (store.delayed others)) :=
    agrees_delayed root store delays
  have hEnds : EndsAt root (store.delayed delays).fetch course :=
    endsAt_resolve root (store.delayed delays)
  have hSame : ∀ name, ((store.delayed delays).fetch name).outcome =
      (store.fetch name).outcome := fun _ => rfl
  clear_value course
  constructor
  · intro others other
    have hOther : Agrees course other := hAgrees others
    clear_value other
    cases hOther with
    | found fetched partials => exact ⟨rfl, rfl, fun _ h => h⟩
    | failed fetched e f => exact ⟨rfl, rfl, fun _ h => nomatch h⟩
  · rintro ⟨name, hReachable, hMissing⟩
    cases hEnds with
    | @complete depth done found stage =>
        have hStage : Stage root store.fetch depth done [] found := stage.congr hSame
        exact absurd hMissing (hStage.not_missing (hStage.mem_done.mpr hReachable))
    | @failed depth done pending found e stage hLevel =>
        have hStage : Stage root store.fetch depth done pending found := stage.congr hSame
        obtain ⟨before, failing, after, rfl, hFirst⟩ := failsFirst_of_fetchLevel hLevel
        exact ⟨depth, done, before, failing, after, e, hFirst.outcome, rfl, hStage.names,
          hStage.nodup, rfl, fun _ => hStage.mem_done_iff_atLevel, fun _ => hStage.mem_pending,
          fun _ => hStage.not_missing, hFirst.before_later, hFirst.after_later⟩

end Resolution
end TemplateBundle
