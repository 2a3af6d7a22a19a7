import TemplateBundle.Discovery
import TemplateBundle.Outcome

/-! Finding every partial that a text includes, directly or through other partials. The search goes
level by level: all partials of a level are fetched at once, and what they include and nobody has
fetched yet is the next level. A fetch may take several rounds; the level waits for all of its
fetches, or fails as soon as one of them is seen to fail. -/
namespace TemplateBundle

/-- A partial: its name and its source, or the artifact made of it. -/
structure Partial where
  name : String
  source : String
  deriving DecidableEq, Repr, Inhabited

/-- What a fetch comes to, and in which round. -/
structure Fetch (ε : Type) where
  /-- The rounds that pass before the fetch is complete -/
  rounds : Nat
  /-- The source, or why there is none -/
  outcome : Except ε String

/-- A partial that a level waits for. -/
inductive Delivery (ε : Type) where
  /-- It is fetched under this name -/
  | underway (name : String) (fetch : Fetch ε)
  | complete (p : Partial)

namespace Delivery

variable {ε : Type}

/-- Asks whether a partial is there. A fetch that fails is seen to fail when it is complete. -/
def poll : Delivery ε → Except ε (Delivery ε)
  | .complete p => .ok (.complete p)
  | .underway name ⟨0, .ok source⟩ => .ok (.complete ⟨name, source⟩)
  | .underway _ ⟨0, .error e⟩ => .error e
  | .underway name ⟨rounds + 1, outcome⟩ => .ok (.underway name ⟨rounds, outcome⟩)

/-- One round: asks for the partials of a level in order, up to the first failure. -/
def pollAll : List (Delivery ε) → Except ε (List (Delivery ε))
  | [] => .ok []
  | d :: rest => do
    let d ← d.poll
    let rest ← pollAll rest
    .ok (d :: rest)

/-- The partials, if all of them are there. -/
def partials? : List (Delivery ε) → Option (List Partial)
  | [] => some []
  | .underway _ _ :: _ => none
  | .complete p :: rest => (partials? rest).map (p :: ·)

/-- The rounds that a partial takes at most. -/
def roundsLeft : Delivery ε → Nat
  | .underway _ fetch => fetch.rounds + 1
  | .complete _ => 0

theorem roundsLeft_of_poll {d e : Delivery ε} (h : d.poll = .ok e) :
    e.roundsLeft = d.roundsLeft - 1 := by
  unfold poll at h
  split at h
  · cases h; rfl
  · cases h; rfl
  · cases h
  · cases h; rfl

/-- The rounds that partials take at most, one after another. -/
def totalRounds : List (Delivery ε) → Nat
  | [] => 0
  | d :: rest => d.roundsLeft + totalRounds rest

theorem rounds_le_of_pollAll {ds es : List (Delivery ε)} (h : pollAll ds = .ok es) :
    totalRounds es ≤ totalRounds ds := by
  induction ds generalizing es with
  | nil =>
      cases h
      exact Nat.le_refl _
  | cons d rest ih =>
      obtain ⟨e, hPoll, h⟩ := Outcome.bind_eq_ok.mp h
      obtain ⟨later, hRest, h⟩ := Outcome.bind_eq_ok.mp h
      cases h
      have hHead := roundsLeft_of_poll hPoll
      have hTail := ih hRest
      rw [totalRounds, totalRounds]
      omega

/-- As long as a partial is missing a round brings it nearer. -/
theorem rounds_lt_of_pollAll {ds es : List (Delivery ε)} (hMissing : partials? ds = none)
    (h : pollAll ds = .ok es) : totalRounds es < totalRounds ds := by
  induction ds generalizing es with
  | nil => simp [partials?] at hMissing
  | cons d rest ih =>
      obtain ⟨e, hPoll, h⟩ := Outcome.bind_eq_ok.mp h
      obtain ⟨later, hRest, h⟩ := Outcome.bind_eq_ok.mp h
      cases h
      have hHead := roundsLeft_of_poll hPoll
      rw [totalRounds, totalRounds]
      cases d with
      | underway name fetch =>
          have hTail := rounds_le_of_pollAll hRest
          rw [roundsLeft] at hHead ⊢
          omega
      | complete p =>
          have hTail := ih (by simpa [partials?] using hMissing) hRest
          rw [roundsLeft] at hHead ⊢
          omega

/-- Goes round after round until all partials are there or one fails. -/
def awaitAll (ds : List (Delivery ε)) : Except ε (List Partial) :=
  match _hMissing : partials? ds with
  | some level => .ok level
  | none =>
    match _hPoll : pollAll ds with
    | .error e => .error e
    | .ok later => awaitAll later
termination_by totalRounds ds
decreasing_by exact rounds_lt_of_pollAll _hMissing _hPoll

/-- What a partial that is waited for will come to. -/
def result : Delivery ε → Except ε Partial
  | .underway name fetch => fetch.outcome.map (Partial.mk name)
  | .complete p => .ok p

/-- Asking does not change what comes. -/
theorem result_of_poll {d e : Delivery ε} (h : d.poll = .ok e) : e.result = d.result := by
  unfold poll at h
  split at h
  · cases h; rfl
  · cases h; rfl
  · cases h
  · cases h; rfl

theorem results_of_pollAll {ds es : List (Delivery ε)} (h : pollAll ds = .ok es) :
    es.map result = ds.map result := by
  induction ds generalizing es with
  | nil => cases h; rfl
  | cons d rest ih =>
      obtain ⟨e, hPoll, h⟩ := Outcome.bind_eq_ok.mp h
      obtain ⟨later, hRest, h⟩ := Outcome.bind_eq_ok.mp h
      cases h
      rw [List.map_cons, List.map_cons, result_of_poll hPoll, ih hRest]

theorem results_of_partials? {ds : List (Delivery ε)} {level : List Partial}
    (h : partials? ds = some level) : ds.map result = level.map .ok := by
  induction ds generalizing level with
  | nil => cases h; rfl
  | cons d rest ih =>
      cases d with
      | underway name fetch => cases h
      | complete p =>
          simp only [partials?, Option.map_eq_some_iff] at h
          obtain ⟨later, hRest, rfl⟩ := h
          rw [List.map_cons, List.map_cons, ih hRest]
          rfl

/-- A level that comes has a partial for each that was waited for, in order. -/
theorem results_of_awaitAll {ds : List (Delivery ε)} {level : List Partial}
    (h : awaitAll ds = .ok level) : ds.map result = level.map .ok := by
  induction ds using awaitAll.induct generalizing level with
  | case1 ds complete hAll =>
      rw [awaitAll, hAll] at h
      cases h
      exact results_of_partials? hAll
  | case2 ds hMissing e hPoll =>
      rw [awaitAll, hMissing, hPoll] at h
      cases h
  | case3 ds hMissing later hPoll ih =>
      rw [awaitAll, hMissing, hPoll] at h
      rw [← results_of_pollAll hPoll]
      exact ih h

end Delivery

/-- A place where partials can be fetched from. It has finitely many sources, so that every search
in it ends. -/
structure PartialStore (ε : Type) where
  /-- The fetch of a partial by its name -/
  fetch : String → Fetch ε
  /-- The sources that fetches come to, and perhaps others -/
  sources : List String
  mem_sources : ∀ {name source : String}, (fetch name).outcome = .ok source → source ∈ sources

/-- The store of the given sources under their names. All other names are missing. -/
def PartialStore.ofSources {ε : Type} (sources : List (String × String)) (rounds : String → Nat)
    (missing : String → ε) : PartialStore ε where
  fetch name :=
    ⟨rounds name, match sources.lookup name with
      | some source => .ok source
      | none => .error (missing name)⟩
  sources := sources.map Prod.snd
  mem_sources {name source} h := by
    simp only at h
    split at h
    · next hLookup =>
      cases h
      obtain ⟨before, after, hSources, _⟩ := List.lookup_eq_some_iff.mp hLookup
      simp [hSources]
    · cases h

structure Resolution (ε : Type) where
  /-- The names that were fetched, in order -/
  fetched : List String
  /-- The partials found, those of the deepest level first -/
  outcome : Except ε (List Partial)

namespace Resolution

variable {ε : Type}

/-- The partials of a level, in the order of their names. -/
def fetchLevel (fetch : String → Fetch ε) (names : List String) : Except ε (List Partial) :=
  Delivery.awaitAll (names.map fun name => .underway name (fetch name))

/-- What a level includes and nobody has fetched yet. -/
def nextLevel (done : List String) (level : List Partial) : List String :=
  (Discovery.firstOccurrences (level.flatMap fun p => Discovery.references p.source)).filter
    fun name => !done.contains name

/-- The search from a level on through at most so many levels, or nothing if there are more. `done`
holds the names of the earlier levels and `found` their partials, the latest first. -/
def search (fetch : String → Fetch ε) :
    Nat → List String → List String → List Partial → Option (Resolution ε)
  | _, done, [], found => some ⟨done, .ok found⟩
  | 0, _, _ :: _, _ => none
  | levels + 1, done, name :: names, found =>
    let pending := name :: names
    match fetchLevel fetch pending with
    | .error e => some ⟨done ++ pending, .error e⟩
    | .ok level =>
      let done := done ++ pending
      search fetch levels done (nextLevel done level) (level.reverse ++ found)

/-- The search for all that `root` includes. -/
def run? (root : String) (fetch : String → Fetch ε) (levels : Nat) : Option (Resolution ε) :=
  search fetch levels [] (Discovery.references root) []

theorem search_nil (fetch : String → Fetch ε) (levels : Nat) (done : List String)
    (found : List Partial) : search fetch levels done [] found = some ⟨done, .ok found⟩ := by
  cases levels with
  | zero => rfl
  | succ levels => rfl

theorem search_of_error {fetch : String → Fetch ε} {pending : List String} {e : ε}
    (h : fetchLevel fetch pending = .error e) (levels : Nat) (done : List String)
    (found : List Partial) (hPending : pending ≠ []) :
    search fetch (levels + 1) done pending found = some ⟨done ++ pending, .error e⟩ := by
  cases pending with
  | nil => exact absurd rfl hPending
  | cons name names =>
      unfold search
      simp only [h]

theorem search_of_level {fetch : String → Fetch ε} {pending : List String} {level : List Partial}
    (h : fetchLevel fetch pending = .ok level) (levels : Nat) (done : List String)
    (found : List Partial) (hPending : pending ≠ []) :
    search fetch (levels + 1) done pending found =
      search fetch levels (done ++ pending) (nextLevel (done ++ pending) level)
        (level.reverse ++ found) := by
  cases pending with
  | nil => exact absurd rfl hPending
  | cons name names =>
      rw [search]
      simp only [h]

/-- A search that has ended does not go on. -/
theorem search_of_le {fetch : String → Fetch ε} {levels more : Nat} (hMore : levels ≤ more)
    {done pending : List String} {found : List Partial} {course : Resolution ε}
    (h : search fetch levels done pending found = some course) :
    search fetch more done pending found = some course := by
  induction levels generalizing more done pending found with
  | zero =>
      cases pending with
      | nil => rwa [search_nil] at h ⊢
      | cons name names => cases h
  | succ levels ih =>
      obtain ⟨more, rfl⟩ : ∃ k, more = k + 1 := ⟨more - 1, by omega⟩
      by_cases hEmpty : pending = []
      · rw [hEmpty, search_nil] at h ⊢
        exact h
      cases hLevel : fetchLevel fetch pending with
      | error e =>
          rw [search_of_error hLevel _ done found hEmpty] at h ⊢
          exact h
      | ok level =>
          rw [search_of_level hLevel _ done found hEmpty] at h ⊢
          exact ih (Nat.le_of_succ_le_succ hMore) h

/-- A level that is fetched has a partial for each name, in order. -/
theorem map_name_of_fetchLevel {fetch : String → Fetch ε} {names : List String}
    {level : List Partial} (h : fetchLevel fetch names = .ok level) :
    names.map (fun name => (fetch name).outcome.map (Partial.mk name)) = level.map .ok := by
  have hResults := Delivery.results_of_awaitAll h
  rwa [List.map_map] at hResults

theorem outcome_of_mem_level {fetch : String → Fetch ε} {names : List String}
    {level : List Partial} (h : fetchLevel fetch names = .ok level) {p : Partial}
    (hp : p ∈ level) : p.name ∈ names ∧ (fetch p.name).outcome = .ok p.source := by
  have hMem : Except.ok p ∈ level.map (Except.ok (ε := ε)) := List.mem_map_of_mem hp
  rw [← map_name_of_fetchLevel h] at hMem
  obtain ⟨name, hName, hOutcome⟩ := List.mem_map.mp hMem
  cases hFetch : (fetch name).outcome with
  | error e => rw [hFetch] at hOutcome; cases hOutcome
  | ok source =>
      rw [hFetch] at hOutcome
      cases hOutcome
      exact ⟨hName, hFetch⟩

theorem mem_nextLevel {done : List String} {level : List Partial} {name : String} :
    name ∈ nextLevel done level ↔
      (∃ p ∈ level, name ∈ Discovery.references p.source) ∧ name ∉ done := by
  simp [nextLevel, Discovery.mem_firstOccurrences]

/-- The names that a search has not met yet. -/
def unmet (names met : List String) : List String := names.filter fun name => !met.contains name

/-- Meeting one of the names leaves fewer. -/
theorem length_unmet_lt {names met more : List String} {name : String} (hName : name ∈ names)
    (hMet : name ∉ met) (hMore : name ∈ more) :
    (unmet names (met ++ more)).length < (unmet names met).length := by
  have hSplit : unmet names (met ++ more) = (unmet names met).filter fun a => !more.contains a := by
    simp [unmet, List.filter_filter, Bool.and_comm]
  rw [hSplit, List.length_filter_lt_length_iff_exists]
  exact ⟨name, by simp [unmet, hName, hMet], by simp [hMore]⟩

/-- A search ends if the names that can be included are finitely many: every level but the first
has one of them that no earlier level had. -/
theorem search_isSome {fetch : String → Fetch ε} (names : List String)
    (hClosed : ∀ p ∈ names, ∀ source, (fetch p).outcome = .ok source →
      ∀ name ∈ Discovery.references source, name ∈ names)
    {levels : Nat} {done pending : List String} (hPending : ∀ name ∈ pending, name ∈ names)
    (hLevels : (unmet names (done ++ pending)).length < levels) (found : List Partial) :
    (search fetch levels done pending found).isSome := by
  induction levels generalizing done pending found with
  | zero => exact absurd hLevels (Nat.not_lt_zero _)
  | succ levels ih =>
      by_cases hEmpty : pending = []
      · rw [hEmpty, search_nil]
        rfl
      cases hLevel : fetchLevel fetch pending with
      | error e =>
          rw [search_of_error hLevel _ done found hEmpty]
          rfl
      | ok level =>
          have hIncluded : ∀ name ∈ nextLevel (done ++ pending) level, name ∈ names := by
            intro name hName
            obtain ⟨⟨p, hp, hRefers⟩, _⟩ := mem_nextLevel.mp hName
            obtain ⟨hAsked, hOutcome⟩ := outcome_of_mem_level hLevel hp
            exact hClosed p.name (hPending _ hAsked) p.source hOutcome name hRefers
          rw [search_of_level hLevel _ done found hEmpty]
          cases hNext : nextLevel (done ++ pending) level with
          | nil =>
              rw [search_nil]
              rfl
          | cons name rest =>
              have hHead : name ∈ nextLevel (done ++ pending) level := by
                rw [hNext]
                exact .head _
              have hFewer :=
                length_unmet_lt (hIncluded name hHead) (mem_nextLevel.mp hHead).2 hHead
              rw [← hNext]
              exact ih hIncluded (Nat.lt_of_lt_of_le hFewer (Nat.le_of_lt_succ hLevels)) _

/-- The names that a search in a store can meet: those that the text and the sources include. -/
def namesOf (root : String) (store : PartialStore ε) : List String :=
  Discovery.references root ++ store.sources.flatMap Discovery.references

/-- Every search in a store ends: only so many names can be met. -/
theorem run?_isSome (root : String) (store : PartialStore ε) :
    (run? root store.fetch ((namesOf root store).length + 1)).isSome := by
  apply search_isSome (namesOf root store)
  · intro p _ source hOutcome name hName
    exact List.mem_append_right _ (List.mem_flatMap.mpr ⟨source, store.mem_sources hOutcome, hName⟩)
  · intro name hName
    exact List.mem_append_left _ hName
  · exact Nat.lt_succ_of_le (List.length_filter_le ..)

end Resolution

/-- Finds every partial that `root` includes. The partials that no other needs come last, so that
each can be registered after those found through it. -/
def resolve {ε : Type} (root : String) (store : PartialStore ε) : Resolution ε :=
  (Resolution.run? root store.fetch ((Resolution.namesOf root store).length + 1)).get
    (Resolution.run?_isSome root store)

/-- Whatever number of levels a search is given, if it ends it ends so. -/
theorem resolve_eq_of_run? {ε : Type} {root : String} {store : PartialStore ε} {levels : Nat}
    {course : Resolution ε} (h : Resolution.run? root store.fetch levels = some course) :
    resolve root store = course := by
  have hResolve : Resolution.run? root store.fetch ((Resolution.namesOf root store).length + 1) =
      some (resolve root store) := (Option.some_get _).symm
  have hMost := Nat.le_max_left levels ((Resolution.namesOf root store).length + 1)
  have hAll := Nat.le_max_right levels ((Resolution.namesOf root store).length + 1)
  have hSame := (Resolution.search_of_le hAll hResolve).symm.trans (Resolution.search_of_le hMost h)
  exact Option.some.inj hSame

theorem exists_run?_eq_resolve {ε : Type} (root : String) (store : PartialStore ε) :
    ∃ levels, Resolution.run? root store.fetch levels = some (resolve root store) :=
  ⟨_, (Option.some_get _).symm⟩

end TemplateBundle
