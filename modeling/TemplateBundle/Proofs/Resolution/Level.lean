import TemplateBundle.Resolution

/-! How a level ends. The rounds go on until all partials are there or one of them is seen to fail;
so the failure of a level is that of the earliest round, the first in order among equals. -/
namespace TemplateBundle

namespace Delivery

variable {ε : Type}

/-- The failure that a delivery will come to, and in which round. -/
def failure? : Delivery ε → Option (Nat × ε)
  | .underway _ fetch =>
    match fetch.outcome with
    | .ok _ => none
    | .error e => some (fetch.rounds, e)
  | .complete _ => none

/-- The earlier of two failures, the first of equals. -/
def earlier? : Option (Nat × ε) → Option (Nat × ε) → Option (Nat × ε)
  | none, other => other
  | some f, none => some f
  | some f, some g => if f.1 ≤ g.1 then some f else some g

/-- The earliest failure of deliveries. -/
def firstFailure? : List (Delivery ε) → Option (Nat × ε)
  | [] => none
  | d :: rest => earlier? d.failure? (firstFailure? rest)

/-- A failure as it stands one round before. -/
def postpone (failure : Nat × ε) : Nat × ε := (failure.1 + 1, failure.2)

theorem earlier?_postpone (f g : Option (Nat × ε)) :
    earlier? (f.map postpone) (g.map postpone) = (earlier? f g).map postpone := by
  cases f with
  | none => rfl
  | some f =>
      cases g with
      | none => rfl
      | some g => by_cases h : f.1 ≤ g.1 <;> simp [earlier?, postpone, h]

theorem exists_earlier? (f : Nat × ε) (g : Option (Nat × ε)) :
    ∃ first, earlier? (some f) g = some first ∧ first.1 ≤ f.1 ∧
      ∀ other, g = some other → first.1 ≤ other.1 := by
  cases g with
  | none => exact ⟨f, rfl, Nat.le_refl _, fun _ h => nomatch h⟩
  | some g =>
      by_cases hLe : f.1 ≤ g.1
      · refine ⟨f, if_pos hLe, Nat.le_refl _, ?_⟩
        rintro _ ⟨⟩
        exact hLe
      · refine ⟨g, if_neg hLe, by omega, ?_⟩
        rintro _ ⟨⟩
        exact Nat.le_refl _

theorem failure_of_poll {d e : Delivery ε} (h : d.poll = .ok e) :
    d.failure? = e.failure?.map postpone := by
  unfold poll at h
  split at h
  · cases h; rfl
  · cases h; rfl
  · cases h
  · next name rounds outcome =>
    cases h
    cases outcome <;> rfl

theorem failure_of_poll_error {d : Delivery ε} {e : ε} (h : d.poll = .error e) :
    d.failure? = some (0, e) := by
  unfold poll at h
  split at h
  · cases h
  · cases h
  · cases h; rfl
  · cases h

/-- A round without failure brings the failure of the level one round nearer. -/
theorem firstFailure_of_pollAll {ds es : List (Delivery ε)} (h : pollAll ds = .ok es) :
    firstFailure? ds = (firstFailure? es).map postpone := by
  induction ds generalizing es with
  | nil => cases h; rfl
  | cons d rest ih =>
      obtain ⟨e, hPoll, h⟩ := Outcome.bind_eq_ok.mp h
      obtain ⟨later, hRest, h⟩ := Outcome.bind_eq_ok.mp h
      cases h
      rw [firstFailure?, firstFailure?, failure_of_poll hPoll, ih hRest, earlier?_postpone]

/-- A round that fails shows the failure of the level. -/
theorem firstFailure_of_pollAll_error {ds : List (Delivery ε)} {e : ε}
    (h : pollAll ds = .error e) : firstFailure? ds = some (0, e) := by
  induction ds with
  | nil => cases h
  | cons d rest ih =>
      cases hPoll : d.poll with
      | error f =>
          simp only [pollAll, hPoll, bind, Except.bind] at h
          cases h
          rw [firstFailure?, failure_of_poll_error hPoll]
          cases firstFailure? rest <;> rfl
      | ok next =>
          cases hRest : pollAll rest with
          | ok later => simp [pollAll, hPoll, hRest, bind, Except.bind] at h
          | error f =>
              simp only [pollAll, hPoll, hRest, bind, Except.bind] at h
              cases h
              rw [firstFailure?, ih hRest, failure_of_poll hPoll]
              cases next.failure? <;> rfl

/-- The failure of a level is the earliest of its deliveries. -/
theorem firstFailure_of_awaitAll {ds : List (Delivery ε)} {e : ε} (h : awaitAll ds = .error e) :
    ∃ rounds, firstFailure? ds = some (rounds, e) := by
  induction ds using awaitAll.induct with
  | case1 ds level hAll =>
      rw [awaitAll, hAll] at h
      cases h
  | case2 ds hMissing f hPoll =>
      rw [awaitAll, hMissing, hPoll] at h
      cases h
      exact ⟨0, firstFailure_of_pollAll_error hPoll⟩
  | case3 ds hMissing later hPoll ih =>
      rw [awaitAll, hMissing, hPoll] at h
      obtain ⟨rounds, hFirst⟩ := ih h
      exact ⟨rounds + 1, by rw [firstFailure_of_pollAll hPoll, hFirst]; rfl⟩

end Delivery

namespace Resolution

variable {ε : Type} {fetch : String → Fetch ε}

/-- There is no source under the name. -/
def Missing (fetch : String → Fetch ε) (name : String) : Prop :=
  ∃ e, (fetch name).outcome = .error e

/-- The name whose failure a level ends with: it is missing, and all others that are missing fail
later, or in the same round but come later in order. -/
structure FailsFirst (fetch : String → Fetch ε) (before : List String) (failing : String)
    (after : List String) (e : ε) : Prop where
  outcome : (fetch failing).outcome = .error e
  before_later : ∀ other ∈ before, Missing fetch other →
    (fetch failing).rounds < (fetch other).rounds
  after_later : ∀ other ∈ after, Missing fetch other →
    (fetch failing).rounds ≤ (fetch other).rounds

/-- The deliveries of a level before its first round. -/
def ordered (fetch : String → Fetch ε) (names : List String) : List (Delivery ε) :=
  names.map fun name => .underway name (fetch name)

theorem firstFailure_cons_ok {name source : String} (h : (fetch name).outcome = .ok source)
    (rest : List String) :
    Delivery.firstFailure? (ordered fetch (name :: rest)) =
      Delivery.firstFailure? (ordered fetch rest) := by
  simp [ordered, Delivery.firstFailure?, Delivery.failure?, h, Delivery.earlier?]

theorem firstFailure_cons_error {name : String} {e : ε} (h : (fetch name).outcome = .error e)
    (rest : List String) :
    Delivery.firstFailure? (ordered fetch (name :: rest)) =
      Delivery.earlier? (some ((fetch name).rounds, e))
        (Delivery.firstFailure? (ordered fetch rest)) := by
  simp [ordered, Delivery.firstFailure?, Delivery.failure?, h]

/-- A missing name makes the level fail, at the latest when its own fetch does. -/
theorem exists_firstFailure {names : List String} {other : String} (hOther : other ∈ names)
    (hMissing : Missing fetch other) :
    ∃ rounds e, Delivery.firstFailure? (ordered fetch names) = some (rounds, e) ∧
      rounds ≤ (fetch other).rounds := by
  induction names with
  | nil => cases hOther
  | cons name rest ih =>
      cases hOutcome : (fetch name).outcome with
      | ok source =>
          rw [firstFailure_cons_ok hOutcome]
          cases hOther with
          | head =>
              obtain ⟨e, hError⟩ := hMissing
              rw [hOutcome] at hError
              cases hError
          | tail _ hRest => exact ih hRest
      | error e =>
          rw [firstFailure_cons_error hOutcome]
          obtain ⟨first, hFirst, hOwn, hLater⟩ := Delivery.exists_earlier?
            ((fetch name).rounds, e) (Delivery.firstFailure? (ordered fetch rest))
          refine ⟨first.1, first.2, hFirst, ?_⟩
          cases hOther with
          | head => exact hOwn
          | tail _ hRest =>
              obtain ⟨rounds, f, hSome, hLe⟩ := ih hRest
              exact Nat.le_trans (hLater _ hSome) hLe

theorem FailsFirst.head {name : String} {rest : List String} {e : ε}
    (hOutcome : (fetch name).outcome = .error e)
    (hLater : ∀ first, Delivery.firstFailure? (ordered fetch rest) = some first →
      (fetch name).rounds ≤ first.1) : FailsFirst fetch [] name rest e where
  outcome := hOutcome
  before_later _ hOther := nomatch hOther
  after_later := by
    intro other hOther hMissing
    obtain ⟨rounds, f, hSome, hLe⟩ := exists_firstFailure hOther hMissing
    exact Nat.le_trans (hLater _ hSome) hLe

theorem FailsFirst.cons {before after : List String} {failing name : String} {e : ε}
    (hFirst : FailsFirst fetch before failing after e)
    (hName : Missing fetch name → (fetch failing).rounds < (fetch name).rounds) :
    FailsFirst fetch (name :: before) failing after e where
  outcome := hFirst.outcome
  before_later := by
    intro other hOther hMissing
    cases hOther with
    | head => exact hName hMissing
    | tail _ hOther => exact hFirst.before_later other hOther hMissing
  after_later := hFirst.after_later

theorem exists_failsFirst {names : List String} {rounds : Nat} {e : ε}
    (h : Delivery.firstFailure? (ordered fetch names) = some (rounds, e)) :
    ∃ before failing after, names = before ++ failing :: after ∧
      (fetch failing).rounds = rounds ∧ FailsFirst fetch before failing after e := by
  induction names generalizing rounds e with
  | nil => cases h
  | cons name rest ih =>
      cases hOutcome : (fetch name).outcome with
      | ok source =>
          rw [firstFailure_cons_ok hOutcome] at h
          obtain ⟨before, failing, after, rfl, hRounds, hFirst⟩ := ih h
          refine ⟨name :: before, failing, after, rfl, hRounds, hFirst.cons ?_⟩
          rintro ⟨f, hError⟩
          rw [hOutcome] at hError
          cases hError
      | error f =>
          rw [firstFailure_cons_error hOutcome] at h
          cases hRest : Delivery.firstFailure? (ordered fetch rest) with
          | none =>
              rw [hRest, Delivery.earlier?] at h
              cases h
              refine ⟨[], name, rest, rfl, rfl, .head hOutcome ?_⟩
              rw [hRest]
              intro _ hSome
              cases hSome
          | some g =>
              rw [hRest, Delivery.earlier?] at h
              split at h
              · next hLe =>
                cases h
                refine ⟨[], name, rest, rfl, rfl, .head hOutcome ?_⟩
                rw [hRest]
                rintro _ ⟨⟩
                exact hLe
              · next hLe =>
                cases h
                obtain ⟨before, failing, after, rfl, hRounds, hFirst⟩ := ih hRest
                refine ⟨name :: before, failing, after, rfl, hRounds, hFirst.cons fun _ => ?_⟩
                simp only at hLe
                omega

/-- A level that fails does so with the missing name that fails first. -/
theorem failsFirst_of_fetchLevel {names : List String} {e : ε}
    (h : fetchLevel fetch names = .error e) :
    ∃ before failing after, names = before ++ failing :: after ∧
      FailsFirst fetch before failing after e := by
  obtain ⟨rounds, hFirst⟩ := Delivery.firstFailure_of_awaitAll h
  obtain ⟨before, failing, after, hNames, _, hFails⟩ := exists_failsFirst hFirst
  exact ⟨before, failing, after, hNames, hFails⟩

/-- A level of fetches that are complete at once comes in the first round. -/
theorem fetchLevel_of_ready {names : List String} {source : String → String}
    (hReady : ∀ name ∈ names, fetch name = ⟨0, .ok (source name)⟩) :
    fetchLevel fetch names = .ok (names.map fun name => ⟨name, source name⟩) := by
  have hPoll : Delivery.pollAll (names.map fun name => .underway name (fetch name)) =
      .ok (names.map fun name => .complete ⟨name, source name⟩) := by
    induction names with
    | nil => rfl
    | cons name rest ih =>
        have hRest := ih fun other hOther => hReady other (List.mem_cons_of_mem name hOther)
        rw [List.map_cons, Delivery.pollAll, hReady name List.mem_cons_self, hRest]
        rfl
  have hThere : Delivery.partials?
      (names.map fun name => (.complete ⟨name, source name⟩ : Delivery ε)) =
        some (names.map fun name => ⟨name, source name⟩) := by
    clear hPoll hReady
    induction names with
    | nil => rfl
    | cons name rest ih =>
        rw [List.map_cons, Delivery.partials?, ih]
        rfl
  cases names with
  | nil =>
      rw [fetchLevel, List.map_nil, Delivery.awaitAll]
      rfl
  | cons name rest =>
      have hMissing : Delivery.partials?
          ((name :: rest).map fun name => .underway name (fetch name)) = none := rfl
      rw [fetchLevel, Delivery.awaitAll, hMissing, hPoll]
      dsimp only
      rw [Delivery.awaitAll, hThere]

/-- A level that comes has a source for each of its names. -/
theorem map_source_of_fetchLevel {names : List String} {level : List Partial}
    (h : fetchLevel fetch names = .ok level) :
    names.map (fun name => (fetch name).outcome.toOption.map (Partial.mk name)) =
      level.map some := by
  have hNames := congrArg (List.map Except.toOption) (map_name_of_fetchLevel h)
  rw [List.map_map, List.map_map] at hNames
  refine Eq.trans (List.map_congr_left fun name _ => ?_) hNames
  rw [Function.comp_apply]
  cases (fetch name).outcome with
  | error e => rfl
  | ok source => rfl

/-- A level that comes does so from every store that has its sources, in whatever rounds. -/
theorem fetchLevel_of_sources {δ : Type} {other : String → Fetch δ} {names : List String}
    {level : List Partial}
    (hSame : ∀ name ∈ names, (other name).outcome.toOption = (fetch name).outcome.toOption)
    (h : fetchLevel fetch names = .ok level) : fetchLevel other names = .ok level := by
  have hSources : names.map (fun name => (other name).outcome.toOption.map (Partial.mk name)) =
      level.map some := by
    rw [← map_source_of_fetchLevel h]
    exact List.map_congr_left fun name hName => by rw [hSame name hName]
  cases hLevel : fetchLevel other names with
  | ok level' =>
      rw [map_source_of_fetchLevel hLevel] at hSources
      rw [(List.map_inj_right fun _ _ => Option.some.inj).mp hSources]
  | error e =>
      obtain ⟨before, failing, after, rfl, hFirst⟩ := failsFirst_of_fetchLevel hLevel
      have hMem : (other failing).outcome.toOption.map (Partial.mk failing) ∈ level.map some := by
        rw [← hSources]
        exact List.mem_map_of_mem (List.mem_append_right _ List.mem_cons_self)
      rw [hFirst.outcome] at hMem
      simp [Except.toOption] at hMem

end Resolution
end TemplateBundle
