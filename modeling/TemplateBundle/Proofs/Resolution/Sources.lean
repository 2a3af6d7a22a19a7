import TemplateBundle.Proofs.Resolution.Delays

/-! Stores that hold the same sources under the names that searches in them come to. What is missing in
one is missing in the other, perhaps for another reason, and so the searches find the same or both
fail. -/
namespace TemplateBundle

namespace Outcome

variable {ε δ α β : Type} {R : α → β → Prop}

/-- Both fail, or both succeed with related results. They may fail for different reasons. -/
inductive Together (R : α → β → Prop) : Except ε α → Except δ β → Prop where
  | ok {a : α} {b : β} (h : R a b) : Together R (.ok a) (.ok b)
  | error (e : ε) (e' : δ) : Together R (.error e) (.error e')

namespace Together

theorem refl {R : α → α → Prop} (h : ∀ a, R a a) (x : Except ε α) : Together R x x := by
  cases x with
  | error e => exact .error e e
  | ok a => exact .ok (h a)

theorem toOption_eq {x : Except ε α} {y : Except δ α} (h : Together (· = ·) x y) :
    y.toOption = x.toOption := by
  cases h with
  | ok h => exact congrArg some h.symm
  | error e e' => rfl

end Together
end Outcome

open Outcome (Together)

namespace Discovery

theorem ne_nil_of_name? {s name rest : List Char} (h : name? s = some (name, rest)) :
    name ≠ [] := by
  cases s with
  | nil => cases h
  | cons c cs =>
      rw [name?] at h
      split at h
      · cases h
        exact List.cons_ne_nil _ _
      · cases h

theorem ne_nil_of_marker? {s name rest : List Char} (h : marker? s = some (name, rest)) :
    name ≠ [] := by
  unfold marker? at h
  split at h
  · split at h
    · exact ne_nil_of_name? h
    · cases h
  · cases h

theorem ne_nil_of_mem_markerNames {escaped : Bool} {s name : List Char}
    (h : name ∈ markerNames escaped s) : name ≠ [] := by
  induction escaped, s using markerNames.induct with
  | case1 escaped =>
      rw [markerNames] at h
      cases h
  | case2 escaped c cs found rest hMarker ih =>
      rw [markerNames] at h
      split at h
      · next other behind hOther =>
        have hSame : some (found, rest) = some (other, behind) := hMarker.symm.trans hOther
        cases hSame
        rcases List.mem_cons.mp h with rfl | hLater
        · exact ne_nil_of_marker? (Option.ite_none_left_eq_some.mp hOther).2
        · exact ih hLater
      · next hNone =>
        have hBoth : some (found, rest) = none := hMarker.symm.trans hNone
        cases hBoth
  | case3 escaped c cs hNone ih =>
      rw [markerNames] at h
      split at h
      · next other behind hOther =>
        have hBoth : none = some (other, behind) := hNone.symm.trans hOther
        cases hBoth
      · exact ih h

/-- Every name has a character at least. -/
theorem ne_empty_of_mem_references {text name : String} (h : name ∈ references text) :
    name ≠ "" := by
  rw [references, mem_firstOccurrences] at h
  obtain ⟨chars, hChars, rfl⟩ := List.mem_map.mp h
  intro hEmpty
  exact ne_nil_of_mem_markerNames hChars (by simpa using hEmpty)

end Discovery

namespace Resolution

variable {ε δ : Type} {root : String} {fetch : String → Fetch ε} {other : String → Fetch δ}

theorem Reachable.ne_empty {name : String} (h : Reachable root fetch name) : name ≠ "" := by
  cases h with
  | direct h => exact Discovery.ne_empty_of_mem_references h
  | through prior hSource last => exact Discovery.ne_empty_of_mem_references last

/-- A text that refers to nothing reaches nothing. -/
theorem not_reachable {name : String} (h : Discovery.references root = []) :
    ¬ Reachable root fetch name := by
  intro hName
  induction hName with
  | direct hRefers => simp [h] at hRefers
  | through _ _ _ ih => exact ih

/-- Under the names that can be reached in both the stores hold the same. -/
def SameSources (root : String) (fetch : String → Fetch ε) (other : String → Fetch δ) : Prop :=
  ∀ name, Reachable root fetch name → Reachable root other name →
    (other name).outcome.toOption = (fetch name).outcome.toOption

theorem SameSources.reachable (h : SameSources root fetch other) {name : String}
    (hName : Reachable root fetch name) : Reachable root other name := by
  induction hName with
  | direct hRefers => exact .direct hRefers
  | @through p name source prior hSource last ih =>
      have hSame := h p prior ih
      rw [hSource] at hSame
      cases hOther : (other p).outcome with
      | error e =>
          rw [hOther] at hSame
          cases hSame
      | ok same =>
          rw [hOther] at hSame
          obtain rfl : same = source := Option.some.inj hSame
          exact .through ih hOther last

/-- What a level includes can be reached if the level can. -/
theorem reachable_nextLevel {done pending : List String} {level : List Partial}
    (hPending : ∀ name ∈ pending, Reachable root fetch name)
    (hLevel : fetchLevel fetch pending = .ok level) :
    ∀ name ∈ nextLevel done level, Reachable root fetch name := by
  intro name hName
  obtain ⟨⟨p, hp, hRefers⟩, -⟩ := mem_nextLevel.mp hName
  obtain ⟨hAsked, hSource⟩ := outcome_of_mem_level hLevel hp
  exact .through (hPending _ hAsked) hSource hRefers

theorem Searches.together (hSame : SameSources root fetch other) {done pending : List String}
    {found : List Partial} {course : Resolution ε}
    (hReachable : ∀ name ∈ pending, Reachable root fetch name)
    (h : Searches fetch done pending found course) :
    ∃ course', Searches other done pending found course' ∧
      Together (· = ·) course.outcome course'.outcome := by
  have hSources {name : String} (hName : Reachable root fetch name) :=
    hSame name hName (hSame.reachable hName)
  induction h with
  | complete done found => exact ⟨_, .complete done found, .ok rfl⟩
  | @failed done pending found e hPending hLevel =>
      cases hOther : fetchLevel other pending with
      | error e' => exact ⟨_, .failed done found hPending hOther, .error e e'⟩
      | ok level =>
          have hBoth := fetchLevel_of_sources
            (fun name hName => (hSources (hReachable name hName)).symm) hOther
          rw [hLevel] at hBoth
          cases hBoth
  | level hPending hLevel _ ih =>
      have hOther := fetchLevel_of_sources (fun name hName => hSources (hReachable name hName)) hLevel
      obtain ⟨course', hLater, hTogether⟩ := ih (reachable_nextLevel hReachable hLevel)
      exact ⟨course', .level hPending hOther hLater, hTogether⟩

/-- A search that finds the same under every name that it comes to takes the same course. -/
theorem Searches.congr {other : String → Fetch ε}
    (hSame : ∀ name, Reachable root fetch name → other name = fetch name)
    {done pending : List String} {found : List Partial} {course : Resolution ε}
    (hReachable : ∀ name ∈ pending, Reachable root fetch name)
    (h : Searches fetch done pending found course) : Searches other done pending found course := by
  have hLevels {names : List String} (hNames : ∀ name ∈ names, Reachable root fetch name) :
      fetchLevel other names = fetchLevel fetch names := by
    unfold fetchLevel
    congr 1
    exact List.map_congr_left fun name hName => by rw [hSame name (hNames name hName)]
  induction h with
  | complete done found => exact .complete done found
  | failed done found hPending hLevel =>
      exact .failed done found hPending ((hLevels hReachable).trans hLevel)
  | level hPending hLevel _ ih =>
      exact .level hPending ((hLevels hReachable).trans hLevel)
        (ih (reachable_nextLevel hReachable hLevel))

end Resolution

/-- What a text includes depends on nothing that it does not reach. -/
theorem resolve_congr {ε : Type} {root : String} {store other : PartialStore ε}
    (h : ∀ name, Resolution.Reachable root store.fetch name →
      other.fetch name = store.fetch name) :
    resolve root other = resolve root store := by
  have hCourse := Resolution.resolve_eq_iff_searches.mp (Eq.refl (resolve root store))
  exact Resolution.resolve_eq_iff_searches.mpr (hCourse.congr h fun name hName => .direct hName)

/-- Searches in stores of the same sources find the same partials, or both fail. -/
theorem together_resolve {ε δ : Type} {root : String} {store : PartialStore ε}
    {other : PartialStore δ} (h : Resolution.SameSources root store.fetch other.fetch) :
    Together (· = ·) (resolve root store).outcome (resolve root other).outcome := by
  have hCourse := Resolution.resolve_eq_iff_searches.mp (Eq.refl (resolve root store))
  obtain ⟨course, hOther, hTogether⟩ := hCourse.together h fun name hName => .direct hName
  rwa [Resolution.resolve_eq_iff_searches.mpr hOther]

end TemplateBundle
