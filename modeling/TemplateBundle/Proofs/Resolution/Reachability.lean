import TemplateBundle.Resolution

/-! What a text includes, directly or through other partials, and how far away it is. The names
within a distance have an order, that of their discovery, which says nothing about how they are
searched for. -/
namespace TemplateBundle

namespace Discovery

theorem firstOccurrences_nodup (names : List String) : (firstOccurrences names).Nodup := by
  induction names with
  | nil => exact List.nodup_nil
  | cons a rest ih =>
      rw [firstOccurrences, List.nodup_cons]
      exact ⟨by simp, ih.filter _⟩

theorem references_nodup (text : String) : (references text).Nodup := firstOccurrences_nodup _

theorem firstOccurrences_eq_self {names : List String} (h : names.Nodup) :
    firstOccurrences names = names := by
  induction names with
  | nil => rfl
  | cons a rest ih =>
      rw [List.nodup_cons] at h
      have hRest : rest.filter (· ≠ a) = rest := by
        rw [List.filter_eq_self]
        intro name hName
        simp only [decide_eq_true_eq]
        rintro rfl
        exact h.1 hName
      rw [firstOccurrences, ih h.2, hRest]

theorem firstOccurrences_append (xs ys : List String) :
    firstOccurrences (xs ++ ys) =
      firstOccurrences xs ++ (firstOccurrences ys).filter fun name => !xs.contains name := by
  induction xs with
  | nil =>
      rw [List.nil_append, firstOccurrences, List.nil_append, List.filter_eq_self.mpr]
      simp
  | cons a rest ih =>
      rw [List.cons_append, firstOccurrences, firstOccurrences, ih, List.filter_append,
        List.filter_filter, List.cons_append]
      congr 2
      apply List.filter_congr
      intro name _
      simp

/-- Names that are known anyway do not matter for which of them are new. -/
theorem filter_firstOccurrences_append {xs known : List String}
    (hKnown : ∀ name ∈ xs, name ∈ known) (ys : List String) :
    (firstOccurrences (xs ++ ys)).filter (fun name => !known.contains name) =
      (firstOccurrences ys).filter fun name => !known.contains name := by
  have hNone : (firstOccurrences xs).filter (fun name => !known.contains name) = [] := by
    rw [List.filter_eq_nil_iff]
    intro name hName
    simpa using hKnown name (mem_firstOccurrences.mp hName)
  rw [firstOccurrences_append, List.filter_append, hNone, List.nil_append, List.filter_filter]
  apply List.filter_congr
  intro name _
  by_cases hName : name ∈ known
  · simp [hName]
  · have hOther : name ∉ xs := fun h => hName (hKnown name h)
    simp [hName, hOther]

end Discovery

namespace Resolution

variable {ε : Type} {root : String} {fetch : String → Fetch ε}

/-- What the source of a partial includes. A partial without a source includes nothing. -/
def included (fetch : String → Fetch ε) (name : String) : List String :=
  match (fetch name).outcome with
  | .ok source => Discovery.references source
  | .error _ => []

/-- The text includes the partial, or the source of a partial that is reachable does. -/
inductive Reachable (root : String) (fetch : String → Fetch ε) : String → Prop where
  | direct {name : String} (h : name ∈ Discovery.references root) : Reachable root fetch name
  | through {p name source : String} (prior : Reachable root fetch p)
      (hSource : (fetch p).outcome = .ok source) (last : name ∈ Discovery.references source) :
      Reachable root fetch name

/-- A chain of inclusions from the text to the partial, with `depth` partials in between. -/
inductive Chain (root : String) (fetch : String → Fetch ε) : Nat → String → Prop where
  | direct {name : String} (h : name ∈ Discovery.references root) : Chain root fetch 0 name
  | through {depth : Nat} {p name : String} (prior : Chain root fetch depth p)
      (last : name ∈ included fetch p) : Chain root fetch (depth + 1) name

/-- The level of a partial is the depth of the shortest chain to it. -/
def AtLevel (root : String) (fetch : String → Fetch ε) (depth : Nat) (name : String) : Prop :=
  Chain root fetch depth name ∧ ∀ less < depth, ¬ Chain root fetch less name

/-- The partials up to a depth in the order of their discovery: those of the text, and then again
and again what the partials so far include. -/
def discovered (root : String) (fetch : String → Fetch ε) : Nat → List String
  | 0 => Discovery.references root
  | depth + 1 =>
    Discovery.firstOccurrences
      (discovered root fetch depth ++ (discovered root fetch depth).flatMap (included fetch))

theorem mem_included {p name : String} :
    name ∈ included fetch p ↔
      ∃ source, (fetch p).outcome = .ok source ∧ name ∈ Discovery.references source := by
  cases hOutcome : (fetch p).outcome with
  | error e => simp [included, hOutcome]
  | ok source => simp [included, hOutcome]

/-- A text that includes one partial, which includes nothing, reaches nothing else. -/
theorem Reachable.eq_of_only {only name : String} (hRoot : Discovery.references root = [only])
    (hNone : ∀ source, (fetch only).outcome = .ok source → Discovery.references source = [])
    (h : Reachable root fetch name) : name = only := by
  induction h with
  | direct hName =>
      rw [hRoot] at hName
      exact List.mem_singleton.mp hName
  | through _ hSource last ih =>
      subst ih
      rw [hNone _ hSource] at last
      cases last

theorem reachable_iff_chain {name : String} :
    Reachable root fetch name ↔ ∃ depth, Chain root fetch depth name := by
  constructor
  · intro h
    induction h with
    | direct h => exact ⟨0, .direct h⟩
    | through _ hSource last ih =>
        obtain ⟨depth, prior⟩ := ih
        exact ⟨depth + 1, .through prior (mem_included.mpr ⟨_, hSource, last⟩)⟩
  · rintro ⟨depth, h⟩
    induction h with
    | direct h => exact .direct h
    | through _ last ih =>
        obtain ⟨source, hSource, hName⟩ := mem_included.mp last
        exact .through ih hSource hName

/-- Every partial that can be reached has a level. -/
theorem exists_atLevel_of_chain {depth : Nat} {name : String} (h : Chain root fetch depth name) :
    ∃ level ≤ depth, AtLevel root fetch level name := by
  induction depth using Nat.strongRecOn with
  | ind depth ih =>
      by_cases hLess : ∃ less < depth, Chain root fetch less name
      · obtain ⟨less, hLess, hChain⟩ := hLess
        obtain ⟨level, hLevel, hAt⟩ := ih less hLess hChain
        exact ⟨level, by omega, hAt⟩
      · exact ⟨depth, Nat.le_refl _, h, fun less hlt hChain => hLess ⟨less, hlt, hChain⟩⟩

theorem discovered_nodup (root : String) (fetch : String → Fetch ε) (depth : Nat) :
    (discovered root fetch depth).Nodup := by
  cases depth with
  | zero => exact Discovery.references_nodup root
  | succ depth => exact Discovery.firstOccurrences_nodup _

theorem mem_discovered {depth : Nat} {name : String} :
    name ∈ discovered root fetch depth ↔ ∃ d ≤ depth, Chain root fetch d name := by
  induction depth generalizing name with
  | zero =>
      constructor
      · intro h
        exact ⟨0, Nat.le_refl _, .direct h⟩
      · rintro ⟨d, hd, hChain⟩
        cases hChain with
        | direct h => exact h
        | through _ _ => omega
  | succ depth ih =>
      rw [discovered, Discovery.mem_firstOccurrences, List.mem_append, List.mem_flatMap]
      constructor
      · rintro (h | ⟨p, hp, hName⟩)
        · obtain ⟨d, hd, hChain⟩ := ih.mp h
          exact ⟨d, by omega, hChain⟩
        · obtain ⟨d, hd, hChain⟩ := ih.mp hp
          exact ⟨d + 1, by omega, .through hChain hName⟩
      · rintro ⟨d, hd, hChain⟩
        cases hChain with
        | direct h => exact .inl (ih.mpr ⟨0, by omega, .direct h⟩)
        | through prior last => exact .inr ⟨_, ih.mpr ⟨_, by omega, prior⟩, last⟩

end Resolution
end TemplateBundle
