import TemplateBundle.Proofs.Resolution.Search

/-! The search for partials against a plain queue. The search takes whole levels; a queue takes one
name at a time and puts what its source includes at the end of the line. Main statement: both meet
the partials in the same order, so that the partials found come with those that are farthest from
the text first. -/
namespace TemplateBundle.Resolution

variable {ε : Type} {root : String} {fetch : String → Fetch ε}

/-- A search that takes one name at a time. -/
structure Queue where
  /-- All names that were ever put in line -/
  seen : List String
  /-- The names in line, the next one first -/
  waiting : List String
  /-- The partials that were taken, in order -/
  visited : List Partial

namespace Queue

/-- Puts a name in line, unless it was seen. -/
def enqueue (q : Queue) (name : String) : Queue :=
  if q.seen.contains name then q
  else { q with seen := q.seen ++ [name], waiting := q.waiting ++ [name] }

/-- Puts what a text includes in line, one name after another. -/
def scan (q : Queue) (text : String) : Queue := (Discovery.references text).foldl enqueue q

/-- Takes names off the line until none is left, at most so many; or nothing if there are more. -/
def drain (fetch : String → Fetch ε) : Nat → Queue → Option (Except ε (List Partial))
  | _, ⟨_, [], visited⟩ => some (.ok visited)
  | 0, ⟨_, _ :: _, _⟩ => none
  | visits + 1, ⟨seen, name :: rest, visited⟩ =>
    match (fetch name).outcome with
    | .error e => some (.error e)
    | .ok source =>
      let next : Queue := ⟨seen, rest, visited ++ [⟨name, source⟩]⟩
      drain fetch visits (next.scan source)

/-- The partials that `root` includes in the order in which a queue takes them. -/
def visit? (root : String) (fetch : String → Fetch ε) (visits : Nat) :
    Option (Except ε (List Partial)) :=
  let start : Queue := ⟨[], [], []⟩
  drain fetch visits (start.scan root)

theorem drain_nil (visits : Nat) (seen : List String) (visited : List Partial) :
    drain fetch visits ⟨seen, [], visited⟩ = some (.ok visited) := by
  cases visits with
  | zero => rfl
  | succ visits => rfl

theorem drain_cons {name source : String} (h : (fetch name).outcome = .ok source) (visits : Nat)
    (seen rest : List String) (visited : List Partial) :
    drain fetch (visits + 1) ⟨seen, name :: rest, visited⟩ =
      drain fetch visits (scan ⟨seen, rest, visited ++ [⟨name, source⟩]⟩ source) := by
  rw [drain, h]

end Queue

/-- Those of the names that were not seen before, each once, in order. -/
def unseen (seen names : List String) : List String :=
  (Discovery.firstOccurrences names).filter fun name => !seen.contains name

theorem unseen_cons_of_mem {seen : List String} {name : String} (h : name ∈ seen)
    (names : List String) : unseen seen (name :: names) = unseen seen names := by
  have hNone : ∀ other ∈ [name], other ∈ seen := by simpa using h
  exact Discovery.filter_firstOccurrences_append hNone names

theorem unseen_cons_of_not_mem {seen : List String} {name : String} (h : name ∉ seen)
    (names : List String) :
    unseen seen (name :: names) = name :: unseen (seen ++ [name]) names := by
  have hRest : ((Discovery.firstOccurrences names).filter (· ≠ name)).filter
      (fun other => !seen.contains other) = unseen (seen ++ [name]) names := by
    rw [List.filter_filter, unseen]
    apply List.filter_congr
    intro other _
    simp
  rw [unseen, Discovery.firstOccurrences, List.filter_cons_of_pos (by simpa using h), hRest]

/-- A queue is left with the names that it has not seen at its end. -/
theorem Queue.foldl_enqueue (names : List String) (q : Queue) :
    names.foldl enqueue q = { q with
      seen := q.seen ++ unseen q.seen names
      waiting := q.waiting ++ unseen q.seen names } := by
  induction names generalizing q with
  | nil => simp [unseen, Discovery.firstOccurrences]
  | cons name names ih =>
      rw [List.foldl_cons, ih]
      by_cases hSeen : name ∈ q.seen
      · have hSame : q.enqueue name = q := if_pos (by simpa using hSeen)
        rw [hSame, unseen_cons_of_mem hSeen]
      · have hMore : q.enqueue name =
            { q with seen := q.seen ++ [name], waiting := q.waiting ++ [name] } :=
          if_neg (by simpa using hSeen)
        rw [hMore, unseen_cons_of_not_mem hSeen]
        simp only [List.append_assoc, List.singleton_append]

theorem unseen_append (seen first second : List String) :
    unseen seen (first ++ second) =
      unseen seen first ++ unseen (seen ++ unseen seen first) second := by
  induction first generalizing seen with
  | nil => simp [unseen, Discovery.firstOccurrences]
  | cons name first ih =>
      rw [List.cons_append]
      by_cases hSeen : name ∈ seen
      · rw [unseen_cons_of_mem hSeen, unseen_cons_of_mem hSeen, ih]
      · rw [unseen_cons_of_not_mem hSeen, unseen_cons_of_not_mem hSeen, ih]
        simp only [List.cons_append, List.append_assoc, List.nil_append]

theorem Queue.scan_eq (q : Queue) (text : String) :
    q.scan text = { q with
      seen := q.seen ++ unseen q.seen (Discovery.references text)
      waiting := q.waiting ++ unseen q.seen (Discovery.references text) } :=
  foldl_enqueue _ q

/-- Once all names of a level are taken, those that its sources add are at the end of the line. -/
theorem Queue.drain_level {names : List String} {level : List Partial}
    (h : names.map (fun name => (fetch name).outcome.map (Partial.mk name)) = level.map .ok)
    (visits : Nat) (seen rest : List String) (visited : List Partial) :
    let new := unseen seen (level.flatMap fun p => Discovery.references p.source)
    drain fetch (visits + names.length) ⟨seen, names ++ rest, visited⟩ =
      drain fetch visits ⟨seen ++ new, rest ++ new, visited ++ level⟩ := by
  induction names generalizing level seen rest visited with
  | nil =>
      obtain rfl : level = [] := List.map_eq_nil_iff.mp h.symm
      simp [unseen, Discovery.firstOccurrences]
  | cons name names ih =>
      cases level with
      | nil => cases h
      | cons p level =>
          rw [List.map_cons, List.map_cons, List.cons.injEq] at h
          obtain ⟨source, hSource, rfl⟩ := Outcome.map_eq_ok.mp h.1
          -- What the first source adds goes behind the rest of the level and counts as seen there.
          rw [List.length_cons, ← Nat.add_assoc, List.cons_append, drain_cons hSource, scan_eq]
          dsimp only
          rw [List.append_assoc, ih h.2, List.flatMap_cons, unseen_append]
          simp only [List.append_assoc, List.singleton_append]

theorem length_of_level {names : List String} {level : List Partial}
    (h : names.map (fun name => (fetch name).outcome.map (Partial.mk name)) = level.map .ok) :
    level.length = names.length := by
  have hLength := congrArg List.length h
  rw [List.length_map, List.length_map] at hLength
  exact hLength.symm

/-- A search only adds to what it has found. -/
theorem Searches.suffix {done pending : List String} {found partials : List Partial}
    {course : Resolution ε} (h : Searches fetch done pending found course)
    (hFound : course.outcome = .ok partials) : found <:+ partials := by
  induction h with
  | complete done found =>
      cases hFound
      exact List.suffix_rfl
  | failed done found hPending hLevel => cases hFound
  | level hPending hLevel _ ih => exact (List.suffix_append _ _).trans (ih hFound)

/-- A queue that is where a search is before a level goes on to the same partials. It takes as many
names as there are partials to come. -/
theorem Searches.drain_eq {done pending : List String} {found partials : List Partial}
    {course : Resolution ε} (h : Searches fetch done pending found course)
    (hFound : course.outcome = .ok partials) {visits : Nat}
    (hVisits : partials.length ≤ visits + found.length) :
    Queue.drain fetch visits ⟨done ++ pending, pending, found.reverse⟩ =
      some (.ok partials.reverse) := by
  induction h generalizing visits with
  | complete done found =>
      cases hFound
      exact Queue.drain_nil ..
  | failed done found hPending hLevel => cases hFound
  | @level done pending found level course hPending hLevel later ih =>
      have hNames := map_name_of_fetchLevel hLevel
      have hLength := length_of_level hNames
      have hMore := (later.suffix hFound).length_le
      rw [List.length_append, List.length_reverse] at hMore
      -- The queue takes this level name by name, and has then just the next level in line.
      obtain ⟨rest, rfl⟩ : ∃ rest, visits = rest + pending.length :=
        ⟨visits - pending.length, by omega⟩
      have hStep := Queue.drain_level hNames rest (done ++ pending) [] found.reverse
      rw [List.append_nil] at hStep
      rw [hStep]
      have hRest : partials.length ≤ rest + (level.reverse ++ found).length := by
        rw [List.length_append, List.length_reverse]
        omega
      have hNext := ih hFound hRest
      rwa [List.reverse_append, List.reverse_reverse] at hNext

/-- The levels of names that were discovered later are not nearer. -/
theorem discovered_pairwise (root : String) (fetch : String → Fetch ε) (depth : Nat) :
    (discovered root fetch depth).Pairwise fun a b =>
      ∀ d e, AtLevel root fetch d a → AtLevel root fetch e b → d ≤ e := by
  induction depth with
  | zero =>
      refine List.pairwise_of_forall_mem_list fun a ha b _ d e hd _ => ?_
      by_contra hLess
      exact hd.2 0 (by omega) (.direct ha)
  | succ depth ih =>
      have hNew : ∀ name ∈ unseen (discovered root fetch depth)
          ((discovered root fetch depth).flatMap (included fetch)), ∀ d,
            AtLevel root fetch d name → d = depth + 1 := by
        intro name hName d hLevel
        obtain ⟨hMem, hUnseen⟩ := List.mem_filter.mp hName
        have hAll : name ∈ discovered root fetch (depth + 1) := by
          rw [discovered, Discovery.mem_firstOccurrences, List.mem_append]
          exact .inr (Discovery.mem_firstOccurrences.mp hMem)
        obtain ⟨e, he, hChain⟩ := mem_discovered.mp hAll
        have hNotLater : d ≤ e := by
          by_contra hLess
          exact hLevel.2 e (by omega) hChain
        have hNotNearer : ¬ d ≤ depth := by
          intro hNear
          have hOld := mem_discovered.mpr ⟨d, hNear, hLevel.1⟩
          simp [hOld] at hUnseen
        omega
      rw [discovered, Discovery.firstOccurrences_append,
        Discovery.firstOccurrences_eq_self (discovered_nodup root fetch depth),
        List.pairwise_append]
      refine ⟨ih, List.pairwise_of_forall_mem_list ?_, ?_⟩
      · intro a ha b hb d e hd he
        rw [hNew a ha d hd, hNew b hb e he]
      · intro a ha b hb d e hd he
        obtain ⟨near, hNear, hChain⟩ := mem_discovered.mp ha
        rw [hNew b hb e he]
        by_contra hLess
        exact hd.2 near (by omega) hChain

theorem AtLevel.unique {d e : Nat} {name : String} (hd : AtLevel root fetch d name)
    (he : AtLevel root fetch e name) : d = e := by
  rcases Nat.lt_trichotomy d e with hLess | hSame | hLess
  · exact absurd hd.1 (he.2 d hLess)
  · exact hSame
  · exact absurd he.1 (hd.2 e hLess)

/-- Of two members of a list one comes before the other. -/
theorem sublist_or_sublist {α : Type} {xs : List α} {a b : α} (ha : a ∈ xs) (hb : b ∈ xs)
    (hNe : a ≠ b) : [a, b].Sublist xs ∨ [b, a].Sublist xs := by
  obtain ⟨before, after, rfl⟩ := List.append_of_mem ha
  rcases List.mem_append.mp hb with hBefore | hAfter
  · right
    exact (List.singleton_sublist.mpr hBefore).append
      (List.singleton_sublist.mpr List.mem_cons_self)
  · left
    have hLater : b ∈ after := (List.mem_cons.mp hAfter).resolve_left (Ne.symm hNe)
    exact ((List.singleton_sublist.mpr hLater).cons_cons a).trans (List.sublist_append_right _ _)

section Found

variable {course : Resolution ε} {partials : List Partial}

theorem EndsAt.exists_atLevel (h : EndsAt root fetch course)
    (hFound : course.outcome = .ok partials) {p : Partial} (hp : p ∈ partials) :
    ∃ d, AtLevel root fetch d p.name := by
  obtain ⟨-, hMem, -⟩ := h.of_ok hFound
  obtain ⟨depth, hChain⟩ := reachable_iff_chain.mp ((hMem p).mp hp).1
  obtain ⟨d, -, hLevel⟩ := exists_atLevel_of_chain hChain
  exact ⟨d, hLevel⟩

/-- Partials that are found come with the farthest first. -/
theorem EndsAt.pairwise_of_ok (h : EndsAt root fetch course)
    (hFound : course.outcome = .ok partials) :
    partials.Pairwise fun p q =>
      ∀ d e, AtLevel root fetch d p.name → AtLevel root fetch e q.name → e ≤ d := by
  cases h with
  | @complete depth done found stage =>
      cases hFound
      have hNames : partials.map Partial.name = (discovered root fetch depth).reverse := by
        rw [stage.map_name_found, ← stage.names, List.append_nil]
      have hOrder := List.pairwise_reverse.mpr
        ((discovered_pairwise root fetch depth).imp fun hLe d e hd he => hLe e d he hd)
      rwa [← hNames, List.pairwise_map] at hOrder
  | failed stage hLevel => cases hFound

/-- A partial that is one level deeper than one that includes it comes before that one. -/
theorem EndsAt.sublist_of_deeper (h : EndsAt root fetch course)
    (hFound : course.outcome = .ok partials) {p : Partial} (hp : p ∈ partials) {name : String}
    {d : Nat} (hLevel : AtLevel root fetch d p.name) (hDeeper : AtLevel root fetch (d + 1) name) :
    ∃ q, q.name = name ∧ [q, p].Sublist partials := by
  obtain ⟨q, hq, rfl⟩ := h.exists_partial hFound (reachable_iff_chain.mpr ⟨_, hDeeper.1⟩)
  have hNe : q ≠ p := by
    rintro rfl
    have hSame := hLevel.unique hDeeper
    omega
  rcases sublist_or_sublist hq hp hNe with hBefore | hAfter
  · exact ⟨q, rfl, hBefore⟩
  · have hLe := List.pairwise_iff_forall_sublist.mp (h.pairwise_of_ok hFound) hAfter d (d + 1)
      hLevel hDeeper
    omega

end Found

/-- A search that succeeds finds the partials in the reverse of the order in which a plain queue
takes them, which takes each once. So their levels never rise from one to the next, and of two
partials on neighbouring levels the one that is included comes before the one that includes it. If
every inclusion leads to the next level, each partial comes after all that it includes. -/
theorem visit?_of_run? {levels : Nat} {course : Resolution ε} {partials : List Partial}
    (hRun : run? root fetch levels = some course) (hFound : course.outcome = .ok partials) :
    (∀ store : PartialStore ε, store.fetch = fetch → resolve root store = course) ∧
      (∀ visits ≥ partials.length, Queue.visit? root fetch visits = some (.ok partials.reverse)) ∧
      (∀ p ∈ partials, ∃ d, AtLevel root fetch d p.name) ∧
      (partials.Pairwise fun p q =>
        ∀ d e, AtLevel root fetch d p.name → AtLevel root fetch e q.name → e ≤ d) ∧
      (∀ p ∈ partials, ∀ name ∈ Discovery.references p.source, ∀ d,
        AtLevel root fetch d p.name → AtLevel root fetch (d + 1) name →
          ∃ q, q.name = name ∧ [q, p].Sublist partials) ∧
      ((∀ p ∈ partials, ∀ name ∈ Discovery.references p.source, ∀ d,
          AtLevel root fetch d p.name → AtLevel root fetch (d + 1) name) →
        ∀ p ∈ partials, ∀ name ∈ Discovery.references p.source,
          ∃ q, q.name = name ∧ [q, p].Sublist partials) := by
  have hSearches := searches_of_search hRun
  have hEnds := hSearches.endsAt (.initial root fetch)
  refine ⟨?_, fun visits hVisits => ?_, fun p hp => hEnds.exists_atLevel hFound hp,
    hEnds.pairwise_of_ok hFound, fun p hp name _ d hLevel hDeeper =>
      hEnds.sublist_of_deeper hFound hp hLevel hDeeper, fun hAll p hp name hName => ?_⟩
  · rintro store rfl
    exact resolve_eq_of_run? hRun
  · have hStart : (⟨[], [], []⟩ : Queue).scan root =
        ⟨Discovery.references root, Discovery.references root, []⟩ := by
      rw [Queue.scan_eq]
      simp [unseen, Discovery.firstOccurrences_eq_self (Discovery.references_nodup root)]
    rw [Queue.visit?, hStart]
    exact hSearches.drain_eq hFound hVisits
  · obtain ⟨d, hLevel⟩ := hEnds.exists_atLevel hFound hp
    exact hEnds.sublist_of_deeper hFound hp hLevel (hAll p hp name hName d hLevel)

/-- Two partials of a text that share one of those that they include. -/
def crossing : List (String × String) :=
  [("a", "\x7b\x7b> c\x7d\x7d"), ("b", "\x7b\x7b> c\x7d\x7d\x7b\x7b> d\x7d\x7d"),
    ("c", ""), ("d", "")]

theorem visit?_of_run?_crossing :
    let root := "\x7b\x7b> a\x7d\x7d\x7b\x7b> b\x7d\x7d"
    let store : PartialStore String := .ofSources crossing (fun _ => 0) fun name => name
    let partials := (crossing.map fun (name, source) => Partial.mk name source).reverse
    run? root store.fetch 2 = some ⟨["a", "b", "c", "d"], .ok partials⟩ ∧
      (∀ p ∈ partials, ∀ name ∈ Discovery.references p.source, ∀ d,
        AtLevel root store.fetch d p.name → AtLevel root store.fetch (d + 1) name) ∧
      Queue.visit? root store.fetch 4 = some (.ok partials.reverse) ∧
      ∀ p ∈ partials, ∀ name ∈ Discovery.references p.source,
        ∃ q, q.name = name ∧ [q, p].Sublist partials := by
  intro root store partials
  have hRoot : Discovery.references root = ["a", "b"] := by decide +kernel
  have hReady : ∀ name ∈ ["a", "b", "c", "d"],
      store.fetch name = ⟨0, .ok ((crossing.lookup name).getD "")⟩ := by
    intro name hName
    simp only [List.mem_cons, List.not_mem_nil, or_false] at hName
    rcases hName with rfl | rfl | rfl | rfl <;> rfl
  have hFirst : fetchLevel store.fetch ["a", "b"] = .ok _ :=
    fetchLevel_of_ready fun name hName => hReady name (List.mem_append_left ["c", "d"] hName)
  have hSecond : fetchLevel store.fetch ["c", "d"] = .ok _ :=
    fetchLevel_of_ready fun name hName => hReady name (List.mem_append_right ["a", "b"] hName)
  have hNext : nextLevel ["a", "b"] (["a", "b"].map fun name =>
      ⟨name, (crossing.lookup name).getD ""⟩) = ["c", "d"] := by decide +kernel
  have hLast : nextLevel ["a", "b", "c", "d"] (["c", "d"].map fun name =>
      ⟨name, (crossing.lookup name).getD ""⟩) = [] := by decide +kernel
  have hRun : run? root store.fetch 2 = some ⟨["a", "b", "c", "d"], .ok partials⟩ := by
    rw [run?, hRoot, search_of_level hFirst _ _ _ (List.cons_ne_nil _ _), List.nil_append, hNext,
      search_of_level hSecond _ _ _ (List.cons_ne_nil _ _), List.cons_append, List.cons_append,
      List.nil_append, hLast, search_nil]
    rfl
  have hDeeper : ∀ p ∈ partials, ∀ name ∈ Discovery.references p.source, ∀ d,
      AtLevel root store.fetch d p.name → AtLevel root store.fetch (d + 1) name := by
    intro p hp name hName d hLevel
    have hPlaces : ∀ p ∈ partials, ∀ name ∈ Discovery.references p.source,
        p.name ∈ ["a", "b"] ∧ name ∉ ["a", "b"] := by decide +kernel
    have hSources : ∀ p ∈ partials, (store.fetch p.name).outcome = .ok p.source := by
      decide +kernel
    obtain ⟨hNear, hFar⟩ := hPlaces p hp name hName
    rw [← hRoot] at hNear hFar
    have hChain : Chain root store.fetch 1 name :=
      .through (.direct hNear) (mem_included.mpr ⟨_, hSources p hp, hName⟩)
    obtain rfl : d = 0 := by
      by_contra hNe
      exact hLevel.2 0 (by omega) (.direct hNear)
    refine ⟨hChain, fun less hLess hNearer => ?_⟩
    obtain rfl : less = 0 := by omega
    cases hNearer with
    | direct h => exact hFar h
  obtain ⟨-, hVisit, -, -, -, hBefore⟩ := visit?_of_run? hRun rfl
  exact ⟨hRun, hDeeper, hVisit 4 (Nat.le_refl _), hBefore hDeeper⟩

end TemplateBundle.Resolution
