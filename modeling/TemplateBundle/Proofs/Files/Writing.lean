import Mathlib.Data.List.Basic
import TemplateBundle.Files.Write

/-! What writing does to a tree: the file at the path holds what was written, no other file changes,
and nothing that was there goes away. Many writes one after another leave at each path what the last
of those that lead there has put in place. -/
namespace TemplateBundle.FileTree

variable {tree later last : FileTree} {p q : Path} {place : Location}

theorem lookup_filter_ne {entries : List (Location × FileEntry)} {other : Location}
    (h : other ≠ place) :
    (entries.filter fun e => e.1 ≠ place).lookup other = entries.lookup other := by
  induction entries with
  | nil => rfl
  | cons e rest ih =>
      by_cases hPlace : e.1 = place
      · have hOther : (other == e.1) = false := beq_false_of_ne (hPlace ▸ h)
        rw [List.filter_cons_of_neg (by simp [hPlace]), ih, List.lookup_cons, hOther]
      · rw [List.filter_cons_of_pos (by simp [hPlace]), List.lookup_cons, List.lookup_cons, ih]

theorem get?_set (tree : FileTree) (hPlace : place ≠ []) (entry : FileEntry) (other : Location) :
    (tree.set place entry).get? other = if other = place then some entry else tree.get? other := by
  split
  · next hSame =>
    subst hSame
    simp [get?, set, hPlace]
  · next hNe =>
    have hOther : (other == place) = false := beq_false_of_ne hNe
    rw [get?, get?, set]
    dsimp only
    rw [List.lookup_cons, hOther, lookup_filter_ne hNe]

theorem descend_append (tree : FileTree) (place : Location) (front back : List (List Char)) :
    tree.descend place (front ++ back) =
      tree.descend place front >>= fun between => tree.descend between back := by
  induction front generalizing place with
  | nil => rfl
  | cons piece rest ih =>
      rw [List.cons_append, descend, descend]
      split
      · rfl
      · rfl
      split
      · exact ih place
      split
      · exact ih _
      dsimp only
      split
      · rfl
      · exact ih _

/-- Where a dot may be followed, there is a directory. -/
theorem descend_dot {parent : Location} (h : tree.descend place [['.']] = .ok parent) :
    parent = place ∧ tree.get? place = some .directory := by
  rw [descend] at h
  split at h
  · cases h
  · cases h
  · next hDirectory =>
    rw [if_pos rfl, descend] at h
    cases h
    exact ⟨rfl, hDirectory⟩

/-- What a path finds is what stands where its steps lead. -/
theorem find_eq_ok_iff {entry : FileEntry} :
    tree.find p = .ok (place, entry) ↔
      checkPath p = .ok () ∧ tree.descend (tree.startOf p) (stepsOf p) = .ok place ∧
        tree.get? place = some entry := by
  constructor
  · intro h
    have hEntry := tree.get?_of_find h
    obtain ⟨_, hPath, h⟩ := Outcome.bind_eq_ok.mp h
    obtain ⟨found, hSteps, h⟩ := Outcome.bind_eq_ok.mp h
    split at h
    · cases h
      exact ⟨hPath, hSteps, hEntry⟩
    · cases h
  · rintro ⟨hPath, hSteps, hEntry⟩
    rw [find, hPath]
    refine Outcome.bind_eq_ok.mpr ⟨(), rfl, Outcome.bind_eq_ok.mpr ⟨place, hSteps, ?_⟩⟩
    rw [hEntry]

/-- Steps lead to the same place in a tree that has the directories that they pass. -/
theorem descend_of_directories
    (h : ∀ place, tree.get? place = some .directory → later.get? place = some .directory)
    {start : Location} {steps : List (List Char)} (hSteps : tree.descend start steps = .ok place) :
    later.descend start steps = .ok place := by
  induction steps generalizing start with
  | nil => exact hSteps
  | cons piece rest ih =>
      rw [descend] at hSteps ⊢
      split at hSteps
      · cases hSteps
      · cases hSteps
      · next hDirectory =>
        rw [h start hDirectory]
        dsimp only at hSteps ⊢
        split at hSteps
        · next hDot => rw [if_pos hDot, ih hSteps]
        split at hSteps
        · next hDot hUp => rw [if_neg hDot, if_pos hUp, ih hSteps]
        · next hDot hUp =>
          rw [if_neg hDot, if_neg hUp]
          split at hSteps
          · cases hSteps
          · next hShort => rw [if_neg hShort, ih hSteps]

/-- A later tree has files put at some places, and more directories. Nothing else is different. -/
structure Grown (places : List Location) (tree later : FileTree) : Prop where
  workingDirectory : later.workingDirectory = tree.workingDirectory
  directory : ∀ place, tree.get? place = some .directory → later.get? place = some .directory
  file : ∀ place bytes, tree.get? place = some (.file bytes) →
    ∃ content, later.get? place = some (.file content)
  others : ∀ place ∉ places, ∀ bytes,
    later.get? place = some (.file bytes) ↔ tree.get? place = some (.file bytes)

namespace Grown

variable {places more : List Location}

theorem refl (tree : FileTree) : Grown [] tree tree :=
  ⟨rfl, fun _ h => h, fun _ bytes h => ⟨bytes, h⟩, fun _ _ _ => Iff.rfl⟩

theorem trans (h : Grown places tree later) (hNext : Grown more later last) :
    Grown (places ++ more) tree last where
  workingDirectory := hNext.workingDirectory.trans h.workingDirectory
  directory place hPlace := hNext.directory place (h.directory place hPlace)
  file place bytes hPlace := by
    obtain ⟨content, hContent⟩ := h.file place bytes hPlace
    exact hNext.file place content hContent
  others place hPlace bytes := by
    rw [List.mem_append, not_or] at hPlace
    exact (hNext.others place hPlace.2 bytes).trans (h.others place hPlace.1 bytes)

/-- The same steps lead to the same place: directories stay where they are. -/
theorem descend_eq_ok (h : Grown places tree later) {start : Location} {steps : List (List Char)}
    (hSteps : tree.descend start steps = .ok place) : later.descend start steps = .ok place :=
  descend_of_directories h.directory hSteps

theorem startOf (h : Grown places tree later) (p : Path) : later.startOf p = tree.startOf p := by
  rw [FileTree.startOf, FileTree.startOf, h.workingDirectory]

/-- A file that is found is found at its place later on, and is the same file unless something was
put there. -/
theorem find_eq_ok (h : Grown places tree later) {bytes : List UInt8}
    (hFind : tree.find p = .ok (place, .file bytes)) :
    ∃ content, later.find p = .ok (place, .file content) ∧ (place ∉ places → content = bytes) := by
  obtain ⟨hPath, hSteps, hEntry⟩ := find_eq_ok_iff.mp hFind
  obtain ⟨content, hContent⟩ := h.file place bytes hEntry
  refine ⟨content, find_eq_ok_iff.mpr ⟨hPath, ?_, hContent⟩, fun hOther => ?_⟩
  · rw [h.startOf]
    exact h.descend_eq_ok hSteps
  · have hSame := (h.others place hOther content).mp hContent
    rw [hEntry] at hSame
    cases hSame
    rfl

theorem find_directory (h : Grown places tree later)
    (hFind : tree.find p = .ok (place, .directory)) : later.find p = .ok (place, .directory) := by
  obtain ⟨hPath, hSteps, hEntry⟩ := find_eq_ok_iff.mp hFind
  rw [← h.startOf] at hSteps
  exact find_eq_ok_iff.mpr ⟨hPath, h.descend_eq_ok hSteps, h.directory place hEntry⟩

/-- A directory is made where nothing was. -/
theorem set_directory (hPlace : place ≠ []) (hNone : tree.get? place = none) :
    Grown [] tree (tree.set place .directory) where
  workingDirectory := rfl
  directory other hOther := by
    rw [get?_set tree hPlace]
    split
    · rfl
    · exact hOther
  file other bytes hOther := by
    refine ⟨bytes, ?_⟩
    rw [get?_set tree hPlace, if_neg, hOther]
    rintro rfl
    exact nomatch hNone.symm.trans hOther
  others other _ bytes := by
    rw [get?_set tree hPlace]
    split
    · next hSame =>
      subst hSame
      rw [hNone]
      exact ⟨nofun, nofun⟩
    · rfl

/-- A file is put where no directory was. -/
theorem set_file (hPlace : place ≠ []) (hNot : tree.get? place ≠ some .directory)
    (bytes : List UInt8) : Grown [place] tree (tree.set place (.file bytes)) where
  workingDirectory := rfl
  directory other hOther := by
    rw [get?_set tree hPlace, if_neg, hOther]
    rintro rfl
    exact hNot hOther
  file other content hOther := by
    rw [get?_set tree hPlace]
    split
    · exact ⟨bytes, rfl⟩
    · exact ⟨content, hOther⟩
  others other hOther content := by
    rw [get?_set tree hPlace, if_neg (List.ne_of_not_mem_cons hOther)]

end Grown

/-- The place of a last step is a name in the directory that the steps before it lead to. -/
theorem placeOf_eq_ok {atDot atRoot : IoError} (h : tree.placeOf p atDot atRoot = .ok place) :
    checkPath p = .ok () ∧ place ≠ [] ∧ ∃ front last parent,
      (p.pieces.filter fun piece => !piece.isEmpty) = front ++ [last] ∧
      tree.descend (tree.startOf p) front = .ok parent ∧
      tree.descend parent [last] = .ok place := by
  obtain ⟨_, hPath, h⟩ := Outcome.bind_eq_ok.mp h
  refine ⟨hPath, ?_⟩
  split at h
  · cases h
  · next last front hSteps =>
    obtain ⟨parent, hParent, h⟩ := Outcome.bind_eq_ok.mp h
    rw [descend_append] at hParent
    obtain ⟨between, hFront, hDot⟩ := Outcome.bind_eq_ok.mp hParent
    obtain ⟨rfl, hDirectory⟩ := descend_dot hDot
    split at h
    · cases h
    · next hName =>
      rw [not_or] at hName
      dsimp only at h
      split at h
      · cases h
      · next hShort =>
        cases h
        refine ⟨by simp, front.reverse, last, parent, ?_, hFront, ?_⟩
        · rw [← List.reverse_cons, ← hSteps, List.reverse_reverse]
        · rw [descend, hDirectory]
          dsimp only
          rw [if_neg hName.1, if_neg hName.2, if_neg hShort, descend]

/-- A directory is made at the place of its path, where nothing was. -/
theorem makeDirectory_place (h : tree.makeDirectory p = .ok later) :
    ∃ place, place ≠ [] ∧ tree.get? place = none ∧ later = tree.set place .directory ∧
      later.find p = .ok (place, .directory) := by
  obtain ⟨place, hPlace, h⟩ := Outcome.bind_eq_ok.mp h
  obtain ⟨hPath, hNil, front, last, parent, hSteps, hFront, hLast⟩ := placeOf_eq_ok hPlace
  split at h
  · cases h
  · next hNone =>
    cases h
    have hGrown := Grown.set_directory hNil hNone
    have hHere : (tree.set place .directory).get? place = some .directory := by
      rw [get?_set tree hNil, if_pos rfl]
    refine ⟨place, hNil, hNone, rfl, find_eq_ok_iff.mpr ⟨hPath, ?_, hHere⟩⟩
    have hAll : (tree.set place .directory).descend (tree.startOf p) (front ++ [last]) =
        .ok place := by
      apply hGrown.descend_eq_ok
      rw [descend_append, hFront]
      exact hLast
    rw [hGrown.startOf, stepsOf, hSteps]
    split
    · rw [descend_append, hAll]
      simp [bind, Except.bind, descend, hHere]
    · exact hAll

theorem makeDirectory_eq_ok (h : tree.makeDirectory p = .ok later) : Grown [] tree later := by
  obtain ⟨place, hNil, hNone, rfl, -⟩ := makeDirectory_place h
  exact .set_directory hNil hNone

theorem grown_makeDirectories (fuel : Nat) (tree : FileTree) (p : Path) :
    Grown [] tree (makeDirectories fuel tree p).1 := by
  induction fuel generalizing tree p with
  | zero => exact .refl tree
  | succ fuel ih =>
      rw [makeDirectories]
      split
      · exact .refl tree
      split
      · next hMade => exact makeDirectory_eq_ok hMade
      split
      · exact .refl tree
      split
      · exact .refl tree
      · next parent _ =>
        have hAbove := ih tree parent
        split
        · next hRun =>
          rw [hRun] at hAbove
          exact hAbove
        · next hRun =>
          rw [hRun] at hAbove
          split
          · next hMade => exact hAbove.trans (makeDirectory_eq_ok hMade)
          · exact hAbove

/-- What stands at the place of a path is found under the path, in every tree that has the
directories on the way there. -/
theorem find_of_placeOf {atDot atRoot : IoError} {entry : FileEntry}
    (hPlace : tree.placeOf p atDot atRoot = .ok place)
    (hSlash : ¬ (p.text.toList.getLast? == some '/') = true)
    (hWorking : later.workingDirectory = tree.workingDirectory)
    (hDirectories : ∀ q, tree.get? q = some .directory → later.get? q = some .directory)
    (hEntry : later.get? place = some entry) : later.find p = .ok (place, entry) := by
  obtain ⟨hPath, -, front, last, parent, hSteps, hFront, hLast⟩ := placeOf_eq_ok hPlace
  have hStart : later.startOf p = tree.startOf p := by rw [startOf, startOf, hWorking]
  refine find_eq_ok_iff.mpr ⟨hPath, ?_, hEntry⟩
  rw [hStart]
  apply descend_of_directories hDirectories
  rw [stepsOf, hSteps, if_neg hSlash, descend_append, hFront]
  exact hLast

theorem place_eq_ok {bytes : List UInt8} (h : tree.place p bytes = .ok later) :
    ∃ place, Grown [place] tree later ∧ later.find p = .ok (place, .file bytes) := by
  obtain ⟨place, hPlace, h⟩ := Outcome.bind_eq_ok.mp h
  have hNil := (placeOf_eq_ok hPlace).2.1
  split at h
  · cases h
  · next hSlash =>
    split at h
    · cases h
    · next hNot =>
      cases h
      have hGrown : Grown [place] tree (tree.set place (.file bytes)) := .set_file hNil hNot bytes
      refine ⟨place, hGrown, find_of_placeOf hPlace hSlash rfl hGrown.directory ?_⟩
      rw [get?_set tree hNil, if_pos rfl]

theorem write_eq_ok {bytes : List UInt8} (h : tree.write p bytes = (later, .ok ())) :
    ∃ place, Grown [place] tree later ∧ later.find p = .ok (place, .file bytes) := by
  have hMade := grown_makeDirectories ((directoryFor p).text.length + 1) tree (directoryFor p)
  unfold write at h
  dsimp only at h
  split at h
  · cases h
  · next between hRun =>
    rw [hRun] at hMade
    split at h
    · next hPlaced =>
      cases h
      obtain ⟨place, hGrown, hFind⟩ := place_eq_ok hPlaced
      exact ⟨place, hMade.trans hGrown, hFind⟩
    · cases h

/-- Where the file of a path is, if there is one. -/
def placeOf? (tree : FileTree) (p : Path) : Option Location :=
  match tree.find p with
  | .ok (place, .file _) => some place
  | _ => none

theorem placeOf?_eq_some :
    tree.placeOf? p = some place ↔ ∃ bytes, tree.find p = .ok (place, .file bytes) := by
  rw [placeOf?]
  split
  · next found bytes hFind =>
    rw [hFind, Option.some.injEq]
    constructor
    · rintro rfl
      exact ⟨bytes, rfl⟩
    · rintro ⟨_, hSame⟩
      cases hSame
      rfl
  · next hNone =>
    refine ⟨fun h => (nomatch h), ?_⟩
    rintro ⟨bytes, hFind⟩
    exact absurd hFind (hNone place bytes)

theorem placeOf?_of_find {bytes : List UInt8} (h : tree.find p = .ok (place, .file bytes)) :
    tree.placeOf? p = some place := placeOf?_eq_some.mpr ⟨bytes, h⟩

/-- What a tree has come to by texts that were written to paths, one after another. -/
structure Holds (start : FileTree) (writings : List (Path × String)) (tree : FileTree) : Prop where
  grown : Grown (writings.filterMap fun w => tree.placeOf? w.1) start tree
  /-- Every path leads to a file, which has its text unless a later one was written there. -/
  latest : ∀ before w after, writings = before ++ w :: after →
    ∃ place content, tree.find w.1 = .ok (place, .file content) ∧
      ((∀ v ∈ after, tree.placeOf? v.1 ≠ some place) → content = Text.encode w.2)

namespace Holds

variable {start : FileTree} {writings : List (Path × String)}

theorem refl (tree : FileTree) : Holds tree [] tree where
  grown := .refl tree
  latest before w after h := absurd h (by simp)

theorem exists_find (h : Holds start writings tree) {w : Path × String} (hw : w ∈ writings) :
    ∃ place content, tree.find w.1 = .ok (place, .file content) := by
  obtain ⟨before, after, hSplit⟩ := List.append_of_mem hw
  obtain ⟨place, content, hFind, -⟩ := h.latest before w after hSplit
  exact ⟨place, content, hFind⟩

/-- Paths keep their places while more is written. -/
theorem placeOf?_eq (h : Holds start writings tree) {places : List Location}
    (hGrown : Grown places tree later) {w : Path × String} (hw : w ∈ writings) :
    later.placeOf? w.1 = tree.placeOf? w.1 := by
  obtain ⟨place, content, hFind⟩ := h.exists_find hw
  obtain ⟨_, hLater, -⟩ := hGrown.find_eq_ok hFind
  rw [placeOf?_of_find hFind, placeOf?_of_find hLater]

theorem next {text : String} (h : Holds start writings tree)
    (hWrite : tree.write p (Text.encode text) = (later, .ok ())) :
    Holds start (writings ++ [(p, text)]) later := by
  obtain ⟨place, hGrown, hFind⟩ := write_eq_ok hWrite
  constructor
  · have hPlaces : (writings.filterMap fun w => later.placeOf? w.1) =
        writings.filterMap fun w => tree.placeOf? w.1 :=
      List.filterMap_congr fun w hw => h.placeOf?_eq hGrown hw
    rw [List.filterMap_append, hPlaces]
    simpa [placeOf?_of_find hFind] using h.grown.trans hGrown
  · intro before w after hSplit
    rcases List.eq_nil_or_concat after with rfl | ⟨rest, v, rfl⟩
    · -- the text that is written now
      obtain ⟨-, rfl⟩ := List.append_singleton_inj.mp hSplit
      exact ⟨place, _, hFind, fun _ => rfl⟩
    · -- a text that is there already and is replaced if it has the same place
      rw [List.concat_eq_append, ← List.cons_append, ← List.append_assoc] at hSplit
      obtain ⟨hBefore, rfl⟩ := List.append_singleton_inj.mp hSplit
      obtain ⟨own, content, hOwn, hSame⟩ := h.latest before w rest hBefore
      obtain ⟨content', hLater, hKept⟩ := hGrown.find_eq_ok hOwn
      refine ⟨own, content', hLater, fun hNone => ?_⟩
      rw [List.concat_eq_append, List.forall_mem_append, List.forall_mem_singleton] at hNone
      have hNotHere : own ∉ [place] := by
        rw [List.mem_singleton]
        rintro rfl
        exact hNone.2 (placeOf?_of_find hFind)
      rw [hKept hNotHere]
      refine hSame fun v hv => ?_
      have hMem : v ∈ writings := hBefore ▸ List.mem_append_right before (.tail w hv)
      rw [← h.placeOf?_eq hGrown hMem]
      exact hNone.1 v hv

/-- A file that is new or other than at the start is one that was written. -/
theorem exists_of_changed (h : Holds start writings tree) {bytes : List UInt8}
    (hFile : tree.get? place = some (.file bytes))
    (hChanged : start.get? place ≠ some (.file bytes)) :
    ∃ w ∈ writings, tree.find w.1 = .ok (place, .file bytes) := by
  have hPlace : place ∈ writings.filterMap fun w => tree.placeOf? w.1 := by
    by_contra hOther
    exact hChanged ((h.grown.others place hOther bytes).mp hFile)
  obtain ⟨w, hw, hPlace⟩ := List.mem_filterMap.mp hPlace
  obtain ⟨content, hFind⟩ := placeOf?_eq_some.mp hPlace
  have hSame := tree.get?_of_find hFind
  rw [hFile] at hSame
  cases hSame
  exact ⟨w, hw, hFind⟩

/-- As many places as texts were written to, of which some may be the same. -/
theorem length_places (h : Holds start writings tree) :
    (writings.filterMap fun w => tree.placeOf? w.1).length = writings.length := by
  rw [List.filterMap_length_eq_length]
  intro w hw
  obtain ⟨place, content, hFind⟩ := h.exists_find hw
  rw [placeOf?_of_find hFind]
  rfl

end Holds
end TemplateBundle.FileTree
