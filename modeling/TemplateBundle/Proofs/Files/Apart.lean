import TemplateBundle.Bundler.Loader
import TemplateBundle.Proofs.Files.Writing

/-! A file whose bytes are exchanged for others. Every path leads where it led, and what is read
elsewhere stays the same. -/
namespace TemplateBundle

namespace FileTree

variable {tree : FileTree} {place other : Location} {held : List UInt8} {p : Path}

theorem get?_set_file (hFile : tree.get? place = some (.file held)) (bytes : List UInt8)
    (other : Location) :
    (tree.set place (.file bytes)).get? other =
      if other = place then some (.file bytes) else tree.get? other := by
  have hPlace : place ≠ [] := by
    rintro rfl
    simp [get?] at hFile
  exact get?_set tree hPlace (.file bytes) other

theorem descend_set_file (hFile : tree.get? place = some (.file held)) (bytes : List UInt8)
    (start : Location) (steps : List (List Char)) :
    (tree.set place (.file bytes)).descend start steps = tree.descend start steps := by
  induction steps generalizing start with
  | nil => rfl
  | cons step rest ih =>
      rw [descend, descend, get?_set_file hFile]
      by_cases hStart : start = place
      · subst hStart
        rw [if_pos rfl, hFile]
      · rw [if_neg hStart]
        simp only [ih]

/-- A path leads where it led, and finds what was there unless it leads to the file. -/
theorem find_set_file (hFile : tree.get? place = some (.file held)) (bytes : List UInt8)
    (p : Path) :
    (tree.set place (.file bytes)).find p =
      (tree.find p).map fun found => if found.1 = place then (place, .file bytes) else found := by
  rw [find, find]
  have hStart : (tree.set place (.file bytes)).startOf p = tree.startOf p := rfl
  cases checkPath p with
  | error e => rfl
  | ok _ =>
      simp only [bind, Except.bind, hStart, descend_set_file hFile]
      cases tree.descend (tree.startOf p) (stepsOf p) with
      | error e => rfl
      | ok location =>
          dsimp only
          rw [get?_set_file hFile]
          by_cases hHere : location = place
          · subst hHere
            simp [hFile, Except.map]
          · rw [if_neg hHere]
            cases tree.get? location with
            | none => rfl
            | some entry => simp [Except.map, hHere]

/-- A path that leads to no file or to another one finds the same as before. -/
theorem find_set_file_of_ne (hFile : tree.get? place = some (.file held)) (bytes : List UInt8)
    (hApart : tree.placeOf? p ≠ some place) :
    (tree.set place (.file bytes)).find p = tree.find p := by
  rw [find_set_file hFile]
  rcases hFind : tree.find p with e | ⟨location, entry⟩
  · rfl
  · have hOther : location ≠ place := by
      rintro rfl
      have hEntry := tree.get?_of_find hFind
      rw [hFile] at hEntry
      cases hEntry
      exact hApart (placeOf?_of_find hFind)
    simp [Except.map, hOther]

theorem readText_set_file (hFile : tree.get? place = some (.file held)) (bytes : List UInt8)
    (hApart : tree.placeOf? p ≠ some place) :
    (tree.set place (.file bytes)).readText p = tree.readText p := by
  rw [readText, readText, read, read, find_set_file_of_ne hFile bytes hApart]

/-- A directory that does not hold the file holds what it held. -/
theorem childrenOf_set {entry : FileEntry} (hApart : place.dropLast ≠ other) :
    (tree.set place entry).childrenOf other = tree.childrenOf other := by
  rw [childrenOf, childrenOf, set]
  dsimp only
  rw [List.filterMap_cons_none, List.filterMap_filter]
  · refine List.filterMap_congr fun e _ => ?_
    by_cases hHere : e.1 = place
    · subst hHere
      cases e.1.getLast? with
      | none => simp
      | some name => simp [hApart]
    · simp [hHere]
  · dsimp only
    split <;> simp [hApart]

theorem list_set_file (hFile : tree.get? place = some (.file held)) (bytes : List UInt8)
    (hApart : ∀ folder, tree.find p = .ok (folder, .directory) → place.dropLast ≠ folder) :
    (tree.set place (.file bytes)).list p = tree.list p := by
  rw [list, list, find_set_file hFile]
  rcases hFind : tree.find p with e | ⟨location, entry⟩
  · rfl
  · by_cases hHere : location = place
    · subst hHere
      have hEntry := tree.get?_of_find hFind
      rw [hFile] at hEntry
      cases hEntry
      simp [Except.map, bind, Except.bind]
    · cases entry with
      | file content => simp [Except.map, bind, Except.bind, hHere]
      | directory =>
          simp only [Except.map, bind, Except.bind, if_neg hHere]
          rw [childrenOf_set (hApart location hFind)]

end FileTree

/-- A directory of helpers that does not hold the file has the helpers that it had. -/
theorem helperFiles_set_file {tree : FileTree} {place : Location} {held : List UInt8} {dir : Path}
    (hFile : tree.get? place = some (.file held)) (bytes : List UInt8)
    (hApart : ∀ folder, tree.find dir = .ok (folder, .directory) → place.dropLast ≠ folder) :
    helperFiles (tree.set place (.file bytes)) dir = helperFiles tree dir := by
  rw [helperFiles, helperFiles, tree.list_set_file hFile bytes hApart]

end TemplateBundle
