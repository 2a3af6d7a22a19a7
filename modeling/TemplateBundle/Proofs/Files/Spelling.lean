import TemplateBundle.Proofs.Path.Spelling

/-! What stands at a path does not depend on how the path is spelled, unless a spelling is too long
to be a path. -/
namespace TemplateBundle

open TemplateBundle.Path (Respelled leadsOn)

/-- A path that is short enough to be looked up. -/
def Path.Short (p : Path) : Prop := p.text.utf8ByteSize ≤ FileTree.maxPathBytes

instance (p : Path) : Decidable p.Short := inferInstanceAs (Decidable (_ ≤ _))

namespace FileTree

variable {tree : FileTree} {p q : Path}

/-- Staying in a directory before another step changes nothing: the next step asks for the directory
as well. -/
theorem descend_dot_cons (tree : FileTree) (start : Location) {steps : List (List Char)}
    (h : steps ≠ []) : tree.descend start (['.'] :: steps) = tree.descend start steps := by
  obtain ⟨step, rest, rfl⟩ := List.exists_cons_of_ne_nil h
  rw [descend]
  split
  · next hNone =>
    rw [descend, hNone]
  · next bytes hFile =>
    rw [descend, hFile]
  · rw [if_pos rfl]

theorem descend_cons_congr {steps others : List (List Char)}
    (h : ∀ start, tree.descend start steps = tree.descend start others) (start : Location)
    (step : List Char) :
    tree.descend start (step :: steps) = tree.descend start (step :: others) := by
  rw [descend, descend]
  simp only [h]

/-- Of the dots among the steps at most the last one counts. -/
theorem descend_filter (tree : FileTree) (start : Location) (steps : List (List Char)) :
    tree.descend start steps = tree.descend start
      (steps.filter (fun step => step ≠ ['.']) ++
        if steps.getLast? == some ['.'] then [['.']] else []) := by
  induction steps generalizing start with
  | nil => rfl
  | cons step rest ih =>
      by_cases hRest : rest = []
      · subst hRest
        by_cases hDot : step = ['.']
        · subst hDot
          rfl
        · simp [hDot]
      have hLast : (step :: rest).getLast? = rest.getLast? := by
        rw [← List.singleton_append, List.getLast?_append_of_ne_nil _ hRest]
      rw [hLast]
      by_cases hDot : step = ['.']
      · rw [List.filter_cons_of_neg (by simp [hDot]), ← ih start, hDot,
          descend_dot_cons tree start hRest]
      · rw [List.filter_cons_of_pos (by simp [hDot]), List.cons_append]
        exact descend_cons_congr ih start step

/-- A character that is no slash and no dot stands in a piece that leads on. -/
theorem mem_text_iff {c : Char} (hSlash : c ≠ '/') (hDot : c ≠ '.') (p : Path) :
    c ∈ p.text.toList ↔ ∃ piece ∈ p.moves, c ∈ piece := by
  rw [Text.mem_iff_of_ne hSlash]
  constructor
  · rintro ⟨piece, hPiece, hMem⟩
    refine ⟨piece, List.mem_filter.mpr ⟨hPiece, Path.leadsOn_iff.mpr ⟨?_, ?_⟩⟩, hMem⟩
    · rintro rfl
      cases hMem
    · rintro rfl
      exact hDot (List.mem_singleton.mp hMem)
  · rintro ⟨piece, hPiece, hMem⟩
    exact ⟨piece, List.mem_of_mem_filter hPiece, hMem⟩

theorem mem_text_respelled {c : Char} (hSlash : c ≠ '/') (hDot : c ≠ '.') (h : Respelled p q) :
    c ∈ q.text.toList ↔ c ∈ p.text.toList := by
  rw [mem_text_iff hSlash hDot, mem_text_iff hSlash hDot, h.moves]

/-- A path is empty if it starts nowhere else than in the working directory and has no steps. -/
theorem text_eq_empty_iff (p : Path) :
    p.text = "" ↔ p.isAbsolute = false ∧ p.moves = [] ∧ p.halts = false := by
  constructor
  · intro hText
    obtain ⟨text⟩ := p
    obtain rfl : text = "" := hText
    exact ⟨rfl, rfl, rfl⟩
  · rintro ⟨hRelative, hMoves, hHalts⟩
    by_contra hText
    have hSteps := Path.stepsOf_ne_nil hRelative hText
    have hDots : ∀ step ∈ stepsOf p, step = ['.'] := by
      rw [← Path.filter_stepsOf, List.filter_eq_nil_iff] at hMoves
      simpa using hMoves
    have hLast := hDots _ (List.getLast_mem hSteps)
    rw [Path.halts, List.getLast?_eq_some_getLast hSteps, hLast] at hHalts
    cases hHalts

theorem checkPath_respelled (h : Respelled p q) (hp : p.Short) (hq : q.Short) :
    checkPath q = checkPath p := by
  have hNul : q.text.toList.contains (Char.ofNat 0) = p.text.toList.contains (Char.ofNat 0) := by
    rw [Bool.eq_iff_iff, List.contains_iff_mem, List.contains_iff_mem,
      mem_text_respelled (by decide) (by decide) h]
  have hEmpty : q.text.isEmpty = p.text.isEmpty := by
    rw [Bool.eq_iff_iff, String.isEmpty_iff, String.isEmpty_iff, text_eq_empty_iff,
      text_eq_empty_iff, h.absolute, h.moves, h.halts]
  rw [checkPath, checkPath, hNul, hEmpty, if_neg (Nat.not_lt.mpr hp), if_neg (Nat.not_lt.mpr hq)]

theorem find_respelled (tree : FileTree) (h : Respelled p q) (hp : p.Short) (hq : q.Short) :
    tree.find q = tree.find p := by
  have hHalts : ((stepsOf q).getLast? == some ['.']) = ((stepsOf p).getLast? == some ['.']) :=
    h.halts
  rw [find, find, checkPath_respelled h hp hq, startOf, startOf, h.absolute,
    descend_filter tree _ (stepsOf q), descend_filter tree _ (stepsOf p), Path.filter_stepsOf,
    Path.filter_stepsOf, h.moves, hHalts]

theorem readText_respelled (tree : FileTree) (h : Respelled p q) (hp : p.Short) (hq : q.Short) :
    tree.readText q = tree.readText p := by
  rw [readText, readText, read, read, find_respelled tree h hp hq]

/-- What is found has a path that can be looked up. -/
theorem short_of_find {found : Location × FileEntry} (h : tree.find p = .ok found) :
    p.text ≠ "" ∧ p.Short := by
  obtain ⟨_, hPath, -⟩ := Outcome.bind_eq_ok.mp h
  rw [checkPath] at hPath
  split at hPath
  · cases hPath
  split at hPath
  · cases hPath
  next hEmpty =>
  split at hPath
  · cases hPath
  · next hSize => exact ⟨by simpa using hEmpty, Nat.not_lt.mp hSize⟩

/-- Nothing is found under a path that is too long, and it is not that nothing is there. -/
theorem find_of_not_short (tree : FileTree) (h : ¬ p.Short) :
    ∃ e, e ≠ .notFound ∧ tree.find p = .error e := by
  suffices hPath : ∃ e, e ≠ .notFound ∧ checkPath p = .error e by
    obtain ⟨e, hOther, hPath⟩ := hPath
    refine ⟨e, hOther, ?_⟩
    rw [find, hPath]
    rfl
  rw [checkPath]
  split
  · exact ⟨.invalidPath, nofun, rfl⟩
  split
  · next hEmpty =>
    refine absurd ?_ h
    rw [Path.Short, String.isEmpty_iff.mp hEmpty]
    exact Nat.zero_le _
  · exact ⟨.nameTooLong, nofun, if_pos (Nat.not_le.mp h)⟩

theorem exists_find_of_isFile (h : tree.isFile p = true) :
    ∃ place bytes, tree.find p = .ok (place, .file bytes) := by
  rw [isFile] at h
  split at h
  · next place bytes hFind => exact ⟨place, bytes, hFind⟩
  · cases h

/-- A file is no directory in any other spelling, not even in one that is too long. -/
theorem isDirectory_of_isFile (h : Respelled p q) (hFile : tree.isFile p = true) :
    tree.isDirectory q = false := by
  obtain ⟨place, bytes, hFind⟩ := exists_find_of_isFile hFile
  rw [isDirectory]
  split
  · next place' hOther =>
    rw [find_respelled tree h (short_of_find hFind).2 (short_of_find hOther).2, hFind] at hOther
    cases hOther
  · rfl

end FileTree
end TemplateBundle
