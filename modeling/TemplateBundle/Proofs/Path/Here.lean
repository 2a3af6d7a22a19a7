import Mathlib.Logic.Function.Iterate
import TemplateBundle.Proofs.Path.Spelling

/-! The files of a directory, seen from the working directory: they keep their names and their
order. -/
namespace TemplateBundle.Path

variable {p q dir : Path}

theorem here_of_relative (h : p.isAbsolute = false) : p.here = ⟨"./" ++ p.text⟩ := by
  rw [here, join_of_relative ⟨"."⟩ h, if_neg (by decide)]
  rfl

theorem here_ne_empty (hText : p.text ≠ "") : p.here.text ≠ "" := by
  cases h : p.isAbsolute with
  | true => rwa [here_of_absolute h]
  | false => simp [here_of_relative h]

/-- A path may be seen from the working directory again and again. -/
theorem respelled_iterate_here (hText : p.text ≠ "") (count : Nat) :
    Respelled p (here^[count] p) ∧ (here^[count] p).text ≠ "" := by
  induction count with
  | zero => exact ⟨.refl p, hText⟩
  | succ count ih =>
      rw [Function.iterate_succ_apply']
      exact ⟨ih.1.trans (respelled_here ih.2), here_ne_empty ih.2⟩

/-- Each time it is longer. -/
theorem utf8ByteSize_iterate_here (h : p.isAbsolute = false) (hText : p.text ≠ "") (count : Nat) :
    (here^[count] p).text.utf8ByteSize = p.text.utf8ByteSize + 2 * count := by
  induction count with
  | zero => rfl
  | succ count ih =>
      have hRelative := (respelled_iterate_here hText count).1.absolute.trans h
      have hDot : "./".utf8ByteSize = 2 := by decide
      rw [Function.iterate_succ_apply', here_of_relative hRelative, String.utf8ByteSize_append, ih,
        hDot]
      omega

/-- A file of the directory as it is seen is the file as it is seen. -/
theorem here_join (dir : Path) (name : String) : dir.here.join name = (dir.join name).here := by
  cases hName : (⟨name⟩ : Path).isAbsolute with
  | true =>
      rw [join_of_absolute _ hName, join_of_absolute _ hName, here_of_absolute hName]
  | false =>
      have hJoin := isAbsolute_join dir hName
      cases hDir : dir.isAbsolute with
      | true => rw [here_of_absolute hDir, here_of_absolute (hJoin.trans hDir)]
      | false =>
          have hEnd : (("./" ++ dir.text).isEmpty || ("./" ++ dir.text).toList.getLast? ==
              some '/') = (dir.text.isEmpty || dir.text.toList.getLast? == some '/') := by
            by_cases hEmpty : dir.text = ""
            · rw [hEmpty]
              decide
            · have hList : dir.text.toList ≠ [] := by simpa using hEmpty
              rw [String.toList_append, List.getLast?_append_of_ne_nil _ hList, Bool.eq_iff_iff]
              simp [hEmpty]
          rw [here_of_relative hDir, here_of_relative (hJoin.trans hDir),
            join_of_relative _ hName, join_of_relative dir hName, hEnd]
          split
          · rw [String.append_assoc]
          · simp only [String.append_assoc]

/-- Pieces that lead nowhere are no components, but for a dot at the front. -/
theorem laterComponents_moves (p : Path) : laterComponents p.moves = laterComponents p.pieces := by
  rw [laterComponents, moves, List.filterMap_filter, laterComponents]
  refine List.filterMap_congr fun piece _ => ?_
  rw [leadsOn]
  cases component? false piece with
  | none => rfl
  | some c => rfl

/-- The components of a relative path: the dot that it may begin with, and its moves. -/
theorem components_of_relative (hRelative : p.isAbsolute = false) :
    p.components = (if p.pieces.head? = some ['.'] then [.here] else []) ++
      laterComponents p.moves := by
  rw [components, laterComponents_moves, hRelative]
  cases hPieces : p.pieces with
  | nil => exact absurd hPieces p.pieces_ne_nil
  | cons first rest =>
      rw [List.head?_cons, laterComponents, List.filterMap_cons]
      dsimp only
      rw [laterComponents]
      cases hFirst : leadsOn first with
      | false =>
          rcases leadsOn_eq_false.mp hFirst with rfl | rfl
          · rfl
          · rfl
      | true =>
          have hDot : ¬ some first = some ['.'] := by simp [(leadsOn_iff.mp hFirst).2]
          obtain ⟨c, hPiece⟩ := Option.isSome_iff_exists.mp hFirst
          rw [component?_of_leadsOn hFirst, hPiece, if_neg hDot]
          rfl

theorem head_pieces_join (hRelative : dir.isAbsolute = false) (hDir : dir.text ≠ "") {name : String}
    (hName : (⟨name⟩ : Path).isAbsolute = false) :
    (dir.join name).pieces.head? = dir.pieces.head? := by
  obtain ⟨front, silent, hPieces, hSilent, hJoin⟩ := exists_join dir hName
  obtain ⟨first, rest, hDirPieces, hFirst⟩ := exists_pieces hRelative hDir
  cases front with
  | nil =>
      have hMem : first ∈ silent := by
        rw [← List.nil_append silent, ← hPieces, hDirPieces]
        exact .head _
      exact absurd (hSilent first hMem) hFirst
  | cons piece front =>
      rw [hJoin, hPieces]
      rfl

theorem head_pieces_here (h : p.isAbsolute = false) : p.here.pieces.head? = some ['.'] := by
  rw [here_of_relative h, pieces]
  have hChars : ("./" ++ p.text).toList = ['.'] ++ '/' :: p.text.toList := by
    rw [String.toList_append]
    rfl
  rw [hChars, Text.splitOn_append]
  rfl

theorem components_here (h : p.isAbsolute = false) :
    p.here.components = .here :: laterComponents p.moves := by
  have hHere : p.here.isAbsolute = false := by
    rw [here, isAbsolute_join ⟨"."⟩ h]
    rfl
  rw [components_of_relative hHere, head_pieces_here h, if_pos rfl, here, moves_join ⟨"."⟩ h]
  rfl

theorem componentsBefore_append (front as bs : List Component) :
    componentsBefore (front ++ as) (front ++ bs) = componentsBefore as bs := by
  induction front with
  | nil => rfl
  | cons c front ih => rw [List.cons_append, List.cons_append, componentsBefore, if_pos rfl, ih]

/-- A path that is not empty has components; the first is the root if the path is absolute. -/
theorem exists_components (p : Path) (hText : p.text ≠ "") :
    ∃ c later, p.components = c :: later ∧ (c = .root ↔ p.isAbsolute = true) := by
  cases hAbsolute : p.isAbsolute with
  | true =>
      rw [components, hAbsolute]
      cases hPieces : p.pieces with
      | nil => exact absurd hPieces p.pieces_ne_nil
      | cons first rest => exact ⟨_, _, rfl, by simp⟩
  | false =>
      obtain ⟨first, rest, hPieces, hFirst⟩ := exists_pieces hAbsolute hText
      rw [components, hPieces, hAbsolute]
      dsimp only
      rw [if_neg (by decide), component?.eq_def]
      split
      · exact absurd rfl hFirst
      · exact ⟨_, _, rfl, by simp⟩
      · exact ⟨_, _, rfl, by simp⟩
      · exact ⟨_, _, rfl, by simp⟩

/-- Absolute paths come before relative ones. -/
theorem before_of_absolute (hp : p.isAbsolute = true) (hq : q.isAbsolute = false)
    (hText : q.text ≠ "") : p.before q = true ∧ q.before p = false := by
  have hNonempty : p.text ≠ "" := by
    intro hEmpty
    rw [isAbsolute, hEmpty] at hp
    cases hp
  obtain ⟨top, later, hFirst, hRoot⟩ := exists_components p hNonempty
  obtain ⟨c, more, hOther, hNot⟩ := exists_components q hText
  obtain rfl := hRoot.mpr hp
  have hDiffers : c ≠ .root := fun hIs => by
    rw [hNot.mp hIs] at hq
    cases hq
  rw [before, before, hFirst, hOther, componentsBefore, componentsBefore,
    if_neg (Ne.symm hDiffers), if_neg hDiffers]
  cases c with
  | root => exact absurd rfl hDiffers
  | here => exact ⟨rfl, rfl⟩
  | up => exact ⟨rfl, rfl⟩
  | name s => exact ⟨rfl, rfl⟩

theorem join_text_ne_empty (hDir : dir.text ≠ "") (name : String) : (dir.join name).text ≠ "" := by
  cases hName : (⟨name⟩ : Path).isAbsolute with
  | true =>
      rw [join_of_absolute dir hName]
      rintro rfl
      cases hName
  | false =>
      rw [join_of_relative dir hName]
      split
      · simp [hDir]
      · simp

/-- The files of a directory are in the same order when they are seen from the working directory. -/
theorem before_here_join (hDir : dir.text ≠ "") (first second : String) :
    (dir.join first).here.before (dir.join second).here =
      (dir.join first).before (dir.join second) := by
  have hText (name : String) := join_text_ne_empty hDir name
  have hHere (name : String) := respelled_here (hText name)
  have hHereText (name : String) : (dir.join name).here.text ≠ "" :=
    join_text_ne_empty (by decide) _
  cases hFirst : (dir.join first).isAbsolute with
  | true =>
      rw [here_of_absolute hFirst]
      cases hSecond : (dir.join second).isAbsolute with
      | true => rw [here_of_absolute hSecond]
      | false =>
          rw [(before_of_absolute hFirst hSecond (hText second)).1]
          exact (before_of_absolute hFirst ((hHere second).absolute.trans hSecond)
            (hHereText second)).1
  | false =>
      cases hSecond : (dir.join second).isAbsolute with
      | true =>
          rw [here_of_absolute hSecond, (before_of_absolute hSecond hFirst (hText first)).2]
          exact (before_of_absolute hSecond ((hHere first).absolute.trans hFirst)
            (hHereText first)).2
      | false =>
          -- neither the names nor the directory are absolute: both names begin as the directory does
          have hNames (name : String) (h : (dir.join name).isAbsolute = false) :
              (⟨name⟩ : Path).isAbsolute = false := by
            cases hName : (⟨name⟩ : Path).isAbsolute with
            | true =>
                rw [join_of_absolute dir hName, hName] at h
                cases h
            | false => rfl
          have hRelative : dir.isAbsolute = false :=
            (isAbsolute_join dir (hNames first hFirst)).symm.trans hFirst
          have hHead (name : String) (h : (dir.join name).isAbsolute = false) :=
            head_pieces_join hRelative hDir (hNames name h)
          rw [before, before, components_here hFirst, components_here hSecond,
            components_of_relative hFirst, components_of_relative hSecond, hHead first hFirst,
            hHead second hSecond, componentsBefore_append]
          exact componentsBefore_append [.here] _ _

end TemplateBundle.Path
