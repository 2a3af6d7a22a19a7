import TemplateBundle.Proofs.Files.Spelling
import TemplateBundle.Proofs.Files.Writing
import TemplateBundle.Proofs.Path.Naming

/-! Names in directories. The path of a file ends in its name, and what stands under another name in the
same directory depends on that name alone. -/
namespace TemplateBundle

open TemplateBundle.Path (leadsOn Respelled)

/-- A path that is short enough to be looked up, and so is its file name. -/
def Path.Fits (p : Path) : Prop :=
  p.Short ∧ ∀ name ∈ p.fileName?, name.utf8ByteSize ≤ FileTree.maxNameBytes

instance (p : Path) : Decidable p.Fits := inferInstanceAs (Decidable (_ ∧ _))

namespace FileTree

variable {tree : FileTree} {p q dir : Path} {place : Location} {name file : String}

/-- What stands under a name in a place. -/
def entryIn (tree : FileTree) (place : Location) (name : String) :
    Except IoError (Location × FileEntry) :=
  match tree.get? place with
  | none => .error .notFound
  | some (.file _) => .error .notADirectory
  | some .directory =>
    if maxNameBytes < name.utf8ByteSize then .error .nameTooLong
    else match tree.get? (place ++ [name]) with
      | some entry => .ok (place ++ [name], entry)
      | none => .error .notFound

/-- The path leads to a place, and ends in a name there. -/
structure NamesIn (tree : FileTree) (place : Location) (name : String) (p : Path) : Prop where
  component : Path.component? false name.toList = some (.name name)
  steps : ∃ above, stepsOf p = above ++ [name.toList] ∧
    tree.descend (tree.startOf p) above = .ok place

theorem NamesIn.find (h : NamesIn tree place name p) :
    tree.find p = checkPath p >>= fun _ => tree.entryIn place name := by
  obtain ⟨above, hSteps, hAbove⟩ := h.steps
  obtain ⟨-, hDot, hUp⟩ := Path.ne_of_component? h.component
  rw [FileTree.find, hSteps, descend_append, hAbove]
  cases checkPath p with
  | error e => rfl
  | ok _ =>
      change (tree.descend place [name.toList] >>= _) = tree.entryIn place name
      rw [descend, entryIn]
      rcases tree.get? place with _ | ⟨bytes⟩ | _
      · rfl
      · rfl
      · rw [if_neg hDot, if_neg hUp, String.ofList_toList]
        dsimp only
        split
        · rfl
        · rfl

/-- A path does not end in a slash if its last piece is not empty. -/
theorem stepsOf_of_pieces {above : List (List Char)} {last : List Char}
    (h : p.pieces = above ++ [last]) (hLast : last ≠ []) :
    stepsOf p = (above.filter fun piece => !piece.isEmpty) ++ [last] := by
  have hEnd : ¬ (p.text.toList.getLast? == some '/') = true := by
    intro hSlash
    obtain ⟨front, hText⟩ := List.getLast?_eq_some_iff.mp (beq_iff_eq.mp hSlash)
    rw [Path.pieces, hText, Text.splitOn_append] at h
    exact hLast (List.append_inj_right' h rfl |> List.cons.inj).1.symm
  rw [stepsOf, if_neg hEnd, h, List.filter_append, List.filter_cons_of_pos (by simpa using hLast)]
  rfl

/-- The path of a file ends in its name: no slash and no dot follows. -/
theorem exists_pieces_of_isFile (hFile : tree.isFile p = true) (hName : p.fileName? = some file) :
    ∃ above, p.pieces = above ++ [file.toList] := by
  obtain ⟨place, bytes, hFind⟩ := exists_find_of_isFile hFile
  obtain ⟨hPath, hSteps, hEntry⟩ := find_eq_ok_iff.mp hFind
  have hNoDot (above : List (List Char)) : stepsOf p ≠ above ++ [['.']] := by
    intro hDot
    rw [hDot, descend_append] at hSteps
    obtain ⟨between, -, hSteps⟩ := Outcome.bind_eq_ok.mp hSteps
    obtain ⟨rfl, hDirectory⟩ := descend_dot hSteps
    cases hEntry.symm.trans hDirectory
  obtain ⟨above, last, hPieces⟩ : ∃ above last, p.pieces = above ++ [last] :=
    ⟨_, _, (List.dropLast_append_getLast p.pieces_ne_nil).symm⟩
  refine ⟨above, ?_⟩
  cases hLeads : leadsOn last with
  | true =>
      have hMoves := Path.moves_of_fileName? hName
      rw [Path.moves, hPieces, List.filter_append, List.filter_cons_of_pos hLeads] at hMoves
      rw [hPieces, (List.cons.inj (List.append_inj_right' hMoves rfl)).1]
  | false =>
      rcases Path.leadsOn_eq_false.mp hLeads with rfl | rfl
      · -- a path that ends in an empty piece ends in a slash
        by_cases hAbove : above = []
        · subst hAbove
          refine absurd ?_ (short_of_find hFind).1
          rw [← Path.joinPieces_pieces p, hPieces]
          rfl
        · have hText := Path.text_of_pieces hPieces hAbove (List.cons_ne_nil _ _)
          have hSlash : p.text.toList.getLast? = some '/' := by
            rw [hText, String.toList_append, String.toList_append]
            exact List.getLast?_eq_some_iff.mpr ⟨_, List.append_nil _⟩
          refine absurd ?_ (hNoDot (p.pieces.filter fun piece => !piece.isEmpty))
          rw [stepsOf, hSlash]
          rfl
      · exact absurd (stepsOf_of_pieces hPieces (List.cons_ne_nil _ _)) (hNoDot _)

/-- A file is a name in a directory. -/
theorem exists_namesIn_of_isFile (hFile : tree.isFile p = true)
    (hName : p.fileName? = some file) :
    ∃ place, tree.get? place = some .directory ∧ file.utf8ByteSize ≤ maxNameBytes ∧
      NamesIn tree place file p := by
  obtain ⟨above, hPieces⟩ := exists_pieces_of_isFile hFile hName
  have hLeads := Path.leadsOn_of_fileName? hName
  have hSteps := stepsOf_of_pieces hPieces (Path.leadsOn_iff.mp hLeads).1
  obtain ⟨found, bytes, hFind⟩ := exists_find_of_isFile hFile
  have hFound := hFind
  obtain ⟨-, hDescend, -⟩ := find_eq_ok_iff.mp hFind
  rw [hSteps, descend_append] at hDescend
  obtain ⟨place, hPlace, -⟩ := Outcome.bind_eq_ok.mp hDescend
  have hNames : NamesIn tree place file p :=
    ⟨(Path.exists_moves_of_fileName? hName).1, _, hSteps, hPlace⟩
  rw [hNames.find] at hFound
  obtain ⟨_, -, hFound⟩ := Outcome.bind_eq_ok.mp hFound
  refine ⟨place, ?_, ?_, hNames⟩
  · rw [entryIn] at hFound
    split at hFound
    · cases hFound
    · cases hFound
    · next hDirectory => exact hDirectory
  · rw [entryIn] at hFound
    split at hFound
    · cases hFound
    · cases hFound
    split at hFound
    · cases hFound
    · next hShort => exact Nat.not_lt.mp hShort

theorem halts_of_pieces {above : List (List Char)} {last : List Char}
    (h : p.pieces = above ++ [last]) (hLeads : leadsOn last = true) : p.halts = false := by
  obtain ⟨hNonempty, hDot⟩ := Path.leadsOn_iff.mp hLeads
  rw [Path.halts, stepsOf_of_pieces h hNonempty, List.getLast?_concat]
  simpa using hDot

theorem halts_of_isFile (hFile : tree.isFile p = true) (hName : p.fileName? = some file) :
    p.halts = false := by
  obtain ⟨above, hPieces⟩ := exists_pieces_of_isFile hFile hName
  exact halts_of_pieces hPieces (Path.leadsOn_of_fileName? hName)

/-- A file is found under its name in its directory. -/
theorem find_templateDir_join (hFile : tree.isFile p = true) (hName : p.fileName? = some file) :
    tree.find (p.templateDir.join file) = tree.find p := by
  have hRelative := Path.isAbsolute_file hName
  have hLeads := Path.leadsOn_of_fileName? hName
  have hNonempty : file ≠ "" := by
    rintro rfl
    cases hLeads
  have hAlone : (⟨file⟩ : Path).pieces = [] ++ [file.toList] := Path.pieces_of_fileName? hName
  obtain ⟨above, hPieces⟩ := exists_pieces_of_isFile hFile hName
  obtain ⟨place, -, hShort, -⟩ := exists_namesIn_of_isFile hFile hName
  obtain ⟨found, bytes, hFind⟩ := exists_find_of_isFile hFile
  have hp := (short_of_find hFind).2
  have hSize := Path.size_templateDir_join_le hName (by rw [hPieces, List.getLast?_concat])
  refine find_respelled tree ⟨?_, ?_, ?_⟩ hp ?_
  · rw [Path.isAbsolute_join _ hRelative, Path.isAbsolute_templateDir hName]
  · rw [Path.moves_join _ hRelative, Path.moves_templateDir, Path.moves_file hName,
      ← Path.moves_of_fileName? hName]
  · rw [Path.halts_join _ hRelative hNonempty, halts_of_isFile hFile hName]
    exact halts_of_pieces hAlone hLeads
  · have hPath : maxNameBytes + 2 ≤ maxPathBytes := by decide
    unfold Path.Short at hp ⊢
    omega

/-- No path that leads anywhere holds a null character. -/
theorem noNul_of_find {found : Location × FileEntry} (h : tree.find p = .ok found) :
    Char.ofNat 0 ∉ p.text.toList := by
  obtain ⟨_, hPath, -⟩ := Outcome.bind_eq_ok.mp h
  rw [checkPath] at hPath
  split at hPath
  · cases hPath
  · next hNone => simpa using hNone

theorem noNul_iff (p : Path) :
    Char.ofNat 0 ∉ p.text.toList ↔ ∀ piece ∈ p.pieces, Char.ofNat 0 ∉ piece := by
  have hSlash : Char.ofNat 0 ≠ '/' := by decide
  rw [Text.mem_iff_of_ne hSlash, ← Path.pieces]
  simp

/-- No piece of the path of a file holds a null character. -/
theorem exists_noNul_of_isFile (hFile : tree.isFile p = true) (hName : p.fileName? = some file) :
    ∃ above, p.pieces = above ++ [file.toList] ∧ (∀ piece ∈ above, Char.ofNat 0 ∉ piece) ∧
      Char.ofNat 0 ∉ file.toList := by
  obtain ⟨above, hPieces⟩ := exists_pieces_of_isFile hFile hName
  obtain ⟨_, _, hFind⟩ := exists_find_of_isFile hFile
  have hNul := (noNul_iff p).mp (noNul_of_find hFind)
  rw [hPieces, List.forall_mem_append, List.forall_mem_singleton] at hNul
  exact ⟨above, hPieces, hNul⟩

section Directory

variable {above : List (List Char)} {bytes : List UInt8}

theorem NamesIn.fileName? (h : NamesIn tree place name p) : p.fileName? = some name := by
  obtain ⟨front, hSteps, -⟩ := h.steps
  have hMoves := Path.filter_stepsOf p
  have hDot := (Path.ne_of_component? h.component).2.1
  rw [hSteps, List.filter_append, List.filter_cons_of_pos (by simpa using hDot)] at hMoves
  exact Path.fileName?_of_moves hMoves.symm h.component

/-- Another name behind the same pieces is a name in the same place. -/
theorem NamesIn.beside (h : NamesIn tree place file p) (hp : p.pieces = above ++ [file.toList])
    (hq : q.pieces = above ++ [name.toList])
    (hName : Path.component? false name.toList = some (.name name)) :
    NamesIn tree place name q := by
  obtain ⟨front, hSteps, hPlace⟩ := h.steps
  have hNonempty := (Path.ne_of_component? h.component).1
  have hOther := (Path.ne_of_component? hName).1
  rw [stepsOf_of_pieces hp hNonempty] at hSteps
  refine ⟨hName, front, ?_, ?_⟩
  · rw [stepsOf_of_pieces hq hOther, List.append_inj_left' hSteps rfl]
  · rwa [startOf, Path.isAbsolute_of_pieces hp hq hNonempty hOther]

/-- A directory has a place, in which its names are. -/
theorem exists_namesIn_of_isDirectory (hDirectory : tree.isDirectory dir = true) :
    ∃ place, tree.get? place = some .directory ∧ Char.ofNat 0 ∉ dir.text.toList ∧
      ∀ name : String, '/' ∉ name.toList →
        Path.component? false name.toList = some (.name name) →
          NamesIn tree place name (dir.join name) := by
  rw [isDirectory] at hDirectory
  split at hDirectory
  · next place hFind =>
    obtain ⟨-, hSteps, hEntry⟩ := find_eq_ok_iff.mp hFind
    have hPlace : tree.descend (tree.startOf dir)
        (dir.pieces.filter fun piece => !piece.isEmpty) = .ok place := by
      rw [stepsOf] at hSteps
      split at hSteps
      · rw [descend_append] at hSteps
        obtain ⟨between, hBetween, hDot⟩ := Outcome.bind_eq_ok.mp hSteps
        rwa [(descend_dot hDot).1]
      · exact hSteps
    refine ⟨place, hEntry, noNul_of_find hFind, fun name hSlash hName =>
      ⟨hName, dir.pieces.filter fun piece => !piece.isEmpty, ?_, ?_⟩⟩
    · have hAlone : (⟨name⟩ : Path).pieces = [] ++ [name.toList] :=
        Text.splitOn_of_not_mem hSlash
      have hNonempty := (Path.ne_of_component? hName).1
      rw [Path.stepsOf_join dir (Path.relative_of_not_mem hSlash) (by simpa using hNonempty),
        stepsOf_of_pieces hAlone hNonempty]
      rfl
    · rwa [startOf, Path.isAbsolute_join dir (Path.relative_of_not_mem hSlash)]
  · cases hDirectory

/-- A name in a directory stands for what is there, if the name and its path fit. -/
theorem NamesIn.find_of_directory (h : NamesIn tree place name p)
    (hDirectory : tree.get? place = some .directory) (hNul : Char.ofNat 0 ∉ p.text.toList) :
    tree.find p =
      if p.Fits then
        match tree.get? (place ++ [name]) with
        | some entry => .ok (place ++ [name], entry)
        | none => .error .notFound
      else .error .nameTooLong := by
  have hText : p.text.isEmpty = false := by
    rw [Bool.eq_false_iff]
    intro hEmpty
    have hName := h.fileName?
    rw [Path.fileName?_eq, Path.moves, Path.pieces, String.isEmpty_iff.mp hEmpty] at hName
    cases hName
  have hFits : p.Fits ↔ p.Short ∧ name.utf8ByteSize ≤ maxNameBytes := by
    simp [Path.Fits, h.fileName?]
  rw [h.find, checkPath, if_neg (by simpa using hNul), hText, if_neg (by decide)]
  by_cases hShort : p.Short
  · rw [if_neg (Nat.not_lt.mpr hShort)]
    change tree.entryIn place name = _
    rw [entryIn, hDirectory]
    dsimp only
    by_cases hName : name.utf8ByteSize ≤ maxNameBytes
    · rw [if_neg (Nat.not_lt.mpr hName), if_pos (hFits.mpr ⟨hShort, hName⟩)]
    · rw [if_pos (Nat.not_le.mp hName), if_neg fun hFit => hName (hFits.mp hFit).2]
  · rw [if_pos (Nat.not_le.mp hShort), if_neg fun hFit => hShort (hFits.mp hFit).1]
    rfl

/-- What is not in a directory is missing there, if the name and its path fit. -/
theorem NamesIn.readText_of_absent (h : NamesIn tree place name p)
    (hDirectory : tree.get? place = some .directory) (hNul : Char.ofNat 0 ∉ p.text.toList)
    (hAbsent : tree.pathExists p = false) :
    tree.readText p = .error (if p.Fits then .notFound else .nameTooLong) := by
  have hFind := h.find_of_directory hDirectory hNul
  rw [readText, read]
  by_cases hFits : p.Fits
  · rw [if_pos hFits] at hFind ⊢
    cases hEntry : tree.get? (place ++ [name]) with
    | none =>
        rw [hEntry] at hFind
        rw [hFind]
        rfl
    | some entry =>
        rw [hEntry] at hFind
        rw [pathExists, hFind] at hAbsent
        cases hAbsent
  · rw [if_neg hFits] at hFind ⊢
    rw [hFind]
    rfl

/-- A name alone is a name in the working directory. -/
theorem namesIn_workingDirectory (tree : FileTree) (hSlash : '/' ∉ name.toList)
    (hName : Path.component? false name.toList = some (.name name)) :
    NamesIn tree tree.workingDirectory name ⟨name⟩ := by
  have hPieces : (⟨name⟩ : Path).pieces = [] ++ [name.toList] := Text.splitOn_of_not_mem hSlash
  refine ⟨hName, [], stepsOf_of_pieces hPieces (Path.ne_of_component? hName).1, ?_⟩
  rw [startOf, Path.relative_of_not_mem hSlash]
  rfl

/-- A file beside nothing. -/
def alone (file : String) (bytes : List UInt8) : FileTree := ⟨[([file], .file bytes)], []⟩

theorem find_alone (hName : Path.component? false name.toList = some (.name name))
    (hSlash : '/' ∉ name.toList) (hNul : Char.ofNat 0 ∉ name.toList) :
    (alone file bytes).find ⟨name⟩ =
      if name.utf8ByteSize ≤ maxNameBytes then
        if name = file then .ok ([name], .file bytes) else .error .notFound
      else .error .nameTooLong := by
  have hHere := (alone file bytes).namesIn_workingDirectory hSlash hName
  have hFits : (⟨name⟩ : Path).Fits ↔ name.utf8ByteSize ≤ maxNameBytes := by
    simp only [Path.Fits, Path.Short, hHere.fileName?, Option.mem_some_iff, forall_eq',
      maxPathBytes, maxNameBytes]
    omega
  rw [hHere.find_of_directory rfl hNul]
  simp only [hFits]
  by_cases hSame : name = file
  · simp [get?, alone, hSame]
  · have hOther : (name == file) = false := beq_eq_false_iff_ne.mpr hSame
    simp [get?, alone, List.lookup_cons, hSame, hOther]

end Directory

end FileTree
end TemplateBundle
