import TemplateBundle.Proofs.Path.Here

/-! The components of a path: what it starts with, and what its moves stand for. The components of a
name in a directory are those of the directory and of the name, and the components of a file are those
of its directory and its file name. -/
namespace TemplateBundle.Path

variable {p q dir : Path} {name file : String}

/-- What the components of a path begin with: the root, or the dot that a relative path may begin
with. -/
def start (p : Path) : List Component :=
  if p.isAbsolute then [.root] else if p.pieces.head? = some ['.'] then [.here] else []

theorem start_congr (hAbsolute : q.isAbsolute = p.isAbsolute)
    (hHead : q.pieces.head? = p.pieces.head?) : q.start = p.start := by
  rw [start, start, hAbsolute, hHead]

theorem components_eq (p : Path) : p.components = p.start ++ laterComponents p.moves := by
  cases hAbsolute : p.isAbsolute with
  | false =>
      rw [components_of_relative hAbsolute, start, hAbsolute]
      rfl
  | true =>
      have hPieces := p.isAbsolute_eq
      rw [hAbsolute] at hPieces
      split at hPieces
      · next second rest hSplit =>
        rw [laterComponents_moves, start, components, hAbsolute, hSplit]
        rfl
      · cases hPieces

/-- Moves are components wherever they stand. -/
theorem laterComponents_append (pieces others : List (List Char)) :
    laterComponents (pieces ++ others) = laterComponents pieces ++ laterComponents others :=
  List.filterMap_append

/-- Only the first component can be a dot. -/
theorem filter_components (hRelative : p.isAbsolute = false) :
    p.components.filter (· ≠ .here) = laterComponents p.moves := by
  have hLater : ∀ c ∈ laterComponents p.moves, c ≠ .here := by
    intro c hMem
    obtain ⟨piece, -, hPiece⟩ := List.mem_filterMap.mp hMem
    rintro rfl
    rw [component?.eq_def] at hPiece
    split at hPiece
    · cases hPiece
    · cases hPiece
    · cases hPiece
    · cases hPiece
  have hStart : p.start.filter (· ≠ .here) = [] := by
    rw [start, hRelative, if_neg (by decide)]
    split
    · rfl
    · rfl
  rw [components_eq, List.filter_append, hStart, List.nil_append, List.filter_eq_self]
  simpa using hLater

theorem start_join (hDir : dir.text ≠ "") (hName : (⟨name⟩ : Path).isAbsolute = false) :
    (dir.join name).start = dir.start := by
  have hJoin := isAbsolute_join dir hName
  cases hAbsolute : dir.isAbsolute with
  | true => rw [start, start, hJoin, hAbsolute, if_pos rfl, if_pos rfl]
  | false => exact start_congr hJoin (head_pieces_join hAbsolute hDir hName)

theorem join_of_empty (hDir : dir.text = "") (hName : (⟨name⟩ : Path).isAbsolute = false) :
    dir.join name = ⟨name⟩ := by
  rw [join_of_relative dir hName, hDir, if_pos (by decide), String.empty_append]

/-- A name in a directory has the components of the directory, then those of the name. -/
theorem components_join (hDir : dir.text ≠ "") (hName : (⟨name⟩ : Path).isAbsolute = false) :
    (dir.join name).components = dir.components ++ laterComponents (⟨name⟩ : Path).moves := by
  rw [components_eq, components_eq, start_join hDir hName, moves_join dir hName,
    laterComponents_append, List.append_assoc]

theorem toList_of_component? {first : Bool} {piece : List Char}
    (h : component? first piece = some (.name name)) : name.toList = piece := by
  rw [component?.eq_def] at h
  split at h
  · cases h
  · split at h
    · cases h
    · cases h
  · cases h
  · cases h
    exact String.toList_ofList

/-- The file name is a component, and the last move. -/
theorem exists_moves_of_fileName? (h : p.fileName? = some file) :
    component? false file.toList = some (.name file) ∧
      ∃ above, p.moves = above ++ [file.toList] := by
  rw [fileName?_eq] at h
  obtain ⟨last, hLast, hNamed⟩ := Option.bind_eq_some_iff.mp h
  rw [nameOf?] at hNamed
  split at hNamed
  · next s hPiece =>
    cases hNamed
    rw [toList_of_component? hPiece]
    exact ⟨hPiece, List.getLast?_eq_some_iff.mp hLast⟩
  · cases hNamed

theorem moves_of_fileName? (h : p.fileName? = some file) :
    p.moves = p.moves.dropLast ++ [file.toList] := by
  obtain ⟨-, above, hMoves⟩ := exists_moves_of_fileName? h
  rw [hMoves, List.dropLast_concat]

/-- The last move is the file name if it is a name. -/
theorem fileName?_of_moves {above : List (List Char)} (h : p.moves = above ++ [file.toList])
    (hFile : component? false file.toList = some (.name file)) : p.fileName? = some file := by
  rw [fileName?_eq, h, List.getLast?_concat, Option.bind_some, nameOf?, hFile]

theorem exists_moves_join (dir : Path) (name : String) :
    ∃ above, (dir.join name).moves = above ++ (⟨name⟩ : Path).moves := by
  cases h : (⟨name⟩ : Path).isAbsolute with
  | true => exact ⟨[], by rw [join_of_absolute dir h, List.nil_append]⟩
  | false => exact ⟨dir.moves, moves_join dir h⟩

theorem leadsOn_of_component? {piece : List Char} {c : Component}
    (h : component? false piece = some c) : leadsOn piece = true := by
  rw [leadsOn, h]
  rfl

/-- A name is not empty, and neither one dot nor two. -/
theorem ne_of_component? (h : component? false file.toList = some (.name file)) :
    file.toList ≠ [] ∧ file.toList ≠ ['.'] ∧ file.toList ≠ ['.', '.'] := by
  obtain ⟨hNonempty, hDot⟩ := leadsOn_iff.mp (leadsOn_of_component? h)
  refine ⟨hNonempty, hDot, fun hUp => ?_⟩
  rw [hUp] at h
  cases h

theorem leadsOn_of_fileName? (h : p.fileName? = some file) : leadsOn file.toList = true :=
  leadsOn_of_component? (exists_moves_of_fileName? h).1

theorem not_mem_of_fileName? (h : p.fileName? = some file) : '/' ∉ file.toList := by
  have hMem : file.toList ∈ p.moves := by
    rw [moves_of_fileName? h]
    exact List.mem_append_right _ (.head _)
  exact not_mem_of_mem_pieces (List.mem_of_mem_filter hMem)

/-- A file name is a path of its own, of one piece. -/
theorem pieces_of_fileName? (h : p.fileName? = some file) :
    (⟨file⟩ : Path).pieces = [file.toList] :=
  Text.splitOn_of_not_mem (not_mem_of_fileName? h)

theorem moves_file (h : p.fileName? = some file) : (⟨file⟩ : Path).moves = [file.toList] := by
  rw [moves, pieces_of_fileName? h, List.filter_cons_of_pos (leadsOn_of_fileName? h)]
  rfl

theorem isAbsolute_file (h : p.fileName? = some file) : (⟨file⟩ : Path).isAbsolute = false := by
  rw [isAbsolute_eq, pieces_of_fileName? h]
  cases file.toList with
  | nil => rfl
  | cons c cs => rfl

theorem laterComponents_file (h : p.fileName? = some file) :
    laterComponents [file.toList] = [.name file] := by
  rw [laterComponents, List.filterMap_cons, (exists_moves_of_fileName? h).1]
  rfl

/-- The components of a file are its moves above the file name, and the file name. -/
theorem components_of_fileName? (h : p.fileName? = some file) :
    p.components = p.start ++ laterComponents p.moves.dropLast ++ [.name file] := by
  rw [components_eq, moves_of_fileName? h, laterComponents_append, laterComponents_file h,
    List.dropLast_concat, List.append_assoc]

/-- The directory of a path is not written at all if nothing but its first piece leads on. -/
theorem parent?_of_first {first : List Char} (hLast : p.toLast = [first])
    (hLeads : leadsOn first = true) :
    p.parent? = some ⟨""⟩ ∧ p.isAbsolute = false ∧ p.pieces.head? = some first := by
  obtain ⟨silent, hSuffix⟩ := dropSilent_suffix p.pieces.reverse
  rw [show dropSilent p.pieces.reverse = [first] from hLast] at hSuffix
  have hPieces : p.pieces = first :: silent.reverse := by
    rw [← p.pieces.reverse_reverse, ← hSuffix, List.reverse_append]
    rfl
  obtain ⟨c, hPiece⟩ := Option.isSome_iff_exists.mp hLeads
  refine ⟨?_, ?_, by rw [hPieces]; rfl⟩
  · rw [parent?, hLast]
    dsimp only
    rw [component?_of_leadsOn hLeads, hPiece]
  · rw [isAbsolute_eq, hPieces]
    cases first with
    | nil => cases hLeads
    | cons c cs => rfl

/-- Otherwise it starts as the path does. -/
theorem parent?_of_above {last : List Char} {rest : List (List Char)} (hRest : rest ≠ [])
    (hLast : p.toLast = last :: rest) (hText : p.text ≠ "") :
    ∃ dir, p.parent? = some dir ∧ dir.text ≠ "" ∧ dir.isAbsolute = p.isAbsolute ∧
      dir.pieces.head? = p.pieces.head? := by
  obtain ⟨above, hAbove, ⟨more, hPieces⟩, -, hParent⟩ := parent?_of_toLast hRest hLast
  obtain ⟨piece, later, rfl⟩ := List.exists_cons_of_ne_nil hAbove
  by_cases hRoot : piece :: later = [[]]
  · -- nothing stands before the first slash
    have hAbsolute : p.isAbsolute = true := by
      by_contra hRelative
      obtain ⟨first, rest, hSplit, hFirst⟩ :=
        exists_pieces (Bool.eq_false_iff.mpr hRelative) hText
      rw [hSplit, hRoot] at hPieces
      exact hFirst (List.cons.inj hPieces).1.symm
    rw [if_pos hRoot, if_pos hAbsolute] at hParent
    refine ⟨⟨"/"⟩, hParent, by decide, hAbsolute.symm, ?_⟩
    rw [← hPieces, hRoot]
    rfl
  · rw [if_neg hRoot] at hParent
    have hDir : (joinPieces (piece :: later)).pieces = piece :: later :=
      pieces_joinPieces hAbove fun piece hPiece =>
        not_mem_of_mem_pieces (hPieces ▸ List.mem_append_left more hPiece)
    refine ⟨_, hParent, ?_, ?_, by rw [hDir, ← hPieces]; rfl⟩
    · intro hEmpty
      rw [pieces, hEmpty] at hDir
      exact hRoot hDir.symm
    · rw [isAbsolute_eq, isAbsolute_eq, hDir, ← hPieces]
      cases piece with
      | cons c cs => rfl
      | nil =>
          cases later with
          | nil => exact absurd rfl hRoot
          | cons second later => rfl

/-- A file has a directory, which starts as the file does and leads to it but for the file name. If
the directory is not written at all, the file name comes first. -/
theorem exists_parent? (h : p.fileName? = some file) :
    ∃ dir, p.parent? = some dir ∧ dir.isAbsolute = p.isAbsolute ∧
      dir.moves = p.moves.dropLast ∧
      p.pieces.head? = if dir.text = "" then some file.toList else dir.pieces.head? := by
  have hMoves := moves_of_fileName? h
  rcases p.toLast_cases with ⟨first, -, -, hNone⟩ | ⟨first, hLast, hLeads, hOne⟩ |
    ⟨last, rest, hLast, hRest, -⟩
  · rw [hNone] at hMoves
    cases hMoves
  · obtain ⟨hParent, hRelative, hHead⟩ := parent?_of_first hLast hLeads
    rw [hOne] at hMoves
    refine ⟨_, hParent, hRelative.symm, moves_of_parent? hParent, ?_⟩
    rw [hHead, if_pos rfl, (List.cons.inj hMoves).1]
  · have hText : p.text ≠ "" := by
      intro hEmpty
      rw [moves, pieces, hEmpty] at hMoves
      cases hMoves
    obtain ⟨dir, hParent, hDir, hAbsolute, hHead⟩ := parent?_of_above hRest hLast hText
    exact ⟨dir, hParent, hAbsolute, moves_of_parent? hParent, by rw [if_neg hDir, hHead]⟩

end TemplateBundle.Path
