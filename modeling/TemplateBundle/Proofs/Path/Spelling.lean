import TemplateBundle.Files.Tree
import TemplateBundle.Path.Naming
import TemplateBundle.Proofs.Text.Pieces

/-! Spellings of paths. Empty pieces and dots lead nowhere, so that paths which differ in them alone
lead the same way. -/
namespace TemplateBundle.Path

/-- Whether a piece leads on: it is neither empty nor a dot. -/
def leadsOn (piece : List Char) : Bool := (component? false piece).isSome

/-- The pieces of a path that lead on. -/
def moves (p : Path) : List (List Char) := p.pieces.filter leadsOn

/-- Whether the last step of a path stays where the path has come to. -/
def halts (p : Path) : Bool := (FileTree.stepsOf p).getLast? == some ['.']

/-- Another spelling of a path: it starts and leads the same way, and ends with a dot if the path
does. -/
structure Respelled (p q : Path) : Prop where
  absolute : q.isAbsolute = p.isAbsolute
  moves : q.moves = p.moves
  halts : q.halts = p.halts

theorem Respelled.refl (p : Path) : Respelled p p := ⟨rfl, rfl, rfl⟩

theorem Respelled.trans {p q r : Path} (h : Respelled p q) (hNext : Respelled q r) :
    Respelled p r :=
  ⟨hNext.absolute.trans h.absolute, hNext.moves.trans h.moves, hNext.halts.trans h.halts⟩

theorem leadsOn_iff {piece : List Char} : leadsOn piece = true ↔ piece ≠ [] ∧ piece ≠ ['.'] := by
  rw [leadsOn, component?.eq_def]
  split
  · simp
  · simp
  · simp
  · next hEmpty hDot _ => exact ⟨fun _ => ⟨hEmpty, hDot⟩, fun _ => rfl⟩

theorem leadsOn_eq_false {piece : List Char} :
    leadsOn piece = false ↔ piece = [] ∨ piece = ['.'] := by
  rw [← Bool.not_eq_true, leadsOn_iff, not_and_or, not_not, not_not]

theorem component?_of_leadsOn {piece : List Char} (h : leadsOn piece = true) (first : Bool) :
    component? first piece = component? false piece := by
  obtain ⟨hEmpty, hDot⟩ := leadsOn_iff.mp h
  rw [component?.eq_def, component?.eq_def]
  split
  · exact absurd rfl hEmpty
  · exact absurd rfl hDot
  · rfl
  · rfl

theorem pieces_ne_nil (p : Path) : p.pieces ≠ [] := Text.splitOn_ne_nil '/' _

theorem not_mem_of_mem_pieces {p : Path} {piece : List Char} (h : piece ∈ p.pieces) :
    '/' ∉ piece := Text.not_mem_of_mem_splitOn h

theorem joinPieces_pieces (p : Path) : joinPieces p.pieces = p := by
  rw [joinPieces, pieces, Text.intercalate_splitOn, String.ofList_toList]

theorem pieces_joinPieces {pieces : List (List Char)} (hPieces : pieces ≠ [])
    (hSlash : ∀ piece ∈ pieces, '/' ∉ piece) : (joinPieces pieces).pieces = pieces := by
  rw [Path.pieces, joinPieces, String.toList_ofList, Text.splitOn_intercalate hPieces,
    Text.flatMap_splitOn hSlash]

theorem isAbsolute_append {text : String} (h : text ≠ "") (more : String) :
    (⟨text ++ more⟩ : Path).isAbsolute = (⟨text⟩ : Path).isAbsolute := by
  rw [isAbsolute, isAbsolute, String.toList_append, List.head?_append_of_ne_nil]
  simpa using h

/-- A path is absolute if its first piece is empty and another follows. -/
theorem isAbsolute_eq (p : Path) : p.isAbsolute =
    match p.pieces with
    | [] :: _ :: _ => true
    | _ => false := by
  rw [isAbsolute, pieces]
  cases p.text.toList with
  | nil => rfl
  | cons c cs =>
      rw [Text.splitOn]
      by_cases hSlash : c = '/'
      · subst hSlash
        cases hRest : Text.splitOn '/' cs with
        | nil => exact absurd hRest (Text.splitOn_ne_nil _ _)
        | cons piece rest => rfl
      · rw [if_neg hSlash]
        have hHead : ((c :: cs).head? == some '/') = false := by simpa using hSlash
        cases hRest : Text.splitOn '/' cs with
        | nil => exact hHead
        | cons piece rest => exact hHead

/-- The steps of a path without the dots are its moves. -/
theorem filter_stepsOf (p : Path) :
    (FileTree.stepsOf p).filter (fun piece => piece ≠ ['.']) = p.moves := by
  have hSteps : (p.pieces.filter fun piece => !piece.isEmpty).filter (fun piece => piece ≠ ['.']) =
      p.moves := by
    rw [List.filter_filter]
    refine List.filter_congr fun piece _ => ?_
    rw [Bool.eq_iff_iff, leadsOn_iff]
    simp [and_comm]
  rw [FileTree.stepsOf]
  split
  · rw [List.filter_append, hSteps]
    exact List.append_nil _
  · exact hSteps

section Join

variable {p q : Path} {name : String}

theorem join_of_absolute (p : Path) (h : (⟨name⟩ : Path).isAbsolute = true) :
    p.join name = ⟨name⟩ := by
  rw [join, if_pos h]

theorem join_of_relative (p : Path) (h : (⟨name⟩ : Path).isAbsolute = false) :
    p.join name =
      if p.text.isEmpty || p.text.toList.getLast? == some '/' then ⟨p.text ++ name⟩
      else ⟨p.text ++ "/" ++ name⟩ := by
  rw [join, if_neg (by rw [h]; decide)]

/-- A name in a directory is written behind the directory, with a slash in between if the directory
does not end with one. -/
theorem exists_join (p : Path) (h : (⟨name⟩ : Path).isAbsolute = false) :
    ∃ front silent, p.pieces = front ++ silent ∧ (∀ piece ∈ silent, piece = []) ∧
      (p.join name).pieces = front ++ (⟨name⟩ : Path).pieces := by
  rw [join_of_relative p h]
  split
  · next hEnd =>
    rw [Bool.or_eq_true] at hEnd
    rcases hEnd with hEmpty | hSlash
    · have hText : p.text = "" := String.isEmpty_iff.mp hEmpty
      refine ⟨[], [[]], ?_, by simp, ?_⟩
      · rw [pieces, hText]
        rfl
      · rw [hText, String.empty_append]
        rfl
    · obtain ⟨front, hText⟩ := List.getLast?_eq_some_iff.mp (beq_iff_eq.mp hSlash)
      refine ⟨Text.splitOn '/' front, [[]], ?_, by simp, ?_⟩
      · rw [pieces, hText, Text.splitOn_append]
        rfl
      · simp only [pieces, String.toList_append, hText]
        rw [List.append_assoc, List.singleton_append, Text.splitOn_append]
  · refine ⟨p.pieces, [], (List.append_nil _).symm, by simp, ?_⟩
    have hText : (p.text ++ "/" ++ name).toList = p.text.toList ++ '/' :: name.toList := by
      simp [String.toList_append]
    rw [pieces, hText, Text.splitOn_append]
    rfl

theorem moves_join (p : Path) (h : (⟨name⟩ : Path).isAbsolute = false) :
    (p.join name).moves = p.moves ++ (⟨name⟩ : Path).moves := by
  obtain ⟨front, silent, hPieces, hSilent, hJoin⟩ := exists_join p h
  have hNone : silent.filter leadsOn = [] := List.filter_eq_nil_iff.mpr fun piece hPiece => by
    rw [hSilent piece hPiece]
    decide
  rw [moves, moves, moves, hJoin, hPieces, List.filter_append, List.filter_append, hNone,
    List.append_nil]

theorem isAbsolute_join (p : Path) (h : (⟨name⟩ : Path).isAbsolute = false) :
    (p.join name).isAbsolute = p.isAbsolute := by
  rw [join_of_relative p h]
  by_cases hEmpty : p.text = ""
  · rw [hEmpty, if_pos (by decide), String.empty_append, h, isAbsolute, hEmpty]
    rfl
  · split
    · exact isAbsolute_append hEmpty name
    · rw [String.append_assoc]
      exact isAbsolute_append hEmpty ("/" ++ name)

/-- A relative path that is not empty begins with a piece that is not empty. -/
theorem exists_pieces (hRelative : p.isAbsolute = false) (hText : p.text ≠ "") :
    ∃ first rest, p.pieces = first :: rest ∧ first ≠ [] := by
  cases hPieces : p.pieces with
  | nil => exact absurd hPieces p.pieces_ne_nil
  | cons first rest =>
      refine ⟨first, rest, rfl, ?_⟩
      rintro rfl
      rw [isAbsolute_eq, hPieces] at hRelative
      cases rest with
      | cons piece rest => cases hRelative
      | nil =>
          refine hText ?_
          rw [← joinPieces_pieces p, hPieces]
          rfl

theorem stepsOf_ne_nil (hRelative : p.isAbsolute = false) (hText : p.text ≠ "") :
    FileTree.stepsOf p ≠ [] := by
  obtain ⟨first, rest, hPieces, hFirst⟩ := exists_pieces hRelative hText
  have hSteps : (p.pieces.filter fun piece => !piece.isEmpty) ≠ [] := by
    rw [hPieces, List.filter_cons_of_pos (by simpa using hFirst)]
    exact List.cons_ne_nil _ _
  rw [FileTree.stepsOf]
  split
  · exact List.append_ne_nil_of_left_ne_nil hSteps _
  · exact hSteps

theorem stepsOf_join (p : Path) (h : (⟨name⟩ : Path).isAbsolute = false) (hName : name ≠ "") :
    FileTree.stepsOf (p.join name) =
      (p.pieces.filter fun piece => !piece.isEmpty) ++ FileTree.stepsOf ⟨name⟩ := by
  obtain ⟨front, silent, hPieces, hSilent, hJoin⟩ := exists_join p h
  have hNone : (silent.filter fun piece => !piece.isEmpty) = [] :=
    List.filter_eq_nil_iff.mpr fun piece hPiece => by simp [hSilent piece hPiece]
  have hLast : (p.join name).text.toList.getLast? = name.toList.getLast? := by
    have hList : name.toList ≠ [] := by simpa using hName
    rw [join_of_relative p h]
    split
    · rw [String.toList_append, List.getLast?_append_of_ne_nil _ hList]
    · rw [String.toList_append, List.getLast?_append_of_ne_nil _ hList]
  rw [FileTree.stepsOf, FileTree.stepsOf, hJoin, hPieces, hLast, List.filter_append,
    List.filter_append, hNone, List.append_nil]
  split
  · rw [List.append_assoc]
  · rfl

theorem halts_join (p : Path) (h : (⟨name⟩ : Path).isAbsolute = false) (hName : name ≠ "") :
    (p.join name).halts = (⟨name⟩ : Path).halts := by
  rw [halts, halts, stepsOf_join p h hName,
    List.getLast?_append_of_ne_nil _ (stepsOf_ne_nil h hName)]

/-- A name in a directory, in two spellings of the directory. -/
theorem respelled_join (hAbsolute : q.isAbsolute = p.isAbsolute) (hMoves : q.moves = p.moves)
    (hName : name ≠ "") : Respelled (p.join name) (q.join name) := by
  cases h : (⟨name⟩ : Path).isAbsolute with
  | true =>
      rw [join_of_absolute p h, join_of_absolute q h]
      exact .refl _
  | false =>
      constructor
      · rw [isAbsolute_join q h, isAbsolute_join p h, hAbsolute]
      · rw [moves_join q h, moves_join p h, hMoves]
      · rw [halts_join q h hName, halts_join p h hName]

/-- The path as it is seen from the working directory, which is spelled as a dot. -/
def here (p : Path) : Path := Path.join ⟨"."⟩ p.text

theorem here_of_absolute (h : p.isAbsolute = true) : p.here = p := join_of_absolute ⟨"."⟩ h

theorem respelled_here (hText : p.text ≠ "") : Respelled p p.here := by
  cases h : p.isAbsolute with
  | true =>
      rw [here_of_absolute h]
      exact .refl _
  | false =>
      constructor
      · rw [here, isAbsolute_join ⟨"."⟩ h, h]
        rfl
      · rw [here, moves_join ⟨"."⟩ h]
        rfl
      · exact halts_join ⟨"."⟩ h hText

end Join

section Parts

variable {p q dir : Path}

theorem dropSilent_suffix (pieces : List (List Char)) : dropSilent pieces <:+ pieces := by
  induction pieces using dropSilent.induct with
  | case1 => exact List.suffix_rfl
  | case2 first => exact List.suffix_rfl
  | case3 piece rest hRest c hPiece =>
      have hKeep : dropSilent (piece :: rest) = piece :: rest := by
        rw [dropSilent.eq_3 _ _ hRest, hPiece]
      exact ⟨[], hKeep⟩
  | case4 piece rest hRest hPiece ih =>
      rw [dropSilent.eq_3 _ _ hRest, hPiece]
      exact ih.trans (List.suffix_cons piece rest)

theorem dropSilent_ne_nil {pieces : List (List Char)} (h : pieces ≠ []) :
    dropSilent pieces ≠ [] := by
  induction pieces using dropSilent.induct with
  | case1 => exact absurd rfl h
  | case2 first => exact h
  | case3 piece rest hRest c hPiece =>
      rw [dropSilent.eq_3 _ _ hRest, hPiece]
      exact h
  | case4 piece rest hRest hPiece ih =>
      rw [dropSilent.eq_3 _ _ hRest, hPiece]
      exact ih hRest

/-- Silent pieces are all that is dropped. -/
theorem filter_dropSilent (pieces : List (List Char)) :
    (dropSilent pieces).filter leadsOn = pieces.filter leadsOn := by
  induction pieces using dropSilent.induct with
  | case1 => rfl
  | case2 first => rfl
  | case3 piece rest hRest c hPiece =>
      rw [dropSilent.eq_3 _ _ hRest, hPiece]
  | case4 piece rest hRest hPiece ih =>
      have hSilent : ¬ leadsOn piece = true := by simp [leadsOn, hPiece]
      rw [dropSilent.eq_3 _ _ hRest, hPiece, List.filter_cons_of_neg hSilent]
      exact ih

/-- Nothing more is to be dropped, or there is but one piece. -/
theorem leadsOn_of_dropSilent {pieces rest : List (List Char)} {piece : List Char}
    (h : dropSilent pieces = piece :: rest) (hRest : rest ≠ []) : leadsOn piece = true := by
  induction pieces using dropSilent.induct with
  | case1 => cases h
  | case2 first =>
      cases h
      exact absurd rfl hRest
  | case3 first later hLater c hFirst =>
      rw [dropSilent.eq_3 _ _ hLater, hFirst] at h
      cases h
      rw [leadsOn, hFirst]
      rfl
  | case4 first later hLater hFirst ih =>
      rw [dropSilent.eq_3 _ _ hLater, hFirst] at h
      exact ih h

theorem filter_toLast (p : Path) : p.toLast.filter leadsOn = p.moves.reverse := by
  rw [toLast, filter_dropSilent, List.filter_reverse, moves]

/-- A path has but one piece left, or its last piece leads on. -/
theorem toLast_cases (p : Path) :
    (∃ first, p.toLast = [first] ∧ leadsOn first = false ∧ p.moves = []) ∨
      (∃ first, p.toLast = [first] ∧ leadsOn first = true ∧ p.moves = [first]) ∨
      ∃ last rest, p.toLast = last :: rest ∧ rest ≠ [] ∧
        p.moves = (rest.filter leadsOn).reverse ++ [last] := by
  have hMoves : p.moves = (p.toLast.filter leadsOn).reverse := by
    rw [filter_toLast, List.reverse_reverse]
  cases hLast : p.toLast with
  | nil => exact absurd hLast (dropSilent_ne_nil (by simpa using p.pieces_ne_nil))
  | cons last rest =>
      rw [hLast] at hMoves
      by_cases hRest : rest = []
      · subst hRest
        cases hLeads : leadsOn last with
        | false => exact .inl ⟨last, rfl, hLeads, by rw [hMoves, List.filter_cons, hLeads]; rfl⟩
        | true =>
            exact .inr (.inl ⟨last, rfl, hLeads, by rw [hMoves, List.filter_cons, hLeads]; rfl⟩)
      · refine .inr (.inr ⟨last, rest, rfl, hRest, ?_⟩)
        rw [hMoves, List.filter_cons_of_pos (leadsOn_of_dropSilent hLast hRest),
          List.reverse_cons]

/-- The name that a piece stands for, if it is one. -/
def nameOf? (piece : List Char) : Option String :=
  match component? false piece with
  | some (.name s) => some s
  | _ => none

/-- The file name is the last move, if that is a name. -/
theorem fileName?_eq (p : Path) : p.fileName? = p.moves.getLast?.bind nameOf? := by
  rcases p.toLast_cases with ⟨first, hLast, hSilent, hMoves⟩ | ⟨first, hLast, hLeads, hMoves⟩ |
    ⟨last, rest, hLast, hRest, hMoves⟩
  · rw [fileName?, hLast, hMoves]
    rcases leadsOn_eq_false.mp hSilent with rfl | rfl
    · rfl
    · rfl
  · rw [fileName?, hLast, hMoves]
    dsimp only
    rw [component?_of_leadsOn hLeads]
    rfl
  · rw [fileName?, hLast, hMoves, List.getLast?_concat]
    obtain ⟨second, later, rfl⟩ := List.exists_cons_of_ne_nil hRest
    rfl

/-- What is above the last piece of a path, and the path of it. -/
theorem parent?_of_toLast {last : List Char} {rest : List (List Char)} (hRest : rest ≠ [])
    (h : p.toLast = last :: rest) :
    ∃ above, above ≠ [] ∧ above <+: p.pieces ∧
      above.filter leadsOn = (rest.filter leadsOn).reverse ∧
      p.parent? =
        if above = [[]] then if p.isAbsolute then some ⟨"/"⟩ else some ⟨""⟩
        else some (joinPieces above) := by
  obtain ⟨second, later, rfl⟩ := List.exists_cons_of_ne_nil hRest
  have hSuffix : dropSilent (second :: later) <:+ p.pieces.reverse :=
    (dropSilent_suffix _).trans ((List.suffix_cons last _).trans (h ▸ dropSilent_suffix _))
  refine ⟨(dropSilent (second :: later)).reverse, ?_, ?_, ?_, ?_⟩
  · simpa using dropSilent_ne_nil hRest
  · rw [← List.reverse_suffix, List.reverse_reverse]
    exact hSuffix
  · rw [List.filter_reverse, filter_dropSilent]
  · rw [parent?, h]
    dsimp only
    split
    · next hRoot =>
      rw [hRoot]
      exact (if_pos rfl).symm
    · next hOther =>
      rw [if_neg]
      intro hRoot
      exact hOther (by rw [← List.reverse_reverse (dropSilent _), hRoot]; rfl)

/-- The parent of a path leads as the path does, but for its last move. -/
theorem moves_of_parent? (h : p.parent? = some dir) : dir.moves = p.moves.dropLast := by
  rcases p.toLast_cases with ⟨first, hLast, -, hMoves⟩ | ⟨first, hLast, -, hMoves⟩ |
    ⟨last, rest, hLast, hRest, hMoves⟩
  · rw [parent?, hLast] at h
    dsimp only at h
    split at h
    · cases h
      rw [hMoves]
      rfl
    · cases h
  · rw [parent?, hLast] at h
    dsimp only at h
    split at h
    · cases h
      rw [hMoves]
      rfl
    · cases h
  · obtain ⟨above, hAbove, hPrefix, hFilter, hParent⟩ := parent?_of_toLast hRest hLast
    rw [hMoves, List.dropLast_concat, ← hFilter]
    rw [hParent] at h
    split at h
    · next hRoot =>
      rw [hRoot]
      split at h
      · cases h
        rfl
      · cases h
        rfl
    · cases h
      rw [moves, pieces_joinPieces hAbove fun piece hPiece =>
        not_mem_of_mem_pieces (hPrefix.subset hPiece)]

/-- The parent of a relative path is relative. -/
theorem relative_of_parent? (hRelative : p.isAbsolute = false) (h : p.parent? = some dir) :
    dir.isAbsolute = false := by
  rcases p.toLast_cases with ⟨first, hLast, -, -⟩ | ⟨first, hLast, -, -⟩ |
    ⟨last, rest, hLast, hRest, -⟩
  · rw [parent?, hLast] at h
    dsimp only at h
    split at h
    · cases h
      rfl
    · cases h
  · rw [parent?, hLast] at h
    dsimp only at h
    split at h
    · cases h
      rfl
    · cases h
  · obtain ⟨above, hAbove, hPrefix, -, hParent⟩ := parent?_of_toLast hRest hLast
    rw [hParent, hRelative] at h
    split at h
    · cases h
      rfl
    · cases h
      rw [isAbsolute_eq, pieces_joinPieces hAbove fun piece hPiece =>
        not_mem_of_mem_pieces (hPrefix.subset hPiece)]
      split
      · -- two pieces of which the first is empty would be the first ones of the path
        next second later =>
        obtain ⟨more, hMore⟩ := hPrefix
        rw [isAbsolute_eq, ← hMore] at hRelative
        exact hRelative
      · rfl

theorem moves_of_no_parent (h : p.parent? = none) : p.moves = [] := by
  rcases p.toLast_cases with ⟨first, -, -, hMoves⟩ | ⟨first, hLast, hLeads, -⟩ |
    ⟨last, rest, hLast, hRest, -⟩
  · exact hMoves
  · rw [parent?, hLast] at h
    dsimp only at h
    rw [component?_of_leadsOn hLeads] at h
    obtain ⟨c, hPiece⟩ := Option.isSome_iff_exists.mp hLeads
    rw [hPiece] at h
    cases h
  · obtain ⟨above, -, -, -, hParent⟩ := parent?_of_toLast hRest hLast
    rw [hParent] at h
    split at h
    · split at h
      · cases h
      · cases h
    · cases h

theorem moves_templateDir (p : Path) : p.templateDir.moves = p.moves.dropLast := by
  rw [templateDir]
  split
  · next dir hParent =>
    rw [← moves_of_parent? hParent]
    split
    · next hEmpty =>
      rw [moves, moves, pieces, pieces, String.isEmpty_iff.mp hEmpty]
      rfl
    · rfl
  · next hNone =>
    rw [moves_of_no_parent hNone]
    rfl

theorem relative_templateDir (h : p.isAbsolute = false) : p.templateDir.isAbsolute = false := by
  rw [templateDir]
  split
  · next dir hParent =>
    split
    · rfl
    · exact relative_of_parent? h hParent
  · rfl

variable (h : Respelled p q)
include h

theorem Respelled.fileName?_eq : q.fileName? = p.fileName? := by
  rw [Path.fileName?_eq, Path.fileName?_eq, h.moves]

theorem Respelled.templateName_eq : q.templateName = p.templateName := by
  rw [templateName, templateName, stem?, stem?, h.fileName?_eq]

theorem Respelled.extension?_eq : q.extension? = p.extension? := by
  rw [extension?, extension?, h.fileName?_eq]

theorem Respelled.templateExt_eq : q.templateExt = p.templateExt := by
  rw [templateExt, templateExt, h.extension?_eq]

theorem Respelled.isYaml_eq : q.isYaml = p.isYaml := by
  rw [isYaml, isYaml, h.extension?_eq]

theorem Respelled.moves_templateDir : q.templateDir.moves = p.templateDir.moves := by
  rw [Path.moves_templateDir, Path.moves_templateDir, h.moves]

end Parts

end TemplateBundle.Path
