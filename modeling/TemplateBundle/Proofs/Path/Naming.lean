import TemplateBundle.Path.Naming
import TemplateBundle.Proofs.Path.Components

/-! The names of templates. A file name is taken apart at its last dot, and what it is taken apart into
is the file name again when it is put together. -/
namespace TemplateBundle.Path

variable {p dir : Path} {file : String}

section SplitName

variable {name stem ext : List Char}

/-- A name is taken apart at its last dot if anything stands before it. -/
theorem splitName_append (hStem : stem ≠ []) (hExt : '.' ∉ ext) :
    splitName (stem ++ '.' :: ext) = (stem, some ext) := by
  rw [splitName, Text.splitOn_append, Text.splitOn_of_not_mem hExt, List.reverse_append]
  obtain ⟨last, rest, hSplit⟩ := List.exists_cons_of_ne_nil
    (List.reverse_ne_nil_iff.mpr (Text.splitOn_ne_nil '.' stem))
  have hAgain : List.intercalate ['.'] (last :: rest).reverse = stem := by
    rw [← hSplit, List.reverse_reverse, Text.intercalate_splitOn]
  rw [hSplit]
  simp only [List.reverse_singleton, List.singleton_append, hAgain]

theorem splitName_of_not_mem (h : '.' ∉ name) : splitName name = (name, none) := by
  rw [splitName, Text.splitOn_of_not_mem h]
  rfl

/-- A dot at the front does not count. -/
theorem splitName_cons (hExt : '.' ∉ ext) : splitName ('.' :: ext) = ('.' :: ext, none) := by
  have hSplit : Text.splitOn '.' ('.' :: ext) = [[], ext] := by
    rw [Text.splitOn, if_pos rfl, Text.splitOn_of_not_mem hExt]
  rw [splitName, hSplit]
  rfl

/-- A text that holds a dot ends in one and a piece without dots. -/
theorem exists_last_dot (h : '.' ∈ name) : ∃ stem ext, name = stem ++ '.' :: ext ∧ '.' ∉ ext := by
  induction name with
  | nil => cases h
  | cons c cs ih =>
      by_cases hLater : '.' ∈ cs
      · obtain ⟨stem, ext, rfl, hExt⟩ := ih hLater
        exact ⟨c :: stem, ext, rfl, hExt⟩
      · rcases List.mem_cons.mp h with rfl | hMem
        · exact ⟨[], cs, rfl, hLater⟩
        · exact absurd hMem hLater

/-- A name is left whole, or it is its stem, a dot and its extension. -/
theorem splitName_cases (name : List Char) :
    splitName name = (name, none) ∨
      ∃ stem ext, splitName name = (stem, some ext) ∧ stem ≠ [] ∧ name = stem ++ '.' :: ext ∧
        '.' ∉ ext := by
  by_cases hDot : '.' ∈ name
  · obtain ⟨stem, ext, rfl, hExt⟩ := exists_last_dot hDot
    by_cases hStem : stem = []
    · subst hStem
      exact .inl (splitName_cons hExt)
    · exact .inr ⟨stem, ext, splitName_append hStem hExt, hStem, rfl, hExt⟩
  · exact .inl (splitName_of_not_mem hDot)

end SplitName

theorem templateName_of_fileName? (h : p.fileName? = some file) :
    p.templateName = String.ofList (splitName file.toList).1 := by
  rw [templateName, stem?, h]
  rfl

theorem templateExt_of_fileName? (h : p.fileName? = some file) :
    p.templateExt = ((splitName file.toList).2.map fun ext => "." ++ String.ofList ext).getD "" := by
  rw [templateExt, extension?, h, Option.bind_some]
  cases (splitName file.toList).2 with
  | none => rfl
  | some ext => rfl

/-- The name of a template and its extension are its file name, and the extension is nothing or what
follows the last dot, with the dot. -/
theorem templateName_append_templateExt (h : p.fileName? = some file) :
    p.templateName ++ p.templateExt = file ∧
      (p.templateExt = "" ∨ ∃ ext, p.templateExt = "." ++ ext ∧ '.' ∉ ext.toList) := by
  rw [templateName_of_fileName? h, templateExt_of_fileName? h]
  rcases splitName_cases file.toList with hWhole | ⟨stem, ext, hSplit, -, hFile, hExt⟩
  · rw [hWhole]
    exact ⟨by simp, .inl rfl⟩
  · rw [hSplit]
    refine ⟨?_, .inr ⟨String.ofList ext, rfl, by rwa [String.toList_ofList]⟩⟩
    rw [← String.toList_inj, hFile]
    simp [String.toList_append]

/-- The directory of a template leads to it with the file name. A dot is put in front if no directory
is written. -/
theorem components_templateDir (h : p.fileName? = some file) :
    (p.templateDir.join file).components =
      if p.components = [.name file] then .here :: p.components else p.components := by
  obtain ⟨dir, hParent, hAbsolute, hMoves, hHead⟩ := exists_parent? h
  have hJoin {above : Path} (hText : above.text ≠ "") :
      (above.join file).components = above.components ++ [.name file] := by
    rw [components_join hText (isAbsolute_file h), moves_file h, laterComponents_file h]
  rw [templateDir, hParent]
  dsimp only
  by_cases hText : dir.text = ""
  · -- the file name is all there is
    have hNone : p.moves.dropLast = [] := by
      rw [← hMoves, moves, pieces, hText]
      rfl
    have hStart : p.start = [] := by
      rw [start, ← hAbsolute, isAbsolute, hText, hHead, if_pos hText]
      have hDot : ¬ some file.toList = some ['.'] := by
        simp [(leadsOn_iff.mp (leadsOn_of_fileName? h)).2]
      rw [if_neg hDot]
      rfl
    have hOnly : p.components = [.name file] := by
      rw [components_of_fileName? h, hStart, hNone]
      rfl
    rw [if_pos (String.isEmpty_iff.mpr hText), hJoin (by decide), if_pos hOnly, hOnly]
    rfl
  · have hStart : dir.start = p.start := by
      rw [if_neg hText] at hHead
      exact start_congr hAbsolute hHead.symm
    have hSame : dir.components ++ [.name file] = p.components := by
      rw [components_of_fileName? h, components_eq, hStart, hMoves]
    have hMore : p.components ≠ [.name file] := by
      obtain ⟨c, later, hComponents, -⟩ := exists_components dir hText
      rw [← hSame, hComponents]
      simp
    rw [if_neg (by simpa using hText), hJoin hText, if_neg hMore, hSame]

theorem isAbsolute_templateDir (h : p.fileName? = some file) :
    p.templateDir.isAbsolute = p.isAbsolute := by
  obtain ⟨dir, hParent, hAbsolute, -, -⟩ := exists_parent? h
  rw [templateDir, hParent, ← hAbsolute]
  dsimp only
  split
  · next hText =>
    rw [isAbsolute, isAbsolute, String.isEmpty_iff.mp hText]
    rfl
  · rfl

/-- Pieces are written one after another with slashes in between. -/
theorem text_of_pieces {above more : List (List Char)} (h : p.pieces = above ++ more)
    (hAbove : above ≠ []) (hMore : more ≠ []) :
    p.text = (joinPieces above).text ++ "/" ++ (joinPieces more).text := by
  let q : Path := ⟨(joinPieces above).text ++ "/" ++ (joinPieces more).text⟩
  have hSlash (piece : List Char) (hPiece : piece ∈ above ++ more) : '/' ∉ piece :=
    not_mem_of_mem_pieces (h ▸ hPiece)
  have hSame : q.pieces = p.pieces := by
    have hText : q.text.toList =
        (joinPieces above).text.toList ++ '/' :: (joinPieces more).text.toList := by
      simp [q, String.toList_append]
    rw [pieces, hText, Text.splitOn_append, h]
    refine congrArg₂ (· ++ ·) (pieces_joinPieces hAbove fun piece hPiece => ?_)
      (pieces_joinPieces hMore fun piece hPiece => ?_)
    · exact hSlash piece (List.mem_append_left more hPiece)
    · exact hSlash piece (List.mem_append_right above hPiece)
  rw [← joinPieces_pieces p, ← hSame, joinPieces_pieces]

/-- A path is longer than the directories above its file. -/
theorem size_joinPieces_le {above more : List (List Char)}
    (h : p.pieces = above ++ (more ++ [file.toList])) (hAbove : above ≠ []) :
    (joinPieces above).text.utf8ByteSize + 1 + file.utf8ByteSize ≤ p.text.utf8ByteSize := by
  have hSlash : "/".utf8ByteSize = 1 := by decide
  have hFile : (joinPieces [file.toList]).text = file := by
    rw [joinPieces, List.intercalate_singleton, String.ofList_toList]
  by_cases hMore : more = []
  · subst hMore
    rw [text_of_pieces h hAbove (List.cons_ne_nil _ _), List.nil_append, hFile]
    simp only [String.utf8ByteSize_append, hSlash]
    omega
  · have hFront : above ++ more ≠ [] := List.append_ne_nil_of_left_ne_nil hAbove more
    have hPieces : (joinPieces (above ++ more)).pieces = above ++ more :=
      pieces_joinPieces hFront fun piece hPiece => not_mem_of_mem_pieces (p := p) <| by
        rw [h, ← List.append_assoc]
        exact List.mem_append_left _ hPiece
    rw [← List.append_assoc] at h
    rw [text_of_pieces h hFront (List.cons_ne_nil _ _), hFile,
      text_of_pieces hPieces hAbove hMore]
    simp only [String.utf8ByteSize_append, hSlash]
    omega

theorem size_join_le (dir : Path) (file : String) :
    (dir.join file).text.utf8ByteSize ≤ dir.text.utf8ByteSize + 1 + file.utf8ByteSize := by
  have hSlash : "/".utf8ByteSize = 1 := by decide
  rw [join]
  split
  · exact Nat.le_add_left _ _
  split
  · rw [String.utf8ByteSize_append]
    omega
  · simp only [String.utf8ByteSize_append, hSlash]
    omega

/-- The path of a file with its directory is no longer than it was, but for the dot that is put in
front if no directory is written. -/
theorem size_templateDir_join_le (h : p.fileName? = some file)
    (hLast : p.pieces.getLast? = some file.toList) :
    (p.templateDir.join file).text.utf8ByteSize ≤
      max p.text.utf8ByteSize (file.utf8ByteSize + 2) := by
  have hMoves := moves_of_fileName? h
  have hJoin {above : Path} (hShort : above.text.utf8ByteSize ≤ 1) :
      (above.join file).text.utf8ByteSize ≤ max p.text.utf8ByteSize (file.utf8ByteSize + 2) := by
    have hSize := size_join_le above file
    omega
  have hDot : ".".utf8ByteSize ≤ 1 := by decide
  rcases p.toLast_cases with ⟨first, -, -, hNone⟩ | ⟨first, hFirst, hLeads, -⟩ |
    ⟨last, rest, hSteps, hRest, hOnly⟩
  · rw [hNone] at hMoves
    cases hMoves
  · rw [templateDir, (parent?_of_first hFirst hLeads).1]
    exact hJoin hDot
  · obtain ⟨above, hAbove, ⟨more, hPieces⟩, hFilter, hParent⟩ := parent?_of_toLast hRest hSteps
    -- the last move is not above it
    have hMore : more ≠ [] := by
      rintro rfl
      rw [List.append_nil] at hPieces
      rw [moves, ← hPieces, hFilter] at hOnly
      simp at hOnly
    obtain ⟨between, hBetween⟩ : ∃ between, more = between ++ [file.toList] := by
      rw [← hPieces, List.getLast?_append_of_ne_nil _ hMore] at hLast
      exact List.getLast?_eq_some_iff.mp hLast
    rw [hBetween] at hPieces
    have hSize := size_joinPieces_le hPieces.symm hAbove
    have hWhole := size_join_le (joinPieces above) file
    rw [templateDir, hParent]
    split
    · next dir hDir =>
      split
      · exact hJoin hDot
      split at hDir
      · split at hDir
        · cases hDir
          exact hJoin (by decide)
        · cases hDir
          exact hJoin (by decide)
      · cases hDir
        omega
    · exact hJoin hDot

section Sibling

variable {above : List (List Char)} {name : String}

/-- The path with another file name in the place of its last piece. -/
def sibling (p : Path) (name : String) : Path := joinPieces (p.pieces.dropLast ++ [name.toList])

theorem sibling_eq (h : p.pieces = above ++ [file.toList]) (name : String) :
    p.sibling name = joinPieces (above ++ [name.toList]) := by
  rw [sibling, h, List.dropLast_concat]

theorem pieces_sibling (h : p.pieces = above ++ [file.toList]) (hSlash : '/' ∉ name.toList) :
    (p.sibling name).pieces = above ++ [name.toList] := by
  rw [sibling_eq h]
  refine pieces_joinPieces (by simp) fun piece hPiece => ?_
  rcases List.mem_append.mp hPiece with hAbove | hLast
  · exact not_mem_of_mem_pieces (h ▸ List.mem_append_left _ hAbove)
  · rwa [List.mem_singleton.mp hLast]

/-- Whether a path is absolute does not depend on its file name. -/
theorem isAbsolute_of_pieces {q : Path} {last other : List Char} (hp : p.pieces = above ++ [last])
    (hq : q.pieces = above ++ [other]) (hLast : last ≠ []) (hOther : other ≠ []) :
    q.isAbsolute = p.isAbsolute := by
  rw [isAbsolute_eq, isAbsolute_eq, hp, hq]
  cases above with
  | nil =>
      cases last with
      | nil => exact absurd rfl hLast
      | cons c cs =>
          cases other with
          | nil => exact absurd rfl hOther
          | cons d ds => rfl
  | cons first rest =>
      cases first with
      | cons c cs => rfl
      | nil =>
          cases rest with
          | nil => rfl
          | cons second rest => rfl

theorem relative_of_not_mem (hSlash : '/' ∉ name.toList) : (⟨name⟩ : Path).isAbsolute = false := by
  rw [isAbsolute, beq_eq_false_iff_ne]
  exact fun hHead => hSlash (List.mem_of_mem_head? hHead)

/-- The names in a directory are written behind the same pieces. -/
theorem exists_pieces_join (dir : Path) :
    ∃ above, ∀ name : String, '/' ∉ name.toList → (dir.join name).pieces = above ++ [name.toList] := by
  by_cases hEmpty : dir.text = ""
  · refine ⟨[], fun name hSlash => ?_⟩
    rw [join_of_empty hEmpty (relative_of_not_mem hSlash)]
    exact Text.splitOn_of_not_mem hSlash
  by_cases hEnd : dir.text.toList.getLast? = some '/'
  · obtain ⟨front, hText⟩ := List.getLast?_eq_some_iff.mp hEnd
    refine ⟨Text.splitOn '/' front, fun name hSlash => ?_⟩
    rw [join_of_relative dir (relative_of_not_mem hSlash), if_pos (by simp [hEnd]), pieces,
      String.toList_append, hText, List.append_assoc, List.singleton_append, Text.splitOn_append,
      Text.splitOn_of_not_mem hSlash]
  · refine ⟨dir.pieces, fun name hSlash => ?_⟩
    have hText : (dir.text ++ "/" ++ name).toList = dir.text.toList ++ '/' :: name.toList := by
      simp [String.toList_append]
    rw [join_of_relative dir (relative_of_not_mem hSlash), if_neg (by simp [hEmpty, hEnd]), pieces,
      hText, Text.splitOn_append, Text.splitOn_of_not_mem hSlash, pieces]

/-- Another extension gives the path another file name. A name that is a lone dot would be lost with the
extension that is cut off. -/
theorem withExtension_eq_sibling (hName : p.fileName? = some file)
    (h : p.pieces = above ++ [file.toList]) (hDot : p.templateName ≠ ".") (ext : String) :
    p.withExtension ext = p.sibling (p.templateName ++ "." ++ ext) := by
  have hLast : p.toLast = file.toList :: above.reverse := by
    rw [toLast, h, List.reverse_append]
    cases above.reverse with
    | nil => rfl
    | cons second rest =>
        obtain ⟨c, hPiece⟩ := Option.isSome_iff_exists.mp (leadsOn_of_fileName? hName)
        rw [List.reverse_singleton, List.singleton_append, dropSilent, hPiece]
        exact List.cons_ne_nil _ _
  have hStem : (splitName file.toList).1 = p.templateName.toList := by
    rw [templateName_of_fileName? hName, String.toList_ofList]
  have hOther : (splitName file.toList).1 ≠ ['.'] := by
    intro hSame
    rw [templateName_of_fileName? hName, hSame] at hDot
    exact hDot rfl
  rw [withExtension, hName]
  dsimp only
  rw [decide_eq_false hOther, Bool.false_and, Bool.false_and, if_neg (by decide), hLast, hStem,
    sibling_eq h, List.drop_one, List.tail_cons, List.reverse_cons, List.reverse_reverse]
  simp [String.toList_append]

/-- A file name is the stem and the extension that it was made from. -/
theorem extension?_of_fileName? {stem ext : String}
    (h : p.fileName? = some (stem ++ "." ++ ext)) (hStem : stem ≠ "") (hExt : '.' ∉ ext.toList) :
    p.templateName = stem ∧ p.extension? = some ext := by
  have hSplit : splitName (stem ++ "." ++ ext).toList = (stem.toList, some ext.toList) := by
    have hChars : (stem ++ "." ++ ext).toList = stem.toList ++ '.' :: ext.toList := by
      simp [String.toList_append]
    rw [hChars]
    exact splitName_append (by simpa using hStem) hExt
  rw [templateName_of_fileName? h, extension?, h, Option.bind_some, hSplit]
  exact ⟨String.ofList_toList, congrArg some String.ofList_toList⟩

/-- A stem with an extension is a name, even if the stem is a dot. -/
theorem component?_dotted {stem ext : String} (hStem : stem ≠ "") (hExt : ext ≠ "") :
    component? false (stem ++ "." ++ ext).toList = some (.name (stem ++ "." ++ ext)) := by
  have hLength : 2 < (stem ++ "." ++ ext).toList.length := by
    have hFirst := List.length_pos_iff.mpr (show stem.toList ≠ [] by simpa using hStem)
    have hLast := List.length_pos_iff.mpr (show ext.toList ≠ [] by simpa using hExt)
    have hDot : ".".toList.length = 1 := rfl
    rw [String.toList_append, String.toList_append, List.length_append, List.length_append, hDot]
    omega
  rw [component?.eq_def]
  split
  · next hEmpty =>
    rw [hEmpty] at hLength
    cases hLength
  · next hHere =>
    rw [hHere] at hLength
    exact absurd hLength (by decide)
  · next hUp =>
    rw [hUp] at hLength
    exact absurd hLength (by decide)
  · rw [String.ofList_toList]

theorem mem_text_join {c : Char} (hRelative : (⟨name⟩ : Path).isAbsolute = false) (hSlash : c ≠ '/')
    (h : c ∈ (dir.join name).text.toList) : c ∈ dir.text.toList ∨ c ∈ name.toList := by
  rw [join_of_relative dir hRelative] at h
  split at h
  · rwa [String.toList_append, List.mem_append] at h
  · rw [String.toList_append, String.toList_append, List.mem_append, List.mem_append] at h
    rcases h with (h | h) | h
    · exact .inl h
    · exact absurd (List.mem_singleton.mp h) hSlash
    · exact .inr h

theorem templateName_ne_empty (h : p.fileName? = some file) : p.templateName ≠ "" := by
  rw [templateName_of_fileName? h]
  rcases splitName_cases file.toList with hWhole | ⟨stem, ext, hSplit, hStem, -, -⟩
  · rw [hWhole, String.ofList_toList]
    rintro rfl
    cases leadsOn_of_fileName? h
  · rw [hSplit]
    simpa using hStem

/-- The name of a template stands in its file name; with another extension nothing is in it that is
neither in the file name nor in the extension. -/
theorem not_mem_dotted (h : p.fileName? = some file) {c : Char} {ext : String} (hDot : c ≠ '.')
    (hFile : c ∉ file.toList) (hExt : c ∉ ext.toList) :
    c ∉ (p.templateName ++ "." ++ ext).toList := by
  rw [String.toList_append, String.toList_append, List.mem_append, List.mem_append]
  rintro ((hMem | hMem) | hMem)
  · refine hFile ?_
    rw [← (templateName_append_templateExt h).1, String.toList_append]
    exact List.mem_append_left _ hMem
  · exact hDot (List.mem_singleton.mp hMem)
  · exact hExt hMem

end Sibling

end TemplateBundle.Path
