import TemplateBundle.Build.Options
import TemplateBundle.Proofs.Path.Spelling

/-! Where partials are looked up. The directory may be spelled in other ways, and may be given
together with the extension as a pattern of file names. -/
namespace TemplateBundle

open TemplateBundle.Path (leadsOn)

section Placeholder

variable {name : String} {p q : Path}

theorem pieces_fillPlaceholder (p : Path) (name : String) :
    (⟨fillPlaceholder p.text name⟩ : Path).pieces = p.pieces.flatMap fun piece =>
      Text.splitOn '/' (Text.replaceAll namePlaceholder.toList name.toList piece) := by
  have hText : p.text.toList = List.intercalate ['/'] p.pieces :=
    (Text.intercalate_splitOn '/' p.text.toList).symm
  have hPieces : p.pieces.map (Text.replaceAll namePlaceholder.toList name.toList) ≠ [] := by
    simpa using p.pieces_ne_nil
  rw [Path.pieces, fillPlaceholder, String.toList_ofList, hText,
    Text.replaceAll_intercalate name.toList (by decide) (by decide),
    Text.splitOn_intercalate hPieces, List.flatMap_map]

/-- What the placeholders leave silent leads nowhere. -/
theorem moves_fillPlaceholder (p : Path) (name : String) :
    (⟨fillPlaceholder p.text name⟩ : Path).moves = p.moves.flatMap fun piece =>
      (Text.splitOn '/' (Text.replaceAll namePlaceholder.toList name.toList piece)).filter
        leadsOn := by
  rw [Path.moves, pieces_fillPlaceholder, List.filter_flatMap, Path.moves]
  induction p.pieces with
  | nil => rfl
  | cons piece rest ih =>
      rw [List.flatMap_cons, ih]
      cases hLeads : leadsOn piece with
      | true => rw [List.filter_cons_of_pos hLeads, List.flatMap_cons]
      | false =>
          have hNone : (Text.splitOn '/' (Text.replaceAll namePlaceholder.toList name.toList
              piece)).filter leadsOn = [] := by
            rcases Path.leadsOn_eq_false.mp hLeads with rfl | rfl
            · rfl
            · rw [Text.replaceAll_of_none name.toList (by decide)]
              rfl
          rw [hNone, List.nil_append, List.filter_cons_of_neg (by rw [hLeads]; decide)]

theorem isAbsolute_fillPlaceholder (p : Path) (hName : name ≠ "")
    (hRelative : (⟨name⟩ : Path).isAbsolute = false) :
    (⟨fillPlaceholder p.text name⟩ : Path).isAbsolute = p.isAbsolute := by
  obtain ⟨n, ns, hChars⟩ := List.exists_cons_of_ne_nil (show name.toList ≠ [] by simpa using hName)
  rw [Path.isAbsolute, Path.isAbsolute, fillPlaceholder, String.toList_ofList]
  rw [Path.isAbsolute, hChars] at hRelative
  by_cases hStart : ∃ rest, p.text.toList = namePlaceholder.toList ++ rest
  · obtain ⟨rest, hText⟩ := hStart
    rw [hText, Text.replaceAll_of_start name.toList (by decide), hChars]
    exact hRelative
  · cases hText : p.text.toList with
    | nil => rfl
    | cons c cs =>
        rw [Text.replaceAll_of_none]
        · rfl
        · refine Option.eq_none_iff_forall_ne_some.mpr fun rest hRest => hStart ⟨rest, ?_⟩
          rw [hText]
          exact Text.Scanner.stripStart?_eq_some.mp hRest

/-- A partial has the same file, whichever spelling of its directory is given. -/
theorem respelled_partialPath (hAbsolute : q.isAbsolute = p.isAbsolute) (hMoves : q.moves = p.moves)
    (hName : name ≠ "") (ext : String) :
    Path.Respelled (partialPath p name ext) (partialPath q name ext) := by
  have hNonempty : name ++ ext ≠ "" := by simp [hName]
  have hHead := Path.isAbsolute_append hName ext
  rw [partialPath, partialPath]
  cases hRelative : (⟨name⟩ : Path).isAbsolute with
  | true =>
      rw [Path.join_of_absolute _ (hHead.trans hRelative),
        Path.join_of_absolute _ (hHead.trans hRelative)]
      exact .refl _
  | false =>
      refine Path.respelled_join ?_ ?_ hNonempty
      · rw [isAbsolute_fillPlaceholder q hName hRelative,
          isAbsolute_fillPlaceholder p hName hRelative, hAbsolute]
      · rw [moves_fillPlaceholder, moves_fillPlaceholder, hMoves]

end Placeholder

section Pattern

variable {dir ext : String}

/-- The file names of partials: a directory, and an extension behind the placeholder. -/
def partialPattern (dir ext : String) : String := dir ++ "/" ++ namePlaceholder ++ "." ++ ext

theorem splitName_partial (hDot : '.' ∉ ext.toList) :
    Path.splitName (namePlaceholder ++ "." ++ ext).toList =
      (namePlaceholder.toList, some ext.toList) := by
  have hChars : (namePlaceholder ++ "." ++ ext).toList =
      namePlaceholder.toList ++ '.' :: ext.toList := by
    simp [String.toList_append]
  rw [Path.splitName, hChars, Text.splitOn_append, Text.splitOn_of_not_mem hDot,
    Text.splitOn_of_not_mem (by decide)]
  rfl

theorem dottedExt_dottedExt (ext : String) : dottedExt (dottedExt ext) = dottedExt ext := by
  by_cases hDotted : (ext.isEmpty || ext.toList.head? == some '.') = true
  · have hSame : dottedExt ext = ext := if_pos hDotted
    rw [hSame, hSame]
  · have hDot : dottedExt ext = "." ++ ext := if_neg hDotted
    rw [hDot, dottedExt, if_pos]
    simp [String.toList_append]

theorem pieces_partialPattern (hSlash : '/' ∉ ext.toList) :
    (⟨partialPattern dir ext⟩ : Path).pieces =
      (⟨dir⟩ : Path).pieces ++ [(namePlaceholder ++ "." ++ ext).toList] := by
  have hChars : (partialPattern dir ext).toList =
      dir.toList ++ '/' :: (namePlaceholder ++ "." ++ ext).toList := by
    simp [partialPattern, String.toList_append]
  have hNone : '/' ∉ (namePlaceholder ++ "." ++ ext).toList := by
    rw [String.toList_append, String.toList_append, List.mem_append, List.mem_append]
    rintro ((h | h) | h)
    · exact absurd h (by decide)
    · exact absurd h (by decide)
    · exact hSlash h
  rw [Path.pieces, hChars, Text.splitOn_append, Text.splitOn_of_not_mem hNone]
  rfl

/-- A pattern of file names, seen from the working directory, sets the extension that it ends in and a
directory that leads where the directory of the pattern does. -/
theorem exists_withPartials (config : BundlerConfig) (hDir : dir ≠ "")
    (hRelative : (⟨dir⟩ : Path).isAbsolute = false) (hDot : '.' ∉ ext.toList)
    (hSlash : '/' ∉ ext.toList) :
    ∃ parent : Path, parent.isAbsolute = false ∧ parent.moves = (⟨dir⟩ : Path).moves ∧
      BuildOptions.withPartials config (Path.join ⟨"."⟩ (partialPattern dir ext)) =
        { config with partialsDir? := some parent, partialsExt? := some (dottedExt ext) } := by
  let pattern := Path.join ⟨"."⟩ (partialPattern dir ext)
  have hPattern : (⟨partialPattern dir ext⟩ : Path).isAbsolute = false := by
    rw [partialPattern, String.append_assoc, String.append_assoc, String.append_assoc,
      Path.isAbsolute_append hDir, hRelative]
  have hChars : (namePlaceholder ++ "." ++ ext).toList = '$' :: '0' :: '.' :: ext.toList := by
    rw [String.toList_append, String.toList_append]
    rfl
  have hFile : leadsOn (namePlaceholder ++ "." ++ ext).toList = true := by
    rw [hChars]
    rfl
  have hMoves : pattern.moves =
      (⟨dir⟩ : Path).moves ++ [(namePlaceholder ++ "." ++ ext).toList] := by
    rw [Path.moves_join ⟨"."⟩ hPattern, Path.moves, Path.moves, Path.moves,
      pieces_partialPattern hSlash, List.filter_append, List.filter_cons_of_pos hFile]
    rfl
  have hName : pattern.fileName? = some (namePlaceholder ++ "." ++ ext) := by
    have hNamed : Path.nameOf? (namePlaceholder ++ "." ++ ext).toList =
        some (String.ofList (namePlaceholder ++ "." ++ ext).toList) := by
      rw [hChars]
      rfl
    rw [Path.fileName?_eq, hMoves, List.getLast?_concat, Option.bind_some, hNamed,
      String.ofList_toList]
  have hExtension : pattern.extension? = some ext := by
    rw [Path.extension?, hName, Option.bind_some, splitName_partial hDot]
    exact congrArg some String.ofList_toList
  cases hParent : pattern.parent? with
  | none =>
      have hNone := Path.moves_of_no_parent hParent
      rw [hMoves] at hNone
      exact absurd hNone (by simp)
  | some parent =>
      refine ⟨parent, Path.relative_of_parent? ?_ hParent, ?_, ?_⟩
      · rw [Path.isAbsolute_join ⟨"."⟩ hPattern]
        rfl
      · rw [Path.moves_of_parent? hParent, hMoves, List.dropLast_concat]
      · rw [BuildOptions.withPartials, hExtension, hParent]
        dsimp only [BundlerConfig.withPartialsDir, BundlerConfig.withPartialsExt]
        rw [dottedExt_dottedExt]

end Pattern

end TemplateBundle
