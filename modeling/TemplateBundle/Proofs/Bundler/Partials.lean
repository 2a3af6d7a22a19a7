import TemplateBundle.Proofs.Bundler.Footprint
import TemplateBundle.Proofs.Bundler.Lookups
import TemplateBundle.Proofs.Files.Names

/-! The files of partials. A partial is below the directory where partials are looked up, unless its
name is an absolute path. Where a template sets no directory it is a partial of its own, and a pattern
of file names stands for the files that come of it when its placeholders are filled. -/
namespace TemplateBundle

open TemplateBundle.Path (laterComponents leadsOn)

section Below

variable {dir : Path} {name ext : String}

theorem fillPlaceholder_ne_empty {text : String} (hText : text ≠ "") (hName : name ≠ "") :
    fillPlaceholder text name ≠ "" := by
  obtain ⟨c, cs, hChars⟩ := List.exists_cons_of_ne_nil (show text.toList ≠ [] by simpa using hText)
  have hNonempty : name.toList ≠ [] := by simpa using hName
  suffices hFilled : Text.replaceAll namePlaceholder.toList name.toList text.toList ≠ [] by
    intro hEmpty
    rw [fillPlaceholder, ← String.toList_inj, String.toList_ofList] at hEmpty
    exact hFilled hEmpty
  cases hStart : Text.stripStart? namePlaceholder.toList text.toList with
  | some rest =>
      rw [Text.Scanner.stripStart?_eq_some.mp hStart,
        Text.replaceAll_of_start name.toList (by decide)]
      exact List.append_ne_nil_of_left_ne_nil hNonempty _
  | none =>
      rw [hChars] at hStart ⊢
      rw [Text.replaceAll_of_none name.toList hStart]
      exact List.cons_ne_nil _ _

theorem isAbsolute_partial (hName : name ≠ "") (hRelative : (⟨name⟩ : Path).isAbsolute = false) :
    (⟨name ++ ext⟩ : Path).isAbsolute = false :=
  (Path.isAbsolute_append hName ext).trans hRelative

/-- The path of a partial continues the directory whose placeholders are filled. -/
theorem components_partialPath (hDir : dir.text ≠ "") (hName : name ≠ "")
    (hRelative : (⟨name⟩ : Path).isAbsolute = false) :
    (partialPath dir name ext).components =
      (⟨fillPlaceholder dir.text name⟩ : Path).components ++
        laterComponents (⟨name ++ ext⟩ : Path).moves := by
  have hFilled : (⟨fillPlaceholder dir.text name⟩ : Path).text ≠ "" :=
    fillPlaceholder_ne_empty hDir hName
  rw [partialPath]
  exact Path.components_join hFilled (isAbsolute_partial hName hRelative)

theorem partialPath_of_empty (hDir : dir.text = "") (hName : name ≠ "")
    (hRelative : (⟨name⟩ : Path).isAbsolute = false) :
    partialPath dir name ext = ⟨name ++ ext⟩ := by
  have hFilled : fillPlaceholder dir.text name = "" := by
    rw [hDir]
    rfl
  rw [partialPath, hFilled, Path.join_of_empty rfl (isAbsolute_partial hName hRelative)]

end Below

section Pattern

variable {p q dir pattern base : Path} {name ext front : String}

/-- What the placeholders stand for does not matter to the first piece of another path that begins in
the same way. -/
theorem head_pieces_fillPlaceholder (h : q.pieces.head? = p.pieces.head?) (name : String) :
    (⟨fillPlaceholder q.text name⟩ : Path).pieces.head? =
      (⟨fillPlaceholder p.text name⟩ : Path).pieces.head? := by
  have hFirst (r : Path) : (⟨fillPlaceholder r.text name⟩ : Path).pieces.head? =
      r.pieces.head?.bind fun piece =>
        (Text.splitOn '/' (Text.replaceAll namePlaceholder.toList name.toList piece)).head? := by
    rw [pieces_fillPlaceholder]
    cases hPieces : r.pieces with
    | nil => exact absurd hPieces r.pieces_ne_nil
    | cons piece rest =>
        rw [List.flatMap_cons, List.head?_append_of_ne_nil _ (Text.splitOn_ne_nil _ _)]
        rfl
  rw [hFirst, hFirst, h]

/-- The file name of a pattern, with a name in the place of the placeholder. -/
theorem fillPlaceholder_partial (hDollar : '$' ∉ ext.toList) (name : String) :
    fillPlaceholder (namePlaceholder ++ "." ++ ext) name = name ++ ("." ++ ext) := by
  have hNone : ¬ namePlaceholder.toList <:+: (".".toList ++ ext.toList) := by
    intro hInfix
    rcases List.mem_append.mp (hInfix.subset (.head _)) with h | h
    · exact absurd h (by decide)
    · exact hDollar h
  rw [fillPlaceholder, String.append_assoc, String.toList_append,
    Text.replaceAll_of_start name.toList (by decide), String.toList_append,
    Text.replaceAll_of_not_infix _ hNone, ← String.toList_append, ← String.toList_append,
    String.ofList_toList]

/-- What is looked up in the directory of a pattern, under the extension of the pattern, is the pattern
with the name in the place of the placeholders. -/
theorem components_partialPath_parent
    (hPattern : pattern.fileName? = some (namePlaceholder ++ "." ++ ext))
    (hDollar : '$' ∉ ext.toList) (hName : name ≠ "")
    (hRelative : (⟨name⟩ : Path).isAbsolute = false) :
    ∃ dir, pattern.parent? = some dir ∧
      (partialPath dir name ("." ++ ext)).components =
        (⟨fillPlaceholder pattern.text name⟩ : Path).components := by
  obtain ⟨dir, hParent, hAbsolute, hMoves, hHead⟩ := Path.exists_parent? hPattern
  refine ⟨dir, hParent, ?_⟩
  have hStays (r : Path) := isAbsolute_fillPlaceholder r hName hRelative
  have hFill := fillPlaceholder_partial hDollar name
  -- the last piece becomes the file name of the partial, which may be several pieces
  have hMoved : (⟨fillPlaceholder pattern.text name⟩ : Path).moves =
      (⟨fillPlaceholder dir.text name⟩ : Path).moves ++ (⟨name ++ ("." ++ ext)⟩ : Path).moves := by
    have hLast : (Text.splitOn '/' (Text.replaceAll namePlaceholder.toList name.toList
        (namePlaceholder ++ "." ++ ext).toList)).filter leadsOn =
        (⟨name ++ ("." ++ ext)⟩ : Path).moves := by
      rw [← hFill, Path.moves, Path.pieces, fillPlaceholder, String.toList_ofList]
    rw [moves_fillPlaceholder, Path.moves_of_fileName? hPattern, List.flatMap_append, ← hMoves,
      ← moves_fillPlaceholder, List.flatMap_singleton, hLast]
  by_cases hText : dir.text = ""
  · rw [if_pos hText] at hHead
    have hBare : (⟨namePlaceholder ++ "." ++ ext⟩ : Path).pieces.head? = pattern.pieces.head? := by
      rw [Path.pieces_of_fileName? hPattern, hHead]
      rfl
    have hStart : (⟨name ++ ("." ++ ext)⟩ : Path).start =
        (⟨fillPlaceholder pattern.text name⟩ : Path).start := by
      refine Path.start_congr ?_ ?_
      · rw [isAbsolute_partial hName hRelative, hStays, ← hAbsolute, Path.isAbsolute, hText]
        rfl
      · rw [← hFill, head_pieces_fillPlaceholder hBare name]
    have hNone : (⟨fillPlaceholder dir.text name⟩ : Path).moves = [] := by
      rw [hText]
      rfl
    rw [partialPath_of_empty hText hName hRelative, Path.components_eq, hStart, Path.components_eq,
      hMoved, hNone, List.nil_append]
  · rw [if_neg hText] at hHead
    have hStart : (⟨fillPlaceholder dir.text name⟩ : Path).start =
        (⟨fillPlaceholder pattern.text name⟩ : Path).start := by
      refine Path.start_congr ?_ (head_pieces_fillPlaceholder hHead.symm name)
      rw [hStays, hStays, hAbsolute]
    rw [components_partialPath hText hName hRelative, Path.components_eq, hStart,
      Path.components_eq, hMoved, Path.laterComponents_append, List.append_assoc]

theorem chars_partial (ext : String) :
    (namePlaceholder ++ "." ++ ext).toList = '$' :: '0' :: '.' :: ext.toList := by
  rw [String.toList_append, String.toList_append]
  rfl

/-- A pattern, seen from a directory, ends in its file name. -/
theorem fileName?_join_pattern (hFront : front = "" ∨ ∃ dir, front = dir ++ "/")
    (hSlash : '/' ∉ ext.toList) (base : Path) :
    (base.join (front ++ (namePlaceholder ++ "." ++ ext))).fileName? =
      some (namePlaceholder ++ "." ++ ext) := by
  have hChars := chars_partial ext
  have hPiece : Text.splitOn '/' (namePlaceholder ++ "." ++ ext).toList =
      [(namePlaceholder ++ "." ++ ext).toList] := by
    refine Text.splitOn_of_not_mem ?_
    simpa [hChars] using hSlash
  have hFile : Path.component? false (namePlaceholder ++ "." ++ ext).toList =
      some (.name (namePlaceholder ++ "." ++ ext)) := by
    conv_rhs => rw [← String.ofList_toList (s := namePlaceholder ++ "." ++ ext)]
    rw [hChars]
    rfl
  have hLeads : leadsOn (namePlaceholder ++ "." ++ ext).toList = true :=
    Path.leadsOn_of_component? hFile
  obtain ⟨above, hAbove⟩ : ∃ above,
      (⟨front ++ (namePlaceholder ++ "." ++ ext)⟩ : Path).moves =
        above ++ [(namePlaceholder ++ "." ++ ext).toList] := by
    rcases hFront with rfl | ⟨dir, rfl⟩
    · refine ⟨[], ?_⟩
      rw [String.empty_append, Path.moves, Path.pieces, hPiece, List.filter_cons_of_pos hLeads]
      rfl
    · refine ⟨(⟨dir⟩ : Path).moves, ?_⟩
      have hText : (dir ++ "/" ++ (namePlaceholder ++ "." ++ ext)).toList =
          dir.toList ++ '/' :: (namePlaceholder ++ "." ++ ext).toList := by
        simp [String.toList_append]
      rw [Path.moves, Path.pieces, hText, Text.splitOn_append, hPiece, List.filter_append,
        List.filter_cons_of_pos hLeads]
      rfl
  obtain ⟨more, hMore⟩ := Path.exists_moves_join base (front ++ (namePlaceholder ++ "." ++ ext))
  rw [hAbove, ← List.append_assoc] at hMore
  exact Path.fileName?_of_moves hMore hFile

end Pattern

namespace Bundler

section Reading

variable {tree : FileTree} {config : BundlerConfig} {b : Bundling} {body name : String}

/-- The directory in which a partial is looked up: the placeholders are filled with its name. -/
def partialDirectory (config : BundlerConfig) (b : Bundling) (name : String) : Path :=
  ⟨fillPlaceholder (config.partialsDir?.getD (b.file?.getD ⟨""⟩).templateDir).text name⟩

/-- The file name under which a partial is looked up. -/
def partialFileName (config : BundlerConfig) (b : Bundling) (name : String) : String :=
  name ++ config.partialsExt?.getD (b.file?.getD ⟨""⟩).templateExt

/-- What is fetched for a partial is what is read from its file. -/
theorem outcome_fetch_storeFor (tree : FileTree) (config : BundlerConfig) (b : Bundling)
    (name : String) :
    ((storeFor tree config b).fetch name).outcome =
      (tree.readText (partialFile config b name)).mapError
        (.partialNotFound name (partialFile config b name)) := by
  rw [partialFile]
  rfl

/-- Every partial that is fetched is read from its file. The path of the file begins as the directory
does where partials are looked up, with the placeholders filled, and goes on as the file name does;
but a name that begins with a slash is a path of its own, wherever partials are looked up. -/
theorem partialFile_fetched
    (hName : name ∈ (resolve body (storeFor tree config b)).fetched) :
    ((storeFor tree config b).fetch name).outcome =
      (tree.readText (partialFile config b name)).mapError
        (.partialNotFound name (partialFile config b name)) ∧
    ((⟨name⟩ : Path).isAbsolute = false →
      (partialFile config b name).components =
        (partialDirectory config b name).components ++
          if (partialDirectory config b name).text = "" then
            (⟨partialFileName config b name⟩ : Path).components
          else (⟨partialFileName config b name⟩ : Path).components.filter (· ≠ .here)) ∧
    ((⟨name⟩ : Path).isAbsolute = true →
      partialFile config b name = ⟨partialFileName config b name⟩) := by
  have hNonempty := (Resolution.reachable_of_mem_fetched hName).ne_empty
  refine ⟨outcome_fetch_storeFor tree config b name, fun hRelative => ?_, fun hAbsolute => ?_⟩
  · have hFileName : (⟨partialFileName config b name⟩ : Path).isAbsolute = false :=
      isAbsolute_partial hNonempty hRelative
    have hJoin : partialFile config b name =
        (partialDirectory config b name).join (partialFileName config b name) := rfl
    by_cases hDir : (partialDirectory config b name).text = ""
    · have hNone : (partialDirectory config b name).components = [] := by
        rw [Path.components, Path.pieces, Path.isAbsolute, hDir]
        rfl
      rw [if_pos hDir, hJoin, Path.join_of_empty hDir hFileName, hNone, List.nil_append]
    · rw [if_neg hDir, hJoin, Path.components_join hDir hFileName, Path.filter_components hFileName]
  · exact Path.join_of_absolute _ ((Path.isAbsolute_append hNonempty _).trans hAbsolute)

/-- A page that includes a partial in a directory of its own. -/
theorem partialFile_fetched_nested :
    let config : BundlerConfig := { partialsDir? := some ⟨"parts/$0"⟩, partialsExt? := some ".hbs" }
    let page : Bundling := { file? := some ⟨"page.hbs"⟩ }
    let name := "./nav//top"
    name ∈ (resolve "\x7b\x7b> ./nav//top\x7d\x7d" (storeFor ⟨[], []⟩ config page)).fetched ∧
      (⟨name⟩ : Path).isAbsolute = false ∧
      (partialFile config page name).components =
        (partialDirectory config page name).components ++ [.name "nav", .name "top.hbs"] := by
  intro config page name
  have hName : name ∈
      (resolve "\x7b\x7b> ./nav//top\x7d\x7d" (storeFor ⟨[], []⟩ config page)).fetched := by
    decide +kernel
  have hRelative : (⟨name⟩ : Path).isAbsolute = false := by decide
  refine ⟨hName, hRelative, ?_⟩
  rw [(partialFile_fetched hName).2.1 hRelative]
  decide +kernel

/-- A page whose partial is read from outside the directory where partials are looked up. -/
theorem partialFile_escapes :
    let config : BundlerConfig := { partialsDir? := some ⟨"parts"⟩, partialsExt? := some ".hbs" }
    let page : Bundling := { file? := some ⟨"page.hbs"⟩ }
    "/x" ∈ (resolve "\x7b\x7b> /x\x7d\x7d" (storeFor ⟨[], []⟩ config page)).fetched ∧
      ¬ (partialDirectory config page "/x").components <+:
        (partialFile config page "/x").components := by
  decide +kernel

end Reading

section Pattern

/-- A pattern of file names for partials stands for what it is when every placeholder in it is filled
with the name of the partial, wherever the pattern is seen from and whatever the template is. -/
theorem partialOf_pattern {o : BuildOptions} {front ext name : String}
    (hPartials : o.partials = some (front ++ (namePlaceholder ++ "." ++ ext)))
    (hFront : front = "" ∨ ∃ dir, front = dir ++ "/") (hExt : ext ≠ "") (hDot : '.' ∉ ext.toList)
    (hSlash : '/' ∉ ext.toList) (hDollar : '$' ∉ ext.toList) (hName : name ≠ "")
    (hRelative : (⟨name⟩ : Path).isAbsolute = false) (base source : Path) :
    (partialOf (o.bundlerConfig base) source name).same
      ⟨fillPlaceholder (base.join (front ++ (namePlaceholder ++ "." ++ ext))).text name⟩ = true := by
  have hPattern := fileName?_join_pattern hFront hSlash base
  obtain ⟨dir, hParent, hSame⟩ := components_partialPath_parent hPattern hDollar hName hRelative
  have hExtension :
      (base.join (front ++ (namePlaceholder ++ "." ++ ext))).extension? = some ext := by
    rw [Path.extension?, hPattern, Option.bind_some, splitName_partial hDot]
    exact congrArg some String.ofList_toList
  have hDotted : dottedExt ext = "." ++ ext := by
    refine if_neg ?_
    rw [Bool.or_eq_true, not_or]
    refine ⟨by simpa using hExt, fun hHead => hDot ?_⟩
    exact List.mem_of_mem_head? (beq_iff_eq.mp hHead)
  have hConfig : (o.bundlerConfig base).partialsDir? = some dir ∧
      (o.bundlerConfig base).partialsExt? = some ("." ++ ext) := by
    rw [BuildOptions.bundlerConfig, hPartials]
    dsimp only
    rw [BuildOptions.withPartials, hExtension, hParent, ← hDotted]
    cases o.helpers with
    | none => exact ⟨rfl, congrArg some (dottedExt_dottedExt ext)⟩
    | some helpers => exact ⟨rfl, congrArg some (dottedExt_dottedExt ext)⟩
  rw [partialOf, hConfig.1, hConfig.2]
  exact beq_iff_eq.mpr hSame

/-- A pattern with a placeholder for a directory, and a name with dots, slashes and a placeholder. -/
theorem partialOf_pattern_nested :
    let o : BuildOptions := { partials := some "parts//$0/./$0.hbs" }
    (partialOf (o.bundlerConfig ⟨"site/"⟩) ⟨"page.hbs"⟩ "a.b/$0").same
      ⟨"site/parts//a.b/$0/./a.b/$0.hbs"⟩ = true := by
  intro o
  have hFilled : fillPlaceholder (Path.join ⟨"site/"⟩ "parts//$0/./$0.hbs").text "a.b/$0" =
      "site/parts//a.b/$0/./a.b/$0.hbs" := by decide +kernel
  have hPartials : o.partials =
      some ("parts//$0/./" ++ (namePlaceholder ++ "." ++ "hbs")) := by decide +kernel
  have hText : "parts//$0/./" ++ (namePlaceholder ++ "." ++ "hbs") = "parts//$0/./$0.hbs" := by
    decide +kernel
  have hRelative : (⟨"a.b/$0"⟩ : Path).isAbsolute = false := by decide
  have hSame := partialOf_pattern hPartials (.inr ⟨"parts//$0/.", by decide +kernel⟩) (by decide)
    (by decide) (by decide) (by decide) (by decide) hRelative ⟨"site/"⟩ ⟨"page.hbs"⟩
  rwa [hText, hFilled] at hSame

end Pattern

section Own

/-- The name of a template and its extension are its file name. So a template is a partial of its own
where it is not set where partials are looked up: the path is that of the template, with a dot in
front if no directory is written, and the file is that of the template. -/
theorem partialOf_self {p : Path} {file : String} (hName : p.fileName? = some file) :
    p.templateName ++ p.templateExt = file ∧
    (p.templateExt = "" ∨ ∃ ext, p.templateExt = "." ++ ext ∧ '.' ∉ ext.toList) ∧
    (¬ namePlaceholder.toList <:+: p.templateDir.text.toList →
      (partialPath p.templateDir p.templateName p.templateExt).components =
        (if p.components = [.name file] then .here :: p.components else p.components) ∧
      ∀ (config : BundlerConfig) (tree : FileTree), config.partialsDir? = none →
        config.partialsExt? = none → tree.isFile p = true →
        tree.find (partialOf config p p.templateName) = tree.find p) := by
  obtain ⟨hWhole, hExt⟩ := Path.templateName_append_templateExt hName
  refine ⟨hWhole, hExt, fun hNone => ?_⟩
  have hPartial :
      partialPath p.templateDir p.templateName p.templateExt = p.templateDir.join file := by
    rw [partialPath, fillPlaceholder, Text.replaceAll_of_not_infix _ hNone, String.ofList_toList,
      hWhole]
  refine ⟨?_, fun config tree hDir hExt hFile => ?_⟩
  · rw [hPartial, Path.components_templateDir hName]
  · rw [partialOf, hDir, hExt]
    exact (congrArg tree.find hPartial).trans (FileTree.find_templateDir_join hFile hName)

/-- A page with two dots in its name. -/
theorem partialOf_self_page :
    let tree : FileTree := ⟨[(["site"], .directory), (["site", "page.en.hbs"], .file [])], []⟩
    let page : Path := ⟨"site//./page.en.hbs"⟩
    page.fileName? = some "page.en.hbs" ∧
      ¬ namePlaceholder.toList <:+: page.templateDir.text.toList ∧
      tree.isFile page = true ∧
      (partialPath page.templateDir page.templateName page.templateExt).components =
        [.name "site", .name "page.en.hbs"] ∧
      tree.find (partialOf {} page page.templateName) = tree.find page := by
  intro tree page
  have hPage : page.fileName? = some "page.en.hbs" := by decide +kernel
  have hNone : ¬ namePlaceholder.toList <:+: page.templateDir.text.toList := by decide +kernel
  have hFile : tree.isFile page = true := by decide +kernel
  obtain ⟨-, -, hOwn⟩ := partialOf_self hPage
  obtain ⟨hComponents, hFind⟩ := hOwn hNone
  have hPath : page.components = [.name "site", .name "page.en.hbs"] := by decide +kernel
  rw [hPath, if_neg (by decide)] at hComponents
  exact ⟨hPage, hNone, hFile, hComponents, hFind {} tree rfl rfl hFile⟩

end Own

end Bundler
end TemplateBundle
