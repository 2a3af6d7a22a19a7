import TemplateBundle.Build.Build
import TemplateBundle.Proofs.Bundler.Contexts
import TemplateBundle.Proofs.Bundler.Origins
import TemplateBundle.Proofs.Bundler.Streams
import TemplateBundle.Proofs.Files.Names

/-! The data of the templates of a build. A template is rendered with what the first data file of its
name holds, beside the template or in a directory for data. -/
namespace TemplateBundle

open Json (Members Value)

/-- The object that data stand for: null stands for an empty one. -/
def objectOf? : Value → Option Members
  | .null => some []
  | .object members => some members
  | _ => none

/-- The kinds of data files in the order in which they are looked for, each with what its texts stand
for. -/
def dataFormats : List (String × (String → Option Value)) :=
  [("json", fun text => (Json.parse text).toOption), ("yml", Yaml.ofText?), ("yaml", Yaml.ofText?)]

/-- The object in the first data file that is there. If none is there it is an empty one, but the path
that is looked up for it has to fit. -/
def firstData? (tree : FileTree) (fileOf : String → Path) : Option Members :=
  match dataFormats.find? fun format => tree.pathExists (fileOf format.1) with
  | some (ext, parse) =>
    (tree.readText (fileOf ext)).toOption.bind fun text => (parse text).bind objectOf?
  | none => if (fileOf "json").Fits then some [] else none

section Reading

variable {tree : FileTree} {path : Path} {text : String}

theorem toOption_dataOf (path : Path) (text : String) :
    (ContextSource.dataOf path text).toOption =
      ((ContextSource.parse path text).toOption.bind objectOf?).map .object := by
  rw [ContextSource.dataOf]
  cases ContextSource.parse path text with
  | error cause => rfl
  | ok value => cases value <;> rfl

/-- A data file of a kind is read as its extension says. -/
theorem toOption_parse {ext : String} {parse : String → Option Value}
    (hFormat : (ext, parse) ∈ dataFormats) (hExt : path.extension? = some ext) (text : String) :
    (ContextSource.parse path text).toOption = parse text := by
  have hYaml : path.isYaml = (ext == "yml" || ext == "yaml") := by
    rw [Path.isYaml, hExt]
    rfl
  have hFromYaml (hName : path.isYaml = true) :
      (ContextSource.parse path text).toOption = Yaml.ofText? text := by
    rw [ContextSource.parse, if_pos hName]
    cases Yaml.ofText? text with
    | none => rfl
    | some value => rfl
  simp only [dataFormats, List.mem_cons, List.not_mem_nil, or_false, Prod.mk.injEq] at hFormat
  rcases hFormat with ⟨rfl, rfl⟩ | ⟨rfl, rfl⟩ | ⟨rfl, rfl⟩
  · rw [ContextSource.parse, hYaml, if_neg (by decide)]
    dsimp only
    cases Json.parse text with
    | error fault => rfl
    | ok value => rfl
  · exact hFromYaml (hYaml.trans (by decide))
  · exact hFromYaml (hYaml.trans (by decide))

/-- What is there is not missing, even if it cannot be read. -/
theorem readText_ne_notFound (h : tree.pathExists path = true) :
    tree.readText path ≠ .error .notFound := by
  intro hMissing
  rw [FileTree.pathExists] at h
  cases hFind : tree.find path with
  | error e =>
      rw [hFind] at h
      cases h
  | ok found =>
      obtain ⟨place, entry⟩ := found
      rw [FileTree.readText, FileTree.read, hFind] at hMissing
      cases entry with
      | directory => cases hMissing
      | file bytes =>
          dsimp only [bind, Except.bind] at hMissing
          split at hMissing
          · cases hMissing
          · cases hMissing

end Reading

section Candidates

variable {tree : FileTree} {stem ext : String} {fileOf : String → Path}

/-- The data files of a name: they are in one directory, and differ in their extensions. -/
structure DataFiles (tree : FileTree) (stem : String) (fileOf : String → Path) : Prop where
  names : ∃ place, tree.get? place = some .directory ∧ ∀ format ∈ dataFormats,
    tree.NamesIn place (stem ++ "." ++ format.1) (fileOf format.1)
  noNul : ∀ format ∈ dataFormats, Char.ofNat 0 ∉ (fileOf format.1).text.toList
  extension : ∀ format ∈ dataFormats, (fileOf format.1).extension? = some format.1
  others : ∀ format ∈ dataFormats,
    (fileOf "json").withExtension format.1 = fileOf format.1

/-- Extensions of data files are not empty, and plain. -/
theorem plain_of_mem_dataFormats {format : String × (String → Option Value)}
    (h : format ∈ dataFormats) : format.1 ≠ "" ∧ '.' ∉ format.1.toList ∧
      '/' ∉ format.1.toList ∧ Char.ofNat 0 ∉ format.1.toList := by
  have hAll : ∀ format ∈ dataFormats, format.1 ≠ "" ∧ '.' ∉ format.1.toList ∧
      '/' ∉ format.1.toList ∧ Char.ofNat 0 ∉ format.1.toList := by decide
  exact hAll format h

/-- Files of a directory that are written behind the same pieces, under a name that is no lone dot. -/
theorem DataFiles.of_pieces {above : List (List Char)} {place : Location} (hStem : stem ≠ "")
    (hDot : stem ≠ ".") (hDirectory : tree.get? place = some .directory)
    (hNames : ∀ format ∈ dataFormats,
      tree.NamesIn place (stem ++ "." ++ format.1) (fileOf format.1))
    (hNul : ∀ format ∈ dataFormats, Char.ofNat 0 ∉ (fileOf format.1).text.toList)
    (hPieces : ∀ format ∈ dataFormats,
      (fileOf format.1).pieces = above ++ [(stem ++ "." ++ format.1).toList]) :
    DataFiles tree stem fileOf where
  names := ⟨place, hDirectory, hNames⟩
  noNul := hNul
  extension format hFormat :=
    (Path.extension?_of_fileName? (hNames format hFormat).fileName? hStem
      (plain_of_mem_dataFormats hFormat).2.1).2
  others format hFormat := by
    have hJson : ("json", fun text => (Json.parse text).toOption) ∈ dataFormats := .head _
    have hName := (hNames _ hJson).fileName?
    have hSame := (Path.extension?_of_fileName? hName hStem (by decide)).1
    rw [Path.withExtension_eq_sibling hName (hPieces _ hJson) (hSame ▸ hDot), hSame,
      Path.sibling_eq (hPieces _ hJson), ← hPieces format hFormat, Path.joinPieces_pieces]

/-- The data file that is taken: the first that is there, or one that is not. -/
def chosenFile (tree : FileTree) (fileOf : String → Path) : Path :=
  match dataFormats.find? fun format => tree.pathExists (fileOf format.1) with
  | some format => fileOf format.1
  | none => fileOf "json"

/-- The candidate for the data file gives way to the first data file that is there. -/
theorem DataFiles.fallback (h : DataFiles tree stem fileOf) :
    (if tree.pathExists (fileOf "json") || (fileOf "json").extension? != some "json" then
        fileOf "json"
      else match [(fileOf "json").withExtension "yml", (fileOf "json").withExtension "yaml"].find?
          tree.pathExists with
        | some path => path
        | none => fileOf "json") = chosenFile tree fileOf := by
  have hYml : (fileOf "json").withExtension "yml" = fileOf "yml" :=
    h.others ("yml", Yaml.ofText?) (.tail _ (.head _))
  have hYaml : (fileOf "json").withExtension "yaml" = fileOf "yaml" :=
    h.others ("yaml", Yaml.ofText?) (.tail _ (.tail _ (.head _)))
  have hJson : (fileOf "json").extension? = some "json" :=
    h.extension ("json", fun text => (Json.parse text).toOption) (.head _)
  rw [hYml, hYaml, hJson, bne_self_eq_false, Bool.or_false]
  simp only [chosenFile, dataFormats, List.find?_cons, List.find?_nil]
  cases tree.pathExists (fileOf "json") with
  | true => rfl
  | false =>
      cases tree.pathExists (fileOf "yml") with
      | true => rfl
      | false =>
          cases tree.pathExists (fileOf "yaml") with
          | true => rfl
          | false => rfl

/-- The data file that is taken gives the object of the first data file, or is refused. -/
theorem DataFiles.load_chosenFile (h : DataFiles tree stem fileOf) :
    match firstData? tree fileOf with
    | some members => ∃ context, (ContextSource.file (chosenFile tree fileOf)).load tree =
        .ok context ∧ context.data = .object members
    | none => ∃ e, (ContextSource.file (chosenFile tree fileOf)).load tree = .error e := by
  rw [firstData?, chosenFile]
  cases hFirst : dataFormats.find? fun format => tree.pathExists (fileOf format.1) with
  | none =>
      obtain ⟨place, hDirectory, hNames⟩ := h.names
      have hAbsent : tree.pathExists (fileOf "json") = false := by
        simpa using List.find?_eq_none.mp hFirst _ (.head _)
      have hText := (hNames _ (.head _)).readText_of_absent hDirectory (h.noNul _ (.head _)) hAbsent
      dsimp only
      rw [ContextSource.load, hText]
      by_cases hFits : (fileOf "json").Fits
      · rw [if_pos hFits, if_pos hFits]
        exact ⟨_, rfl, rfl⟩
      · rw [if_neg hFits, if_neg hFits]
        exact ⟨_, rfl⟩
  | some format =>
      obtain ⟨ext, parse⟩ := format
      have hExists : tree.pathExists (fileOf ext) = true := by
        simpa using List.find?_some hFirst
      have hFormat := List.mem_of_find?_eq_some hFirst
      dsimp only
      rw [ContextSource.load]
      cases hText : tree.readText (fileOf ext) with
      | error e =>
          have hOther : e ≠ .notFound := fun hMissing =>
            readText_ne_notFound hExists (hMissing ▸ hText)
          dsimp only [Except.toOption, Option.bind]
          rw [if_neg hOther]
          exact ⟨_, rfl⟩
      | ok text =>
          have hData := toOption_dataOf (fileOf ext) text
          rw [toOption_parse hFormat (h.extension _ hFormat)] at hData
          dsimp only [Except.toOption, Option.bind_some]
          cases hRead : ContextSource.dataOf (fileOf ext) text with
          | error cause =>
              rw [hRead] at hData
              rw [Option.map_eq_none_iff.mp hData.symm]
              exact ⟨_, rfl⟩
          | ok data =>
              rw [hRead] at hData
              obtain ⟨members, hMembers, rfl⟩ := Option.map_eq_some_iff.mp hData.symm
              rw [hMembers]
              exact ⟨_, rfl, rfl⟩

end Candidates

namespace BuildOptions

variable {o : BuildOptions} {tree : FileTree} {base source : Path} {file : String}

/-- The data file of a kind: in the directory that is named, or else beside the template. -/
def dataFile (o : BuildOptions) (base source : Path) (ext : String) : Path :=
  match o.data with
  | some (.path text) =>
    (base.join (fillPlaceholder text source.templateName)).join (source.templateName ++ "." ++ ext)
  | _ => source.sibling (source.templateName ++ "." ++ ext)

/-- Data are looked for under the name of the template: beside it, or in a directory. -/
inductive LooksForData (o : BuildOptions) (tree : FileTree) (base source : Path) : Prop where
  | unset (h : o.data = none)
  | beside (h : o.data = some (.enabled true))
  | within {text : String} (h : o.data = some (.path text))
      (hDirectory :
        tree.isDirectory (base.join (fillPlaceholder text source.templateName)) = true)

section Names

variable (hName : source.fileName? = some file) {format : String × (String → Option Value)}
  (hFormat : format ∈ dataFormats)
include hName hFormat

theorem component?_dataName :
    Path.component? false (source.templateName ++ "." ++ format.1).toList =
      some (.name (source.templateName ++ "." ++ format.1)) :=
  Path.component?_dotted (Path.templateName_ne_empty hName) (plain_of_mem_dataFormats hFormat).1

theorem noSlash_dataName : '/' ∉ (source.templateName ++ "." ++ format.1).toList :=
  Path.not_mem_dotted hName (by decide) (Path.not_mem_of_fileName? hName)
    (plain_of_mem_dataFormats hFormat).2.2.1

theorem noNul_dataName (hNul : Char.ofNat 0 ∉ file.toList) :
    Char.ofNat 0 ∉ (source.templateName ++ "." ++ format.1).toList :=
  Path.not_mem_dotted hName (by decide) hNul (plain_of_mem_dataFormats hFormat).2.2.2

end Names

/-- Beside a template its data files are in the directory of the template. -/
theorem dataFiles_sibling (hFile : tree.isFile source = true) (hName : source.fileName? = some file)
    (hDot : source.templateName ≠ ".") :
    DataFiles tree source.templateName
      fun ext => source.sibling (source.templateName ++ "." ++ ext) := by
  obtain ⟨above, hPieces, hNulAbove, hNul⟩ := FileTree.exists_noNul_of_isFile hFile hName
  obtain ⟨place, hDirectory, -, hHere⟩ := FileTree.exists_namesIn_of_isFile hFile hName
  have hWritten (format : String × (String → Option Value)) (hFormat : format ∈ dataFormats) :
      (source.sibling (source.templateName ++ "." ++ format.1)).pieces =
        above ++ [(source.templateName ++ "." ++ format.1).toList] :=
    Path.pieces_sibling hPieces (noSlash_dataName hName hFormat)
  refine .of_pieces (Path.templateName_ne_empty hName) hDot hDirectory (fun format hFormat => ?_)
    (fun format hFormat => ?_) hWritten
  · exact hHere.beside hPieces (hWritten format hFormat) (component?_dataName hName hFormat)
  · rw [FileTree.noNul_iff, hWritten format hFormat, List.forall_mem_append,
      List.forall_mem_singleton]
    exact ⟨hNulAbove, noNul_dataName hName hFormat hNul⟩

/-- In a directory the data files of a template are named after it. -/
theorem dataFiles_within {dir : Path} (hFile : tree.isFile source = true)
    (hName : source.fileName? = some file) (hDot : source.templateName ≠ ".")
    (hDirectory : tree.isDirectory dir = true) :
    DataFiles tree source.templateName
      fun ext => dir.join (source.templateName ++ "." ++ ext) := by
  obtain ⟨_, -, -, hNul⟩ := FileTree.exists_noNul_of_isFile hFile hName
  obtain ⟨place, hPlace, hNulDir, hHere⟩ := FileTree.exists_namesIn_of_isDirectory hDirectory
  obtain ⟨front, hWritten⟩ := Path.exists_pieces_join dir
  refine .of_pieces (Path.templateName_ne_empty hName) hDot hPlace (fun format hFormat => ?_)
    (fun format hFormat hMem => ?_) fun format hFormat => hWritten _ (noSlash_dataName hName hFormat)
  · exact hHere _ (noSlash_dataName hName hFormat) (component?_dataName hName hFormat)
  · have hRelative := Path.relative_of_not_mem (noSlash_dataName hName hFormat)
    rcases Path.mem_text_join hRelative (by decide) hMem with hMem | hMem
    · exact hNulDir hMem
    · exact noNul_dataName hName hFormat hNul hMem

theorem dataFile_of_path {text : String} (h : o.data = some (.path text)) (ext : String) :
    o.dataFile base source ext =
      (base.join (fillPlaceholder text source.templateName)).join
        (source.templateName ++ "." ++ ext) := by
  rw [dataFile, h]

theorem dataFile_of_no_path (h : ∀ text, o.data ≠ some (.path text)) (ext : String) :
    o.dataFile base source ext = source.sibling (source.templateName ++ "." ++ ext) := by
  unfold dataFile
  split
  · next text hPath => exact absurd hPath (h text)
  · rfl

theorem dataFiles (hFile : tree.isFile source = true) (hName : source.fileName? = some file)
    (hDot : source.templateName ≠ ".") (hLooks : o.LooksForData tree base source) :
    DataFiles tree source.templateName (o.dataFile base source) := by
  have hBeside (h : ∀ text, o.data ≠ some (.path text)) :
      DataFiles tree source.templateName (o.dataFile base source) := by
    rw [funext (dataFile_of_no_path h)]
    exact dataFiles_sibling hFile hName hDot
  cases hLooks with
  | unset h => exact hBeside (by simp [h])
  | beside h => exact hBeside (by simp [h])
  | within h hDirectory =>
      rw [funext (dataFile_of_path h)]
      exact dataFiles_within hFile hName hDot hDirectory

/-- The path of the data that a build takes is that of the data file that is taken. -/
theorem dataPath?_eq (hRenders : o.isPrecompile = false) (hFile : tree.isFile source = true)
    (hName : source.fileName? = some file) (hDot : source.templateName ≠ ".")
    (hLooks : o.LooksForData tree base source) :
    o.dataPath? tree source base = some (chosenFile tree (o.dataFile base source)) := by
  have hCandidate : o.dataCandidate? tree source base = some (o.dataFile base source "json") := by
    obtain ⟨above, hPieces⟩ := FileTree.exists_pieces_of_isFile hFile hName
    have hBeside := Path.withExtension_eq_sibling hName hPieces hDot "json"
    cases hLooks with
    | unset h => simp [dataCandidate?, h, hRenders, hBeside, dataFile_of_no_path]
    | beside h => simp [dataCandidate?, h, hBeside, dataFile_of_no_path]
    | within h hDirectory =>
        simp only [dataCandidate?, h, hDirectory, if_true, dataFile_of_path h, String.append_assoc]
        rfl
  have hFallback := (dataFiles hFile hName hDot hLooks).fallback
  rw [dataPath?, hCandidate, Option.map_some]
  exact congrArg some hFallback

end BuildOptions

namespace BuildTarget

open FileTree (alone maxNameBytes)

variable {o : BuildOptions} {tree : FileTree} {base source : Path}

theorem bundleTemplate_of_renders (hRenders : o.isPrecompile = false) :
    (bundleTemplate o base source tree : Bundler.Work Unit String) =
      Bundler.compile tree (.file source) ((o.dataPath? tree source base).map .file) := by
  rw [bundleTemplate, if_neg (by rw [hRenders]; decide)]

/-- A template fails if there is no object in the first data file. -/
theorem exists_error_bundleTemplate (hRenders : o.isPrecompile = false)
    (hLooks : o.LooksForData tree base source) (hFile : tree.isFile source = true)
    (hNamed : source.fileName?.isSome) (hDot : source.templateName ≠ ".")
    (hData : firstData? tree (o.dataFile base source) = none) (bundler : Bundler Unit) :
    ∃ e, ((bundleTemplate o base source tree).on bundler).1 = .error e := by
  obtain ⟨file, hName⟩ := Option.isSome_iff_exists.mp hNamed
  have hLoad := (BuildOptions.dataFiles hFile hName hDot hLooks).load_chosenFile
  rw [hData] at hLoad
  obtain ⟨e, hLoad⟩ := hLoad
  have hContext : Bundling.context? tree { contextSource? :=
      (some (.file (chosenFile tree (o.dataFile base source)))) } = .error e :=
    congrArg (Except.map some) hLoad
  rw [bundleTemplate_of_renders hRenders, BuildOptions.dataPath?_eq hRenders hFile hName hDot hLooks]
  exact Bundler.exists_error_compile hContext (.file source) bundler

/-- A page whose name has two dots, and a directory of data that is named after it. -/
def besideDirectory : FileTree :=
  ⟨[(["a.b.hbs"], .file (Text.encode "x")), (["data.d"], .directory),
    (["data.d", "a.b"], .directory),
    (["data.d", "a.b", "a.b.yaml"], .file (Text.encode "# nothing\n"))], []⟩

section LongName

variable {o : BuildOptions} {stem ext : String}

/-- The page of a stem. -/
def pageOf (stem : String) : Path := ⟨stem ++ "." ++ "hbs"⟩

variable (hStem : stem ≠ "") (hSlash : '/' ∉ stem.toList) (hNul : Char.ofNat 0 ∉ stem.toList)
  (hSize : stem.utf8ByteSize = maxNameBytes - 4)
include hStem hSlash hNul hSize

/-- If the name of a page is as long as a name may be, a file with a longer extension is not looked up
beside it. -/
theorem find_long (bytes : List UInt8) (hExt : ext ∈ "hbs" :: dataFormats.map Prod.fst) :
    (⟨stem ++ "." ++ ext⟩ : Path).fileName? = some (stem ++ "." ++ ext) ∧
      (alone (pageOf stem).text bytes).find ⟨stem ++ "." ++ ext⟩ =
        if ext.utf8ByteSize ≤ 3 then
          if ext = "hbs" then .ok ([(pageOf stem).text], .file bytes) else .error .notFound
        else .error .nameTooLong := by
  have hPlain : ∀ ext ∈ "hbs" :: dataFormats.map Prod.fst,
      ext ≠ "" ∧ '/' ∉ ext.toList ∧ Char.ofNat 0 ∉ ext.toList := by decide
  obtain ⟨hExt, hSlashExt, hNulExt⟩ := hPlain ext hExt
  have hName := Path.component?_dotted hStem hExt
  have hSlashName : '/' ∉ (stem ++ "." ++ ext).toList := by simp [hSlash, hSlashExt]
  have hNulName : Char.ofNat 0 ∉ (stem ++ "." ++ ext).toList := by simp [hNul, hNulExt]
  have hLength : (stem ++ "." ++ ext).utf8ByteSize ≤ maxNameBytes ↔ ext.utf8ByteSize ≤ 3 := by
    have hDot : ".".utf8ByteSize = 1 := by decide
    have hMax : maxNameBytes = 255 := rfl
    rw [String.utf8ByteSize_append, String.utf8ByteSize_append, hSize, hDot]
    omega
  refine ⟨((alone "" []).namesIn_workingDirectory hSlashName hName).fileName?, ?_⟩
  rw [FileTree.find_alone hName hSlashName hNulName]
  simp only [hLength]
  by_cases hSame : ext = "hbs"
  · rw [hSame]
    exact congrArg (ite _ · _) (if_pos rfl)
  · have hOther : stem ++ "." ++ ext ≠ (pageOf stem).text := by simpa [pageOf] using hSame
    rw [if_neg hSame, if_neg hOther]

/-- A page with such a name that stands alone has no data, and its path is too long to be given empty
ones. -/
theorem firstData?_long (bytes : List UInt8) (hData : o.data = none) :
    let page := pageOf stem
    let tree := alone page.text bytes
    page.fileName?.isSome ∧ page.templateName = stem ∧
      tree.find page = .ok ([page.text], .file bytes) ∧
      (∀ format ∈ dataFormats, tree.pathExists (o.dataFile ⟨"."⟩ page format.1) = false) ∧
      firstData? tree (o.dataFile ⟨"."⟩ page) = none := by
  intro page tree
  have hFind {ext : String} (hExt : ext ∈ "hbs" :: dataFormats.map Prod.fst) :=
    find_long hStem hSlash hNul hSize bytes hExt
  obtain ⟨hName, hPage⟩ := hFind (.head _)
  have hTemplate : page.templateName = stem :=
    (Path.extension?_of_fileName? hName hStem (by decide)).1
  have hBeside (ext : String) : o.dataFile ⟨"."⟩ page ext = ⟨stem ++ "." ++ ext⟩ := by
    have hPieces : page.pieces = [] ++ [(stem ++ "." ++ "hbs").toList] :=
      Path.pieces_of_fileName? hName
    rw [BuildOptions.dataFile_of_no_path (by simp [hData]), hTemplate, Path.sibling_eq hPieces,
      Path.joinPieces, List.nil_append, List.intercalate_singleton, String.ofList_toList]
  have hAbsent : ∀ format ∈ dataFormats,
      tree.pathExists (o.dataFile ⟨"."⟩ page format.1) = false := by
    intro format hFormat
    have hOther : ∀ format ∈ dataFormats, format.1 ≠ "hbs" := by decide
    rw [hBeside, FileTree.pathExists, (hFind (.tail _ (List.mem_map_of_mem hFormat))).2,
      if_neg (hOther format hFormat)]
    split
    · rfl
    · rfl
  refine ⟨Option.isSome_of_mem hName, hTemplate, hPage, hAbsent, ?_⟩
  have hNone : (dataFormats.find? fun format =>
      tree.pathExists (o.dataFile ⟨"."⟩ page format.1)) = none :=
    List.find?_eq_none.mpr fun format hFormat => by simp [hAbsent format hFormat]
  have hLong : ¬ (o.dataFile ⟨"."⟩ page "json").Fits := by
    intro hFits
    rw [hBeside] at hFits
    have hShort := hFits.2 _ (hFind (.tail _ (.head _))).1
    rw [String.utf8ByteSize_append, String.utf8ByteSize_append, hSize] at hShort
    exact absurd hShort (by decide)
  rw [firstData?, hNone]
  exact if_neg hLong

/-- A page with such a name fails if it stands alone. -/
theorem exists_error_long (bytes : List UInt8) (hLone : stem ≠ ".")
    (hRenders : o.isPrecompile = false) (hData : o.data = none) (bundler : Bundler Unit) :
    let tree := alone (pageOf stem).text bytes
    tree.read (pageOf stem) = .ok bytes ∧
      (∀ format ∈ dataFormats, tree.pathExists (o.dataFile ⟨"."⟩ (pageOf stem) format.1) = false) ∧
      ∃ e, ((bundleTemplate o ⟨"."⟩ (pageOf stem) tree).on bundler).1 = .error e := by
  intro tree
  obtain ⟨hNamed, hTemplate, hFind, hAbsent, hNothing⟩ :=
    firstData?_long hStem hSlash hNul hSize bytes hData
  have hRead : tree.read (pageOf stem) = .ok bytes := by
    rw [FileTree.read, hFind]
    rfl
  have hFile : tree.isFile (pageOf stem) = true := by rw [FileTree.isFile, hFind]
  have hDot : (pageOf stem).templateName ≠ "." := by rwa [hTemplate]
  refine ⟨hRead, hAbsent, ?_⟩
  exact exists_error_bundleTemplate hRenders (.unset hData) hFile hNamed hDot hNothing bundler

end LongName

/-- A page that is named after a lone dot, beside its data. -/
def besideDots : FileTree :=
  ⟨[(["..hbs"], .file (Text.encode "x")), (["..json"], .file (Text.encode "null"))], []⟩

end BuildTarget
end TemplateBundle
