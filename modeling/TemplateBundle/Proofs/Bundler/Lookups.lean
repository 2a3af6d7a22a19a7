import TemplateBundle.Proofs.Bundler.Setups
import TemplateBundle.Proofs.Files.Spelling
import TemplateBundle.Proofs.Path.Here
import TemplateBundle.Proofs.Path.Partials

/-! The paths that a new bundler looks up for a template in a file. If none of them is too long to be a
path, it does not matter how they are spelled. -/
namespace TemplateBundle.Bundler

open Outcome (Together)
open TemplateBundle.Path (Respelled)
open Resolution (Reachable)

variable {tree : FileTree} {config : BundlerConfig} {p q dir : Path}

/-- The file of a partial of a template. -/
def partialOf (config : BundlerConfig) (source : Path) (name : String) : Path :=
  partialPath (config.partialsDir?.getD source.templateDir) name
    (config.partialsExt?.getD source.templateExt)

/-- What a new bundler looks up to know all that a template can see. -/
inductive Gathers (tree : FileTree) (config : BundlerConfig) (source : Path) : Path → Prop where
  | template : Gathers tree config source source
  | helpers {dir : Path} (h : dir ∈ config.helpersDir?) : Gathers tree config source dir
  | helper {dir p : Path} {files : List Path} (h : dir ∈ config.helpersDir?)
      (hFiles : helperFiles tree dir = .ok files) (hFile : p ∈ files) : Gathers tree config source p
  | included {body name : String} (hText : tree.readText source = .ok body)
      (hName : Reachable body (storeOf tree config source).fetch name) :
      Gathers tree config source (partialOf config source name)

/-- What a new bundler looks up until there is a result: all that the template can see, its data, and
all that its wrapper can see. -/
inductive LooksUp (tree : FileTree) (config : BundlerConfig) (source : Path) (data? : Option Path)
    (wrapper? : Option Wrapper) : Path → Prop where
  | gathers {p : Path} (h : Gathers tree config source p) :
      LooksUp tree config source data? wrapper? p
  | data {p : Path} (h : p ∈ data?) : LooksUp tree config source data? wrapper? p
  | wrapper {p file : Path} (h : .file file ∈ wrapper?)
      (hPath : Gathers tree { compilerOptions := .unescaped } file p) :
      LooksUp tree config source data? wrapper? p

theorem sameFile_respelled (h : Respelled p q) (hp : p.Short) (hq : q.Short) : SameFile tree p q :=
  ⟨tree.readText_respelled h hp hq, h.templateName_eq⟩

/-- The names of the files among the entries of a directory. -/
def fileNames (entries : List (String × FileEntry)) : List String :=
  entries.filterMap fun (name, entry) =>
    match entry with
    | .file _ => some name
    | .directory => none

theorem helperFiles_eq {entries : List (String × FileEntry)} (h : tree.list dir = .ok entries) :
    helperFiles tree dir =
      .ok (((fileNames entries).map dir.join).mergeSort fun p q => !q.before p) := by
  have hFiles : (fileNames entries).map dir.join = entries.filterMap fun (name, entry) =>
      match entry with
      | .file _ => some (dir.join name)
      | .directory => none := by
    rw [fileNames, List.map_filterMap]
    refine List.filterMap_congr fun ⟨name, entry⟩ _ => ?_
    cases entry with
    | file bytes => rfl
    | directory => rfl
  let sorted (files : List Path) : Except BundleError (List Path) :=
    .ok (files.mergeSort fun p q => !q.before p)
  rw [helperFiles, h]
  exact congrArg sorted hFiles.symm

/-- A directory of helpers has the same files when it is seen from the working directory. -/
theorem together_helperFiles (hText : dir.text ≠ "") (hDir : dir.Short) (hHere : dir.here.Short)
    (hFiles : ∀ files, helperFiles tree dir = .ok files → ∀ p ∈ files, p.Short)
    (hOthers : ∀ files, helperFiles tree dir.here = .ok files → ∀ p ∈ files, p.Short) :
    Together (List.Forall₂ (SameFile tree)) (helperFiles tree dir) (helperFiles tree dir.here) := by
  have hList : tree.list dir.here = tree.list dir := by
    rw [FileTree.list, FileTree.list, tree.find_respelled (Path.respelled_here hText) hDir hHere]
  cases hEntries : tree.list dir with
  | error e =>
      rw [helperFiles, helperFiles, hList, hEntries]
      exact .error _ _
  | ok entries =>
      have hFirst := helperFiles_eq hEntries
      have hSecond := helperFiles_eq (hList.trans hEntries)
      have hMap : (fileNames entries).map dir.here.join =
          ((fileNames entries).map dir.join).map Path.here := by
        rw [List.map_map]
        exact List.map_congr_left fun name _ => Path.here_join dir name
      have hSorted : (((fileNames entries).map dir.here.join).mergeSort fun p q => !q.before p) =
          (((fileNames entries).map dir.join).mergeSort fun p q => !q.before p).map Path.here := by
        rw [hMap]
        refine (List.map_mergeSort ?_).symm
        intro p hp q hq
        obtain ⟨first, -, rfl⟩ := List.mem_map.mp hp
        obtain ⟨second, -, rfl⟩ := List.mem_map.mp hq
        rw [Path.before_here_join hText]
      rw [hFirst, hSecond, hSorted]
      rw [hSorted] at hSecond
      refine .ok (List.forall₂_map_right_iff.mpr (List.forall₂_same.mpr fun p hp => ?_))
      have hNonempty : p.text ≠ "" := by
        obtain ⟨name, -, rfl⟩ := List.mem_map.mp (List.mem_mergeSort.mp hp)
        exact Path.join_text_ne_empty hText name
      exact sameFile_respelled (Path.respelled_here hNonempty) (hFiles _ hFirst p hp)
        (hOthers _ hSecond _ (List.mem_map_of_mem hp))

theorem sameSources_respelled {other : BundlerConfig} {body : String}
    (hAbsolute : (other.partialsDir?.getD q.templateDir).isAbsolute =
      (config.partialsDir?.getD p.templateDir).isAbsolute)
    (hMoves : (other.partialsDir?.getD q.templateDir).moves =
      (config.partialsDir?.getD p.templateDir).moves)
    (hExt : other.partialsExt?.getD q.templateExt = config.partialsExt?.getD p.templateExt)
    (hShort : ∀ name, Reachable body (storeOf tree config p).fetch name →
      (partialOf config p name).Short)
    (hShort' : ∀ name, Reachable body (storeOf tree other q).fetch name →
      (partialOf other q name).Short) :
    Resolution.SameSources body (storeOf tree config p).fetch (storeOf tree other q).fetch := by
  intro name hName hOther
  have hPath : Respelled (partialOf config p name) (partialOf other q name) := by
    rw [partialOf, partialOf, hExt]
    exact respelled_partialPath hAbsolute hMoves hName.ne_empty _
  have hText := tree.readText_respelled hPath (hShort name hName) (hShort' name hOther)
  have hOutcome (config : BundlerConfig) (p : Path) :
      ((storeOf tree config p).fetch name).outcome.toOption =
        (tree.readText (partialOf config p name)).toOption := by
    change ((tree.readText (partialOf config p name)).mapError _).toOption = _
    cases tree.readText (partialOf config p name) with
    | error e => rfl
    | ok text => rfl
  rw [hOutcome, hOutcome, hText]

/-- The setups spell the same in two ways: the one as it is, the other as it is seen from the working
directory. -/
structure Respells (config other : BundlerConfig) (p q : Path) : Prop where
  source : Respelled p q
  options : other.compilerOptions = config.compilerOptions
  discovers : other.noPartials = config.noPartials
  helpers : other.helpersDir? = config.helpersDir?.map Path.here
  helpers_ne_empty : ∀ dir ∈ config.helpersDir?, dir.text ≠ ""
  absolute : (other.partialsDir?.getD q.templateDir).isAbsolute =
    (config.partialsDir?.getD p.templateDir).isAbsolute
  moves : (other.partialsDir?.getD q.templateDir).moves =
    (config.partialsDir?.getD p.templateDir).moves
  ext : other.partialsExt?.getD q.templateExt = config.partialsExt?.getD p.templateExt

/-- Spellings make no difference as long as all of them are short enough. -/
theorem Respells.sameSetup {other : BundlerConfig} (h : Respells config other p q)
    (hShort : ∀ path, Gathers tree config p path → path.Short)
    (hOther : ∀ path, Gathers tree other q path → path.Short) :
    SameSetup tree config p other q where
  template := sameFile_respelled h.source (hShort p .template) (hOther q .template)
  options := h.options
  discovers := h.discovers
  helpers := by
    have hHelpers := h.helpers
    cases hDir : config.helpersDir? with
    | none =>
        rw [hHelpers, hDir]
        exact .none
    | some dir =>
        rw [hDir, Option.map_some] at hHelpers
        rw [hHelpers]
        exact .some (together_helperFiles (h.helpers_ne_empty dir hDir) (hShort dir (.helpers hDir))
          (hOther dir.here (.helpers hHelpers))
          (fun _ hFiles p hp => hShort p (.helper hDir hFiles hp))
          (fun _ hFiles p hp => hOther p (.helper hHelpers hFiles hp)))
  partials body hText := by
    have hSame : SameFile tree p q :=
      sameFile_respelled h.source (hShort p .template) (hOther q .template)
    exact sameSources_respelled h.absolute h.moves h.ext
      (fun name hName => hShort _ (.included hText hName))
      (fun name hName => hOther _ (.included (hSame.text.trans hText) hName))

theorem respells_here (config : BundlerConfig) {file : Path} (hText : file.text ≠ "")
    (hHelpers : config.helpersDir? = none) : Respells config config file file.here where
  source := Path.respelled_here hText
  options := rfl
  discovers := rfl
  helpers := by rw [hHelpers]; rfl
  helpers_ne_empty dir hDir := by
    rw [hHelpers] at hDir
    cases hDir
  absolute := by
    cases config.partialsDir? with
    | some dir => rfl
    | none =>
        cases hAbsolute : file.isAbsolute with
        | true => rw [Path.here_of_absolute hAbsolute]
        | false =>
            have hHere : file.here.isAbsolute = false :=
              (Path.respelled_here hText).absolute.trans hAbsolute
            rw [Option.getD_none, Option.getD_none, Path.relative_templateDir hHere,
              Path.relative_templateDir hAbsolute]
  moves := by
    cases config.partialsDir? with
    | some dir => rfl
    | none => exact (Path.respelled_here hText).moves_templateDir
  ext := by rw [(Path.respelled_here hText).templateExt_eq]

/-- The data of a file does not depend on the spelling of its path. -/
theorem together_context (h : Respelled p q) (hp : p.Short) (hq : q.Short) :
    Together SameData (Bundling.context? tree { contextSource? := some (.file p) })
      (Bundling.context? tree { contextSource? := some (.file q) }) := by
  have hData (text : String) : ContextSource.dataOf q text = ContextSource.dataOf p text := by
    rw [ContextSource.dataOf, ContextSource.dataOf, ContextSource.parse, ContextSource.parse,
      h.isYaml_eq]
  rw [Bundling.context?, Bundling.context?]
  dsimp only
  rw [ContextSource.load, ContextSource.load, tree.readText_respelled h hp hq]
  cases tree.readText p with
  | error e =>
      dsimp only
      by_cases hMissing : e = .notFound
      · rw [if_pos hMissing, if_pos hMissing]
        exact .ok rfl
      · rw [if_neg hMissing, if_neg hMissing]
        exact .error _ _
  | ok text =>
      dsimp only
      rw [hData]
      cases ContextSource.dataOf p text with
      | error cause => exact .error _ _
      | ok data => exact .ok rfl

end TemplateBundle.Bundler
