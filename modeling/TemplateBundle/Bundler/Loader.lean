import TemplateBundle.Bundler.Error
import TemplateBundle.Path.Naming

/-! Loading helpers from the files of a directory. -/
namespace TemplateBundle

/-- Loads the helpers of a file into an engine. It may remember earlier files. -/
structure HelperLoader (σ : Type) where
  load : FileTree → Path → σ → Engine → (σ × Engine) × Except Cause Unit

namespace HelperLoader

/-- Takes a file as a script, named like the file without its extension. -/
def script : HelperLoader Unit where
  load tree path _ engine :=
    let (engine, outcome) :=
      engine.registerScript (fun p => (tree.readText p).toOption) path.templateName path
    (((), engine), outcome.mapError .script)

/-- Loads files in order, up to the first that fails. -/
def loadAll {σ : Type} (loader : HelperLoader σ) (tree : FileTree) :
    List Path → σ × Engine → (σ × Engine) × Except BundleError Unit
  | [], start => (start, .ok ())
  | path :: rest, (memory, engine) =>
    match loader.load tree path memory engine with
    | (after, .ok ()) => loader.loadAll tree rest after
    | (after, .error cause) => (after, .error (.helperRegistration path.templateName path cause))

end HelperLoader

/-- The files of a directory of helpers, in the order of their paths. -/
def helperFiles (tree : FileTree) (dir : Path) : Except BundleError (List Path) :=
  match tree.list dir with
  | .error e => .error (.helpersLoad dir e)
  | .ok entries =>
    let files := entries.filterMap fun (name, entry) =>
      match entry with
      | .file _ => some (dir.join name)
      | .directory => none
    .ok (files.mergeSort fun p q => !q.before p)

end TemplateBundle
