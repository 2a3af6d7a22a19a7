import TemplateBundle.Bundler.Config
import TemplateBundle.Files.Tree
import TemplateBundle.Path.Naming

/-! The options of a build target: what is set there, and what follows from it for the files of a
template. -/
namespace TemplateBundle

open Json (Document Fault RecordField)

/-- Where the data of a template comes from. -/
inductive DataOption where
  /-- From the file beside the template, or from nowhere -/
  | enabled (b : Bool)
  /-- From a file or a directory; a placeholder stands for the name of the template -/
  | path (text : String)
  deriving DecidableEq, Repr

/-- The options of a build target, each of which may be left open. -/
structure BuildOptions where
  partials : Option String := none
  helpers : Option Path := none
  noPartials : Option Bool := none
  precompile : Option Bool := none
  wrapper : Option String := none
  data : Option DataOption := none
  ext : Option String := none
  compilerOptions : Option CompilerOptions := none
  deriving DecidableEq, Repr, Inhabited

namespace BuildOptions

def readData : Document → Except Fault DataOption
  | .bool b => .ok (.enabled b)
  | .string (some s) => .ok (.path s)
  | doc => .error doc.mismatch

def fields : List (RecordField BuildOptions) := [
  ⟨["partials"], fun doc o => do return { o with partials := ← doc.toOption Document.toText }⟩,
  ⟨["helpers"], fun doc o => do
    return { o with helpers := (← doc.toOption Document.toText).map Path.mk }⟩,
  ⟨["no_partials"], fun doc o => do
    return { o with noPartials := ← doc.toOption Document.toBool }⟩,
  ⟨["precompile"], fun doc o => do
    return { o with precompile := ← doc.toOption Document.toBool }⟩,
  ⟨["wrapper"], fun doc o => do return { o with wrapper := ← doc.toOption Document.toText }⟩,
  ⟨["data"], fun doc o => do return { o with data := ← doc.toOption readData }⟩,
  ⟨["ext"], fun doc o => do return { o with ext := ← doc.toOption Document.toText }⟩,
  ⟨["compiler_options"], fun doc o => do
    return { o with compilerOptions := ← doc.toOption CompilerOptions.ofDocument }⟩]

/-- Reads options. An array has to hold all of them. -/
def ofDocument (doc : Document) : Except Fault BuildOptions := do
  let options ← Json.readRecord fields {} doc
  match doc with
  | .array items _ => if items.length = fields.length then .ok options else .error .mismatch
  | _ => .ok options

/-- The options, with defaults for those left open. -/
def mergedWith (o defaults : BuildOptions) : BuildOptions :=
  { partials := o.partials.or defaults.partials
    helpers := o.helpers.or defaults.helpers
    noPartials := o.noPartials.or defaults.noPartials
    precompile := o.precompile.or defaults.precompile
    wrapper := o.wrapper.or defaults.wrapper
    data := o.data.or defaults.data
    ext := o.ext.or defaults.ext
    compilerOptions := o.compilerOptions.or defaults.compilerOptions }

/-- Whether templates are precompiled rather than rendered. -/
def isPrecompile (o : BuildOptions) : Bool := o.precompile.getD false

/-- Sets up where partials are looked up: a file name with an extension stands for the partials in
its directory, and anything else is a directory. -/
def withPartials (config : BundlerConfig) (pattern : Path) : BundlerConfig :=
  match pattern.extension?, pattern.parent? with
  | some ext, some parent => (config.withPartialsDir parent).withPartialsExt (dottedExt ext)
  | _, _ => config.withPartialsDir pattern

/-- The setup of the bundler of a target whose paths are seen from `base`. -/
def bundlerConfig (o : BuildOptions) (base : Path) : BundlerConfig :=
  let config : BundlerConfig :=
    { noPartials := o.noPartials.getD false, compilerOptions := o.compilerOptions.getD {} }
  let config := match o.partials with
    | some pattern => withPartials config (base.join pattern)
    | none => config
  match o.helpers with
  | some dir => config.withHelpersDir (base.join dir.text)
  | none => config

/-- The file that data is looked for in first. -/
def dataCandidate? (o : BuildOptions) (tree : FileTree) (source base : Path) : Option Path :=
  match o.data with
  | some (.enabled true) => some (source.withExtension "json")
  | some (.enabled false) => none
  | some (.path text) =>
    let path := base.join (fillPlaceholder text source.templateName)
    some (if tree.isDirectory path then path.join (source.templateName ++ ".json") else path)
  | none => if o.isPrecompile then none else some (source.withExtension "json")

/-- The data file of a template. A JSON file that is not there may be a YAML file instead. -/
def dataPath? (o : BuildOptions) (tree : FileTree) (source base : Path) : Option Path :=
  (o.dataCandidate? tree source base).map fun candidate =>
    if tree.pathExists candidate || candidate.extension? != some "json" then candidate
    else
      match [candidate.withExtension "yml", candidate.withExtension "yaml"].find?
        tree.pathExists with
      | some path => path
      | none => candidate

def outputExt (o : BuildOptions) : String :=
  match o.ext with
  | some ext => dottedExt ext
  | none => if o.isPrecompile then ".json" else ".html"

end BuildOptions
end TemplateBundle
