import TemplateBundle.Bundler.Bundling
import TemplateBundle.Bundler.Config
import TemplateBundle.Bundler.Loader

/-! Bundlers: they read a template, its data and its helpers, find the partials it includes, and
render or precompile it. A bundler keeps what it has registered from one template to the next, and
keeps it also if a template fails. -/
namespace TemplateBundle

open Json (Value)

structure Bundler (σ : Type) where
  config : BundlerConfig
  engine : Engine
  loader : HelperLoader σ
  memory : σ
  /-- The helpers are loaded and need not be loaded again. -/
  helpersLoaded : Bool
  warnings : List Warning

namespace Bundler

/-- Work of a bundler, which may fail and may change it in either case. -/
abbrev Work (σ : Type) : Type → Type := ExceptT BundleError (StateM (Bundler σ))

variable {σ : Type}

/-- A bundler that loads helpers in a way of its own. -/
def withLoader (config : BundlerConfig) (loader : HelperLoader σ) (memory : σ) : Bundler σ :=
  ⟨config, .new config.compilerOptions, loader, memory, false, []⟩

def new (config : BundlerConfig) : Bundler Unit := withLoader config .script ()

/-- Loads the helpers, unless they are loaded. If one fails, all will be loaded again. -/
def loadHelpers (tree : FileTree) : Work σ Unit := do
  let bundler ← get
  if bundler.helpersLoaded then return
  else
    match bundler.config.helpersDir? with
    | none => set { bundler with helpersLoaded := true }
    | some dir =>
      let files ← helperFiles tree dir
      let ((memory, engine), outcome) :=
        bundler.loader.loadAll tree files (bundler.memory, bundler.engine)
      set { bundler with memory, engine, helpersLoaded := outcome.toBool }
      outcome

/-- Reads a template, its data if `withData` says so, and the helpers. -/
def prepare (tree : FileTree) (withData : Bool) (b : Bundling) : Work σ Bundling := do
  let context := if withData then b.context? tree else .ok none
  match b.readTemplate tree, context with
  | .error e, .error f => throw (b.firstRefusal e f)
  | .error e, .ok _ => throw e
  | .ok _, .error f => throw f
  | .ok b, .ok context =>
    modify fun bundler =>
      { bundler with warnings := bundler.warnings ++ context.elim [] Context.warnings }
    loadHelpers tree
    return b.withContext context

/-- Whether partials are looked up for a template. Without a file it has to be set where. -/
def findsPartials (config : BundlerConfig) (b : Bundling) : Bool :=
  !config.noPartials &&
    (b.file?.isSome || (config.partialsDir?.isSome && config.partialsExt?.isSome))

def partialStore (tree : FileTree) (dir : Path) (ext : String) : PartialStore BundleError where
  fetch name :=
    let path := partialPath dir name ext
    ⟨0, (tree.readText path).mapError (.partialNotFound name path)⟩
  sources := tree.texts
  mem_sources h := tree.mem_texts (Outcome.mapError_eq_ok.mp h)

/-- Finds the partials that a template includes and registers them. Where they are looked up is
taken from the first template that is a file, if it is not set, and kept. -/
def registerPartials (tree : FileTree) (b : Bundling) : Work σ Bundling := do
  let bundler ← get
  if !findsPartials bundler.config b then return b
  else
    let file := b.file?.getD ⟨""⟩
    let dir := bundler.config.partialsDir?.getD file.templateDir
    let ext := bundler.config.partialsExt?.getD file.templateExt
    let config := { bundler.config with partialsDir? := some dir, partialsExt? := some ext }
    set { bundler with config }
    match b.body? with
    | none => throw .missingTemplate
    | some body =>
      let partials ← (resolve body (partialStore tree dir ext)).outcome
      let (engine, outcome) := bundler.engine.registerPartials partials
      set { bundler with config, engine }
      (outcome.mapError BundleError.engine : Except BundleError Unit)
      return { b with partials }

/-- Renders the template with its data, with what the engine knows. -/
def render (tree : FileTree) (engine : Engine) (b : Bundling) : Except BundleError Bundling :=
  match b.body? with
  | none => .error .missingTemplate
  | some body =>
    match engine.renderText (fun p => (tree.readText p).toOption) body b.context with
    | .ok text => .ok { b with result? := some text }
    | .error e => .error (.engine e)

/-- The artifacts of partials, in their order. -/
def artifacts (engine : Engine) (partials : List Partial) : Except EngineError (List Partial) :=
  partials.mapM fun p => (engine.precompile p.source).map fun artifact => ⟨p.name, artifact⟩

/-- Precompiles the template, and the partials that the engine knows unless there are to be none. -/
def precompileBody (config : BundlerConfig) (engine : Engine) (b : Bundling) :
    Except BundleError Bundling := do
  let partials ←
    if config.noPartials then .ok [] else (artifacts engine engine.partials).mapError .engine
  match b.body? with
  | none => .error .missingTemplate
  | some body =>
    match engine.precompile body with
    | .ok artifact => .ok { b with partials, result? := some artifact }
    | .error e => .error (.engine e)

/-- Renders the template with its data, with all that is registered. -/
def compileTemplate (tree : FileTree) (b : Bundling) : Work σ Bundling := do
  render tree (← get).engine b

/-- Precompiles the template, and all partials that were ever registered. -/
def precompileTemplate (b : Bundling) : Work σ Bundling := do
  let bundler ← get
  precompileBody bundler.config bundler.engine b

/-- Takes a template with its data through to the rendered text. -/
def runCompile (tree : FileTree) (b : Bundling) : Work σ Bundling := do
  let b ← prepare tree true b
  let b ← registerPartials tree b
  compileTemplate tree b

def compile (tree : FileTree) (source : TemplateSource) (context? : Option ContextSource) :
    Work σ String := do
  let b ← runCompile tree { source? := some source, contextSource? := context? }
  return b.result

def wrapperData (b : Bundling) (artifact : String) : Value :=
  .ofMembers [
    ("partials", .array (b.partials.map fun p =>
      .ofMembers [("name", .string p.name), ("src", .string p.source)])),
    ("src", .string artifact), ("name", .string b.name)]

/-- Renders the wrapper over the result, with a bundler of its own that escapes nothing. -/
def wrap (tree : FileTree) (b : Bundling) : Except BundleError Bundling :=
  match b.wrapper?, b.result? with
  | none, _ => .ok b
  | some _, none => .error .missingTemplate
  | some wrapper, some artifact =>
    let bundler := Bundler.new { compilerOptions := CompilerOptions.unescaped }
    match (compile tree wrapper.template
      (some (.given (wrapperData b artifact)))).run.run bundler with
    | (.ok text, _) => .ok { b with result? := some text }
    | (.error e, _) => .error e

/-- Takes a template through to its artifact, or to what its wrapper makes of it. -/
def runPrecompile (tree : FileTree) (b : Bundling) : Work σ Bundling := do
  let b ← prepare tree false b
  let b ← registerPartials tree b
  let b ← precompileTemplate b
  wrap tree b

def precompile (tree : FileTree) (source : TemplateSource) (wrapper? : Option Wrapper) :
    Work σ String := do
  let b ← runPrecompile tree { source? := some source, wrapper? }
  return b.result

end Bundler
end TemplateBundle
