import TemplateBundle.Artifact
import TemplateBundle.CompilerOptions
import TemplateBundle.Path.Basic
import TemplateBundle.Render.Evaluation
import TemplateBundle.Resolution
import TemplateBundle.Template.Parser

/-! The template engine: templates and helpers under their names, and what was registered. What
fails changes neither. -/
namespace TemplateBundle

open Json (Value)

/-- Why an engine cannot do what it is asked for. -/
inductive EngineError where
  /-- The text is no template -/
  | template (e : TemplateError)
  | render (e : RenderError)
  /-- The text is no artifact -/
  | artifact (fault : Json.Fault)
  | incompatible (found expected : Nat)
  deriving DecidableEq, Repr

/-- Why a file gives no helper. -/
inductive ScriptError where
  /-- Its text is no script -/
  | malformed
  | unreadable
  deriving DecidableEq, Repr

def incompatibleMessage (found expected : Nat) : String :=
  "Precompiled template has compiler revision " ++ toString found ++ ", expected " ++
    toString expected

structure Engine where
  options : CompilerOptions
  /-- The registered templates, the latest first -/
  templates : List (String × Template)
  /-- The sources of partials, the latest first -/
  sources : List (String × String)
  /-- The partials in the order of their registrations, repetitions included -/
  partials : List Partial
  /-- The registered helpers, the latest first -/
  helpers : List (String × Helper)
  /-- The files of the registered scripts, the latest first -/
  scripts : List (String × Path)

/-- A text that was found to be a template, to be rendered with what its engine knows. -/
structure CompiledTemplate where
  engine : Engine
  source : String

def Artifact.load (text : String) : Except EngineError Artifact :=
  match Artifact.parse text with
  | .error fault => .error (.artifact fault)
  | .ok a =>
    if a.revision = Artifact.currentRevision then .ok a
    else .error (.incompatible a.revision Artifact.currentRevision)

namespace Engine

/-- The helpers that every engine has in addition to the standard ones. -/
def builtins : List (String × Helper) := [("var", .identifier), ("json", .json)]

def new (options : CompilerOptions) : Engine := ⟨options, [], [], [], builtins, []⟩

instance : Inhabited Engine := ⟨new {}⟩

def parse (engine : Engine) (text : String) : Except EngineError Template :=
  match Template.parse engine.options.preventIndent text with
  | .ok t => .ok t
  | .error e => .error (.template e)

def registerHelper (engine : Engine) (name : String) (helper : Helper) : Engine :=
  { engine with helpers := (name, helper) :: engine.helpers }

def hasHelper (engine : Engine) (name : String) : Bool := (engine.helpers.lookup name).isSome

def registerTemplate (engine : Engine) (name source : String) : Except EngineError Engine := do
  let template ← engine.parse source
  .ok { engine with templates := (name, template) :: engine.templates }

def registerPartial (engine : Engine) (p : Partial) : Except EngineError Engine := do
  let engine ← engine.registerTemplate p.name p.source
  .ok { engine with
    sources := (p.name, p.source) :: engine.sources
    partials := engine.partials ++ [p] }

/-- Makes partials known in order, up to the first that is no template. -/
def registerPartials (engine : Engine) : List Partial → Engine × Except EngineError Unit
  | [] => (engine, .ok ())
  | p :: rest =>
    match engine.registerPartial p with
    | .ok engine => engine.registerPartials rest
    | .error e => (engine, .error e)

/-- Makes the template of an artifact known under a name. -/
def registerArtifact (engine : Engine) (name text : String) : Except EngineError Engine := do
  let a ← Artifact.load text
  engine.registerTemplate name a.source

/-- Makes the template of an artifact known as a partial. -/
def registerPartialArtifact (engine : Engine) (name text : String) : Except EngineError Engine := do
  let a ← Artifact.load text
  engine.registerPartial ⟨name, a.source⟩

/-- Makes the script of a file known as a helper. The file counts as the script of that name even if
its text turns out to be none. -/
def registerScript (engine : Engine) (fileText : Path → Option String) (name : String)
    (path : Path) : Engine × Except ScriptError Unit :=
  match fileText path with
  | none => (engine, .error .unreadable)
  | some text =>
    let engine := { engine with scripts := (name, path) :: engine.scripts }
    match Script.parse? text with
    | none => (engine, .error .malformed)
    | some script => (engine.registerHelper name (.script script), .ok ())

/-- The source of the partial that was last registered under the name. -/
def partialSource? (engine : Engine) (name : String) : Option String := engine.sources.lookup name

/-- Accepts a text that is a template. The options of the engine are not asked. -/
def compile (engine : Engine) (text : String) : Except EngineError CompiledTemplate :=
  match Template.parse false text with
  | .ok _ => .ok ⟨engine, text⟩
  | .error e => .error (.template e)

def precompile (engine : Engine) (text : String) : Except EngineError String := do
  let _ ← engine.compile text
  .ok (Artifact.ofSource text).compress

/-- The helper of a name. While scripts are developed they are read anew from their files. -/
def helper? (engine : Engine) (fileText : Path → Option String) (name : String) :
    Except RenderError (Option Helper) :=
  match if engine.options.devMode then engine.scripts.lookup name else none with
  | some path =>
    match (fileText path).bind Script.parse? with
    | some s => .ok (some (.script s))
    | none => .error .scriptUnreadable
  | none => .ok ((engine.helpers.lookup name).or (Helper.standard.lookup name))

def library (engine : Engine) (fileText : Path → Option String) : Library :=
  { template? := fun name => engine.templates.lookup name
    helper? := engine.helper? fileText
    hasHelper := fun name => engine.hasHelper name || (Helper.standard.lookup name).isSome
    strict := engine.options.strict
    escapes := !engine.options.noEscape }

/-- Renders a template under a name of its own, or none. -/
def renderTemplate (engine : Engine) (fileText : Path → Option String) (name : Option String)
    (template : Template) (data : Value) : Except EngineError String :=
  match (Rendering.mk (engine.library fileText) data).render name template with
  | .ok text => .ok text
  | .error e => .error (.render e)

def render (engine : Engine) (fileText : Path → Option String) (name : String) (data : Value) :
    Except EngineError String :=
  match engine.templates.lookup name with
  | some template => engine.renderTemplate fileText (some name) template data
  | none => .error (.render (.templateNotFound name))

end Engine

/-- Renders a text that was accepted. It is read once more, with the options of the engine. -/
def CompiledTemplate.render (compiled : CompiledTemplate) (fileText : Path → Option String)
    (data : Value) : Except EngineError String := do
  let template ← compiled.engine.parse compiled.source
  compiled.engine.renderTemplate fileText none template data

def Engine.renderText (engine : Engine) (fileText : Path → Option String) (text : String)
    (data : Value) : Except EngineError String := do
  let compiled ← engine.compile text
  compiled.render fileText data

end TemplateBundle
