import TemplateBundle.AnyError
import TemplateBundle.Files.Tree

/-! What can go wrong while a template is bundled: the step that fails, what it was about, and the
cause. -/
namespace TemplateBundle

inductive Cause where
  | io (e : IoError)
  /-- A text is not the JSON that was asked for -/
  | json (fault : Json.Fault)
  /-- A text is not YAML -/
  | yaml
  /-- A file gives no helper -/
  | script (e : ScriptError)
  | text (s : String)
  deriving DecidableEq, Repr

def Cause.message : Cause → String
  | .io e => e.message
  | .json .truncated => "the JSON text ends early"
  | .json .malformed => "the text is not JSON"
  | .json .mismatch => "the JSON value has another shape"
  | .yaml => "the text is not YAML"
  | .script .malformed => "the text is not a script"
  | .script .unreadable => "the script cannot be read"
  | .text s => s

def Cause.raised (c : Cause) : AnyError := .plain c.message

/-- The error with what stands behind it: that of a template or of a rendering has a reason, which says
the same. -/
def EngineError.raised : EngineError → AnyEngineError
  | .template e =>
    let words := e.message?.getD "the template is not well-formed"
    .template (.caused words (.plain words))
  | .render e =>
    let words := e.message?.getD "a helper script failed"
    .render (.caused words (.plain words))
  | .artifact fault => .artifact (Cause.json fault).raised
  | .incompatible found expected => .incompatible found expected

/-- Why a template cannot be bundled. -/
inductive BundleError where
  | templateRead (path : Path) (cause : IoError)
  | templateStream (cause : IoError)
  | missingTemplate
  | contextLoad (path : Path) (cause : Cause)
  /-- Data that is no object; `found` says what it is -/
  | invalidContext (found : String)
  | partialNotFound (name : String) (path : Path) (cause : IoError)
  | helpersLoad (path : Path) (cause : IoError)
  | helperRegistration (name : String) (path : Path) (cause : Cause)
  | compilerOptions (path : Path) (cause : Cause)
  | engine (e : EngineError)
  deriving DecidableEq, Repr

inductive ErrorKind where
  | io | stream | context | partialNotFound | helpersLoad | helper | config | engine
  deriving DecidableEq, Repr

namespace BundleError

def kind : BundleError → ErrorKind
  | .templateRead .. => .io
  | .missingTemplate => .io
  | .templateStream .. => .stream
  | .contextLoad .. => .context
  | .invalidContext .. => .context
  | .partialNotFound .. => .partialNotFound
  | .helpersLoad .. => .helpersLoad
  | .helperRegistration .. => .helper
  | .compilerOptions .. => .config
  | .engine .. => .engine

/-- The error with what stands behind it. -/
def raised : BundleError → AnyBundleError
  | .templateRead path e => .templateRead path (Cause.io e).raised
  | .templateStream e => .templateStream (Cause.io e).raised
  | .missingTemplate => .missingTemplate
  | .contextLoad path c => .contextLoad path c.raised
  | .invalidContext found => .invalidContext found
  | .partialNotFound name path e => .partialNotFound name path (Cause.io e).raised
  | .helpersLoad path e => .helpersLoad path (Cause.io e).raised
  | .helperRegistration name path c => .helperRegistration name path c.raised
  | .compilerOptions path c => .compilerOptions path c.raised
  | .engine e => .engine e.raised

def message (e : BundleError) : String := e.raised.message

/-- What lies behind the error; an engine error says it itself. -/
def cause? : BundleError → Option Cause
  | .templateRead _ e => some (.io e)
  | .templateStream e => some (.io e)
  | .contextLoad _ c => some c
  | .partialNotFound _ _ e => some (.io e)
  | .helpersLoad _ e => some (.io e)
  | .helperRegistration _ _ c => some c
  | .compilerOptions _ c => some c
  | _ => none

end BundleError

def CompilerOptions.load (tree : FileTree) (path : Path) : Except BundleError CompilerOptions :=
  match tree.readText path with
  | .error e => .error (.compilerOptions path (.io e))
  | .ok text =>
    match CompilerOptions.parse text with
    | .error fault => .error (.compilerOptions path (.json fault))
    | .ok options => .ok options

end TemplateBundle
