import TemplateBundle.Engine
import TemplateBundle.Path.Basic

/-! Errors of any kind, as those who catch them see them: an error says something, and others may stand
behind it. An error of the engine speaks through the error that wraps it and is no cause of its own. -/
namespace TemplateBundle

mutual
/-- Any error. -/
inductive AnyError where
  | bundle (e : AnyBundleError)
  | engine (e : AnyEngineError)
  | plain (message : String)
  /-- An error with a source, such as what was being done when the source came up -/
  | caused (message : String) (source : AnyError)

/-- Why the engine fails. -/
inductive AnyEngineError where
  | template (e : AnyError)
  | render (e : AnyError)
  | artifact (source : AnyError)
  | incompatible (found expected : Nat)

/-- Why a template cannot be bundled. -/
inductive AnyBundleError where
  | templateRead (path : Path) (source : AnyError)
  | templateStream (source : AnyError)
  | missingTemplate
  | contextLoad (path : Path) (source : AnyError)
  | invalidContext (found : String)
  | partialNotFound (name : String) (path : Path) (source : AnyError)
  | helpersLoad (path : Path) (source : AnyError)
  | helperRegistration (name : String) (path : Path) (source : AnyError)
  | compilerOptions (path : Path) (source : AnyError)
  | engine (e : AnyEngineError)
end

mutual
def AnyError.message : AnyError → String
  | .bundle e => e.message
  | .engine e => e.message
  | .plain message => message
  | .caused message _ => message

def AnyEngineError.message : AnyEngineError → String
  | .template e => e.message
  | .render e => e.message
  | .artifact source => "Invalid precompiled template artifact: " ++ source.message
  | .incompatible found expected => incompatibleMessage found expected

def AnyBundleError.message : AnyBundleError → String
  | .templateRead path _ => "Failed to read template '" ++ path.text ++ "'"
  | .templateStream _ => "Template stream failed before completion"
  | .missingTemplate => "No template was supplied"
  | .contextLoad path _ => "Failed to load context from '" ++ path.text ++ "'"
  | .invalidContext found => "Context must be an object, found " ++ found
  | .partialNotFound name path _ =>
    "Partial '" ++ name ++ "' not found at '" ++ path.text ++ "'"
  | .helpersLoad path _ => "Failed to list helpers directory '" ++ path.text ++ "'"
  | .helperRegistration name path _ =>
    "Failed to register helper '" ++ name ++ "' from '" ++ path.text ++ "'"
  | .compilerOptions path _ => "Invalid compiler options file '" ++ path.text ++ "'"
  | .engine e => e.message
end

mutual
/-- What stands behind an error, the nearest first. -/
def AnyError.behind : AnyError → List AnyError
  | .bundle e => e.behind
  | .engine e => e.behind
  | .plain _ => []
  | .caused _ source => source :: source.behind

def AnyEngineError.behind : AnyEngineError → List AnyError
  | .template e => e.behind
  | .render e => e.behind
  | .artifact source => source :: source.behind
  | .incompatible .. => []

def AnyBundleError.behind : AnyBundleError → List AnyError
  | .templateRead _ source => source :: source.behind
  | .templateStream source => source :: source.behind
  | .missingTemplate => []
  | .contextLoad _ source => source :: source.behind
  | .invalidContext _ => []
  | .partialNotFound _ _ source => source :: source.behind
  | .helpersLoad _ source => source :: source.behind
  | .helperRegistration _ _ source => source :: source.behind
  | .compilerOptions _ source => source :: source.behind
  | .engine e => e.behind
end

namespace AnyError

/-- The error and what stands behind it. -/
def chain (e : AnyError) : List AnyError := e :: e.behind

/-- The chain in words. -/
def messages (e : AnyError) : List String := e.chain.map message

/-- The error, if it is one of bundling. -/
def bundle? : AnyError → Option AnyBundleError
  | .bundle e => some e
  | _ => none

/-- The error, seen from what was being done, the outermost first. -/
def within (contexts : List String) (e : AnyError) : AnyError := contexts.foldr .caused e

end AnyError
end TemplateBundle
