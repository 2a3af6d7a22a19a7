import TemplateBundle.Bundler.Source

/-! A template on its way through a bundler: what is known of it so far. -/
namespace TemplateBundle

open Json (Members Value)

structure Bundling where
  /-- Where the template comes from, until it is read -/
  source? : Option TemplateSource := none
  file? : Option Path := none
  name : String := ""
  body? : Option String := none
  /-- Where the data comes from, until it is read -/
  contextSource? : Option ContextSource := none
  contextFile? : Option Path := none
  context : Value := .empty
  partials : List Partial := []
  wrapper? : Option Wrapper := none
  result? : Option String := none
  extensions : Members := []
  deriving Inhabited

namespace Bundling

/-- The result; an empty text if there is none. -/
def result (b : Bundling) : String := b.result?.getD ""

/-- Reads the template. A template without a name is named after its file. -/
def readTemplate (tree : FileTree) (b : Bundling) : Except BundleError Bundling :=
  match b.source? with
  | none => if b.body?.isSome then .ok b else .error .missingTemplate
  | some source => do
    let body ← source.read tree
    let b := { b with source? := none, body? := some body }
    match source with
    | .file path =>
      let name := if b.name.isEmpty then path.templateName else b.name
      return { b with file? := some path, name }
    | .stream .. => return b

/-- Puts an empty object in the place of null data. -/
def withObject (b : Bundling) : Bundling :=
  match b.context with
  | .null => { b with context := .empty }
  | _ => b

/-- The data to be read, or none; it changes nothing then. -/
def context? (tree : FileTree) (b : Bundling) : Except BundleError (Option Context) :=
  match b.contextSource? with
  | none => .ok none
  | some source => (source.load tree).map some

/-- Reads the data. Data in a file leaves its path. -/
def readContext (tree : FileTree) (b : Bundling) :
    Except BundleError (Bundling × List Warning) := do
  match ← b.context? tree with
  | none => return (b.withObject, [])
  | some context =>
    return ({ b with
      contextSource? := none
      context := context.data
      contextFile? := context.file?.or b.contextFile? }, context.warnings)

/-- Takes what was read for the data. Data in no file leaves no path. -/
def withContext (b : Bundling) : Option Context → Bundling
  | none => b.withObject
  | some context =>
    { b with contextSource? := none, context := context.data, contextFile? := context.file? }

/-- Of a template and data that are both refused the one that counts: the template, unless it would
have to be looked up in a file and the data would not. -/
def firstRefusal (b : Bundling) (ofTemplate ofContext : BundleError) : BundleError :=
  if b.source?.any TemplateSource.isFile && !b.contextSource?.any ContextSource.isFile then
    ofContext
  else ofTemplate

end Bundling
end TemplateBundle
