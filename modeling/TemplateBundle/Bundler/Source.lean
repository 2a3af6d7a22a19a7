import TemplateBundle.Bundler.Error
import TemplateBundle.Bundler.Wrapper
import TemplateBundle.Path.Naming
import TemplateBundle.Warning
import TemplateBundle.Yaml.Value

/-! Where templates and their data come from. -/
namespace TemplateBundle

open Json (Value)

inductive TemplateSource where
  | file (path : Path)
  /-- Pieces of text that arrive one after another, and what breaks the stream off after them -/
  | stream (pieces : List (List UInt8)) (fault? : Option String)
  deriving DecidableEq, Repr

namespace TemplateSource

def ofText (text : String) : TemplateSource := .stream [Text.encode text] none

def isFile : TemplateSource → Bool
  | .file _ => true
  | .stream .. => false

def read (tree : FileTree) : TemplateSource → Except BundleError String
  | .file path =>
    match tree.readText path with
    | .ok text => .ok text
    | .error e => .error (.templateRead path e)
  | .stream _ (some fault) => .error (.templateStream (.broken fault))
  | .stream pieces none =>
    match Text.decode pieces.flatten with
    | .ok text => .ok text
    | .error fault => .error (.templateStream (.badEncoding fault))

end TemplateSource

def Wrapper.template : Wrapper → TemplateSource
  | .builtin wrapper => .ofText wrapper.source
  | .file path => .file path

/-- Where the data of a template comes from. -/
inductive ContextSource where
  | given (value : Value)
  | file (path : Path)

/-- The data that a template is rendered with. -/
structure Context where
  data : Value
  file? : Option Path
  warnings : List Warning

namespace ContextSource

def isFile : ContextSource → Bool
  | .file _ => true
  | .given _ => false

def parse (path : Path) (text : String) : Except Cause Value :=
  if path.isYaml then
    match Yaml.ofText? text with
    | some value => .ok value
    | none => .error .yaml
  else
    match Json.parse text with
    | .ok value => .ok value
    | .error fault => .error (.json fault)

/-- The data of a file: an object, and an empty one instead of null. -/
def dataOf (path : Path) (text : String) : Except Cause Value := do
  match ← parse path text with
  | .null => .ok .empty
  | .object members => .ok (.object members)
  | other => .error (.text ("expected a mapping at the top level, found " ++ other.kindName))

/-- The data that a source gives: always an object, the empty one for null and for a file that is
not there. -/
def load (tree : FileTree) : ContextSource → Except BundleError Context
  | .given .null => .ok ⟨.empty, none, []⟩
  | .given (.object members) => .ok ⟨.object members, none, []⟩
  | .given other => .error (.invalidContext other.kindName)
  | .file path =>
    match tree.readText path with
    | .error e =>
      if e = .notFound then .ok ⟨.empty, some path, [.contextMissing path]⟩
      else .error (.contextLoad path (.io e))
    | .ok text =>
      match dataOf path text with
      | .ok data => .ok ⟨data, some path, []⟩
      | .error cause => .error (.contextLoad path cause)

end ContextSource
end TemplateBundle
