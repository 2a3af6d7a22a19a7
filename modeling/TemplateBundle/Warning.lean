import TemplateBundle.Path.Basic
import TemplateBundle.Text.Quoted

/-! What a user is warned of while work goes on. -/
namespace TemplateBundle

/-- Something that is allowed but may not be meant. -/
inductive Warning where
  /-- A context file that is not there -/
  | contextMissing (path : Path)
  | noTargets (manifest : Path)
  /-- A target, by its number, whose patterns match nothing -/
  | noTemplates (target : Nat) (patterns : List String)
  deriving DecidableEq, Repr

def Warning.message : Warning → String
  | .contextMissing path => "Context file " ++ path.text ++ " not found, using empty context"
  | .noTargets manifest => "No targets in " ++ manifest.text
  | .noTemplates target patterns =>
    "Target " ++ toString target ++ " matched no templates: " ++ Text.quotedList patterns

end TemplateBundle
