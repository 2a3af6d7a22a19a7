import TemplateBundle.Template.Syntax
import TemplateBundle.Text.Quoted

/-! What can go wrong while a template is read or rendered, in words. -/
namespace TemplateBundle

/-- The error in words; a text that breaks the grammar has none. -/
def TemplateError.message? : TemplateError → Option String
  | .invalidSyntax => none
  | .mismatchedHelper opened closing =>
    some ("helper " ++ Text.quoted opened ++ " was opened, but " ++ Text.quoted closing ++
      " is closing")
  | .mismatchedDecorator opened closing =>
    some ("decorator " ++ Text.quoted opened ++ " was opened, but " ++ Text.quoted closing ++
      " is closing")
  | .invalidParam literal => some ("invalid parameter " ++ Text.quoted literal)

/-- Why a template cannot be rendered. -/
inductive RenderError where
  | templateNotFound (name : String)
  | partialNotFound (name : String)
  /-- There is no body that `@partial-block` could stand for -/
  | partialBlockNotFound
  | cannotIncludeSelf
  | helperNotFound (name : String)
  | decoratorNotFound (name : String)
  /-- A variable without value, in strict mode; `label` is what the tag calls it -/
  | missingVariable (label : Option String)
  /-- An array is asked for an element by something that is no index -/
  | invalidIndex (key : String)
  /-- A helper is not given its argument at a position -/
  | missingArgument (helper : String) (index : Nat)
  /-- A helper is not given the argument that it calls by a name -/
  | missingNamedArgument (helper argument : String)
  | argumentMismatch (helper argument expected : String)
  | invalidArgumentKind (expected : String)
  | bodyRequired
  | invalidLogLevel (level : String)
  | scriptFailed
  /-- A helper script cannot be read again -/
  | scriptUnreadable
  /-- Partials include each other without end -/
  | tooDeep
  deriving DecidableEq, Repr

/-- The error in words, if it has any of its own. -/
def RenderError.message? : RenderError → Option String
  | .templateNotFound name => some ("Template not found " ++ name)
  | .partialNotFound name => some ("Partial not found " ++ name)
  | .partialBlockNotFound => some "Partial block cound not be found"
  | .cannotIncludeSelf => some "Can not include current template in partial"
  | .helperNotFound name => some ("Helper not found " ++ name)
  | .decoratorNotFound name => some ("Decorator not found " ++ name)
  | .missingVariable none => some "Failed to access variable in strict mode None"
  | .missingVariable (some label) =>
    some ("Failed to access variable in strict mode Some(" ++ Text.quoted label ++ ")")
  | .invalidIndex key => some ("Cannot access array/vector with string index, " ++ key)
  | .missingArgument helper index =>
    some ("Helper/Decorator " ++ helper ++ " param at index " ++ toString index ++
      " required but not found")
  | .missingNamedArgument helper argument =>
    some ("Helper/Decorator " ++ helper ++ " param with name " ++ argument ++
      " required but not found")
  | .argumentMismatch helper argument expected =>
    some ("Helper/Decorator " ++ helper ++ " param with name " ++ argument ++
      " type mismatch for " ++ expected)
  | .invalidArgumentKind expected => some ("Invalid param type, " ++ expected ++ " expected")
  | .bodyRequired => some "Block content required"
  | .invalidLogLevel level => some ("Invalid logging level: " ++ level)
  | .scriptFailed => none
  | .scriptUnreadable => none
  | .tooDeep => none

end TemplateBundle
