import TemplateBundle.Json.Value

/-! The syntax of templates: text, values, blocks, decorators and partials. -/
namespace TemplateBundle

/-- One step of a reference to data. -/
inductive Segment where
  /-- A key of an object or an index of an array -/
  | name (s : String)
  | up
  | root
  | variable
  deriving DecidableEq, Repr

/-- A reference to data: what it is written as, and its steps. -/
structure Reference where
  text : String
  segments : List Segment
  deriving DecidableEq, Repr

/-- What a tag names, and what it passes on. -/
inductive Operand where
  /-- The name of a helper, a decorator or a partial -/
  | name (s : String)
  | reference (r : Reference)
  | literal (v : Json.Value)
  | call (head : Operand) (args : List Operand) (named : List (String × Operand))

/-- What stands in a tag: a name, what it is given, and the names a block gives to its items. -/
structure Call where
  head : Operand
  args : List Operand
  named : List (String × Operand)
  blockParams : List String

/-- Whether nothing is passed on, so that the tag may mean a value as well as a helper. -/
def Call.isBare (c : Call) : Bool := c.args.isEmpty && c.named.isEmpty

inductive Element where
  | text (s : String)
  /-- A comment, which writes nothing -/
  | comment
  | output (call : Call) (escaped : Bool)
  /-- A helper with a body, and with another body for the opposite case. `ownLine` says that the
  tag stands alone on its line. -/
  | block (call : Call) (body : List Element) (inverse? : Option (List Element))
      (ownLine : Bool)
  /-- A decorator, with a body if it is a block -/
  | decorator (call : Call) (body? : Option (List Element))
  /-- A partial, with a body for `@partial-block` if it is a block. Its lines are indented by
  `indent`. -/
  | inclusion (call : Call) (body? : Option (List Element)) (indent : String)
      (ownLine : Bool)

/-- A template: its elements in order. -/
abbrev Template := List Element

/-- Why a text is no template. -/
inductive TemplateError where
  | invalidSyntax
  | mismatchedHelper (opened closing : String)
  | mismatchedDecorator (opened closing : String)
  /-- A literal that is no JSON -/
  | invalidParam (literal : String)
  deriving DecidableEq, Repr

end TemplateBundle
