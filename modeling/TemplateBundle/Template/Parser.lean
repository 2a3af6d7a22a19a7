import TemplateBundle.Template.Outline

/-! From the outline of a template to the template: literals are read, blanks around tags are
dropped, and the names at the two ends of a block are compared. A tag that stands alone on its line
takes the line with it. -/
namespace TemplateBundle

open Tag (Phrase Term)

namespace Template

/-- The text of a literal in double quotes, if it is in single ones. -/
def doubleQuoted (text : List Char) : List Char :=
  match text with
  | '\'' :: rest =>
    let inner := Text.replaceAll ['\\', '\''] ['\''] rest.dropLast
    ['"'] ++ Text.replaceAll ['"'] ['\\', '"'] inner ++ ['"']
  | text => text

def readLiteral (text : String) : Except TemplateError Json.Value :=
  match Json.parse (String.ofList (doubleQuoted text.toList)) with
  | .ok value => .ok value
  | .error _ => .error (.invalidParam text)

/-- Replaces the value of a name, or adds it. -/
def putNamed (key : String) (value : Operand) : List (String × Operand) → List (String × Operand)
  | [] => [(key, value)]
  | (k, v) :: rest => if k = key then (k, value) :: rest else (k, v) :: putNamed key value rest

def positional (args : List (Option String × Operand)) : List Operand :=
  args.filterMap fun (key, value) => if key.isNone then some value else none

/-- The arguments by name, the last of each name. -/
def named (args : List (Option String × Operand)) : List (String × Operand) :=
  args.foldl (fun named (key, value) => match key with
    | none => named
    | some key => putNamed key value named) []

mutual
def readTerm : Term → Except TemplateError Operand
  | .name s => .ok (.name s)
  | .reference r => .ok (.reference r)
  | .literal text => .literal <$> readLiteral text
  | .call head args => do
    let head ← readTerm head
    let args ← readTerms args
    .ok (.call head (positional args) (named args))

/-- Reads the literals of arguments, in order. -/
def readTerms : List (Option String × Term) → Except TemplateError (List (Option String × Operand))
  | [] => .ok []
  | (key, term) :: rest => do
    let value ← readTerm term
    let values ← readTerms rest
    .ok ((key, value) :: values)
end

def readPhrase (p : Phrase) : Except TemplateError Call := do
  let head ← readTerm p.head
  let args ← readTerms p.args
  .ok ⟨head, positional args, named args, p.blockParams⟩

/-- What the tags so far do to the text that comes next. -/
structure Flow where
  dropBlanks : Bool
  /-- The rest of its first line is dropped, if that is blank -/
  dropLine : Bool

/-- Drops the blanks of a line and the end of the line. -/
def dropBlankLine (s : List Char) : List Char :=
  match s.dropWhile Text.isIndent with
  | '\r' :: '\n' :: rest => rest
  | '\n' :: rest => rest
  | rest => rest

def Flow.apply (flow : Flow) (s : List Char) : List Char :=
  if flow.dropBlanks then s.dropWhile Text.isBlank
  else if flow.dropLine then dropBlankLine s
  else s

/-- Drops characters from the end of the text that was written last. Elements are in reverse order
while they are collected. -/
def trimLast (p : Char → Bool) : List Element → List Element
  | .text s :: rest => .text (String.ofList (Text.dropEndWhile p s.toList)) :: rest
  | elements => elements

/-- What a tag does to the text before it: blanks are dropped, and the indentation of a tag that
stands alone unless it is kept. -/
def settle {α : Type} (tag : Placed α) (keepIndent : Bool) (elements : List Element) :
    List Element :=
  let elements := if tag.dropBefore then trimLast Text.isBlank elements else elements
  if tag.standsAlone && !keepIndent then trimLast Text.isIndent elements else elements

def flowBehind {α : Type} (tag : Placed α) : Flow := ⟨tag.dropAfter, tag.standsAlone⟩

/-- Whether what a tag writes begins a line of its own. -/
def ownLine {α : Type} (tag : Placed α) : Bool := tag.standsAlone && !tag.dropBefore

/-- Passes if both ends of a block have the same name; under `optional` the end may leave it out. -/
def checkNames (opened : Option String) (closing : String) (optional : Bool)
    (mismatch : String → String → TemplateError) : Except TemplateError Unit :=
  if opened = some closing || (optional && closing.isEmpty) then .ok ()
  else .error (mismatch (opened.getD "") closing)

mutual
def addNode (preventIndent : Bool) :
    Flow → List Element → Node → Except TemplateError (List Element × Flow)
  | flow, elements, .gap s =>
    if flow.dropBlanks then .ok (elements, flow)
    else .ok (.text (String.ofList (flow.apply s)) :: elements, ⟨false, false⟩)
  | flow, elements, .text s =>
    .ok (.text (String.ofList (flow.apply s)) :: elements, ⟨flow.dropBlanks, false⟩)
  | flow, elements, .comment place =>
    .ok (.comment :: settle place false elements, ⟨flow.dropBlanks, place.standsAlone⟩)
  | flow, elements, .output tag escaped => do
    let call ← readPhrase tag.value
    let elements := if tag.dropBefore then trimLast Text.isBlank elements else elements
    .ok (.output call escaped :: elements, ⟨tag.dropAfter, flow.dropLine⟩)
  | _, elements, .decorator tag => do
    let call ← readPhrase tag.value
    .ok (.decorator call none :: settle tag false elements, flowBehind tag)
  | _, elements, .inclusion tag => do
    let call ← readPhrase tag.value
    let indent := if preventIndent || tag.dropBefore then "" else String.ofList tag.indent
    .ok (.inclusion call none indent (ownLine tag) :: settle tag preventIndent elements,
      flowBehind tag)
  | _, elements, .block start body tail => do
    let call ← readPhrase start.value
    let elements := settle start false elements
    let (first, flow) ← addNodes preventIndent (flowBehind start) [] body
    let (body, inverse?, flow) ← closeBlock preventIndent start.value.head.label? flow first tail
    .ok (.block call body inverse? (ownLine start) :: elements, flow)
  | _, elements, .rawBlock start body close => do
    let call ← readPhrase start.value
    let elements := settle start false elements
    let text : List Element := [.text (String.ofList ((flowBehind start).apply body))]
    checkNames start.value.head.label? close.value false .mismatchedHelper
    .ok (.block call (settle close false text) none (ownLine start) :: elements, flowBehind close)
  | _, elements, .decoratorBlock start body close => do
    let call ← readPhrase start.value
    let elements := settle start false elements
    let (body, _) ← addNodes preventIndent (flowBehind start) [] body
    checkNames start.value.head.label? close.value true .mismatchedDecorator
    .ok (.decorator call (some (settle close false body).reverse) :: elements, flowBehind close)
  | _, elements, .inclusionBlock start body close => do
    let call ← readPhrase start.value
    let elements := settle start false elements
    let (body, _) ← addNodes preventIndent (flowBehind start) [] body
    checkNames start.value.head.label? close.value true .mismatchedDecorator
    .ok (.inclusion call (some (settle close false body).reverse) "" (ownLine start) :: elements,
      flowBehind close)

def addNodes (preventIndent : Bool) :
    Flow → List Element → List Node → Except TemplateError (List Element × Flow)
  | flow, elements, [] => .ok (elements, flow)
  | flow, elements, node :: rest => do
    let (elements, flow) ← addNode preventIndent flow elements node
    addNodes preventIndent flow elements rest

/-- Ends the body collected so far and adds the other cases of the block. -/
def closeBlock (preventIndent : Bool) (opened : Option String) :
    Flow → List Element → BlockTail →
      Except TemplateError (List Element × Option (List Element) × Flow)
  | _, elements, .close tag => do
    checkNames opened tag.value false .mismatchedHelper
    .ok ((settle tag false elements).reverse, none, flowBehind tag)
  | _, elements, .other tag body close => do
    let first := (settle tag false elements).reverse
    let (second, _) ← addNodes preventIndent (flowBehind tag) [] body
    checkNames opened close.value false .mismatchedHelper
    .ok (first, some (settle close false second).reverse, flowBehind close)
  | _, elements, .chain tag body tail => do
    let call ← readPhrase tag.value
    let first := (settle tag false elements).reverse
    let (second, flow) ← addNodes preventIndent (flowBehind tag) [] body
    let (body, inverse?, flow) ← closeBlock preventIndent opened flow second tail
    .ok (first, some [.block call body inverse? (ownLine tag)], flow)
end

/-- Reads a template. Under `preventIndent` partials keep the blanks before them and are not
indented. -/
def parse (preventIndent : Bool) (text : String) : Except TemplateError Template :=
  match Outline.parse? text.toList with
  | none => .error .invalidSyntax
  | some nodes =>
    match addNodes preventIndent ⟨false, false⟩ [] nodes with
    | .ok (elements, _) => .ok elements.reverse
    | .error e => .error e

end Template
end TemplateBundle
