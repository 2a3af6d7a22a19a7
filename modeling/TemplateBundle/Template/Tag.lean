import TemplateBundle.Json.Reader
import TemplateBundle.Text.Scanner
import TemplateBundle.Template.Syntax

/-! What stands between the braces of a tag. Blanks may separate the parts of a tag, but not those
of a name, a reference, a number or a string. Where two readings are possible the first that fits is
taken, and it is not given up later. -/
namespace TemplateBundle.Tag

open Text (Scanner)
open Text.Scanner

def isSymbol (c : Char) : Bool :=
  c.isAlphanum || c == '_' || c == '-' || c == '$' || c == ':' || 0x80 ≤ c.toNat

def isPartialSymbol (c : Char) : Bool :=
  c.isAlphanum || c == '_' || c == '-' || c == '/' || c == '.' || c == '@' || 0x80 ≤ c.toNat

def identifier : Scanner String := do return String.ofList (← run1 isSymbol)

def separator : Scanner Unit := either (word ['/']) (word ['.'])

/-- A step of a reference by name, plain or in brackets. -/
def item : Scanner (List Char) :=
  either (run1 isSymbol) do
    word ['[']
    let key ← run (· != ']')
    word [']']
    return key

/-- The steps after the first. `fuel` bounds their number. -/
def laterItems : Nat → Scanner (List (List Char))
  | 0 => return []
  | fuel + 1 => do
    match ← optionally (do separator; item) with
    | none => return []
    | some key => return key :: (← laterItems fuel)

/-- The steps to enclosing blocks. `fuel` bounds their number. -/
def ups : Nat → Scanner Nat
  | 0 => return 0
  | fuel + 1 => do
    match ← optionally (do word ['.', '.']; separator) with
    | none => return 0
    | some () => return (← ups fuel) + 1

/-- The data at hand: steps of this name change nothing. -/
def current : List Char := ['t', 'h', 'i', 's']

def segments (fuel : Nat) : Scanner (List Segment) := do
  let _ ← optionally (either (do word current; separator) (word ['.', '/']))
  let root ← optionally (do word ['@', 'r', 'o', 'o', 't']; separator)
  let mark ← optionally (word ['@'])
  let depth ← ups fuel
  let first ← item
  let rest ← laterItems fuel
  let names := (first :: rest).filter (· ≠ current)
  return (if root.isSome then [Segment.root] else []) ++
    (if mark.isSome then [Segment.variable] else []) ++
    List.replicate depth Segment.up ++ names.map fun key => Segment.name (String.ofList key)

def reference (fuel : Nat) : Scanner Reference := fun s =>
  match segments fuel s with
  | none => none
  | some (segs, rest) => some (⟨String.ofList (s.take (s.length - rest.length)), segs⟩, rest)

/-- The rest of a string, up to the quote that ends it. -/
def stringRest (quote : Char) : List Char → Option (List Char)
  | [] => none
  | '\\' :: 'u' :: a :: b :: c :: d :: rest =>
    if [a, b, c, d].all fun h => (Text.hexValue? h).isSome then stringRest quote rest else none
  | '\\' :: e :: rest =>
    if [quote, '\\', '/', 'b', 'f', 'n', 'r', 't'].contains e then stringRest quote rest else none
  | c :: rest =>
    if c = quote then some rest else if c = '\\' then none else stringRest quote rest

def stringLiteral : Scanner Unit := fun s =>
  match s with
  | '"' :: rest => (stringRest '"' rest).map ((), ·)
  | '\'' :: rest => (stringRest '\'' rest).map ((), ·)
  | _ => none

/-- A number, which no symbol may follow. -/
def numberLiteral : Scanner Unit := do
  let _ ← optionally (word ['-'])
  let _ ← run1 Text.isDigit
  let _ ← optionally (word ['.'])
  let _ ← run Text.isDigit
  let _ ← optionally (do
    word ['E']
    let _ ← optionally (word ['-'])
    let _ ← run1 Text.isDigit)
  notAhead isSymbol

/-- A word of the language, which no symbol may follow. -/
def wordLiteral (w : List Char) : Scanner Unit := do word w; notAhead isSymbol

/-- A literal. `fuel` bounds the nesting and the number of elements together. -/
def literal : Nat → Scanner Unit
  | 0 => fun _ => none
  | fuel + 1 =>
    let arrayLiteral : Scanner Unit := do
      word ['[']
      let _ ← optionally (do gap; literal fuel)
      let _ ← many (do token [',']; gap; literal fuel) fuel
      token [']']
    let member : Scanner Unit := do gap; stringLiteral; token [':']; gap; literal fuel
    let objectLiteral : Scanner Unit := do
      word ['{']
      let _ ← optionally member
      let _ ← many (do token [',']; member) fuel
      token ['}']
    either stringLiteral <| either arrayLiteral <| either objectLiteral <| either numberLiteral <|
      either (wordLiteral ['n', 'u', 'l', 'l']) <| either (wordLiteral ['t', 'r', 'u', 'e'])
        (wordLiteral ['f', 'a', 'l', 's', 'e'])

/-- The words that begin another part of a tag, and so are not passed on as references. -/
def keyword : Scanner Unit := do
  either (word ['a', 's']) (word ['e', 'l', 's', 'e'])
  gap
  notAhead isSymbol

/-- What a tag names and passes on, as it is written: literals are not read yet, and arguments are
in order, each with its name if it has one. -/
inductive Term where
  | name (s : String)
  | reference (r : Reference)
  | literal (text : String)
  | call (head : Term) (args : List (Option String × Term))
  deriving Inhabited

/-- The content of a tag, as it is written. -/
structure Phrase where
  head : Term
  args : List (Option String × Term)
  blockParams : List String

/-- The term as it is written, unless it is a literal or a call. -/
def Term.label? : Term → Option String
  | .name s => some s
  | .reference r => some r.text
  | _ => none

mutual
/-- Something that is passed on. `fuel` bounds the nesting of parentheses. -/
def operand : Nat → Scanner Term
  | 0 => fun _ => none
  | fuel + 1 => fun s =>
    if fits keyword s then none
    else either (do return .literal (String.ofList (← written (literal fuel))))
      (either (do return .reference (← reference fuel)) (subexpression fuel)) s

/-- Something that is passed on, by name if a name and an equals sign come first. -/
def argument : Nat → Scanner (Option String × Term)
  | 0 => fun _ => none
  | fuel + 1 =>
    either (do
      let key ← identifier
      token ['=']
      gap
      return (some key, ← operand fuel))
    (do return (none, ← operand fuel))

def subexpression : Nat → Scanner Term
  | 0 => fun _ => none
  | fuel + 1 => do
    word ['(']
    gap
    let (head, args) ← either (do
      let head ← identifier
      let args ← many (argument fuel) fuel
      if args.isEmpty then fun _ => none
      return (Term.name head, args))
      (do return (Term.reference (← reference fuel), []))
    token [')']
    return .call head args
end

/-- A value, or a helper that is given something: the content of an output tag. -/
def valueCall (fuel : Nat) : Scanner Phrase :=
  either (do
    let head ← identifier
    let args ← many (argument fuel) fuel
    if args.isEmpty then fun _ => none
    return ⟨.name head, args, []⟩)
  (do
    let head ← either (subexpression fuel) (do return .reference (← reference fuel))
    return ⟨head, [], []⟩)

def blockParams : Scanner (List String) := do
  word ['a', 's']
  token ['|']
  gap
  let first ← identifier
  let second ← optionally (do gap; identifier)
  token ['|']
  return first :: second.toList

/-- A helper or decorator with what it is given: the content of a block tag. -/
def blockCall (fuel : Nat) : Scanner Phrase := do
  let head ← identifier
  let args ← many (argument fuel) fuel
  let params ← optionally (do gap; blockParams)
  return ⟨.name head, args, params.getD []⟩

/-- The length of a text up to the quote that ends it; behind a backslash a quote does not. -/
def quotedLength : List Char → Nat
  | [] => 0
  | '\\' :: '\'' :: rest => quotedLength rest + 2
  | c :: rest => if c = '\'' then 0 else quotedLength rest + 1

/-- The name of a partial in single quotes. Quotes and backslashes stay part of the name. -/
def quotedName : Scanner (List Char) := written do
  word ['\'']
  let _ ← takeSome quotedLength
  word ['\'']

/-- A name of the kind that only partials have. -/
def partialName : Scanner String := do
  return String.ofList (← either (run1 isPartialSymbol) quotedName)

/-- What names a partial: a name of its own kind, a reference or a subexpression. -/
def inclusionHead (fuel : Nat) : Scanner Term :=
  either (do return .name (← partialName))
    (either (subexpression fuel) (do return .reference (← reference fuel)))

def inclusionCall (fuel : Nat) : Scanner Phrase := do
  let head ← inclusionHead fuel
  let args ← many (argument fuel) fuel
  return ⟨head, args, []⟩

/-- A tilde, if there is one. -/
def tilde : Scanner Bool := do return (← optionally (token ['~'])).isSome

/-- What a tag holds, and whether it drops the blanks before and after it. -/
structure Content (α : Type) where
  value : α
  dropBefore : Bool
  dropAfter : Bool

/-- A tag with the given number of braces on each side, and a sign. -/
def braced {α : Type} (count : Nat) (sign : List Char) (content : Scanner α) :
    Scanner (Content α) := do
  word (List.replicate count '{')
  let dropBefore ← tilde
  token sign
  gap
  let value ← content
  let dropAfter ← tilde
  token (List.replicate count '}')
  return ⟨value, dropBefore, dropAfter⟩

def tagged {α : Type} (sign : List Char) (content : Scanner α) : Scanner (Content α) :=
  braced 2 sign content

def tripleTag (fuel : Nat) : Scanner (Content Phrase) := braced 3 [] (valueCall fuel)

/-- A tag of two braces around another brace, with room for tildes between them. -/
def innerTripleTag (fuel : Nat) : Scanner (Content Phrase) := do
  word ['{', '{']
  let dropBefore ← tilde
  token ['{']
  gap
  let value ← valueCall fuel
  token ['}']
  let dropAfter ← tilde
  token ['}', '}']
  return ⟨value, dropBefore, dropAfter⟩

/-- A tag that writes without escapes. -/
def plainOutput (fuel : Nat) : Scanner (Content Phrase) :=
  either (tripleTag fuel) <| either (innerTripleTag fuel) <| tagged ['&'] do
    let head ← either (subexpression fuel) (do return .reference (← reference fuel))
    return ⟨head, [], []⟩

def elseWord : Scanner Unit := either (word ['e', 'l', 's', 'e']) (word ['^'])

def elseTag : Scanner (Content Unit) := tagged [] elseWord

/-- The tag before another case of a block, which is a block itself. -/
def chainTag (fuel : Nat) : Scanner (Content Phrase) :=
  tagged [] do elseWord; gap; blockCall fuel

def output (fuel : Nat) : Scanner (Content Phrase) := fun s =>
  if fits elseTag s || fits (chainTag fuel) s then none else tagged [] (valueCall fuel) s

/-- The name at the end of a block, empty where it is left out. -/
def endName : Scanner String := do return String.ofList (← run isSymbol)

/-- The tag that ends a block of a helper or a decorator. -/
def blockEnd : Scanner (Content String) := tagged ['/'] endName

def inclusionEnd : Scanner (Content String) := tagged ['/'] (either partialName (return ""))

/-- The tag before a text in which there are no tags. -/
def rawStart (fuel : Nat) : Scanner (Content Phrase) := braced 4 [] (blockCall fuel)

def rawEnd : Scanner (Content String) := braced 4 ['/'] endName

/-- What follows the first occurrence of a word. -/
def after (w : List Char) : List Char → Option (List Char)
  | [] => if w.isEmpty then some [] else none
  | c :: cs =>
    match Text.stripStart? w (c :: cs) with
    | some rest => some rest
    | none => after w cs

/-- A comment, in its long form if that is closed. -/
def comment : Scanner Unit := do
  word ['{', '{', '!']
  either
    (do token ['-', '-']; fun s => (after ['-', '-', '}', '}'] s).map ((), ·))
    (fun s => (after ['}', '}'] s).map ((), ·))

end TemplateBundle.Tag
