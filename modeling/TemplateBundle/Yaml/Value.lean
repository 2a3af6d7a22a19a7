import TemplateBundle.Bits
import TemplateBundle.Json.Value
import TemplateBundle.Decimal.Reading
import TemplateBundle.Yaml.Node

/-! The JSON values that YAML texts stand for. -/
namespace TemplateBundle.Yaml

def standardTag (name : String) : String := "tag:yaml.org,2002:" ++ name

def isNull (text : String) : Bool := ["null", "Null", "NULL", "~"].contains text

def truth? (text : String) : Option Bool :=
  if ["true", "True", "TRUE"].contains text then some true
  else if ["false", "False", "FALSE"].contains text then some false
  else none

def digits? (base : Nat) (s : List Char) : Option Nat :=
  if s.isEmpty then none
  else s.foldl (fun n c => do
    let d ← Text.hexValue? c
    if d < base then return (← n) * base + d else none) (some 0)

/-- Whether decimal digits begin with a zero that is not all of them; they are no number then. -/
def isPadded (s : List Char) : Bool :=
  match (Decimal.takeSign s).2 with
  | '0' :: c :: rest => (c :: rest).all Text.isDigit
  | _ => false

/-- The size of an integer without its sign, in base 16, 8, 2 or 10. -/
def size? : List Char → Option Nat
  | '0' :: 'x' :: rest => digits? 16 rest
  | '0' :: 'o' :: rest => digits? 8 rest
  | '0' :: 'b' :: rest => digits? 2 rest
  | s => if isPadded s then none else digits? 10 s

def integer? (s : List Char) : Option Int :=
  let (negative, rest) := Decimal.takeSign s
  (size? rest).map fun n => if negative then -n else n

/-- The fraction that a text spells; infinities and what is no number have names of their own. -/
def fraction? (s : List Char) : Option Float :=
  let unsigned := if s.head? == some '+' then s.drop 1 else s
  let spelled (names : List String) (s : List Char) := names.contains (String.ofList s)
  if s.head? == some '+' && (unsigned.head? == some '+' || unsigned.head? == some '-') then none
  else if spelled [".inf", ".Inf", ".INF"] unsigned then some (1 / 0)
  else if spelled ["-.inf", "-.Inf", "-.INF"] s then some (-1 / 0)
  else if spelled [".nan", ".NaN", ".NAN"] s then some (0 / 0)
  else (Decimal.toFloat? unsigned).filter (·.isFinite)

/-- A fraction as a value; those that are not finite are null. -/
def fractionValue (x : Float) : Json.Value := if x.isFinite then .number (.float x) else .null

/-- The value of an integer of 64 bits; wider ones are refused. -/
def integerValue? (i : Int) : Option Json.Value :=
  if Bits.fits 64 i then some (.number (.int i)) else none

/-- The value of a plain scalar without a tag: what it spells, and otherwise itself. Integers wider
than 64 bits are refused up to 128 bits and are fractions beyond. -/
def plainValue? (text : String) : Option Json.Value :=
  let s := text.toList
  if text.isEmpty || isNull text then some .null
  else match truth? text, (integer? s).filter (Bits.fits 128) with
    | some b, _ => some (.bool b)
    | none, some i => integerValue? i
    | none, none =>
      match (fraction? s).filter fun _ => !isPadded s with
      | some x => some (fractionValue x)
      | none => some (.string text)

/-- The value of a scalar. A tag of a kind asks for that kind, any other for a string; a tag that
begins with an exclamation mark is refused. -/
def scalarValue? (tag? : Option String) (plain : Bool) (text : String) : Option Json.Value :=
  match tag? with
  | none => if plain then plainValue? text else some (.string text)
  | some tag =>
    if tag.toList.head? == some '!' then none
    else if tag == standardTag "bool" then (truth? text).map .bool
    else if tag == standardTag "int" then (integer? text.toList).bind integerValue?
    else if tag == standardTag "float" then (fraction? text.toList).map fractionValue
    else if tag == standardTag "null" then if isNull text then some .null else none
    else some (.string text)

/-- The nodes that bear anchors, by their numbers. Of two with one number the later counts. -/
def anchored (root : Node) : List (Nat × Node) :=
  (root.nodes.filterMap fun node => node.label.anchor?.map (·, node)).reverse

/-- How often aliases may be followed: a hundred times for each beginning and end of a node. -/
def aliasLimit (root : Node) : Nat :=
  let count : Node → Nat
    | .sequence .. => 2
    | .mapping .. => 2
    | _ => 1
  100 * (root.nodes.map count).foldl (· + ·) 0

/-- Finds values while the number of aliases that may still be followed is counted down. -/
abbrev Following := StateT Nat Option

/-- The node itself, or the one that an alias stands for. -/
def target (table : List (Nat × Node)) : Node → Following Node
  | .alias anchor => do
    match ← get with
    | 0 => failure
    | left + 1 => set left; table.lookup anchor
  | node => return node

/-- The text of a key, which is a scalar. -/
def keyText (table : List (Nat × Node)) (node : Node) : Following String := do
  match ← target table node with
  | .scalar _ _ text => return text
  | _ => failure

/-- Whether a label asks for a kind that no sequence or mapping has. -/
def isRefused (label : Label) : Bool := label.tag?.any fun tag => tag.toList.head? == some '!'

/-- The value of a node that is nested less than `depth` deep. -/
def value (table : List (Nat × Node)) : Nat → Node → Following Json.Value
  | 0, _ => failure
  | depth + 1, node => do
    match ← target table node with
    | .alias _ => failure
    | .scalar label plain text => scalarValue? label.tag? plain text
    | .sequence label items =>
      if depth == 0 || isRefused label then failure
      else return .array (← items.mapM (value table depth))
    | .mapping label entries =>
      if depth == 0 || isRefused label then failure
      else
        return .ofMembers (← entries.mapM fun (key, item) => do
          return (← keyText table key, ← value table depth item))

/-- How deep sequences and mappings may be nested. -/
def depthLimit : Nat := 128

/-- The value of a text; nothing if it is malformed or has none. -/
def ofText? (text : String) : Option Json.Value := do
  let root ← Node.ofText? text
  let (value, _) ← value (anchored root) (depthLimit + 1) root (aliasLimit root)
  return value

end TemplateBundle.Yaml
