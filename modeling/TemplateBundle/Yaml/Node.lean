import TemplateBundle.Yaml.Token

/-! The node that a YAML text consists of. A text holds one document, or none. -/
namespace TemplateBundle.Yaml

/-- What a node is labelled with. -/
structure Label where
  anchor? : Option Nat := none
  tag? : Option String := none
  deriving Inhabited

inductive Node where
  | alias (anchor : Nat)
  /-- A scalar; a plain one may be other than a string -/
  | scalar (label : Label) (plain : Bool) (text : String)
  | sequence (label : Label) (items : List Node)
  | mapping (label : Label) (entries : List (Node × Node))
  deriving Inhabited

/-- The node that stands where none is written. -/
def Node.empty : Node := .scalar {} true ""

def Node.label : Node → Label
  | .alias _ => {}
  | .scalar label .. => label
  | .sequence label _ => label
  | .mapping label _ => label

mutual
/-- A node and the nodes within it, in the order they begin. -/
def Node.nodes : Node → List Node
  | .sequence label items => .sequence label items :: itemNodes items
  | .mapping label entries => .mapping label entries :: entryNodes entries
  | node => [node]

def itemNodes : List Node → List Node
  | [] => []
  | node :: rest => node.nodes ++ itemNodes rest

def entryNodes : List (Node × Node) → List Node
  | [] => []
  | (key, value) :: rest => key.nodes ++ value.nodes ++ entryNodes rest
end

/-- The tokens that are left, and what the text has declared so far. -/
structure Reading where
  tokens : List Token
  /-- The number of each anchor. An anchor is numbered by how many names have been given before, so
  a name that is given again may share its number with the next one. -/
  anchors : List (String × Nat) := []
  handles : List (String × String) := []

/-- Reads from a list of tokens, or fails. -/
abbrev Grammar := StateT Reading Option

namespace Grammar

def peek : Grammar Token := do return (← get).tokens.head?.getD .textEnd

def drop : Grammar Unit := modify fun r => { r with tokens := r.tokens.drop 1 }

def expect (t : Token) : Grammar Unit := do if (← peek) == t then drop else failure

def giveAnchor (name : String) : Grammar Nat := do
  let r ← get
  let number := r.anchors.length
  set { r with anchors := (name, number) :: r.anchors.filter (·.1 != name) }
  return number

/-- The tag of a handle and a suffix; a handle must be declared. -/
def resolveTag (handle suffix : String) : Grammar String := do
  if handle.isEmpty then return suffix
  else return (← (← get).handles.lookup handle) ++ suffix

/-- The anchor that comes next, if one does. -/
def anchor : Grammar (Option Nat) := do
  match ← peek with
  | .anchor name => drop; return some (← giveAnchor name)
  | _ => return none

/-- The tag that comes next, if one does. -/
def tag : Grammar (Option String) := do
  match ← peek with
  | .tag handle suffix => drop; return some (← resolveTag handle suffix)
  | _ => return none

/-- An anchor and a tag, in either order. -/
def label : Grammar Label := do
  match ← anchor with
  | some number => return ⟨some number, ← tag⟩
  | none =>
    match ← tag with
    | some name => return ⟨← anchor, some name⟩
    | none => return {}

/-- A node, or the empty one if one of `ends` comes next. -/
def orEmpty (ends : List Token) (node : Grammar Node) : Grammar Node := do
  if ends.contains (← peek) then return .empty else node

/-- The value of a key, which may be left out, and its mark as well. -/
def valueOf (ends : List Token) (node : Grammar Node) : Grammar Node := do
  match ← peek with
  | .value => drop; orEmpty ends node
  | _ => return .empty

/-- What separates the parts of a bracket: nothing before the first, then a comma, which `close` may
follow or replace. -/
def separator (first : Bool) (close : Token) : Grammar Unit := do
  match first, ← peek with
  | true, _ => return
  | false, .comma => drop
  | false, t => if t == close then return else failure

mutual
/-- A node. Blocks may begin only where `block` says so, and items without a block of their own only
where `bare` does. `fuel` bounds the depth of the tree and the width of its branches. -/
def node (block bare : Bool) : Nat → Grammar Node
  | 0 => failure
  | fuel + 1 => do
    match ← peek with
    | .alias name => drop; return .alias (← (← get).anchors.lookup name)
    | _ =>
      let label ← label
      let labelled := label.anchor?.isSome || label.tag?.isSome
      match ← peek with
      | .scalar plain text => drop; return .scalar label plain text
      | .flowSequence => drop; return .sequence label (← flowItems true fuel)
      | .flowMapping => drop; return .mapping label (← flowEntries true fuel)
      | t =>
        if t == .item && bare then return .sequence label (← bareItems fuel)
        else if t == .blockSequence && block then drop; return .sequence label (← items fuel)
        else if t == .blockMapping && block then drop; return .mapping label (← entries fuel)
        else if labelled then return .scalar label true ""
        else failure

def items : Nat → Grammar (List Node)
  | 0 => failure
  | fuel + 1 => do
    match ← peek with
    | .item =>
      drop
      let first ← orEmpty [.item, .blockEnd] (node true false fuel)
      return first :: (← items fuel)
    | .blockEnd => drop; return []
    | _ => failure

/-- The items of a sequence that stands at the indentation of the mapping around it. -/
def bareItems : Nat → Grammar (List Node)
  | 0 => failure
  | fuel + 1 => do
    match ← peek with
    | .item =>
      drop
      let first ← orEmpty [.item, .key, .value, .blockEnd] (node true false fuel)
      return first :: (← bareItems fuel)
    | _ => return []

def entries : Nat → Grammar (List (Node × Node))
  | 0 => failure
  | fuel + 1 => do
    match ← peek with
    | .key =>
      drop
      let key ← orEmpty [.key, .value, .blockEnd] (node true true fuel)
      let value ← valueOf [.key, .value, .blockEnd] (node true true fuel)
      return (key, value) :: (← entries fuel)
    | .blockEnd => drop; return []
    | _ => failure

/-- The items between brackets. An item may be a single entry; where its key is left out the mark
that follows is lost. -/
def flowItems (first : Bool) : Nat → Grammar (List Node)
  | 0 => failure
  | fuel + 1 => do
    separator first .flowSequenceEnd
    match ← peek with
    | .flowSequenceEnd => drop; return []
    | .key =>
      drop
      let unkeyed := [Token.value, .comma, .flowSequenceEnd].contains (← peek)
      let key ← if unkeyed then do drop; pure Node.empty else node false false fuel
      let value ← valueOf [.comma, .flowSequenceEnd] (node false false fuel)
      return .mapping {} [(key, value)] :: (← flowItems false fuel)
    | _ =>
      let item ← node false false fuel
      return item :: (← flowItems false fuel)

def flowEntries (first : Bool) : Nat → Grammar (List (Node × Node))
  | 0 => failure
  | fuel + 1 => do
    separator first .flowMappingEnd
    match ← peek with
    | .flowMappingEnd => drop; return []
    | .key =>
      drop
      let key ← orEmpty [.value, .comma, .flowMappingEnd] (node false false fuel)
      let value ← valueOf [.comma, .flowMappingEnd] (node false false fuel)
      return (key, value) :: (← flowEntries false fuel)
    | _ =>
      let key ← node false false fuel
      return (key, .empty) :: (← flowEntries false fuel)
end

/-- The lines that begin with a percent sign. None may be given twice. -/
def percentLines (versioned : Bool) : Nat → Grammar Unit
  | 0 => failure
  | fuel + 1 => do
    match ← peek with
    | .versionLine => if versioned then failure else drop; percentLines true fuel
    | .tagLine handle meaning =>
      if ((← get).handles.lookup handle).isSome then failure
      else
        drop
        modify fun r => { r with handles := r.handles ++ [(handle, meaning)] }
        percentLines versioned fuel
    | _ => return

/-- The handles that need no declaration. -/
def standardHandles : List (String × String) := [("!", "!"), ("!!", "tag:yaml.org,2002:")]

def documentEnds : Nat → Grammar Unit
  | 0 => failure
  | fuel + 1 => do
    match ← peek with
    | .documentEnd => drop; documentEnds fuel
    | _ => return

/-- The node of a text; an empty one if the text has no document. -/
def document (fuel : Nat) : Grammar Node := do
  match ← peek with
  | .textEnd => return .empty
  | first =>
    percentLines false fuel
    modify fun r => { r with handles := r.handles ++ standardHandles }
    let next ← peek
    let root ←
      if next == .documentStart then do
        drop
        orEmpty [.documentEnd, .textEnd] (node true false fuel)
      else if next == first then node true false fuel
      else failure
    documentEnds fuel
    expect .textEnd
    return root

end Grammar

/-- The node of a text; nothing if the text is malformed or holds several documents. -/
def Node.ofText? (text : String) : Option Node := do
  let tokens ← Token.ofText? text
  let (root, _) ← Grammar.document (3 * tokens.length + 3) { tokens }
  return root

end TemplateBundle.Yaml
