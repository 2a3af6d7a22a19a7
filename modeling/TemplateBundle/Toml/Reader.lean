import TemplateBundle.Text.Scanner
import TemplateBundle.Toml.Scalar

/-! Reading TOML texts. A text is a list of lines: headings, entries, and lines with nothing but a
comment. -/
namespace TemplateBundle.Toml

open Text (Scanner)

/-- What is nested deeper is refused, and so are longer keys. -/
def depthLimit : Nat := 80

def blanks : Scanner Unit := fun s => some ((), s.dropWhile Text.isIndent)

/-- Takes a comment, if one comes next. -/
def comment : Scanner Unit := fun s =>
  match s with
  | '#' :: rest => some ((), rest.dropWhile isPrintable)
  | s => some ((), s)

/-- Takes blanks, a comment, and the line end, unless the text ends. -/
def endOfLine : Scanner Unit := do
  blanks
  comment
  fun s => if s.isEmpty then some ((), []) else (lineEnd? s).map ((), ·)

/-- Takes blanks, comments and line ends. `fuel` bounds the lines. -/
def space : Nat → Scanner Unit
  | 0 => blanks
  | fuel + 1 => do
    blanks
    comment
    fun s =>
      match lineEnd? s with
      | some rest => space fuel rest
      | none => some ((), s)

/-- Takes blanks, comments and line ends. -/
def anySpace : Scanner Unit := fun s => space s.length s

def simpleKey : Scanner String := fun s =>
  match s with
  | '"' :: rest => (lineString '"' rest).map fun (text, rest) => (String.ofList text, rest)
  | '\'' :: rest => (lineString '\'' rest).map fun (text, rest) => (String.ofList text, rest)
  | s => (Scanner.run1 isKeyChar s).map fun (text, rest) => (String.ofList text, rest)

/-- The parts of a key after its first. `fuel` bounds their number. -/
def keyParts : Nat → Scanner (List String)
  | 0 => failure
  | fuel + 1 => do
    blanks
    if (← get).head? == some '.' then
      Scanner.word ['.']
      blanks
      let part ← simpleKey
      return part :: (← keyParts fuel)
    else return []

/-- A key: the path of the table it belongs to, and its last part. -/
def key : Scanner (List String × String) := do
  blanks
  let first ← simpleKey
  let parts ← keyParts ((← get).length + 1)
  let all := first :: parts
  if depthLimit < all.length then failure
  return (all.dropLast, all.getLast?.getD first)

/-- A string or a value without quotes. -/
def scalar : Scanner Item := fun s =>
  match s with
  | '"' :: _ => (string? '"' s).map fun (text, rest) => (.string (String.ofList text), rest)
  | '\'' :: _ => (string? '\'' s).map fun (text, rest) => (.string (String.ofList text), rest)
  | s =>
    let (word, rest) := takeBare s
    (bare? word).map (·, rest)

mutual
/-- A value that may be nested `depth` deep. `fuel` bounds its size. -/
def value (depth : Nat) : Nat → Scanner Item
  | 0 => failure
  | fuel + 1 => do
    match (← get).head?, depth with
    | some '[', 0 => failure
    | some '\x7b', 0 => failure
    | some '[', depth + 1 =>
      Scanner.word ['[']
      return .array false (← arrayItems depth fuel)
    | some '\x7b', depth + 1 =>
      Scanner.word ['\x7b']
      return .table .braces (← braceEntries depth ⟨.heading, []⟩ fuel).entries
    | _, _ => scalar

/-- The values between brackets; a comma may follow the last. -/
def arrayItems (depth : Nat) : Nat → Scanner (List Item)
  | 0 => failure
  | fuel + 1 => do
    anySpace
    if (← get).head? == some ']' then
      Scanner.word [']']
      return []
    else
      let item ← value depth fuel
      anySpace
      if (← get).head? == some ',' then
        Scanner.word [',']
        return item :: (← arrayItems depth fuel)
      else
        Scanner.word [']']
        return [item]

/-- The entries between braces, added to a table; a comma may follow the last. -/
def braceEntries (depth : Nat) (t : Table) : Nat → Scanner Table
  | 0 => failure
  | fuel + 1 => do
    anySpace
    if (← get).head? == some '\x7d' then
      Scanner.word ['\x7d']
      return t
    else
      let (path, last) ← key
      anySpace
      Scanner.word ['=']
      anySpace
      let item ← value depth fuel
      let t ← t.add? path last item
      anySpace
      if (← get).head? == some ',' then
        Scanner.word [',']
        braceEntries depth t fuel
      else
        Scanner.word ['\x7d']
        return t
end

def keyValue : Scanner ((List String × String) × Item) := do
  let k ← key
  Scanner.word ['=']
  blanks
  let item ← value depthLimit ((← get).length + 1)
  return (k, item)

/-- A heading, from its opening bracket on: its path, and whether it is that of an array. -/
def heading : Scanner (List String × String × Bool) := do
  Scanner.word ['[']
  let isArray := (← get).head? == some '['
  Scanner.word (if isArray then ['['] else [])
  let (path, last) ← key
  Scanner.word (if isArray then [']', ']'] else [']'])
  return (path, last, isArray)

/-- Takes a text line by line. `path` is that of the last heading. `fuel` bounds the lines. -/
def lines (root : Table) (path : List String) : Nat → Scanner Table
  | 0 => failure
  | fuel + 1 => do
    blanks
    match (← get).head? with
    | none => return root
    | some '[' =>
      let (parent, last, isArray) ← heading
      endOfLine
      let root ← if isArray then root.append? parent last else root.open? parent last
      lines root (parent ++ [last]) fuel
    | some c =>
      if c == '#' || Text.isLineEnd c then
        endOfLine
        lines root path fuel
      else
        let ((keyPath, last), item) ← keyValue
        endOfLine
        let root ← root.change? false (Table.add? keyPath last item) path
        lines root path fuel

/-- The table of a text; nothing if the text is malformed. -/
def parse? (text : String) : Option Table :=
  let chars := match text.toList with
    | '\uFEFF' :: rest => rest
    | all => all
  (lines ⟨.heading, []⟩ [] (chars.length + 1) chars).map (·.1)

end TemplateBundle.Toml
