import TemplateBundle.Template.Tag

/-! The outline of a template: its text and tags, nested as the blocks are. Each tag knows what
stands around it on its line; what that means for the text is decided when the outline becomes a
template. -/
namespace TemplateBundle

open Text (Scanner)
open Tag (Content Phrase)

structure Placed (α : Type) where
  value : α
  dropBefore : Bool
  dropAfter : Bool
  /-- Whether only blanks stand before the tag on its line -/
  opensLine : Bool
  /-- Whether only blanks stand after the tag on its line -/
  closesLine : Bool
  indent : List Char

def Placed.standsAlone {α : Type} (p : Placed α) : Bool := p.opensLine && p.closesLine

mutual
inductive Node where
  | gap (s : List Char)
  | text (s : List Char)
  | comment (place : Placed Unit)
  | output (tag : Placed Phrase) (escaped : Bool)
  | decorator (tag : Placed Phrase)
  | inclusion (tag : Placed Phrase)
  | block (start : Placed Phrase) (body : List Node) (tail : BlockTail)
  | rawBlock (start : Placed Phrase) (body : List Char) (close : Placed String)
  | decoratorBlock (start : Placed Phrase) (body : List Node) (close : Placed String)
  | inclusionBlock (start : Placed Phrase) (body : List Node) (close : Placed String)

/-- What follows the first body of a block. -/
inductive BlockTail where
  | close (tag : Placed String)
  /-- The opposite case, and the end -/
  | other (tag : Placed Unit) (body : List Node) (close : Placed String)
  /-- Another case, which is a block of its own, and what follows its body -/
  | chain (tag : Placed Phrase) (body : List Node) (tail : BlockTail)
end

namespace Outline

/-- What comes before a place: whether there is no tag at all, and the text since the last one. -/
structure Before where
  first : Bool
  run : List Char

def behindTag : Before := ⟨false, []⟩

/-- Whether only blanks of a line stand before the place on its line. -/
def Before.opensLine (b : Before) : Bool :=
  match (Text.dropEndWhile Text.isIndent b.run).getLast? with
  | some c => Text.isLineEnd c
  | none => b.first

def Before.indent (b : Before) : List Char := (b.run.reverse.takeWhile Text.isIndent).reverse

/-- Whether only blanks stand before the end of the line, or nothing follows at all. -/
def closesLine (rest : List Char) : Bool :=
  match rest.dropWhile Text.isIndent with
  | c :: _ => Text.isLineEnd c
  | [] => rest.isEmpty

def place {α : Type} (before : Before) (tag : Content α) (rest : List Char) : Placed α :=
  { value := tag.value
    dropBefore := tag.dropBefore
    dropAfter := tag.dropAfter
    opensLine := before.opensLine
    closesLine := closesLine rest
    indent := before.indent }

def placed? {α : Type} (scanner : Scanner (Content α)) (before : Before) (s : List Char) :
    Option (Placed α × List Char) :=
  match scanner s with
  | some (tag, rest) => some (place before tag rest, rest)
  | none => none

/-- An escape: backslashes before braces. Gives the text it stands for and what follows. One
backslash is dropped; a single one also keeps the braces behind it from opening a tag. -/
def escape? (s : List Char) : Option (List Char × List Char) :=
  match s with
  | '\\' :: '{' :: '{' :: '{' :: '{' :: rest => some (['{', '{', '{', '{'], rest)
  | '\\' :: '{' :: '{' :: rest => some (['{', '{'], rest)
  | '\\' :: '\\' :: rest =>
    let more := rest.takeWhile (· == '\\')
    let behind := rest.dropWhile (· == '\\')
    if Text.startsWith ['{', '{'] behind then some ('\\' :: more, behind) else none
  | _ => none

/-- Text up to the next `stop` that is not escaped. `fuel` bounds the scan; the length of the text
suffices. -/
def plain (stop : List Char) : Nat → List Char → List Char × List Char
  | 0, s => ([], s)
  | fuel + 1, s =>
    match escape? s with
    | some (text, rest) =>
      let (more, behind) := plain stop fuel rest
      (text ++ more, behind)
    | none =>
      if Text.startsWith stop s then ([], s)
      else match s with
        | [] => ([], [])
        | c :: rest =>
          let (more, behind) := plain stop fuel rest
          (c :: more, behind)

/-- A text in which there are no tags, and the tags around it. -/
def rawBlock? (fuel : Nat) (before : Before) (s : List Char) : Option (Node × List Char) := do
  let (start, rest) ← placed? (Tag.rawStart fuel) before s
  let gap := rest.takeWhile Text.isGap
  let body := rest.dropWhile Text.isGap
  let (text, rest) := plain ['{', '{', '{', '{'] body.length body
  let (close, behind) ← placed? Tag.rawEnd ⟨false, gap ++ text⟩ rest
  some (.rawBlock start text close, behind)

/-- A tag that opens no block. -/
def single? (fuel : Nat) (before : Before) (s : List Char) : Option (Node × List Char) :=
  match placed? (Tag.output fuel) before s with
  | some (tag, rest) => some (.output tag true, rest)
  | none =>
    match placed? (Tag.plainOutput fuel) before s with
    | some (tag, rest) => some (.output tag false, rest)
    | none =>
      match Tag.comment s with
      | some ((), rest) => some (.comment (place before ⟨(), false, false⟩ rest), rest)
      | none =>
        match placed? (Tag.tagged ['*'] (Tag.blockCall fuel)) before s with
        | some (tag, rest) => some (.decorator tag, rest)
        | none =>
          match placed? (Tag.tagged ['>'] (Tag.inclusionCall fuel)) before s with
          | some (tag, rest) => some (.inclusion tag, rest)
          | none => none

/-- A run of nodes, what comes before its end, and what follows it. -/
structure Reading where
  nodes : List Node
  before : Before
  rest : List Char

/-- The blanks as a node, unless there are none. -/
def gapNode (s : List Char) : List Node := if s.isEmpty then [] else [.gap s]

mutual
/-- Nodes up to where no node fits; blanks there are still taken. `fuel` bounds the nesting and the
number of nodes together. -/
def body : Nat → Before → List Char → Reading
  | 0, before, s => ⟨[], before, s⟩
  | fuel + 1, before, s =>
    let gap := s.takeWhile Text.isGap
    let rest := s.dropWhile Text.isGap
    let (text, behind) := plain ['{', '{'] rest.length rest
    if text.isEmpty then
      let before : Before := ⟨before.first, before.run ++ gap⟩
      match node? fuel before rest with
      | some (node, behind) =>
        let reading := body fuel behindTag behind
        { reading with nodes := gapNode gap ++ node :: reading.nodes }
      | none => ⟨gapNode gap, before, rest⟩
    else
      let reading := body fuel ⟨before.first, before.run ++ gap ++ text⟩ behind
      { reading with nodes := .text (gap ++ text) :: reading.nodes }

/-- The node that begins here, if one fits. -/
def node? : Nat → Before → List Char → Option (Node × List Char)
  | 0, _, _ => none
  | fuel + 1, before, s =>
    match single? (3 * s.length + 3) before s with
    | some r => some r
    | none =>
      match placed? (Tag.tagged ['#'] (Tag.blockCall (3 * s.length + 3))) before s with
      | some (start, rest) =>
        let reading := body fuel behindTag rest
        match tail? fuel reading.before reading.rest with
        | some (tail, behind) => some (.block start reading.nodes tail, behind)
        | none => none
      | none =>
        match rawBlock? (3 * s.length + 3) before s with
        | some r => some r
        | none =>
          match placed? (Tag.tagged ['#', '*'] (Tag.blockCall (3 * s.length + 3))) before s with
          | some (start, rest) =>
            let reading := body fuel behindTag rest
            match placed? Tag.blockEnd reading.before reading.rest with
            | some (close, behind) => some (.decoratorBlock start reading.nodes close, behind)
            | none => none
          | none =>
            let opening := Tag.tagged ['#', '>'] (Tag.inclusionCall (3 * s.length + 3))
            match placed? opening before s with
            | some (start, rest) =>
              let reading := body fuel behindTag rest
              match placed? Tag.inclusionEnd reading.before reading.rest with
              | some (close, behind) => some (.inclusionBlock start reading.nodes close, behind)
              | none => none
            | none => none

/-- What follows a body of a block, through its end. -/
def tail? : Nat → Before → List Char → Option (BlockTail × List Char)
  | 0, _, _ => none
  | fuel + 1, before, s =>
    match placed? (Tag.chainTag (3 * s.length + 3)) before s with
    | some (tag, rest) =>
      let reading := body fuel behindTag rest
      match tail? fuel reading.before reading.rest with
      | some (tail, behind) => some (.chain tag reading.nodes tail, behind)
      | none => none
    | none =>
      match placed? Tag.elseTag before s with
      | some (tag, rest) =>
        let reading := body fuel behindTag rest
        match placed? Tag.blockEnd reading.before reading.rest with
        | some (close, behind) => some (.other tag reading.nodes close, behind)
        | none => none
      | none =>
        match placed? Tag.blockEnd before s with
        | some (close, behind) => some (.close close, behind)
        | none => none
end

def parse? (text : List Char) : Option (List Node) :=
  let reading := body (3 * text.length + 3) ⟨true, []⟩ text
  if reading.rest.isEmpty then some reading.nodes else none

end Outline
end TemplateBundle
