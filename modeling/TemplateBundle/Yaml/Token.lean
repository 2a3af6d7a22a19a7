import TemplateBundle.Bits
import TemplateBundle.Yaml.Scalar

/-! The tokens of a YAML text. Indentation becomes tokens that open and close blocks, and what turns
out to be a key when its colon comes gets its tokens put in front of it afterwards. -/
namespace TemplateBundle.Yaml

inductive Token where
  /-- A `%YAML` line of a known version -/
  | versionLine
  /-- A `%TAG` line: what the handle stands for -/
  | tagLine (handle meaning : String)
  | documentStart
  | documentEnd
  | textEnd
  | blockSequence
  | blockMapping
  | blockEnd
  | flowSequence
  | flowSequenceEnd
  | flowMapping
  | flowMappingEnd
  | item
  | comma
  | key
  | value
  | alias (name : String)
  | anchor (name : String)
  | tag (handle suffix : String)
  /-- A scalar; a plain one may be other than a string -/
  | scalar (plain : Bool) (text : String)
  deriving BEq, Inhabited

namespace Token

/-- The characters of tags besides letters and digits; those of the second list only where a tag is
written in full. -/
def isUriChar (full : Bool) (c : Char) : Bool :=
  isWordChar c || [';', '/', '?', ':', '@', '&', '=', '+', '$', '.', '!', '~', '*', '\'', '(',
    ')'].contains c || (full && [',', '[', ']'].contains c)

/-- How many bytes the character has that begins with the given byte. -/
def leadWidth? (byte : Nat) : Option Nat :=
  if byte < 0x80 then some 1
  else if 0xC0 ≤ byte ∧ byte < 0xE0 then some 2
  else if 0xE0 ≤ byte ∧ byte < 0xF0 then some 3
  else if 0xF0 ≤ byte ∧ byte < 0xF8 then some 4
  else none

/-- The byte that a percent sign and two hexadecimal digits spell. -/
def percentByte? : List Char → Option (Nat × List Char)
  | '%' :: a :: b :: rest => do return ((← Text.hexValue? a) * 16 + (← Text.hexValue? b), rest)
  | _ => none

/-- The bytes of a character after its first, as one number. -/
def trailing? : Nat → Nat → List Char → Option (Nat × List Char)
  | 0, n, s => some (n, s)
  | count + 1, n, s => do
    let (byte, rest) ← percentByte? s
    if byte / 64 == 2 then trailing? count (n * 64 + byte % 64) rest else none

def percentChar? (s : List Char) : Option (Char × List Char) := do
  let (byte, rest) ← percentByte? s
  let width ← leadWidth? byte
  let lead := if width == 1 then byte else byte % Bits.count (7 - width)
  let (n, rest) ← trailing? (width - 1) lead rest
  return (Char.ofNat n, rest)

/-- The characters of a tag, and what follows them. `fuel` bounds their number. -/
def uri? (full : Bool) : Nat → List Char → Option (List Char × List Char)
  | 0, s => some ([], s)
  | _ + 1, [] => some ([], [])
  | fuel + 1, c :: rest =>
    if c == '%' then do
      let (char, rest) ← percentChar? (c :: rest)
      let (more, rest) ← uri? full fuel rest
      return (char :: more, rest)
    else if isUriChar full c then do
      let (more, rest) ← uri? full fuel rest
      return (c :: more, rest)
    else some ([], c :: rest)

/-- A tag handle: an exclamation mark, and a word that another may close. -/
def handle? : List Char → Option (List Char × List Char)
  | '!' :: rest =>
    let name := rest.takeWhile isWordChar
    match rest.dropWhile isWordChar with
    | '!' :: after => some ('!' :: name ++ ['!'], after)
    | after => some ('!' :: name, after)
  | _ => none

/-- A tag: its handle, its suffix and what follows. -/
def tag? (s : List Char) : Option (Token × List Char) :=
  let made (handle suffix : List Char) := Token.tag (String.ofList handle) (String.ofList suffix)
  match s with
  | '!' :: '<' :: rest =>
    match uri? true rest.length rest with
    | some (c :: suffix, '>' :: after) => some (made [] (c :: suffix), after)
    | _ => none
  | _ =>
    match handle? s with
    | none => none
    | some (handle, rest) =>
      match uri? false rest.length rest with
      | none => none
      | some (suffix, after) =>
        if 1 < handle.length && handle.getLast? == some '!' then
          if suffix.isEmpty then none else some (made handle suffix, after)
        else
          match handle.drop 1 ++ suffix with
          | [] => some (made [] ['!'], after)
          | all => some (made ['!'] all, after)

/-- The digits of a version, at most nine. -/
def versionDigits? (s : List Char) : Option (Nat × List Char) :=
  let digits := s.takeWhile Text.isDigit
  if digits.isEmpty || 9 < digits.length then none
  else some (Text.digitsValue digits, s.dropWhile Text.isDigit)

/-- The version of a `%YAML` line; only 1.1 and 1.2 are known. -/
def version? (s : List Char) : Option (Token × List Char) := do
  let (major, rest) ← versionDigits? (s.dropWhile Text.isIndent)
  match rest with
  | '.' :: rest =>
    let (minor, rest) ← versionDigits? rest
    if major == 1 && (minor == 1 || minor == 2) then some (.versionLine, rest) else none
  | _ => none

/-- The handle and the meaning of a `%TAG` line. -/
def tagMeaning? (s : List Char) : Option (Token × List Char) := do
  let (handle, rest) ← handle? (s.dropWhile Text.isIndent)
  let blanks := rest.takeWhile Text.isIndent
  let rest := rest.dropWhile Text.isIndent
  let (meaning, after) ← uri? true rest.length rest
  if (handle.getLast? == some '!') && !blanks.isEmpty && !meaning.isEmpty && spaceAhead after then
    some (.tagLine (String.ofList handle) (String.ofList meaning), after)
  else none

/-- What a percent sign at the beginning of a line introduces. -/
def percentLine? (s : List Char) : Option (Token × List Char) :=
  let name := s.takeWhile isWordChar
  let rest := s.dropWhile isWordChar
  if !spaceAhead rest then none
  else match String.ofList name with
    | "YAML" => version? rest
    | "TAG" => tagMeaning? rest
    | _ => none

end Token

/-- A place where a key may have begun. -/
structure KeyPlace where
  /-- It must be one, since it stands at the indentation of its block. -/
  required : Bool
  tokens : Nat
  cursor : Cursor

/-- A text while its tokens are taken. -/
structure Lexer where
  cursor : Cursor
  /-- The tokens so far, the last first -/
  tokens : List Token := []
  /-- The indentation of the innermost block, -1 outside all -/
  indent : Int := -1
  outer : List Int := []
  flow : Nat := 0
  /-- Where a key may have begun, for each open bracket and outside them, innermost first -/
  keys : List (Option KeyPlace) := [none]
  /-- Whether a key may begin here -/
  keyAllowed : Bool := true

namespace Lexer

def inBlock (l : Lexer) : Bool := l.flow == 0

def push (t : Token) (l : Lexer) : Lexer := { l with tokens := t :: l.tokens }

/-- The text with a token put after the first `count`. -/
def insertAt (count : Nat) (t : Token) (l : Lexer) : Lexer :=
  let later := l.tokens.length - count
  { l with tokens := l.tokens.take later ++ t :: l.tokens.drop later }

/-- The text after `n` more characters. -/
def advance (n : Nat) (l : Lexer) : Lexer := { l with cursor := l.cursor.skip n }

/-- Takes `n` characters as a token. -/
def take (n : Nat) (t : Token) (l : Lexer) : Lexer := (l.push t).advance n

/-- Says whether a key may begin at the place after. -/
def allowKey (allowed : Bool) (l : Lexer) : Lexer := { l with keyAllowed := allowed }

/-- Opens a block that is indented to `column`, unless the innermost is as deep; its token stands
after the first `count`. -/
def openBlock (column count : Nat) (t : Token) (l : Lexer) : Lexer :=
  if l.inBlock && l.indent < column then
    { l.insertAt count t with indent := column, outer := l.indent :: l.outer }
  else l

/-- Closes blocks, the innermost first, until none is deeper than `column`. -/
def closeBlocks (column : Int) (l : Lexer) : Lexer :=
  match l.inBlock, (l.indent :: l.outer).dropWhile (column < ·) with
  | true, indent :: outer =>
    let closed := (l.indent :: l.outer).takeWhile (column < ·)
    { l with tokens := closed.map (fun _ => .blockEnd) ++ l.tokens, indent, outer }
  | _, _ => l

/-- Forgets the innermost place where a key may have begun; a key must not be missed. -/
def dropKey (l : Lexer) : Option Lexer :=
  match l.keys with
  | some place :: outer => if place.required then none else some { l with keys := none :: outer }
  | _ => some l

/-- Notes that a key may begin here, if one may. -/
def noteKey (l : Lexer) : Option Lexer :=
  if l.keyAllowed then do
    let l ← l.dropKey
    let place : KeyPlace := ⟨l.inBlock && l.indent == l.cursor.column, l.tokens.length, l.cursor⟩
    return { l with keys := some place :: l.keys.drop 1 }
  else some l

/-- Whether a key that began at `place` may no longer end at `c`: it is on one line and no longer
than 1024 characters. -/
def isStale (c : Cursor) (place : KeyPlace) : Bool :=
  place.cursor.line < c.line || place.cursor.index + 1024 < c.index

/-- Forgets the places that have become stale; a key must not be missed. -/
def dropStale (l : Lexer) : Option Lexer :=
  let stale := l.keys.map fun place => place.filter (isStale l.cursor)
  if stale.any fun place => place.any (·.required) then none
  else some { l with keys := l.keys.map fun place => place.filter fun p => !isStale l.cursor p }

/-- Ends what the line before began: a document starts or ends, or the text does. -/
def endBlocks (l : Lexer) : Option Lexer := do
  let l ← (l.closeBlocks (-1)).dropKey
  return l.allowKey false

/-- The text after blanks, comments and line ends. A tab may not stand where a key may begin; after
a line end a key may begin. `fuel` bounds the lines. -/
def skipSpace : Nat → Lexer → Lexer
  | 0, l => l
  | fuel + 1, l =>
    let isGap (c : Char) := c == ' ' || ((!l.inBlock || !l.keyAllowed) && c == '\t')
    let c := l.cursor.skipWhile isGap
    let c := if c.sees ['#'] then c.skipWhile (!isBreak ·) else c
    if c.rest.head?.any isBreak then
      skipSpace fuel { l with cursor := c.step, keyAllowed := l.keyAllowed || l.inBlock }
    else { l with cursor := c }

def openFlow (t : Token) (l : Lexer) : Option Lexer := do
  let l ← l.noteKey
  return ({ l with flow := l.flow + 1, keys := none :: l.keys }.allowKey true).take 1 t

def closeFlow (t : Token) (l : Lexer) : Option Lexer := do
  let l ← l.dropKey
  let keys := if l.inBlock then l.keys else l.keys.drop 1
  return ({ l with flow := l.flow - 1, keys }.allowKey false).take 1 t

/-- The dash of an item, which opens a sequence where a key may begin. -/
def item (l : Lexer) : Option Lexer :=
  if l.inBlock && !l.keyAllowed then none
  else do
    let l ← (l.openBlock l.cursor.column l.tokens.length .blockSequence).dropKey
    return (l.allowKey true).take 1 .item

/-- The mark of a key, which opens a mapping where a key may begin. -/
def keyMark (l : Lexer) : Option Lexer :=
  if l.inBlock && !l.keyAllowed then none
  else do
    let l ← (l.openBlock l.cursor.column l.tokens.length .blockMapping).dropKey
    return (l.allowKey l.inBlock).take 1 .key

/-- The colon before a value. If a key may have begun on this line it is one, and a mapping begins
there unless one has. -/
def colon (l : Lexer) : Option Lexer :=
  match l.keys with
  | some place :: outer =>
    let l := { l with keys := none :: outer }.insertAt place.tokens .key
    let l := l.openBlock place.cursor.column place.tokens .blockMapping
    some ((l.allowKey false).take 1 .value)
  | _ =>
    if l.inBlock && !l.keyAllowed then none
    else
      let l := l.openBlock l.cursor.column l.tokens.length .blockMapping
      some ((l.allowKey l.inBlock).take 1 .value)

/-- The name of an anchor or an alias, after its mark. -/
def name (make : String → Token) (l : Lexer) : Option Lexer := do
  let l ← l.noteKey
  let word := (l.cursor.rest.drop 1).takeWhile isWordChar
  let after := l.cursor.rest.drop (word.length + 1)
  let ended := spaceAhead after ||
    after.head?.any ['?', ':', ',', ']', '}', '%', '@', '\x60'].contains
  if word.isEmpty || !ended then none
  else return (l.allowKey false).take (word.length + 1) (make (String.ofList word))

def tag (l : Lexer) : Option Lexer := do
  let l ← l.noteKey
  let (t, after) ← Token.tag? l.cursor.rest
  if spaceAhead after || (!l.inBlock && after.head? == some ',') then
    return (l.allowKey false).take (l.cursor.rest.length - after.length) t
  else none

def percentLine (l : Lexer) : Option Lexer := do
  let l ← l.endBlocks
  let (t, after) ← Token.percentLine? (l.cursor.rest.drop 1)
  let l := l.take (l.cursor.rest.length - after.length) t
  return { l with cursor := (← l.cursor.skipLineEnd?) }

/-- The mark of the beginning or the end of a document. -/
def marker (t : Token) (l : Lexer) : Option Lexer := do return (← l.endBlocks).take 3 t

/-- The text with a scalar that ends at `c`. -/
def pushScalar (plain : Bool) (text : List Char) (c : Cursor) (l : Lexer) : Lexer :=
  { l.push (.scalar plain (String.ofList text)) with cursor := c }

def blockScalar (folded : Bool) (l : Lexer) : Option Lexer := do
  let l ← l.dropKey
  let (text, c) ← Scalar.block folded l.indent l.cursor
  return (l.allowKey true).pushScalar false text c

def quotedScalar (quote : Char) (l : Lexer) : Option Lexer := do
  let l ← l.noteKey
  let (text, c) ← Scalar.quoted quote l.cursor
  return (l.allowKey false).pushScalar false text c

/-- A plain scalar. After the line end that follows it a key may begin. -/
def plainScalar (l : Lexer) : Option Lexer := do
  let l ← l.noteKey
  let (text, lineEnded, c) ← Scalar.plain (!l.inBlock) (l.indent + 1).toNat l.cursor
  return (l.allowKey lineEnded).pushScalar true text c

/-- The characters that no plain scalar begins with. -/
def isIndicator (c : Char) : Bool :=
  ['-', '?', ':', ',', '[', ']', '{', '}', '#', '&', '*', '!', '|', '>', '\'', '"', '%', '@',
    '\x60', '\t'].contains c

/-- Takes the token that begins here; `next` is the first character of it and `ahead` tells whether
a space follows. -/
def token (next : Char) (ahead : Bool) (l : Lexer) : Option Lexer :=
  let c := l.cursor
  if c.column == 0 && next == '%' then l.percentLine
  else if c.atMarker then l.marker (if next == '-' then .documentStart else .documentEnd)
  else match next with
    | '[' => l.openFlow .flowSequence
    | '{' => l.openFlow .flowMapping
    | ']' => l.closeFlow .flowSequenceEnd
    | '}' => l.closeFlow .flowMappingEnd
    | ',' => l.dropKey.map fun l => (l.allowKey true).take 1 .comma
    | '*' => l.name .alias
    | '&' => l.name .anchor
    | '!' => l.tag
    | '\'' => l.quotedScalar '\''
    | '"' => l.quotedScalar '"'
    | _ =>
      if next == '-' && ahead then l.item
      else if next == '?' && (ahead || !l.inBlock) then l.keyMark
      else if next == ':' && (ahead || !l.inBlock) then l.colon
      else if next == '|' && l.inBlock then l.blockScalar false
      else if next == '>' && l.inBlock then l.blockScalar true
      else if !isIndicator next || next == '-' || (l.inBlock && (next == '?' || next == ':')) then
        l.plainScalar
      else none

/-- Takes all tokens. `fuel` bounds their number; each is at least one character long. -/
def run : Nat → Lexer → Option (List Token)
  | 0, _ => none
  | fuel + 1, l => do
    let l ← (l.skipSpace (l.cursor.rest.length + 1)).dropStale
    let l := l.closeBlocks l.cursor.column
    match l.cursor.rest with
    | [] => return ((← l.endBlocks).push .textEnd).tokens.reverse
    | next :: rest => run fuel (← l.token next (spaceAhead rest))

end Lexer

/-- The tokens of a text; nothing if there are none for it. -/
def Token.ofText? (text : String) : Option (List Token) := do
  let chars ← characters? text
  Lexer.run (chars.length + 1) { cursor := .start chars }

end TemplateBundle.Yaml
