import TemplateBundle.Text.Char

/-! A place in a YAML text. Line ends of every kind are made one before the text is read, so that a
place is told by its line, its column and the characters that follow. -/
namespace TemplateBundle.Yaml

def isBreak (c : Char) : Bool := c == '\n' || c.toNat == 0x2028 || c.toNat == 0x2029

def isSpace (c : Char) : Bool := Text.isIndent c || isBreak c

/-- The characters of names: letters, digits, `_` and `-`. -/
def isWordChar (c : Char) : Bool := c.isAlphanum || c == '_' || c == '-'

/-- The characters that a text may hold. -/
def isAllowed (c : Char) : Bool :=
  let n := c.toNat
  n == 9 || n == 10 || n == 13 || (0x20 ≤ n && n ≤ 0x7E) || n == 0x85 || (0xA0 ≤ n && n ≤ 0xD7FF) ||
    (0xE000 ≤ n && n ≤ 0xFFFD && n != 0xFEFF) || 0x10000 ≤ n

/-- A carriage return, alone or with a line feed, and a next-line character become a line feed. -/
def unifyBreaks : List Char → List Char
  | [] => []
  | '\r' :: '\n' :: rest => '\n' :: unifyBreaks rest
  | c :: rest => (if c == '\r' || c == '\x85' then '\n' else c) :: unifyBreaks rest

/-- The characters of a text without the mark that may open it; nothing if one is not allowed. -/
def characters? (text : String) : Option (List Char) :=
  let chars := match text.toList with
    | '\uFEFF' :: rest => rest
    | all => all
  if chars.all isAllowed then some (unifyBreaks chars) else none

/-- Whether a text is at its end or goes on with a space. -/
def spaceAhead : List Char → Bool
  | [] => true
  | c :: _ => isSpace c

structure Cursor where
  rest : List Char
  index : Nat
  line : Nat
  column : Nat
  deriving Inhabited

namespace Cursor

def start (text : List Char) : Cursor := ⟨text, 0, 0, 0⟩

def step (c : Cursor) : Cursor :=
  match c.rest with
  | [] => c
  | char :: rest =>
    if isBreak char then ⟨rest, c.index + 1, c.line + 1, 0⟩
    else ⟨rest, c.index + 1, c.line, c.column + 1⟩

def skip : Nat → Cursor → Cursor
  | 0, c => c
  | n + 1, c => skip n c.step

/-- The characters of a class that come next, and the place after them. -/
def span (p : Char → Bool) (c : Cursor) : List Char × Cursor :=
  let run := c.rest.takeWhile p
  (run, c.skip run.length)

def skipWhile (p : Char → Bool) (c : Cursor) : Cursor := (c.span p).2

def sees (word : List Char) (c : Cursor) : Bool := Text.startsWith word c.rest

/-- Whether a line that bounds a document comes next: three characters and a space. -/
def atMarker (c : Cursor) : Bool :=
  c.column == 0 && (c.sees ['-', '-', '-'] || c.sees ['.', '.', '.']) && spaceAhead (c.rest.drop 3)

/-- The place after blanks and a comment, which must end the line; a line end is taken as well. -/
def skipLineEnd? (c : Cursor) : Option Cursor :=
  let c := c.skipWhile Text.isIndent
  let c := if c.sees ['#'] then c.skipWhile (!isBreak ·) else c
  match c.rest with
  | [] => some c
  | char :: _ => if isBreak char then some c.step else none

end Cursor
end TemplateBundle.Yaml
