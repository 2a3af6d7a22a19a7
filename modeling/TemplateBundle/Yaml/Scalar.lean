import TemplateBundle.Yaml.Cursor

/-! The texts of scalars: plain, quoted and block. Line ends within them fold: one becomes a blank,
and of several all but the first remain. -/
namespace TemplateBundle.Yaml.Scalar

/-- What is left of line ends that follow one another. -/
def foldBreaks : List Char → List Char
  | ['\n'] => [' ']
  | '\n' :: more => more
  | breaks => breaks

/-- What blanks and line ends between two words stand for: themselves if they hold no line end. -/
def gapText (run : List Char) : List Char :=
  if run.any isBreak then foldBreaks (run.filter isBreak) else run

/-- Whether a tab stands where a line after the first has to be indented. -/
def tabInIndent (indent : Nat) (run : List Char) : Bool :=
  ((run.splitBy fun a _ => !isBreak a).drop 1).any fun line => (line.take indent).contains '\t'

/-- The characters that separate what stands in brackets and braces. -/
def isFlowMark (c : Char) : Bool := [',', '[', ']', '{', '}'].contains c

/-- The word of a plain scalar that comes next; within brackets a colon must not touch them. -/
def plainWord? (flow : Bool) : List Char → Option (List Char)
  | [] => some []
  | c :: rest =>
    if isSpace c then some []
    else if flow && c == ':' && rest.head?.any (fun d => isFlowMark d || d == '?') then none
    else if c == ':' && spaceAhead rest then some []
    else if flow && isFlowMark c then some []
    else (plainWord? flow rest).map (c :: ·)

/-- The end of a plain scalar: its text, whether a line end follows, and the place after the space
that follows it. `gap` is the space before `c`; `fuel` bounds the words. -/
def plainFrom (flow : Bool) (indent : Nat) (text gap : List Char) :
    Nat → Cursor → Option (List Char × Bool × Cursor)
  | 0, _ => none
  | fuel + 1, c =>
    let ended (text gap : List Char) (c : Cursor) := some (text, gap.any isBreak, c)
    if c.atMarker || c.sees ['#'] then ended text gap c
    else
      match plainWord? flow c.rest with
      | none => none
      | some [] => ended text gap c
      | some word =>
        let text := text ++ gapText gap ++ word
        let c := c.skip word.length
        match c.span isSpace with
        | ([], _) => ended text [] c
        | (run, after) =>
          if tabInIndent indent run then none
          else if !flow && after.column < indent then ended text run after
          else plainFrom flow indent text run fuel after

/-- A plain scalar whose lines after the first are indented. -/
def plain (flow : Bool) (indent : Nat) (c : Cursor) : Option (List Char × Bool × Cursor) :=
  plainFrom flow indent [] [] (c.rest.length + 1) c

/-- The character after a backslash and what it stands for. -/
def escapes : List (Char × Char) :=
  [('0', '\x00'), ('a', '\x07'), ('b', '\x08'), ('t', '\t'), ('\t', '\t'), ('n', '\n'),
    ('v', '\x0B'), ('f', '\x0C'), ('r', '\r'), ('e', '\x1B'), (' ', ' '), ('"', '"'), ('/', '/'),
    ('\\', '\\'), ('N', '\x85'), ('_', '\xA0'), ('L', '\u2028'), ('P', '\u2029')]

/-- What follows a backslash in a quoted scalar: a character, and how long its spelling is. -/
def escape? : List Char → Option (Char × Nat)
  | 'x' :: rest => (Text.codedChar? 2 rest).map (·, 3)
  | 'u' :: rest => (Text.codedChar? 4 rest).map (·, 5)
  | 'U' :: rest => (Text.codedChar? 8 rest).map (·, 9)
  | c :: _ => (escapes.lookup c).map (·, 1)
  | [] => none

/-- The text up to the closing quote, and the place after it. A quote is doubled in single quotes
and escaped in double ones, where also a line end may be escaped. `fuel` bounds the steps. -/
def quotedFrom (quote : Char) : Nat → Cursor → Option (List Char × Cursor)
  | 0, _ => none
  | fuel + 1, c =>
    let onwards (text : List Char) (c : Cursor) :=
      (quotedFrom quote fuel c).map fun (more, c) => (text ++ more, c)
    if c.atMarker then none
    else
      match c.rest with
      | [] => none
      | '\\' :: rest =>
        if quote == '\'' then onwards ['\\'] c.step
        else if rest.head?.any isBreak then
          let (run, c) := (c.skip 2).span isSpace
          onwards (run.filter isBreak) c
        else match escape? rest with
          | none => none
          | some (char, width) => onwards [char] (c.skip (width + 1))
      | char :: rest =>
        if char == quote then
          if quote == '\'' && rest.head? == some '\'' then onwards ['\''] (c.skip 2)
          else some ([], c.step)
        else if isSpace char then
          let (run, c) := c.span isSpace
          onwards (gapText run) c
        else onwards [char] c.step

/-- A quoted scalar, from its opening quote on. -/
def quoted (quote : Char) (c : Cursor) : Option (List Char × Cursor) :=
  quotedFrom quote (c.rest.length + 1) c.step

/-- What becomes of the line ends at the end of a block scalar. -/
inductive Chomping where
  /-- None is left -/
  | strip
  /-- The first is left -/
  | clip
  /-- All are left -/
  | keep

def chomping? : List Char → Option (Chomping × List Char)
  | '-' :: rest => some (.strip, rest)
  | '+' :: rest => some (.keep, rest)
  | _ => none

/-- The digit that says how far a block scalar is indented; it is not zero. -/
def indentDigit? : List Char → Option (Nat × List Char)
  | c :: rest => if Text.isDigit c then some (Text.digitValue c, rest) else none
  | [] => none

/-- The head of a block scalar after its first character: chomping and indentation in either order,
then the end of the line. -/
def blockHead? (c : Cursor) : Option (Chomping × Option Nat × Cursor) := do
  let s := c.rest
  let (chomping, digit, rest) := match chomping? s with
    | some (chomping, rest) =>
      match indentDigit? rest with
      | some (digit, rest) => (chomping, some digit, rest)
      | none => (chomping, none, rest)
    | none =>
      match indentDigit? s with
      | some (digit, rest) =>
        match chomping? rest with
        | some (chomping, rest) => (chomping, some digit, rest)
        | none => (.clip, some digit, rest)
      | none => (.clip, none, s)
  if digit == some 0 then none
  else return (chomping, digit, ← (c.skip (s.length - rest.length)).skipLineEnd?)

/-- Empty lines of a block scalar: their line ends, the widest indentation among them and the place
after the indentation of the line that follows. A tab must not stand in an indentation. -/
def emptyLines (indent : Option Nat) : Nat → Nat → Cursor → Option (List Char × Nat × Cursor)
  | 0, _, _ => none
  | fuel + 1, widest, c =>
    let blanks := c.rest.takeWhile (· == ' ')
    let room := match indent with
      | none => blanks.length
      | some n => min blanks.length (n - c.column)
    let c := c.skip room
    let widest := max widest c.column
    if indent.all (c.column < ·) && c.sees ['\t'] then none
    else
      match c.rest with
      | [] => some ([], widest, c)
      | char :: _ =>
        if isBreak char then
          (emptyLines indent fuel widest c.step).map fun (breaks, widest, c) =>
            (char :: breaks, widest, c)
        else some ([], widest, c)

/-- The lines of a block scalar as they are collected. -/
structure Lines where
  text : List Char
  /-- The line end after the last line -/
  ending : List Char
  /-- The line ends of the empty lines after it -/
  empty : List Char
  /-- Whether the last line begins with a blank -/
  blank : Bool

/-- The text with a line after it. In a folded scalar two lines that do not begin with a blank are
joined. -/
def Lines.add (folded : Bool) (lines : Lines) (line ending empty : List Char) : Lines :=
  let blank := line.head?.any Text.isIndent
  let joint :=
    if folded && lines.ending == ['\n'] && !lines.blank && !blank then
      if lines.empty.isEmpty then [' '] else []
    else lines.ending
  ⟨lines.text ++ joint ++ lines.empty ++ line, ending, empty, blank⟩

/-- The lines of a block scalar that stand at its indentation. `fuel` bounds them. -/
def blockLines (folded : Bool) (indent : Nat) : Nat → Lines → Cursor → Option (Lines × Cursor)
  | 0, lines, c => some (lines, c)
  | fuel + 1, lines, c =>
    if c.column == indent && !c.rest.isEmpty then do
      let (line, c) := c.span (!isBreak ·)
      let ending := c.rest.take 1
      let (empty, _, c) ← emptyLines (some indent) (c.rest.length + 1) 0 c.step
      blockLines folded indent fuel (lines.add folded line ending empty) c
    else some (lines, c)

/-- A block scalar within a block of the given indentation, from its first character on. -/
def block (folded : Bool) (parent : Int) (c : Cursor) : Option (List Char × Cursor) := do
  let (chomping, digit, c) ← blockHead? c.step
  let stated := digit.map fun n => parent.toNat + n
  let (empty, widest, c) ← emptyLines stated (c.rest.length + 1) 0 c
  let indent := stated.getD (max widest (max (parent + 1).toNat 1))
  let (lines, c) ← blockLines folded indent (c.rest.length + 1) ⟨[], [], empty, false⟩ c
  return (match chomping with
    | .strip => lines.text
    | .clip => lines.text ++ lines.ending
    | .keep => lines.text ++ lines.ending ++ lines.empty, c)

end TemplateBundle.Yaml.Scalar
