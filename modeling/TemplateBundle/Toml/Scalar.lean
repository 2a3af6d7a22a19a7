import TemplateBundle.Bits
import TemplateBundle.Decimal.Reading
import TemplateBundle.Toml.Table

/-! Strings, numbers and moments of TOML texts. -/
namespace TemplateBundle.Toml

/-- Whether a character may stand in comments and strings: no control character but the tab. -/
def isPrintable (c : Char) : Bool := c == '\t' || (c.toNat != 0x7F && 0x20 ≤ c.toNat)

/-- Whether a character may stand in a key without quotes. -/
def isKeyChar (c : Char) : Bool := c.isAlphanum || c == '_' || c == '-'

/-- The line end that comes first, taken away. -/
def lineEnd? : List Char → Option (List Char)
  | '\n' :: rest => some rest
  | '\r' :: '\n' :: rest => some rest
  | _ => none

def escapes : List (Char × Char) :=
  [('b', '\x08'), ('t', '\t'), ('n', '\n'), ('f', '\x0C'), ('r', '\r'), ('e', '\x1B'), ('"', '"'),
    ('\\', '\\')]

/-- What follows a backslash: a character, and how long its spelling is. -/
def escape? : List Char → Option (Char × Nat)
  | 'x' :: rest => (Text.codedChar? 2 rest).map (·, 3)
  | 'u' :: rest => (Text.codedChar? 4 rest).map (·, 5)
  | 'U' :: rest => (Text.codedChar? 8 rest).map (·, 9)
  | c :: _ => (escapes.lookup c).map (·, 1)
  | [] => none

/-- What follows a line end that is escaped: blanks and line ends are dropped. Only blanks may stand
before the line end. -/
def afterEscapedEnd? (s : List Char) : Option (List Char) :=
  (lineEnd? (s.dropWhile Text.isIndent)).map fun rest => rest.dropWhile Text.isGap

/-- The text of a string up to its closing quote, and what follows. In a string of several lines
three quotes close it, and one or two before them belong to it. Backslashes escape between double
quotes only. `fuel` bounds the characters. -/
def stringFrom (quote : Char) (multiline : Bool) : Nat → List Char → Option (List Char × List Char)
  | 0, _ => none
  | _ + 1, [] => none
  | fuel + 1, c :: rest =>
    let onwards (text : List Char) (s : List Char) :=
      (stringFrom quote multiline fuel s).map fun (more, s) => (text ++ more, s)
    if c == quote then
      if !multiline then some ([], rest)
      else
        let quotes := ((c :: rest).takeWhile (· == quote)).take 5
        if quotes.length < 3 then onwards quotes ((c :: rest).drop quotes.length)
        else some (quotes.drop 3, (c :: rest).drop quotes.length)
    else if c == '\\' && quote == '"' then
      match if multiline then afterEscapedEnd? rest else none with
      | some s => onwards [] s
      | none =>
        match escape? rest with
        | some (char, width) => onwards [char] (rest.drop width)
        | none => none
    else if isPrintable c || (multiline && (lineEnd? (c :: rest)).isSome) then onwards [c] rest
    else none

/-- A string on one line, after its opening quote. -/
def lineString (quote : Char) (s : List Char) : Option (List Char × List Char) :=
  stringFrom quote false (s.length + 1) s

/-- A string, from its opening quote on. A line end after three opening quotes is dropped. -/
def string? (quote : Char) (s : List Char) : Option (List Char × List Char) :=
  match Text.stripStart? [quote, quote, quote] s with
  | some rest => stringFrom quote true (rest.length + 1) ((lineEnd? rest).getD rest)
  | none => lineString quote (s.drop 1)

/-- Digits of a class without the underscores that may stand between two of them. -/
def ungrouped? (p : Char → Bool) (s : List Char) : Option (List Char) :=
  let groups := Text.splitOn '_' s
  if groups.all fun group => !group.isEmpty && group.all p then some groups.flatten else none

def digits? (base : Nat) (s : List Char) : Option Nat :=
  (ungrouped? (fun c => (Text.hexValue? c).any (· < base)) s).map fun ds =>
    ds.foldl (fun n c => n * base + (Text.hexValue? c).getD 0) 0

/-- Decimal digits that do not begin with a needless zero. -/
def decimal? (s : List Char) : Option (List Char) :=
  match ungrouped? Text.isDigit s with
  | some ('0' :: _ :: _) => none
  | other => other

/-- Whether underscores stand between digits only. The digits of every base count as such, and what
stands without underscores is not looked at. -/
def isGrouped (s : List Char) : Bool :=
  let isHex (c : Char) := (Text.hexValue? c).isSome
  let groups := Text.splitOn '_' s
  groups.length = 1 ||
    (groups.all (·.head?.any isHex) && groups.dropLast.all (·.getLast?.any isHex))

def integerItem (value? : Option Int) : Item :=
  match value? with
  | some i => if Bits.fits 128 i then .integer i else .unsound
  | none => .unsound

def basedInteger? (base : Nat) (s : List Char) : Option Item :=
  if isGrouped s then some (integerItem ((digits? base s).map Int.ofNat)) else none

/-- An integer in decimal digits without needless zeros. -/
def decimalInteger? (negative : Bool) (s : List Char) : Option Item :=
  let later := s.dropWhile Text.isDigit
  let isPadded := s.head? == some '0' && s.length != 1
  if later.length == s.length || isPadded || (!later.isEmpty && later.head? != some '_') ||
      later.any ['.', 'e', 'E'].contains || !isGrouped s then none
  else
    some (integerItem ((decimal? s).map fun ds =>
      if negative then -(Text.digitsValue ds : Int) else Text.digitsValue ds))

/-- An integer: signed in decimal digits, or unsigned with a base in front. -/
def integer? : List Char → Option Item
  | '0' :: 'x' :: rest => basedInteger? 16 rest
  | '0' :: 'o' :: rest => basedInteger? 8 rest
  | '0' :: 'b' :: rest => basedInteger? 2 rest
  | s => decimalInteger? (Decimal.takeSign s).1 (Decimal.takeSign s).2

def exponent? (s : List Char) : Option Int :=
  let (negative, rest) := Decimal.takeSign s
  (ungrouped? Text.isDigit rest).map fun ds =>
    if negative then -(Text.digitsValue ds : Int) else Text.digitsValue ds

/-- A fraction without its sign: it has a point with digits on both sides, an exponent, or both. -/
def unsignedFraction? (s : List Char) : Option Float :=
  match String.ofList s with
  | "inf" => some (1 / 0)
  | "nan" => some (0 / 0)
  | _ =>
    let isMark (c : Char) := c == '.' || c == 'e' || c == 'E'
    let whole := s.takeWhile (!isMark ·)
    let sized (fraction : List Char) (exponent : Int) := do
      return Decimal.nearest (← decimal? whole) fraction exponent
    match s.dropWhile (!isMark ·) with
    | [] => none
    | '.' :: rest =>
      match ungrouped? Text.isDigit (rest.takeWhile (!isMark ·)), rest.dropWhile (!isMark ·) with
      | some fraction, [] => sized fraction 0
      | some fraction, mark :: rest => do
        if mark == '.' then none else sized fraction (← exponent? rest)
      | none, _ => none
    | _ :: rest => do sized [] (← exponent? rest)

/-- A fraction. Only infinity itself is as great as that. -/
def fraction? (s : List Char) : Option Item :=
  let (negative, rest) := Decimal.takeSign s
  (unsignedFraction? rest).map fun x =>
    if x.isInf && rest.head? != some 'i' then .unsound else .float (if negative then -x else x)

/-- A number of so many digits, and what follows. -/
def fixed? (width : Nat) (s : List Char) : Option (Nat × List Char) :=
  let digits := s.take width
  if digits.length == width && digits.all Text.isDigit then
    some (Text.digitsValue digits, s.drop width)
  else none

def monthDays (year month : Nat) : Nat :=
  if month == 2 then
    if year % 4 == 0 && (year % 100 != 0 || year % 400 == 0) then 29 else 28
  else if [4, 6, 9, 11].contains month then 30
  else 31

def afterDate? (s : List Char) : Option (List Char) := do
  let (year, s) ← fixed? 4 s
  let (month, s) ← fixed? 2 (← Text.stripStart? ['-'] s)
  let (day, s) ← fixed? 2 (← Text.stripStart? ['-'] s)
  if 1 ≤ month && month ≤ 12 && 1 ≤ day && day ≤ monthDays year month then some s else none

/-- What follows the seconds of a time, which may be left out; they may have a fraction. -/
def afterSeconds? : List Char → Option (List Char)
  | ':' :: s => do
    let (second, s) ← fixed? 2 s
    if 60 < second then none
    else match s with
      | '.' :: rest =>
        if (rest.takeWhile Text.isDigit).isEmpty then none else some (rest.dropWhile Text.isDigit)
      | _ => some s
  | s => some s

def afterTime? (s : List Char) : Option (List Char) := do
  let (hour, s) ← fixed? 2 s
  let (minute, s) ← fixed? 2 (← Text.stripStart? [':'] s)
  if 23 < hour || 59 < minute then none else afterSeconds? s

/-- Whether a text is the offset of a time from universal time, or empty. -/
def isOffset : List Char → Bool
  | [] => true
  | ['Z'] => true
  | ['z'] => true
  | sign :: s =>
    match fixed? 2 s with
    | some (hours, ':' :: rest) =>
      match fixed? 2 rest with
      | some (minutes, []) =>
        (sign == '+' || sign == '-') && hours ≤ 23 && minutes ≤ 59
      | _ => false
    | _ => false

/-- Whether a text is a date, a time, or both. -/
def isMoment (s : List Char) : Bool :=
  match afterDate? s with
  | some [] => true
  | some (mark :: rest) =>
    (mark == 'T' || mark == 't' || mark == ' ') && (afterTime? rest).any isOffset
  | none => afterTime? s == some []

/-- The value of a text without quotes. -/
def bare? (s : List Char) : Option Item :=
  if s == "true".toList then some (.bool true)
  else if s == "false".toList then some (.bool false)
  else if isMoment s then some (.moment (String.ofList s))
  else (integer? s).or (fraction? s)

/-- The text of a value without quotes, and what follows. A blank may part a date from a time. -/
def takeBare (s : List Char) : List Char × List Char :=
  let isBare (c : Char) := isKeyChar c || c == '+' || c == '.' || c == ':'
  let word := s.takeWhile isBare
  match afterDate? word, s.dropWhile isBare with
  | some [], ' ' :: rest =>
    if rest.head?.any Text.isDigit then
      (word ++ ' ' :: rest.takeWhile isBare, rest.dropWhile isBare)
    else (word, ' ' :: rest)
  | _, rest => (word, rest)

end TemplateBundle.Toml
