import TemplateBundle.Text.Char

/-! Decimal texts and the fractions of double precision nearest to them. -/
namespace TemplateBundle.Decimal

/-- The value of digits before and after a point, times a power of ten, rounded to the nearest
fraction. Powers that lie beyond every fraction are cut off first. -/
def nearest (whole fraction : List Char) (exponent : Int) : Float :=
  let digits := Text.digitsValue (whole ++ fraction)
  let power := exponent - fraction.length
  let order := power + (whole ++ fraction).length
  if digits = 0 ∨ order < -400 then 0
  else if 400 < power then 1 / 0
  else Float.ofScientific digits (power < 0) power.natAbs

/-- The sign that a text begins with, and the text after it. -/
def takeSign : List Char → Bool × List Char
  | '-' :: rest => (true, rest)
  | '+' :: rest => (false, rest)
  | s => (false, s)

def integer? (s : List Char) : Option Int :=
  let (negative, digits) := takeSign s
  if digits.isEmpty || !digits.all Text.isDigit then none
  else
    let n : Int := Text.digitsValue digits
    some (if negative then -n else n)

/-- The digits at the front of a text, and the text after them. -/
def takeDigits (s : List Char) : List Char × List Char :=
  (s.takeWhile Text.isDigit, s.dropWhile Text.isDigit)

/-- The digits after a point, if a point comes first. -/
def takeFraction : List Char → List Char × List Char
  | '.' :: rest => takeDigits rest
  | s => ([], s)

/-- The exponent that a text consists of; an empty text is the exponent zero. -/
def exponent? : List Char → Option Int
  | [] => some 0
  | e :: rest => if e = 'e' ∨ e = 'E' then integer? rest else none

/-- A decimal without a sign: digits, at most one point among or around them, and an exponent. -/
def unsigned? (s : List Char) : Option Float :=
  let (whole, rest) := takeDigits s
  let (fraction, rest) := takeFraction rest
  if whole.isEmpty && fraction.isEmpty then none
  else (exponent? rest).map (nearest whole fraction)

/-- The names of what is no finite fraction, in lower case. -/
def special? (s : List Char) : Option Float :=
  match String.ofList (s.map Char.toLower) with
  | "inf" => some (1 / 0)
  | "infinity" => some (1 / 0)
  | "nan" => some (0 / 0)
  | _ => none

def toFloat? (s : List Char) : Option Float :=
  let (negative, size) := takeSign s
  ((unsigned? size).or (special? size)).map fun x => if negative then -x else x

end TemplateBundle.Decimal
