import TemplateBundle.Bits

/-! The shortest decimal that reads back as a given binary fraction. A value between two others is
named by any decimal nearer to it than to them; the coarsest decimal grid with such a point gives
the fewest digits, and of two such points on it the nearer one is taken. -/
namespace TemplateBundle.Decimal

/-- The number `digits · 10 ^ exponent`. -/
structure Scientific where
  /-- The significant digits, as one number -/
  digits : Nat
  /-- The power of ten they are multiplied by -/
  exponent : Int
  deriving DecidableEq, Repr

/-- A positive binary fraction `mantissa · 2 ^ exponent`, with the set of numbers that round to it.
`narrowBelow` says that the next smaller fraction is only half as far away as the next larger. -/
structure Binary where
  mantissa : Nat
  exponent : Int
  narrowBelow : Bool
  deriving DecidableEq, Repr

/-- A fraction's lower end, value and upper end as integers over one denominator, measured in units
of `10 ^ grid`. -/
structure Window where
  lower : Nat
  value : Nat
  upper : Nat
  denominator : Nat
  endsIncluded : Bool

/-- The numbers that round to `b`, on the decimal grid of step `10 ^ grid`. -/
def Binary.window (b : Binary) (grid : Int) : Window :=
  let scale := Bits.count (b.exponent - 2).toNat * Nat.pow 10 (-grid).toNat
  { lower := (4 * b.mantissa - if b.narrowBelow then 1 else 2) * scale
    value := 4 * b.mantissa * scale
    upper := (4 * b.mantissa + 2) * scale
    denominator := Bits.count (2 - b.exponent).toNat * Nat.pow 10 grid.toNat
    endsIncluded := b.mantissa % 2 = 0 }

/-- Whether the `n`-th grid point lies in the window. -/
def Window.contains (w : Window) (n : Nat) : Bool :=
  let point := n * w.denominator
  if w.endsIncluded then w.lower ≤ point && point ≤ w.upper
  else w.lower < point && point < w.upper

/-- Which of two decimals is taken that are equally near. -/
inductive Tie where
  /-- The one whose last digit is even -/
  | even
  /-- The greater one -/
  | up
  deriving DecidableEq, Repr

/-- The grid point of the window nearest to the value, if there is one. -/
def Window.nearest? (w : Window) (tie : Tie) : Option Nat :=
  let below := w.value / w.denominator
  let above := below + 1
  match w.contains below, w.contains above with
  | false, false => none
  | true, false => some below
  | false, true => some above
  | true, true =>
    let down := w.value - below * w.denominator
    let up := above * w.denominator - w.value
    if down < up then some below
    else if up < down then some above
    else if tie = .even && below % 2 = 0 then some below else some above

/-- Searches the grids from `10 ^ grid` downwards. -/
def Binary.searchFrom (b : Binary) (tie : Tie) : Nat → Int → Option Scientific
  | 0, _ => none
  | steps + 1, grid =>
    match (b.window grid).nearest? tie with
    | some n => some ⟨n, grid⟩
    | none => b.searchFrom tie steps (grid - 1)

/-- Drops trailing zeros from the digits; `fuel` bounds their count. -/
def Scientific.normalise : Nat → Scientific → Scientific
  | 0, s => s
  | fuel + 1, s =>
    if s.digits ≠ 0 ∧ s.digits % 10 = 0 then normalise fuel ⟨s.digits / 10, s.exponent + 1⟩ else s

/-- The shortest decimal of a positive fraction of double precision. No such fraction reaches
`10 ^ 309` or needs a digit below `10 ^ -330`. -/
def Binary.shortest (b : Binary) (tie : Tie) : Scientific :=
  ((b.searchFrom tie 640 309).getD ⟨0, 0⟩).normalise 400

/-- Reads the bits of a positive finite number of double precision. -/
def Binary.ofBits (bits : UInt64) : Binary :=
  let field : Nat := (bits.toNat / Bits.count 52) % 2048
  let fraction : Nat := bits.toNat % Bits.count 52
  if field = 0 then ⟨fraction, -1074, false⟩
  else ⟨Bits.count 52 + fraction, (field : Int) - 1075, fraction = 0 && 1 < field⟩

/-- The digits of the shortest decimal of a positive number, and the power of ten of the last. -/
def ofFloat (tie : Tie) (x : Float) : Scientific := (Binary.ofBits x.toBits).shortest tie

/-- How a format writes a decimal. -/
structure Style where
  /-- The least power of ten of the first digit that is still written positionally -/
  leastPositional : Int
  greatestPositional : Int
  /-- What stands between the digits and a power of ten that is not negative -/
  plus : String
  /-- What a whole number ends in -/
  wholeEnd : String

def zeros (n : Nat) : String := String.ofList (List.replicate n '0')

/-- The decimal in the given style. -/
def Scientific.write (style : Style) (s : Scientific) : String :=
  let digits := toString s.digits
  let count := digits.length
  let leading := s.exponent + count - 1
  if style.leastPositional ≤ leading ∧ leading ≤ style.greatestPositional then
    if leading < 0 then "0." ++ zeros (-leading - 1).toNat ++ digits
    else
      let whole := leading.toNat + 1
      if count ≤ whole then digits ++ zeros (whole - count) ++ style.wholeEnd
      else String.ofList (digits.toList.take whole) ++ "." ++
        String.ofList (digits.toList.drop whole)
  else
    let mantissa :=
      match digits.toList with
      | first :: second :: rest => String.ofList (first :: '.' :: second :: rest)
      | _ => digits
    mantissa ++ "e" ++ (if leading < 0 then "-" else style.plus) ++ toString leading.natAbs

end TemplateBundle.Decimal
