import TemplateBundle.Bits
import TemplateBundle.Json.Value
import TemplateBundle.Text.Char

/-! JSON numerals and the numbers they stand for. A numeral without fraction and exponent is an
integer if it fits in 64 bits; any other is a fraction of double precision, taken from the leading
digits that fit in 64 bits and then scaled by a power of ten. -/
namespace TemplateBundle.Json

/-- A numeral as it is written. -/
structure Numeral where
  negative : Bool
  whole : List Char
  /-- The digits after the point, empty without one -/
  fraction : List Char
  /-- The exponent: whether it is negative, and its digits -/
  exponent? : Option (Bool × List Char)

def maxUnsigned : Nat := Bits.count 64 - 1

/-- The greatest exponent that is read; a greater one counts as beyond every range. -/
def maxExponent : Nat := Bits.count 31 - 1

/-- The leading digits that fit in 64 bits, as a number, and how many digits that leaves. -/
def takeDigits : Nat → List Char → Nat × Nat
  | n, [] => (n, 0)
  | n, d :: ds =>
    let next := n * 10 + Text.digitValue d
    if next ≤ maxUnsigned then takeDigits next ds else (n, ds.length + 1)

def powerOfTen (k : Nat) : Float := Float.ofScientific 1 false k

/-- Scales by a power of ten; nothing if the result is beyond the range. `fuel` bounds the steps of
`10 ^ 308` that a very small exponent takes. -/
def scale (x : Float) : Nat → Int → Option Float
  | 0, _ => some 0
  | fuel + 1, exponent =>
    if exponent.natAbs ≤ 308 then
      if 0 ≤ exponent then
        let y := x * powerOfTen exponent.natAbs
        if y.isInf then none else some y
      else some (x / powerOfTen exponent.natAbs)
    else if x == 0 then some x
    else if 0 ≤ exponent then none
    else scale (x / powerOfTen 308) fuel (exponent + 308)

namespace Numeral

/-- The significand, and the power of ten that the digits of the numeral give it. -/
def significand (n : Numeral) : Nat × Int :=
  let (whole, dropped) := takeDigits 0 n.whole
  let (all, unused) := takeDigits whole n.fraction
  (all, (dropped : Int) - (n.fraction.length - unused : Nat))

/-- The fraction a numeral stands for; nothing beyond the range of double precision. -/
def float? (n : Numeral) : Option Float :=
  let (digits, shift) := n.significand
  let signed (x : Float) := if n.negative then -x else x
  match n.exponent? with
  | none => (scale digits.toUInt64.toFloat 8 shift).map signed
  | some (negative, ds) =>
    let e := Text.digitsValue ds
    if maxExponent < e then
      if digits ≠ 0 ∧ !negative then none else some (signed 0)
    else (scale digits.toUInt64.toFloat 8 (if negative then shift - e else shift + e)).map signed

/-- The number a numeral stands for; nothing beyond the range of double precision. -/
def number? (n : Numeral) : Option Number :=
  let size := Text.digitsValue n.whole
  if n.fraction.isEmpty && n.exponent?.isNone then
    if n.negative then
      if 0 < size && size ≤ Bits.count 63 then some (.int (-size)) else Number.float <$> n.float?
    else if size ≤ maxUnsigned then some (.int size)
    else Number.float <$> n.float?
  else Number.float <$> n.float?

end Numeral
end TemplateBundle.Json
