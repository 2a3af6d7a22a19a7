import TemplateBundle.Bits
import TemplateBundle.Json.Reader

/-! How templates judge values: which count as true, which come before others, and how many parts
a value has. -/
namespace TemplateBundle.Json

/-- The sign of a fraction, its mantissa and its power of two. -/
def floatParts (x : Float) : Bool × Nat × Int :=
  let bits : Nat := x.toBits.toNat
  let field : Nat := bits / Bits.count 52 % Bits.count 11
  let low : Nat := bits % Bits.count 52
  let parts : Nat × Int := if field = 0 then (low, -1074) else (low + Bits.count 52, field - 1075)
  (Bits.count 63 ≤ bits, parts)

def leastNormal : Float := Float.ofBits 0x0010000000000000

/-- Compares an integer with a finite fraction, exactly. -/
def compareIntFloat (i : Int) (x : Float) : Ordering :=
  let (negative, mantissa, power) := floatParts x
  let m : Int := if negative then -mantissa else mantissa
  compare (i * Bits.count (-power).toNat) (m * Bits.count power.toNat)

/-- Compares two fractions; nothing precedes or follows what is no number. -/
def compareFloats (x y : Float) : Option Ordering :=
  if x < y then some .lt else if x == y then some .eq else if y < x then some .gt else none

def Number.order? : Number → Number → Option Ordering
  | .int a, .int b => some (compare a b)
  | .int a, .float y => some (compareIntFloat a y)
  | .float x, .int b => some (compareIntFloat b x).swap
  | .float x, .float y => compareFloats x y

def Number.toFloat : Number → Float
  | .int (.ofNat n) => n.toUInt64.toFloat
  | .int (.negSucc n) => -(n + 1).toUInt64.toFloat
  | .float x => x

def Number.ofText? (s : String) : Option Number :=
  let (negative, size) := match s.toList with
    | '-' :: rest => (true, rest)
    | size => (false, size)
  match scanNumeral negative size with
  | .ok (numeral, []) => numeral.number?
  | _ => none

namespace Value

/-- The order of two values, if they have one. -/
def order? : Value → Value → Option Ordering
  | .number a, .number b => a.order? b
  | .string a, .string b => some (compare a b)
  | .bool a, .bool b => some (compare a b)
  | .number a, .string b => (Number.ofText? b).bind a.order?
  | .string a, .number b => (Number.ofText? a).bind fun n => n.order? b
  | _, _ => none

/-- Whether the value counts as true: all but null, false, zero, and empty texts and containers. A
fraction that is too small for full precision is as good as zero; `zeroCounts` makes every number
true. -/
def isTruthy (zeroCounts : Bool) : Value → Bool
  | .null => false
  | .bool b => b
  | .number (.int i) => zeroCounts || i != 0
  | .number (.float x) => zeroCounts || leastNormal ≤ x.abs
  | .string s => !s.isEmpty
  | .array items => !items.isEmpty
  | .object members => !members.isEmpty

/-- How many parts the value has: the bytes of a text, the elements or the members. -/
def partCount : Value → Nat
  | .string s => s.utf8ByteSize
  | .array items => items.length
  | .object members => members.length
  | _ => 0

end Value
end TemplateBundle.Json
