import TemplateBundle.Bits
import TemplateBundle.Decimal.Shortest
import TemplateBundle.Json.Value
import TemplateBundle.Text.Char

/-! The compact text of a value: no spaces, and in strings only the escapes that JSON requires. -/
namespace TemplateBundle.Json

def escapedChar (c : Char) : List Char :=
  if c = '"' then ['\\', '"']
  else if c = '\\' then ['\\', '\\']
  else if c = Char.ofNat 8 then ['\\', 'b']
  else if c = '\t' then ['\\', 't']
  else if c = '\n' then ['\\', 'n']
  else if c = Char.ofNat 12 then ['\\', 'f']
  else if c = '\r' then ['\\', 'r']
  else if c.toNat < 32 then
    ['\\', 'u', '0', '0', Text.hexDigit (c.toNat / 16), Text.hexDigit (c.toNat % 16)]
  else [c]

def stringChars (s : String) : List Char := ['"'] ++ s.toList.flatMap escapedChar ++ ['"']

/-- A fraction shows that it is one, and is positional from five places after the point to sixteen
before it. -/
def numberStyle : Decimal.Style := ⟨-5, 15, "+", ".0"⟩

def floatText (x : Float) : String :=
  let sign := if x.toBits.toNat < Bits.count 63 then "" else "-"
  let size := if x.toBits.toNat < Bits.count 63 then x else -x
  sign ++ if size == 0 then "0.0" else (Decimal.ofFloat .even size).write numberStyle

def Number.text : Number → String
  | .int i => toString i
  | .float x => floatText x

mutual
def Value.chars : Value → List Char
  | .null => "null".toList
  | .bool true => "true".toList
  | .bool false => "false".toList
  | .number n => n.text.toList
  | .string s => stringChars s
  | .array items => ['['] ++ itemsChars items ++ [']']
  | .object members => ['{'] ++ membersChars members ++ ['}']

/-- The elements of an array, between commas. -/
def itemsChars : List Value → List Char
  | [] => []
  | [v] => v.chars
  | v :: w :: rest => v.chars ++ [','] ++ itemsChars (w :: rest)

/-- The members of an object, between commas. -/
def membersChars : List (String × Value) → List Char
  | [] => []
  | [(k, v)] => stringChars k ++ [':'] ++ v.chars
  | (k, v) :: m :: rest =>
    stringChars k ++ [':'] ++ v.chars ++ [','] ++ membersChars (m :: rest)
end

def Value.compress (v : Value) : String := String.ofList v.chars

def quote (s : String) : String := String.ofList (stringChars s)

end TemplateBundle.Json
