import TemplateBundle.Bits
import TemplateBundle.Decimal.Reading
import TemplateBundle.Json.Printer
import TemplateBundle.Render.Comparison
import TemplateBundle.Text.Quoted
import TemplateBundle.Text.Scanner

/-! Helper scripts: an expression over the arguments of a call. `params` holds what is given by
position and `hash` what is given by name. -/
namespace TemplateBundle

open Json (Value)
open Text (Scanner)

inductive Script where
  | literal (v : Value)
  | argument (index : Nat)
  | argumentCount
  /-- The argument of a name, null if it is not given -/
  | named (key : String)
  | sum (left right : Script)
  | greater (left right : Script)

namespace Script

/-- A fraction in a text is positional up to ten million million. Of two shortest decimals that are
equally near the greater one stands for it, here and inside of containers. -/
def floatText (x : Float) : String :=
  let size := x.abs
  if size != 0 && (1e13 < size || size < 1e-13) then
    (if x < 0 then "-" else "") ++ (Decimal.ofFloat .up size).write ⟨0, -1, "", ""⟩
  else
    (if x < 0 then "-" else "") ++
      if size == 0 then "0.0" else (Decimal.ofFloat .up size).write ⟨-30, 30, "", ".0"⟩

/-- A fraction inside a container shows an exponent earlier, and the sign of zero. -/
def innerStyle : Decimal.Style := ⟨-4, 15, "", ".0"⟩

def innerFloatText (x : Float) : String :=
  let (negative, _) := Json.floatParts x
  (if negative then "-" else "") ++
    if x == 0 then "0.0" else (Decimal.ofFloat .up x.abs).write innerStyle

mutual
def innerText : Value → String
  | .null => "()"
  | .bool b => if b then "true" else "false"
  | .number (.int i) => toString i
  | .number (.float x) => innerFloatText x
  | .string s => Text.quoted s
  | .array items => "[" ++ ", ".intercalate (innerTexts items) ++ "]"
  | .object members => "#\x7b" ++ ", ".intercalate (memberTexts members) ++ "\x7d"

def innerTexts : List Value → List String
  | [] => []
  | v :: rest => innerText v :: innerTexts rest

def memberTexts : List (String × Value) → List String
  | [] => []
  | (k, v) :: rest => (Text.quoted k ++ ": " ++ innerText v) :: memberTexts rest
end

def addedText : Value → String
  | .null => ""
  | .string s => s
  | .number (.float x) => floatText x
  | v => innerText v

def isInteger (i : Int) : Bool := Bits.fitsSigned 64 i

/-- An integer as scripts have it: one that is out of range is a fraction. -/
def integer (i : Int) : Json.Number :=
  if isInteger i then .int i
  else
    let size := Decimal.nearest (toString i.natAbs).toList [] 0
    .float (if i < 0 then -size else size)

mutual
def converted : Value → Value
  | .number (.int i) => .number (integer i)
  | .array items => .array (convertedItems items)
  | .object members => .object (convertedMembers members)
  | v => v

def convertedItems : List Value → List Value
  | [] => []
  | v :: rest => converted v :: convertedItems rest

def convertedMembers : List (String × Value) → List (String × Value)
  | [] => []
  | (k, v) :: rest => (k, converted v) :: convertedMembers rest
end

/-- Adds two values: a text takes up anything, and numbers are added as long as an integer sum is
in range. -/
def add : Value → Value → Option Value
  | .string a, b => some (.string (a ++ addedText b))
  | a, .string b => some (.string (addedText a ++ b))
  | .number (.int a), .number (.int b) =>
    if isInteger (a + b) then some (.number (.int (a + b))) else none
  | .number a, .number b => some (.number (.float (a.toFloat + b.toFloat)))
  | _, _ => none

/-- Whether a value is greater than another; values of different kinds never are. -/
def isGreater : Value → Value → Bool
  | .number a, .number b => a.order? b == some .gt
  | .string a, .string b => decide (b < a)
  | _, _ => false

/-- The value of a script over converted arguments; nothing if it fails. -/
def eval? (params : List Value) (hash : List (String × Value)) : Script → Option Value
  | .literal v => some v
  | .argument index => params[index]?
  | .argumentCount => some (.number (.int params.length))
  | .named key => some ((hash.lookup key).getD .null)
  | .sum left right => do
    let a ← eval? params hash left
    let b ← eval? params hash right
    add a b
  | .greater left right => do
    let a ← eval? params hash left
    let b ← eval? params hash right
    some (.bool (isGreater a b))

/-- The value of a script for what is given; nothing if it fails. -/
def run (params : List Value) (hash : List (String × Value)) (script : Script) : Option Value :=
  script.eval? (convertedItems params) (convertedMembers hash)

/-! ## Reading scripts -/

open Text.Scanner

/-- The character that a letter stands for after a backslash. -/
def escapedChar? (c : Char) : Option Char :=
  match c with
  | 'n' => some '\n'
  | 't' => some '\t'
  | 'r' => some '\r'
  | '"' => some '"'
  | '\\' => some '\\'
  | _ => none

/-- The characters of a string up to its quote, and the text behind it. -/
def stringRest : List Char → Option (List Char × List Char)
  | [] => none
  | '"' :: rest => some ([], rest)
  | '\\' :: e :: rest => do
    let c ← escapedChar? e
    let (more, behind) ← stringRest rest
    some (c :: more, behind)
  | '\n' :: _ => none
  | c :: rest => do
    let (more, behind) ← stringRest rest
    some (c :: more, behind)

def stringLiteral : Scanner String := do
  word ['"']
  let chars ← stringRest
  return String.ofList chars

/-- A number without sign or point. -/
def integerLiteral : Scanner Nat := do return Text.digitsValue (← run1 Text.isDigit)

def paramsTerm : Scanner Script := do
  word ['p', 'a', 'r', 'a', 'm', 's']
  either
    (do
      token ['[']
      gap
      let index ← integerLiteral
      token [']']
      return .argument index)
    (do
      token ['.']
      token ['l', 'e', 'n']
      token ['(']
      token [')']
      return .argumentCount)

def hashTerm : Scanner Script := do
  word ['h', 'a', 's', 'h']
  token ['[']
  gap
  let key ← stringLiteral
  token [']']
  return .named key

def term : Scanner Script := do
  gap
  either (do return .literal (.string (← stringLiteral)))
    (either (do return .literal (.number (integer (← integerLiteral))))
      (either paramsTerm hashTerm))

def sumTerm (fuel : Nat) : Scanner Script := do
  let first ← term
  let rest ← many (do word ['+']; term) fuel
  return rest.foldl .sum first

def script (fuel : Nat) : Scanner Script := do
  let left ← sumTerm fuel
  let right ← optionally (do token ['>']; sumTerm fuel)
  gap
  return match right with
    | none => left
    | some right => .greater left right

def parse? (text : String) : Option Script :=
  match script text.length text.toList with
  | some (s, []) => some s
  | _ => none

end Script
end TemplateBundle
