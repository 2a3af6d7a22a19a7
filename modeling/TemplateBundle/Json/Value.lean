/-! JSON data. Objects keep their members sorted by key, one for each key. -/
namespace TemplateBundle.Json

/-- A number: an integer of 64 bits, signed or not, or a fraction of double precision. -/
inductive Number where
  | int (i : Int)
  | float (x : Float)
  deriving BEq, Inhabited

inductive Value where
  | null
  | bool (b : Bool)
  | number (n : Number)
  | string (s : String)
  | array (items : List Value)
  | object (members : List (String × Value))
  deriving Inhabited

/-- The members of an object, in the order of their keys. -/
abbrev Members := List (String × Value)

mutual
/-- Equality of values; an integer differs from a fraction. -/
def Value.beq : Value → Value → Bool
  | .null, .null => true
  | .bool a, .bool b => a == b
  | .number a, .number b => a == b
  | .string a, .string b => a == b
  | .array a, .array b => beqItems a b
  | .object a, .object b => beqMembers a b
  | _, _ => false

def beqItems : List Value → List Value → Bool
  | [], [] => true
  | a :: as, b :: bs => a.beq b && beqItems as bs
  | _, _ => false

def beqMembers : List (String × Value) → List (String × Value) → Bool
  | [], [] => true
  | (k, a) :: as, (l, b) :: bs => k == l && a.beq b && beqMembers as bs
  | _, _ => false
end

instance : BEq Value := ⟨Value.beq⟩

namespace Members

/-- Puts a member in its place; a member of the same key is replaced. -/
def insert (key : String) (value : Value) : Members → Members
  | [] => [(key, value)]
  | (k, v) :: rest =>
    if key = k then (key, value) :: rest
    else if key < k then (key, value) :: (k, v) :: rest
    else (k, v) :: insert key value rest

/-- The members of a list of pairs, the last of each key. -/
def ofList (pairs : List (String × Value)) : Members :=
  pairs.foldl (fun members (key, value) => members.insert key value) []

def get? (members : Members) (key : String) : Option Value := members.lookup key

end Members

namespace Value

def empty : Value := .object []

def ofMembers (pairs : List (String × Value)) : Value := .object (Members.ofList pairs)

def kindName : Value → String
  | .null => "null"
  | .bool _ => "a boolean"
  | .number _ => "a number"
  | .string _ => "a string"
  | .array _ => "an array"
  | .object _ => "an object"

def isObject : Value → Bool
  | .object _ => true
  | _ => false

def string? : Value → Option String
  | .string s => some s
  | _ => none

def nat? : Value → Option Nat
  | .number (.int i) => if 0 ≤ i then some i.toNat else none
  | _ => none

end Value
end TemplateBundle.Json
