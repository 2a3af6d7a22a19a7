import TemplateBundle.Bits
import TemplateBundle.Json.Value

/-! A JSON text as far as it can be read: every member of an object in the order of the text,
repeated keys included, and in the place of a part that is no JSON the fault that stands there.
Consumers walk the document in the order of the text, so the first fault they meet is the one that
a reader of the text would meet. -/
namespace TemplateBundle.Json

/-- Why a text is not the JSON that was asked for. -/
inductive Fault where
  | truncated
  /-- The text is not JSON -/
  | malformed
  | mismatch
  deriving DecidableEq, Repr, Inhabited

/-- Where a text stops being JSON. A part that nobody asks for is only skipped, and then an
unfinished number is not told from a wrong one. -/
structure Break where
  /-- The fault if the part is read -/
  read : Fault
  /-- The fault if the part is skipped -/
  skip : Fault
  deriving DecidableEq, Repr, Inhabited

/-- The same fault for readers that want the part and for those that skip it. -/
def Break.of (fault : Fault) : Break := ⟨fault, fault⟩

/-- A JSON text as far as it can be read. -/
inductive Document where
  | null
  | bool (b : Bool)
  /-- A numeral; nothing if its number is out of range -/
  | number (n : Option Number)
  /-- A string; nothing if its escapes spell no text -/
  | string (s : Option String)
  /-- An array, and what is wrong in the place of its end, if anything is -/
  | array (items : List Document) (tail : Option Break)
  /-- An object, and what is wrong in the place of its end, if anything is -/
  | object (members : List (Option String × Document)) (tail : Option Break)
  | broken (b : Break)
  deriving Inhabited

/-- The containers that may be open at once, the outermost counted, while values are read. -/
def depthLimit : Nat := 128

/-- Passes unless there is a fault. -/
def checkTail (pick : Break → Fault) : Option Break → Except Fault Unit
  | none => .ok ()
  | some b => .error (pick b)

namespace Document

mutual
/-- The value of the document. `depth` is the number of containers that may still be opened. -/
def toValue : Nat → Document → Except Fault Value
  | _, .null => .ok .null
  | _, .bool b => .ok (.bool b)
  | _, .number none => .error .malformed
  | _, .number (some n) => .ok (.number n)
  | _, .string none => .error .malformed
  | _, .string (some s) => .ok (.string s)
  | depth, .array items tail =>
    if depth ≤ 1 then .error .malformed
    else do
      let values ← itemValues (depth - 1) items
      checkTail Break.read tail
      .ok (.array values)
  | depth, .object members tail =>
    if depth ≤ 1 then .error .malformed
    else do
      let values ← memberValues (depth - 1) members []
      checkTail Break.read tail
      .ok (.object values)
  | _, .broken b => .error b.read

def itemValues : Nat → List Document → Except Fault (List Value)
  | _, [] => .ok []
  | depth, item :: rest => do
    let value ← item.toValue depth
    let values ← itemValues depth rest
    .ok (value :: values)

/-- Adds the members of an object to those read before. -/
def memberValues : Nat → List (Option String × Document) → Members → Except Fault Members
  | _, [], seen => .ok seen
  | _, (none, _) :: _, _ => .error .malformed
  | depth, (some key, item) :: rest, seen => do
    let value ← item.toValue depth
    memberValues depth rest (seen.insert key value)
end

mutual
/-- Passes over the document, whatever its value. -/
def pass : Document → Except Fault Unit
  | .array items tail => do passItems items; checkTail Break.skip tail
  | .object members tail => do passMembers members; checkTail Break.skip tail
  | .broken b => .error b.skip
  | _ => .ok ()

def passItems : List Document → Except Fault Unit
  | [] => .ok ()
  | item :: rest => do item.pass; passItems rest

def passMembers : List (Option String × Document) → Except Fault Unit
  | [] => .ok ()
  | (_, item) :: rest => do item.pass; passMembers rest
end

mutual
def ofValue : Value → Document
  | .null => .null
  | .bool b => .bool b
  | .number n => .number (some n)
  | .string s => .string (some s)
  | .array items => .array (ofItems items) none
  | .object members => .object (ofMembers members) none

def ofItems : List Value → List Document
  | [] => []
  | v :: rest => ofValue v :: ofItems rest

def ofMembers : List (String × Value) → List (Option String × Document)
  | [] => []
  | (k, v) :: rest => (some k, ofValue v) :: ofMembers rest
end

/-- The fault of a document that has another shape than was asked for. The contents of a container
are not looked at; a scalar is read first. -/
def mismatch : Document → Fault
  | .number none => .malformed
  | .string none => .malformed
  | .broken b => b.read
  | _ => .mismatch

def toBool : Document → Except Fault Bool
  | .bool b => .ok b
  | doc => .error doc.mismatch

def toText : Document → Except Fault String
  | .string (some s) => .ok s
  | doc => .error doc.mismatch

def toWord : Document → Except Fault Nat
  | .number (some (.int i)) => if Bits.fitsUnsigned 32 i then .ok i.toNat else .error .mismatch
  | doc => .error doc.mismatch

/-- Reads `null` as nothing and all else with `read`. -/
def toOption {α : Type} (read : Document → Except Fault α) : Document → Except Fault (Option α)
  | .null => .ok none
  | doc => some <$> read doc

def toList {α : Type} (read : Document → Except Fault α) : Document → Except Fault (List α)
  | .array items tail => do
    let values ← items.mapM read
    checkTail Break.read tail
    .ok values
  | doc => .error doc.mismatch

end Document
end TemplateBundle.Json
