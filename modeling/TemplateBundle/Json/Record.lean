import TemplateBundle.Json.Reader

/-! Records in JSON: an object with a member for each field, or an array of the fields in order.
Members that name no field are passed over. -/
namespace TemplateBundle.Json

/-- A field of a record that is built up in `σ`. -/
structure RecordField (σ : Type) where
  keys : List String
  read : Document → σ → Except Fault σ

def fieldOf? {σ : Type} (fields : List (RecordField σ)) (key : String) : Option (RecordField σ) :=
  fields.find? fun field => field.keys.contains key

/-- Reads the members of an object. A field may be given once, whatever its spelling: `seen` holds
the keys that name the fields given so far. -/
def readMembers {σ : Type} (fields : List (RecordField σ)) :
    List (Option String × Document) → List String → σ → Except Fault σ
  | [], _, record => .ok record
  | (none, _) :: _, _, _ => .error .malformed
  | (some key, doc) :: rest, seen, record =>
    match fieldOf? fields key with
    | none => do
      doc.pass
      readMembers fields rest seen record
    | some field =>
      if seen.contains key then .error .mismatch
      else do
        let record ← field.read doc record
        readMembers fields rest (field.keys ++ seen) record

theorem readMembers_cons {σ : Type} {fields : List (RecordField σ)} {key : String}
    {doc : Document} {field : RecordField σ} {record next : σ} {seen : List String}
    (hField : fieldOf? fields key = some field) (hNew : seen.contains key = false)
    (hRead : field.read doc record = .ok next) (rest : List (Option String × Document)) :
    readMembers fields ((some key, doc) :: rest) seen record =
      readMembers fields rest (field.keys ++ seen) next := by
  simp only [readMembers, hField, hNew, hRead, bind, Except.bind]
  rfl

/-- Reads the elements of an array as the fields in order; there may be fewer, but not more. -/
def readItems {σ : Type} : List (RecordField σ) → List Document → σ → Except Fault σ
  | _, [], record => .ok record
  | [], _ :: _, _ => .error .malformed
  | field :: fields, doc :: rest, record => do
    let record ← field.read doc record
    readItems fields rest record

def readRecord {σ : Type} (fields : List (RecordField σ)) (initial : σ) : Document → Except Fault σ
  | .object members tail => do
    let record ← readMembers fields members [] initial
    checkTail Break.read tail
    .ok record
  | .array items tail => do
    let record ← readItems fields items initial
    checkTail Break.read tail
    .ok record
  | doc => .error doc.mismatch

/-- Reads a record from a value that is already there: whatever does not fit is a mismatch. -/
def fromValue {α : Type} (read : Document → Except Fault α) (value : Value) : Except Fault α :=
  match read (Document.ofValue value) with
  | .ok a => .ok a
  | .error _ => .error .mismatch

end TemplateBundle.Json
