import TemplateBundle.Render.Scope
import TemplateBundle.Render.Text
import TemplateBundle.Script

/-! The helpers that templates call. A helper that computes a value is a function of its arguments;
one that governs a block says which of its bodies is rendered, and with what data. -/
namespace TemplateBundle

open Json (Value)

/-- What is given to a helper in one place. -/
structure Given where
  /-- What the tag calls it, if it is a reference -/
  label? : Option String
  /-- Its value, unless it is missing -/
  found? : Option Found

/-- The value of what is given; what is missing counts as null. -/
def Given.value (g : Given) : Value :=
  match g.found? with
  | some f => f.value
  | none => .null

/-- The data that what is given can be taken as. -/
def Given.base (g : Given) : Base :=
  match g.found? with
  | some f => f.base
  | none => .value .null

/-- All that is given to a helper. -/
structure Arguments where
  positional : List Given
  named : List (String × Given)

inductive Relation where
  | eq | ne | lt | lte | gt | gte
  deriving DecidableEq, Repr

def Relation.name : Relation → String
  | .eq => "eq"
  | .ne => "ne"
  | .lt => "lt"
  | .lte => "lte"
  | .gt => "gt"
  | .gte => "gte"

/-- Whether the relation holds; values without order are neither less nor greater. -/
def Relation.holds (r : Relation) (a b : Value) : Bool :=
  match r with
  | .eq => a == b
  | .ne => !(a == b)
  | .lt => a.order? b == some .lt
  | .lte => a.order? b == some .lt || a.order? b == some .eq
  | .gt => a.order? b == some .gt
  | .gte => a.order? b == some .gt || a.order? b == some .eq

inductive Helper where
  /-- Renders its body if its argument is as expected, true or false -/
  | condition (expected : Bool)
  | each
  | within
  | verbatim
  | log
  /-- An element of an array or a member of an object -/
  | lookup
  | compare (r : Relation)
  | all
  | any
  | negate
  | count
  | identifier
  | json
  | script (s : Script)

namespace Helper

/-- The helpers that are always there. -/
def standard : List (String × Helper) := [
  ("if", .condition true), ("unless", .condition false), ("each", .each), ("with", .within),
  ("raw", .verbatim), ("log", .log), ("lookup", .lookup), ("eq", .compare .eq),
  ("ne", .compare .ne), ("lt", .compare .lt), ("lte", .compare .lte), ("gt", .compare .gt),
  ("gte", .compare .gte), ("and", .all), ("or", .any), ("not", .negate), ("len", .count)]

def logLevels : List String := ["error", "warn", "info", "debug", "trace"]

def at? (helper : String) (args : Arguments) (index : Nat) : Except RenderError Given :=
  match args.positional[index]? with
  | some g => .ok g
  | none => .error (.missingArgument helper index)

/-- The value given at a position; in strict mode it must not be missing. -/
def required (strict : Bool) (helper : String) (args : Arguments) (index : Nat) :
    Except RenderError Value := do
  let g ← at? helper args index
  if strict && g.found?.isNone then .error (.missingArgument helper index)
  .ok g.value

/-- The first value, under the name that the helper calls it by. -/
def requiredNamed (strict : Bool) (helper argument : String) (args : Arguments) :
    Except RenderError Value :=
  match args.positional.head? with
  | none => .error (.missingNamedArgument helper argument)
  | some g =>
    if strict && g.found?.isNone then .error (.missingNamedArgument helper argument)
    else .ok g.value

/-- The part of a collection that an index or a key names. -/
def part? (collection key : Value) : Option Value :=
  match collection, key with
  | .array items, key => key.nat?.bind fun i => items[i]?
  | .object members, .string k => Json.Members.get? members k
  | _, _ => none

/-- What a helper makes of its arguments. -/
inductive Outcome where
  | value (v : Value)
  /-- The first body is rendered if `b` is true and the other one if not; in a value it is `b` -/
  | choice (b : Bool)
  | nothing
  /-- The first body is rendered -/
  | body
  | otherwise
  /-- The first body is rendered in each of the frames -/
  | inside (frames : List Frame)

/-- The frame of a block over what it is given. -/
def withFrame (g : Given) (blockParams : List String) : Frame :=
  match blockParams with
  | [name] => ⟨g.base, [(name, g.base)], []⟩
  | _ => ⟨g.base, [], []⟩

def partBase (g : Given) (key : String) (v : Value) : Base :=
  match g.base with
  | .route keys => .route (keys ++ [key])
  | .value _ => .value v

/-- The frame of a block over the `index`-th of `count` parts, a member if it has a key. -/
def eachFrame (base : Base) (blockParams : List String) (key? : Option String)
    (index count : Nat) : Frame :=
  let position : Value := .number (.int index)
  let key := (key?.map Value.string).getD position
  let params := match blockParams with
    | [name] => [(name, base)]
    | [name, keyName] => [(keyName, .value key), (name, base)]
    | _ => []
  let vars := [("first", .bool (index == 0)), ("last", .bool (index + 1 == count)),
    ("index", position)]
  ⟨base, params, vars ++ key?.toList.map fun k => ("key", .string k)⟩

/-- The frames of a block over the elements of an array. -/
def itemFrames (g : Given) (blockParams : List String) (items : List Value) : List Frame :=
  items.zipIdx.map fun (v, i) =>
    eachFrame (partBase g (toString i) v) blockParams none i items.length

/-- The frames of a block over the members of an object. -/
def memberFrames (g : Given) (blockParams : List String) (members : List (String × Value)) :
    List Frame :=
  members.zipIdx.map fun ((k, v), i) =>
    eachFrame (partBase g k v) blockParams (some k) i members.length

/-- The bodies that a call comes with. -/
inductive Bodies where
  /-- The call is no block -/
  | none
  | one
  | both
  deriving DecidableEq, Repr

/-- What is rendered if there is nothing to render a body for. -/
def unmet (strict : Bool) (bodies : Bodies) (g : Given) : Except RenderError Outcome :=
  if bodies = .both then .ok .otherwise
  else if strict then .error (.missingVariable g.label?)
  else .ok .nothing

/-- Whether parts are gone through: an empty collection gives way to another body. -/
def goesThrough (bodies : Bodies) (count : Nat) : Bool := count != 0 || bodies != .both

def apply (helper : Helper) (strict : Bool) (bodies : Bodies) (blockParams : List String)
    (args : Arguments) : Except RenderError Outcome :=
  match helper with
  | .condition expected => do
    let g ← at? "if" args 0
    let zeroCounts := match args.named.lookup "includeZero" with
      | some z => z.value == .bool true
      | none => false
    .ok (if g.value.isTruthy zeroCounts == expected then .body else .otherwise)
  | .each => do
    let g ← at? "each" args 0
    if bodies = .none then .ok .nothing
    else
      match g.value with
      | .array items =>
        if goesThrough bodies items.length then .ok (.inside (itemFrames g blockParams items))
        else unmet strict bodies g
      | .object members =>
        if goesThrough bodies members.length then
          .ok (.inside (memberFrames g blockParams members))
        else unmet strict bodies g
      | _ => unmet strict bodies g
  | .within => do
    let g ← at? "with" args 0
    if g.value.isTruthy false then .ok (.inside [withFrame g blockParams])
    else unmet strict bodies g
  | .verbatim => .ok .body
  | .log =>
    let level := ((args.named.lookup "level").bind fun g => g.value.string?).getD "info"
    if logLevels.contains level.toLower then .ok .nothing else .error (.invalidLogLevel level)
  | .lookup => do
    let collection ← at? "lookup" args 0
    let key ← at? "lookup" args 1
    match part? collection.value key.value with
    | some v => .ok (.value v)
    | none => if strict then .error (.missingVariable none) else .ok (.value .null)
  | .compare r => do
    let a ← required strict r.name args 0
    let b ← required strict r.name args 1
    .ok (.choice (r.holds a b))
  | .all => .ok (.choice (args.positional.all fun g => g.value.isTruthy false))
  | .any => .ok (.choice (args.positional.any fun g => g.value.isTruthy false))
  | .negate => do
    let a ← required strict "not" args 0
    .ok (.choice (!a.isTruthy false))
  | .count => do
    let a ← requiredNamed strict "len" "x" args
    .ok (.value (.number (.int a.partCount)))
  | .identifier => do
    match ← requiredNamed strict "var" "name" args with
    | .string s => .ok (.value (.string (s.map fun c => if c = '-' then '_' else c)))
    | _ => .error (.argumentMismatch "var" "name" "str")
  | .json => do
    let a ← requiredNamed strict "json" "value" args
    .ok (.value (.string a.compress))
  | .script s =>
    match s.run (args.positional.map Given.value) (args.named.map fun (k, g) => (k, g.value)) with
    | some v => .ok (.value v)
    | none => .error .scriptFailed

end Helper
end TemplateBundle
