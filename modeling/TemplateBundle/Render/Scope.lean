import TemplateBundle.Bits
import TemplateBundle.Render.Error
import TemplateBundle.Text.Char

/-! What names mean at a place in a template. Blocks stack frames over the data of the rendering;
a frame says what data its body sees, which names stand for data of their own, and which variables
are set. -/
namespace TemplateBundle

/-- Data that steps can be taken from. -/
inductive Base where
  | route (keys : List String)
  | value (v : Json.Value)
  deriving Inhabited

/-- A value, and its place in the data of the rendering if it has one. -/
structure Found where
  value : Json.Value
  route? : Option (List String)
  deriving Inhabited

/-- The data that a value which was found can be taken as. -/
def Found.base (f : Found) : Base :=
  match f.route? with
  | some keys => .route keys
  | none => .value f.value

/-- What a block puts over the scope around it. -/
structure Frame where
  base : Base
  params : List (String × Base)
  vars : List (String × Json.Value)
  deriving Inhabited

/-- What names mean at a place in a template. -/
structure Scope where
  /-- The frames, the innermost first -/
  frames : List Frame
  /-- The partials that were defined on the way, the latest first -/
  inlines : List (String × Template)
  /-- What `@partial-block` stands for, if the partial was included with a body -/
  partialBlock? : Option String
  /-- The template whose text this is, unless it has no name -/
  current : Option String
  indent : String

def Scope.initial : Scope := ⟨[⟨.route [], [], []⟩], [], none, none, ""⟩

def maxIndex : Nat := Bits.count 64 - 1

/-- The index that a key spells in an array of a length. No array is longer than the greatest index
that is read, so the elements have an index in any case. -/
def index? (length : Nat) (key : String) : Option Nat :=
  let digits := match key.toList with
    | '+' :: rest => rest
    | s => s
  if digits.isEmpty || !digits.all Text.isDigit then none
  else
    let n := Text.digitsValue digits
    if n < length ∨ n ≤ maxIndex then some n else none

/-- The position of an element is its index. -/
theorem index?_toString {length i : Nat} (h : i < length) :
    index? length (toString i) = some i := by
  have hDigits : ∀ c ∈ (toString i).toList, Text.isDigit c = true := fun c hc =>
    Text.isDigit_of_mem_toString hc
  have hAll : (toString i).toList.all Text.isDigit = true := List.all_eq_true.mpr hDigits
  have hSome : (toString i).toList.isEmpty = false :=
    List.isEmpty_eq_false_iff.mpr (Text.toList_toString_ne_nil i)
  have hPlus : ∀ rest, (toString i).toList ≠ '+' :: rest := by
    intro rest hRest
    have := hDigits '+' (by rw [hRest]; exact List.mem_cons_self)
    exact absurd this (by decide)
  unfold index?
  split
  · next rest hRest => exact absurd hRest (hPlus rest)
  · dsimp only
    rw [hAll, hSome, Text.digitsValue_toString]
    exact if_pos (Or.inl h)

/-- Takes one step: nothing if the value has no such part. -/
def step (key : String) : Json.Value → Except RenderError (Option Json.Value)
  | .array items =>
    match index? items.length key with
    | none => .error (.invalidIndex key)
    | some i => .ok items[i]?
  | .object members => .ok (Json.Members.get? members key)
  | _ => .ok none

def follow : List String → Json.Value → Except RenderError (Option Json.Value)
  | [], v => .ok (some v)
  | key :: rest, v => do
    match ← step key v with
    | none => .ok none
    | some w => follow rest w

/-- Takes steps from a base. What is found in the data of the rendering keeps its place. -/
def Base.follow (data : Json.Value) (keys : List String) : Base → Except RenderError (Option Found)
  | .route start => do
    let found ← TemplateBundle.follow (start ++ keys) data
    .ok (found.map fun v => ⟨v, some (start ++ keys)⟩)
  | .value v => do
    let found ← TemplateBundle.follow keys v
    .ok (found.map fun w => ⟨w, none⟩)

def names : List Segment → List String
  | [] => []
  | .name s :: rest => s :: names rest
  | _ :: rest => names rest

/-- How many blocks a reference goes up before anything else. -/
def upCount : List Segment → Nat
  | .up :: rest => upCount rest + 1
  | _ => 0

/-- The variable that a reference means, and how many blocks further out it is looked for. -/
def markedName? : List Segment → Option (Nat × String)
  | .variable :: rest =>
    match rest.drop (upCount rest) with
    | .name s :: _ => some (upCount rest, s)
    | _ => none
  | _ => none

/-- The first name of a reference, if nothing but steps up comes before it. -/
def leadingName? (segments : List Segment) : Option String :=
  match segments.drop (upCount segments) with
  | .name s :: _ => some s
  | _ => none

namespace Scope

/-- The value of a variable, in the innermost frame that sets any. -/
def valueOf? (scope : Scope) (level : Nat) (name : String) : Option Json.Value :=
  ((scope.frames.drop level).find? fun frame => !frame.vars.isEmpty).bind fun frame =>
    frame.vars.lookup name

/-- The data that blocks gave the name to, the innermost first. -/
def param? (scope : Scope) (name : String) : Option Base :=
  scope.frames.findSome? fun frame => frame.params.lookup name

/-- The data of the frame at a level; a level that does not exist is the innermost. -/
def baseAt (scope : Scope) (level : Nat) : Base :=
  match (scope.frames[level]?).or scope.frames.head? with
  | some frame => frame.base
  | none => .route []

/-- The value that a reference stands for, if it has one. -/
def find (scope : Scope) (data : Json.Value) (segments : List Segment) :
    Except RenderError (Option Found) :=
  match markedName? segments with
  | some (level, name) => .ok ((scope.valueOf? level name).map fun v => ⟨v, none⟩)
  | none =>
    match (leadingName? segments).bind scope.param? with
    | some base => base.follow data ((names segments).drop 1)
    | none =>
      match segments with
      | .root :: rest => (Base.route []).follow data (names rest)
      | segments => (scope.baseAt (upCount segments)).follow data (names segments)

def push (scope : Scope) (frame : Frame) : Scope :=
  { scope with frames := frame :: scope.frames }

end Scope
end TemplateBundle
