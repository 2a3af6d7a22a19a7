import TemplateBundle.Render.Helper
import TemplateBundle.Render.Page

/-! Rendering a template. Operands are evaluated in a scope; elements write to a page and may change
the scope for the elements after them, by defining partials. A partial continues with a template
that is no part of the one that includes it, so the depth of inclusion is bounded. -/
namespace TemplateBundle

open Json (Value)

/-- What an engine has to offer to a rendering. -/
structure Library where
  template? : String → Option Template
  /-- The helper of a name; looking for it may fail -/
  helper? : String → Except RenderError (Option Helper)
  hasHelper : String → Bool
  strict : Bool
  escapes : Bool

/-- A rendering: what it draws on, and its data. -/
structure Rendering where
  library : Library
  data : Value

structure Progress where
  scope : Scope
  page : Page

/-- The name that stands for the body a partial was included with. -/
def partialBlockName : String := "@partial-block"

namespace Rendering

/-- The helper that is called by a name, or the one that stands in for missing helpers. -/
def helperFor (r : Rendering) (name : String) (isBlock : Bool) : Except RenderError Helper := do
  match ← r.library.helper? name with
  | some helper => .ok helper
  | none =>
    match ← r.library.helper? (if isBlock then "blockHelperMissing" else "helperMissing") with
    | some helper => .ok helper
    | none => .error (.helperNotFound name)

/-- The value of a helper that is called for one; a helper that governs bodies has none here and
writes nothing. -/
def outcomeValue : Helper.Outcome → Value
  | .value v => v
  | .choice b => .bool b
  | _ => .string ""

mutual
def given (r : Rendering) (scope : Scope) : Operand → Except RenderError Given
  | .name s => .ok ⟨some s, none⟩
  | .reference ref => do
    let found ← scope.find r.data ref.segments
    .ok ⟨some ref.text, found⟩
  | .literal v => .ok ⟨none, some ⟨v, none⟩⟩
  | .call head args named => do
    let name ← nameOf r scope head
    let args ← givenAll r scope args
    let named ← givenNamed r scope named
    let helper ← r.helperFor name false
    let outcome ← helper.apply r.library.strict .none [] ⟨args, named⟩
    .ok ⟨none, some ⟨outcomeValue outcome, none⟩⟩

def nameOf (r : Rendering) (scope : Scope) : Operand → Except RenderError String
  | .name s => .ok s
  | .reference ref => .ok ref.text
  | .literal v => .ok v.shown
  | .call head args named => do
    let name ← nameOf r scope head
    let args ← givenAll r scope args
    let named ← givenNamed r scope named
    let helper ← r.helperFor name false
    let outcome ← helper.apply r.library.strict .none [] ⟨args, named⟩
    .ok (outcomeValue outcome).shown

def givenAll (r : Rendering) (scope : Scope) : List Operand → Except RenderError (List Given)
  | [] => .ok []
  | operand :: rest => do
    let g ← given r scope operand
    let gs ← givenAll r scope rest
    .ok (g :: gs)

/-- What named operands give, in order. -/
def givenNamed (r : Rendering) (scope : Scope) :
    List (String × Operand) → Except RenderError (List (String × Given))
  | [] => .ok []
  | (key, operand) :: rest => do
    let g ← given r scope operand
    let gs ← givenNamed r scope rest
    .ok ((key, g) :: gs)
end

def arguments (r : Rendering) (scope : Scope) (call : Call) : Except RenderError Arguments := do
  let positional ← givenAll r scope call.args
  let named ← givenNamed r scope call.named
  .ok ⟨positional, named⟩

/-- Writes a value, escaped if the engine and the tag want it. -/
def writeValue (r : Rendering) (escaped : Bool) (v : Value) (p : Progress) : Progress :=
  let text := if r.library.escapes && escaped then escapeHtml v.shown else v.shown
  { p with page := p.page.write p.scope.indent text }

/-- Writes what a helper outside of a block comes to. Truth values are written as they are, wherever
on a line that is. -/
def writeOutcome (r : Rendering) (escaped : Bool) (outcome : Helper.Outcome) (p : Progress) :
    Progress :=
  match outcome with
  | .value v => r.writeValue escaped v p
  | .choice b => { p with page := p.page.writeVerbatim (toString b) }
  | _ => p

/-- Runs what may write and keeps track of the lines. -/
def tracked (p : Progress) (startsLine : Bool) (run : Progress → Except RenderError Progress) :
    Except RenderError Progress := do
  let (scope, page) ← p.page.track startsLine fun page => do
    let q ← run { p with page := page }
    .ok (q.scope, q.page)
  .ok ⟨scope, page⟩

def renderCall (r : Rendering) (call : Call) (escaped : Bool) (p : Progress) :
    Except RenderError Progress := do
  let name ← nameOf r p.scope call.head
  let args ← r.arguments p.scope call
  tracked p p.page.startsLine fun p => do
    let helper ← r.helperFor name false
    let outcome ← helper.apply r.library.strict .none [] args
    .ok (r.writeOutcome escaped outcome p)

/-- Writes what a tag names: a value of the data, unless it is the name of a helper. -/
def renderOutput (r : Rendering) (call : Call) (escaped : Bool) (p : Progress) :
    Except RenderError Progress :=
  if !call.isBare then r.renderCall call escaped p
  else do
    let name ← nameOf r p.scope call.head
    if r.library.hasHelper name then r.renderCall call escaped p
    else do
      let g ← given r p.scope call.head
      match g.found? with
      | some found => .ok (r.writeValue escaped found.value p)
      | none =>
        if r.library.strict then .error (.missingVariable g.label?)
        else do
          match ← r.library.helper? "helperMissing" with
          | none => .ok p
          | some helper => do
            let outcome ← helper.apply r.library.strict .none [] ⟨[], []⟩
            .ok (r.writeOutcome escaped outcome p)

/-- Runs a decorator: the only one defines a partial of a name. -/
def decorate (r : Rendering) (call : Call) (body? : Option Template) (scope : Scope) :
    Except RenderError Scope := do
  let name ← nameOf r scope call.head
  let args ← r.arguments scope call
  if name ≠ "inline" then .error (.decoratorNotFound name)
  else do
    let g ← Helper.at? "inline" args 0
    match g.value, body? with
    | .string key, some body => .ok { scope with inlines := (key, body) :: scope.inlines }
    | .string _, none => .error .bodyRequired
    | _, _ => .error (.invalidArgumentKind "String")

def decorateAll (r : Rendering) : Template → Scope → Except RenderError Scope
  | [], scope => .ok scope
  | .decorator call body? :: rest, scope => do
    let scope ← r.decorate call body? scope
    decorateAll r rest scope
  | _ :: rest, scope => decorateAll r rest scope

/-- The template of a partial, and the name that it has in itself. Partials that were defined on the
way come before those of the engine, and the body of the tag is the last resort. -/
def partial? (r : Rendering) (scope : Scope) (name : String) (body? : Option Template) :
    Except RenderError (Option String × Template) :=
  match scope.inlines.lookup name with
  | some t => .ok (none, t)
  | none =>
    match r.library.template? name with
    | some t => .ok (some name, t)
    | none =>
      match body? with
      | some t => .ok (none, t)
      | none =>
        .error (if name = partialBlockName then .partialBlockNotFound else .partialNotFound name)

/-- The value as an object: elements and characters are members named by their positions. -/
def asObject : Value → Json.Members
  | .object members => members
  | .array items => Json.Members.ofList (items.zipIdx.map fun (v, i) => (toString i, v))
  | .string s => Json.Members.ofList (s.toList.zipIdx.map fun (c, i) =>
      (toString i, .string (String.ofList [c])))
  | _ => []

/-- The frame of a partial: it sees what it is given, or what its place sees. What is given by name
is added to the data, and the names stand for it in the blocks of the partial too. -/
def partialFrame (r : Rendering) (scope : Scope) (args : Arguments) : Except RenderError Frame :=
  let base := match args.positional.head? with
    | some g => g.base
    | none => scope.baseAt 0
  match args.named with
  | [] => .ok ⟨base, [], []⟩
  | named => do
    let value ← match args.positional.head? with
      | some g => .ok g.value
      | none => do
        let found ← base.follow r.data []
        .ok (match found with
          | some f => f.value
          | none => .null)
    let members := named.foldl (fun members (key, g) => members.insert key g.value) (asObject value)
    .ok ⟨.value (.object members), named.map fun (key, g) => (key, .value g.value), []⟩

/-- The scope of a body that has no name. -/
def unnamed (scope : Scope) : Scope := { scope with current := none }

/-- Renders the body that a partial is included with, to a text of its own. It takes part in the
lines of the page. -/
def renderBody (render : Progress → Except RenderError Progress) (p : Progress) :
    Except RenderError (String × Progress) := do
  let q ← render ⟨unnamed p.scope, { p.page with text := "" }⟩
  .ok (q.page.text, ⟨q.scope, { q.page with text := p.page.text }⟩)

/-- The scope that a partial is looked for in: what the body of the tag defines is known there. -/
def scopeWith (r : Rendering) (body? : Option Template) (scope : Scope) :
    Except RenderError Scope :=
  match body? with
  | some body => r.decorateAll body scope
  | none => .ok scope

/-- The text of the body that a partial is included with, if it has one. -/
def renderBody? (render? : Option (Progress → Except RenderError Progress)) (p : Progress) :
    Except RenderError (Option String × Progress) :=
  match render? with
  | some render => do
    let (text, p) ← renderBody render p
    .ok (some text, p)
  | none => .ok (none, p)

/-- Renders a partial that was found in a scope. The body of the tag is rendered first, where the
partial is, and the partial has its text. -/
def renderFound (r : Rendering)
    (expand : Option String → Template → Progress → Except RenderError Progress)
    (found : Option String × Template) (args : Arguments)
    (render? : Option (Progress → Except RenderError Progress)) (indent : String) (scope : Scope)
    (p : Progress) : Except RenderError Progress := do
  let frame ← r.partialFrame scope args
  let (block?, inside) ← renderBody? render? ⟨scope.push frame, p.page⟩
  let inner := { inside.scope with
    partialBlock? := block?
    indent := scope.indent ++ indent }
  let q ← expand found.1 found.2 ⟨inner, inside.page⟩
  .ok { q with scope := p.scope }

/-- Includes the partial of a name, which is no template that is being rendered under it. -/
def includePartial (r : Rendering)
    (expand : Option String → Template → Progress → Except RenderError Progress)
    (name : String) (args : Arguments)
    (body? : Option (Template × (Progress → Except RenderError Progress))) (indent : String)
    (p : Progress) : Except RenderError Progress := do
  let scope ← r.scopeWith (body?.map Prod.fst) p.scope
  if scope.current = some name then .error .cannotIncludeSelf
  else
    match if name = partialBlockName then scope.partialBlock? else none with
    | some text => .ok { p with page := p.page.writeVerbatim text }
    | none => do
      let found ← r.partial? scope name (body?.map Prod.fst)
      r.renderFound expand found args (body?.map Prod.snd) indent scope p

/-- Includes a partial; `expand` renders its template. The body of the tag comes with what renders
it. -/
def renderInclusion (r : Rendering)
    (expand : Option String → Template → Progress → Except RenderError Progress)
    (call : Call) (body? : Option (Template × (Progress → Except RenderError Progress)))
    (indent : String) (ownLine : Bool) (p : Progress) : Except RenderError Progress := do
  let name ← nameOf r p.scope call.head
  let args ← r.arguments p.scope call
  let startsLine := ownLine && (p.page.endsLine || !indent.isEmpty)
  tracked p startsLine fun p => r.includePartial expand name args body? indent p

def renderInFrame (render : Progress → Except RenderError Progress) (p : Progress) (frame : Frame) :
    Except RenderError Progress := do
  let q ← render { p with scope := unnamed (p.scope.push frame) }
  .ok { q with scope := { q.scope with frames := p.scope.frames } }

/-- Renders a body in frames, one after another. Partials that it defines are known in the frames
that follow, and no longer behind the block. -/
def renderInside (render : Progress → Except RenderError Progress) (frames : List Frame)
    (p : Progress) : Except RenderError Progress := do
  let q ← frames.foldlM (renderInFrame render) p
  .ok { q with scope := { q.scope with inlines := p.scope.inlines } }

/-- Renders the bodies of a block as its helper decided. -/
def renderBranches (r : Rendering) (outcome : Helper.Outcome)
    (body : Progress → Except RenderError Progress)
    (inverse? : Option (Progress → Except RenderError Progress)) (p : Progress) :
    Except RenderError Progress :=
  let here : Progress := { p with scope := unnamed p.scope }
  match outcome with
  | .value v => .ok (r.writeValue true v p)
  | .choice true => body here
  | .body => body here
  | .choice false => inverse?.elim (.ok p) fun inverse => inverse here
  | .otherwise => inverse?.elim (.ok p) fun inverse => inverse here
  | .inside frames => renderInside body frames p
  | .nothing => .ok p

/-- Renders a block, whose bodies come as what renders them. -/
def renderBlock (r : Rendering) (call : Call) (body : Progress → Except RenderError Progress)
    (inverse? : Option (Progress → Except RenderError Progress)) (ownLine : Bool) (p : Progress) :
    Except RenderError Progress := do
  let name ← nameOf r p.scope call.head
  let args ← r.arguments p.scope call
  tracked p (p.page.startsLine || (ownLine && p.page.endsLine)) fun p => do
    let helper ← r.helperFor name true
    let bodies : Helper.Bodies := if inverse?.isSome then .both else .one
    let outcome ← helper.apply r.library.strict bodies call.blockParams args
    r.renderBranches outcome body inverse? p

mutual
/-- Renders an element; `expand` renders the templates of partials. -/
def renderElement (r : Rendering)
    (expand : Option String → Template → Progress → Except RenderError Progress) :
    Element → Progress → Except RenderError Progress
  | .text s, p => .ok { p with page := p.page.write p.scope.indent s }
  | .comment, p => .ok p
  | .output call escaped, p => r.renderOutput call escaped p
  | .decorator call body?, p => do
    let scope ← r.decorate call body? p.scope
    .ok { p with scope := scope }
  | .inclusion call none indent ownLine, p => r.renderInclusion expand call none indent ownLine p
  | .inclusion call (some body) indent ownLine, p =>
    let own : Template × (Progress → Except RenderError Progress) :=
      (body, fun p => renderElements r expand body p)
    r.renderInclusion expand call (some own) indent ownLine p
  | .block call body none ownLine, p =>
    r.renderBlock call (fun p => renderElements r expand body p) none ownLine p
  | .block call body (some inverse) ownLine, p =>
    r.renderBlock call (fun p => renderElements r expand body p)
      (some fun p => renderElements r expand inverse p) ownLine p

def renderElements (r : Rendering)
    (expand : Option String → Template → Progress → Except RenderError Progress) :
    List Element → Progress → Except RenderError Progress
  | [], p => .ok p
  | element :: rest, p => do
    let p ← renderElement r expand element p
    renderElements r expand rest p
end

/-- How deep partials may be included in each other. -/
def inclusionLimit : Nat := 2000

def renderTemplate (r : Rendering) :
    Nat → Option String → Template → Progress → Except RenderError Progress
  | 0, _, _, _ => .error .tooDeep
  | depth + 1, name, template, p =>
    renderElements r (renderTemplate r depth) template
      { p with scope := { p.scope with current := name } }

def render (r : Rendering) (name : Option String) (template : Template) :
    Except RenderError String := do
  let p ← r.renderTemplate inclusionLimit name template ⟨Scope.initial, Page.empty⟩
  .ok p.page.text

end Rendering
end TemplateBundle
