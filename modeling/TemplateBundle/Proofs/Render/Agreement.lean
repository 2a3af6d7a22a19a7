import TemplateBundle.Outcome
import TemplateBundle.Proofs.Render.Inclusions
import TemplateBundle.Render.Evaluation

/-! Renderings that draw on different libraries agree if the libraries do on all that is looked up.
The names that may be included are a class; outside of it the libraries may differ, and so may the
name that the template itself has. -/
namespace TemplateBundle.Rendering

open Json (Value)
open Outcome (Alike)

variable {allowed : String → Prop} {r s : Rendering}

/-- The renderings have the same data, helpers and options, and the same templates under the allowed
names, which include nothing else. -/
structure Agrees (allowed : String → Prop) (r s : Rendering) : Prop where
  data : r.data = s.data
  helper? : r.library.helper? = s.library.helper?
  hasHelper : r.library.hasHelper = s.library.hasHelper
  strict : r.library.strict = s.library.strict
  escapes : r.library.escapes = s.library.escapes
  template? : ∀ name, allowed name → r.library.template? name = s.library.template? name
  includesOnly : ∀ name template, allowed name → r.library.template? name = some template →
    IncludesOnly allowed template

/-- The names are the same as far as they may be included. -/
def SameName (allowed : String → Prop) (a b : Option String) : Prop :=
  ∀ name, allowed name → (a = some name ↔ b = some name)

/-- The scopes differ in nothing but a name that is not included, and what was defined on the way
includes only what is allowed. -/
structure SameScope (allowed : String → Prop) (a b : Scope) : Prop where
  frames : a.frames = b.frames
  inlines : a.inlines = b.inlines
  partialBlock? : a.partialBlock? = b.partialBlock?
  indent : a.indent = b.indent
  current : SameName allowed a.current b.current
  includesOnly : ∀ entry ∈ a.inlines, IncludesOnly allowed entry.2

/-- The renderings are equally far. -/
structure SameProgress (allowed : String → Prop) (p q : Progress) : Prop where
  scope : SameScope allowed p.scope q.scope
  page : p.page = q.page

/-- The two ways to render go equally far from equal places. -/
def SameRun (allowed : String → Prop) (run run' : Progress → Except RenderError Progress) : Prop :=
  ∀ p q, SameProgress allowed p q → Alike (SameProgress allowed) (run p) (run' q)

/-! Operands mean the same. -/

theorem find_congr {a b : Scope} (hFrames : a.frames = b.frames) (data : Value)
    (segments : List Segment) : a.find data segments = b.find data segments := by
  have hValue : a.valueOf? = b.valueOf? := by
    funext level name
    rw [Scope.valueOf?, Scope.valueOf?, hFrames]
  have hParam : a.param? = b.param? := by
    funext name
    rw [Scope.param?, Scope.param?, hFrames]
  have hBase : a.baseAt = b.baseAt := by
    funext level
    rw [Scope.baseAt, Scope.baseAt, hFrames]
  unfold Scope.find
  rw [hValue, hParam, hBase]

theorem helperFor_congr (h : Agrees allowed r s) (name : String) (isBlock : Bool) :
    r.helperFor name isBlock = s.helperFor name isBlock := by
  rw [helperFor, helperFor, h.helper?]

mutual
theorem given_congr (h : Agrees allowed r s) {a b : Scope} (hFrames : a.frames = b.frames)
    (operand : Operand) : given r a operand = given s b operand := by
  cases operand with
  | name s => rfl
  | reference ref => rw [given, given, find_congr hFrames, h.data]
  | literal v => rfl
  | call head args named =>
      rw [given, given, nameOf_congr h hFrames head, givenAll_congr h hFrames args,
        givenNamed_congr h hFrames named, h.strict]
      simp only [helperFor_congr h]

theorem nameOf_congr (h : Agrees allowed r s) {a b : Scope} (hFrames : a.frames = b.frames)
    (operand : Operand) : nameOf r a operand = nameOf s b operand := by
  cases operand with
  | name s => rfl
  | reference ref => rfl
  | literal v => rfl
  | call head args named =>
      rw [nameOf, nameOf, nameOf_congr h hFrames head, givenAll_congr h hFrames args,
        givenNamed_congr h hFrames named, h.strict]
      simp only [helperFor_congr h]

theorem givenAll_congr (h : Agrees allowed r s) {a b : Scope} (hFrames : a.frames = b.frames)
    (operands : List Operand) : givenAll r a operands = givenAll s b operands := by
  match operands with
  | [] => rfl
  | operand :: rest =>
      rw [givenAll, givenAll, given_congr h hFrames operand, givenAll_congr h hFrames rest]

theorem givenNamed_congr (h : Agrees allowed r s) {a b : Scope} (hFrames : a.frames = b.frames)
    (operands : List (String × Operand)) : givenNamed r a operands = givenNamed s b operands := by
  match operands with
  | [] => rfl
  | (key, operand) :: rest =>
      rw [givenNamed, givenNamed, given_congr h hFrames operand, givenNamed_congr h hFrames rest]
end

theorem arguments_congr (h : Agrees allowed r s) {a b : Scope} (hFrames : a.frames = b.frames)
    (call : Call) : r.arguments a call = s.arguments b call := by
  rw [arguments, arguments, givenAll_congr h hFrames, givenNamed_congr h hFrames]

/-! What writes, writes the same. -/

theorem sameRun_writeValue (h : Agrees allowed r s) (escaped : Bool) (v : Value) :
    SameRun allowed (fun p => .ok (r.writeValue escaped v p))
      (fun q => .ok (s.writeValue escaped v q)) := by
  intro p q hSame
  refine .ok ⟨hSame.scope, ?_⟩
  simp only [writeValue, h.escapes, hSame.page, hSame.scope.indent]

theorem sameRun_writeOutcome (h : Agrees allowed r s) (escaped : Bool) (outcome : Helper.Outcome) :
    SameRun allowed (fun p => .ok (r.writeOutcome escaped outcome p))
      (fun q => .ok (s.writeOutcome escaped outcome q)) := by
  intro p q hSame
  cases outcome with
  | value v => exact sameRun_writeValue h escaped v p q hSame
  | choice b => exact .ok ⟨hSame.scope, by simp only [writeOutcome, hSame.page]⟩
  | _ => exact .ok hSame

theorem SameRun.tracked {run run' : Progress → Except RenderError Progress}
    (hRun : SameRun allowed run run') {p q : Progress} (hSame : SameProgress allowed p q)
    (startsLine : Bool) :
    Alike (SameProgress allowed) (tracked p startsLine run) (tracked q startsLine run') := by
  have hStart : SameProgress allowed
      { p with page := { p.page with wrote := false, startsLine := startsLine } }
      { q with page := { q.page with wrote := false, startsLine := startsLine } } :=
    ⟨hSame.scope, by rw [hSame.page]⟩
  simp only [Rendering.tracked, Page.track, bind_assoc]
  refine (hRun _ _ hStart).bind fun after after' hAfter => ?_
  refine .ok ⟨hAfter.scope, ?_⟩
  simp only [hAfter.page, hSame.page]

theorem sameRun_renderCall (h : Agrees allowed r s) (call : Call) (escaped : Bool) :
    SameRun allowed (r.renderCall call escaped) (s.renderCall call escaped) := by
  intro p q hSame
  have hFrames := hSame.scope.frames
  rw [renderCall, renderCall, nameOf_congr h hFrames, arguments_congr h hFrames, hSame.page]
  refine .bind_same fun name _ => .bind_same fun args _ => ?_
  refine SameRun.tracked ?_ hSame _
  intro p q hSame
  rw [helperFor_congr h, h.strict]
  exact .bind_same fun helper _ => .bind_same fun outcome _ =>
    sameRun_writeOutcome h escaped outcome p q hSame

theorem sameRun_renderOutput (h : Agrees allowed r s) (call : Call) (escaped : Bool) :
    SameRun allowed (r.renderOutput call escaped) (s.renderOutput call escaped) := by
  intro p q hSame
  have hFrames := hSame.scope.frames
  rw [renderOutput, renderOutput]
  split
  · exact sameRun_renderCall h call escaped p q hSame
  rw [nameOf_congr h hFrames, given_congr h hFrames, h.hasHelper, h.strict, h.helper?]
  refine .bind_same fun name _ => ?_
  split
  · exact sameRun_renderCall h call escaped p q hSame
  refine .bind_same fun g _ => ?_
  split
  · exact sameRun_writeValue h escaped _ p q hSame
  split
  · exact .error _
  refine .bind_same fun helper? _ => ?_
  split
  · exact .ok hSame
  · exact .bind_same fun outcome _ => sameRun_writeOutcome h escaped outcome p q hSame

/-! Partials that are defined on the way, and the names they are looked up under. -/

theorem alike_decorate (h : Agrees allowed r s) {a b : Scope} (hSame : SameScope allowed a b)
    (call : Call) {body? : Option Template} (hBody : ∀ body ∈ body?, IncludesOnly allowed body) :
    Alike (SameScope allowed) (r.decorate call body? a) (s.decorate call body? b) := by
  have hFrames := hSame.frames
  rw [decorate, decorate, nameOf_congr h hFrames, arguments_congr h hFrames]
  refine .bind_same fun name _ => .bind_same fun args _ => ?_
  split
  · exact .error _
  refine .bind_same fun g _ => ?_
  split
  · next key body _ =>
    refine .ok { hSame with inlines := ?_, includesOnly := ?_ }
    · rw [hSame.inlines]
    · intro entry hEntry
      rcases List.mem_cons.mp hEntry with rfl | hEntry
      · exact hBody body rfl
      · exact hSame.includesOnly entry hEntry
  · exact .error _
  · exact .error _

theorem alike_decorateAll (h : Agrees allowed r s) {template : Template}
    (hTemplate : IncludesOnly allowed template) {a b : Scope} (hSame : SameScope allowed a b) :
    Alike (SameScope allowed) (r.decorateAll template a) (s.decorateAll template b) := by
  induction template generalizing a b with
  | nil => exact .ok hSame
  | cons element rest ih =>
      obtain ⟨hElement, hRest⟩ := includesOnly_cons.mp hTemplate
      cases element with
      | decorator call body? =>
          have hBody : ∀ body ∈ body?, IncludesOnly allowed body := by
            rintro body rfl
            exact hElement
          rw [decorateAll, decorateAll]
          exact (alike_decorate h hSame call hBody).bind fun a b hNext => ih hRest hNext
      | _ => exact ih hRest hSame

theorem allowed_of_nameOf {scope : Scope} {head : Operand} {name : String}
    (hHead : head.NamesOnly allowed) (h : nameOf r scope head = .ok name) : allowed name := by
  cases head with
  | call head args named => exact hHead name
  | _ =>
      rw [nameOf] at h
      exact Except.ok.inj h ▸ hHead

theorem alike_partial? (h : Agrees allowed r s) {a b : Scope} (hSame : SameScope allowed a b)
    {name : String} (hName : allowed name) {body? : Option Template}
    (hBody : ∀ body ∈ body?, IncludesOnly allowed body) :
    Alike (fun found found' => found = found' ∧ IncludesOnly allowed found.2)
      (r.partial? a name body?) (s.partial? b name body?) := by
  unfold partial?
  rw [← hSame.inlines, ← h.template? name hName]
  split
  · next t hInline =>
    have hEntry : (name, t) ∈ a.inlines := by
      obtain ⟨before, after, hInlines, -⟩ := List.lookup_eq_some_iff.mp hInline
      rw [hInlines]
      exact List.mem_append_right before List.mem_cons_self
    exact .ok ⟨rfl, hSame.includesOnly _ hEntry⟩
  split
  · next t hTemplate => exact .ok ⟨rfl, h.includesOnly name t hName hTemplate⟩
  split
  · next t => exact .ok ⟨rfl, hBody t rfl⟩
  · exact .error _

theorem partialFrame_congr (h : Agrees allowed r s) {a b : Scope} (hFrames : a.frames = b.frames)
    (args : Arguments) : r.partialFrame a args = s.partialFrame b args := by
  have hBase : a.baseAt 0 = b.baseAt 0 := by
    rw [Scope.baseAt, Scope.baseAt, hFrames]
  unfold partialFrame
  rw [hBase, h.data]

/-! Inclusions and blocks. -/

theorem SameScope.unnamed {a b : Scope} (hSame : SameScope allowed a b) :
    SameScope allowed (unnamed a) (unnamed b) :=
  ⟨hSame.frames, hSame.inlines, hSame.partialBlock?, hSame.indent, fun _ _ => Iff.rfl,
    hSame.includesOnly⟩

theorem SameScope.push {a b : Scope} (hSame : SameScope allowed a b) (frame : Frame) :
    SameScope allowed (a.push frame) (b.push frame) :=
  { hSame with frames := congrArg (frame :: ·) hSame.frames }

theorem SameRun.renderBody {run run' : Progress → Except RenderError Progress}
    (hRun : SameRun allowed run run') {p q : Progress} (hSame : SameProgress allowed p q) :
    Alike (fun a b => a.1 = b.1 ∧ SameProgress allowed a.2 b.2) (renderBody run p)
      (renderBody run' q) := by
  have hStart : SameProgress allowed ⟨Rendering.unnamed p.scope, { p.page with text := "" }⟩
      ⟨Rendering.unnamed q.scope, { q.page with text := "" }⟩ :=
    ⟨hSame.scope.unnamed, by rw [hSame.page]⟩
  rw [Rendering.renderBody, Rendering.renderBody]
  refine (hRun _ _ hStart).bind fun after after' hAfter => ?_
  refine .ok ⟨by rw [hAfter.page], hAfter.scope, ?_⟩
  rw [hAfter.page, hSame.page]

/-- The bodies that two inclusions come with are the same, and are rendered equally. -/
structure SameBody (allowed : String → Prop)
    (body? body?' : Option (Template × (Progress → Except RenderError Progress))) : Prop where
  template? : body?.map Prod.fst = body?'.map Prod.fst
  includesOnly : ∀ body ∈ body?.map Prod.fst, IncludesOnly allowed body
  render : Option.Rel (SameRun allowed) (body?.map Prod.snd) (body?'.map Prod.snd)

/-- The templates of partials are rendered equally. -/
def SameExpansion (allowed : String → Prop)
    (expand expand' : Option String → Template → Progress → Except RenderError Progress) : Prop :=
  ∀ name template, IncludesOnly allowed template →
    SameRun allowed (expand name template) (expand' name template)

theorem alike_scopeWith (h : Agrees allowed r s) {a b : Scope} (hSame : SameScope allowed a b)
    {body? : Option Template} (hBody : ∀ body ∈ body?, IncludesOnly allowed body) :
    Alike (SameScope allowed) (r.scopeWith body? a) (s.scopeWith body? b) := by
  cases body? with
  | none => exact .ok hSame
  | some body => exact alike_decorateAll h (hBody body rfl) hSame

theorem alike_renderBody? {render? render?' : Option (Progress → Except RenderError Progress)}
    (hRender : Option.Rel (SameRun allowed) render? render?') {p q : Progress}
    (hSame : SameProgress allowed p q) :
    Alike (fun a b => a.1 = b.1 ∧ SameProgress allowed a.2 b.2) (renderBody? render? p)
      (renderBody? render?' q) := by
  cases hRender with
  | none => exact .ok ⟨rfl, hSame⟩
  | some hRun =>
      refine (hRun.renderBody hSame).bind fun a b hAfter => ?_
      exact .ok ⟨congrArg some hAfter.1, hAfter.2⟩

variable {expand expand' : Option String → Template → Progress → Except RenderError Progress}

theorem alike_renderFound (h : Agrees allowed r s) (hExpand : SameExpansion allowed expand expand')
    {found : Option String × Template} (hFound : IncludesOnly allowed found.2) (args : Arguments)
    {render? render?' : Option (Progress → Except RenderError Progress)}
    (hRender : Option.Rel (SameRun allowed) render? render?') (indent : String) {a b : Scope}
    (hScope : SameScope allowed a b) {p q : Progress} (hSame : SameProgress allowed p q) :
    Alike (SameProgress allowed) (r.renderFound expand found args render? indent a p)
      (s.renderFound expand' found args render?' indent b q) := by
  rw [renderFound, renderFound, partialFrame_congr h hScope.frames]
  refine .bind_same fun frame _ => ?_
  have hInside : SameProgress allowed ⟨a.push frame, p.page⟩ ⟨b.push frame, q.page⟩ :=
    ⟨hScope.push frame, hSame.page⟩
  refine (alike_renderBody? hRender hInside).bind fun after after' hAfter => ?_
  obtain ⟨hBlock, hAfter⟩ := hAfter
  have hInner : SameProgress allowed
      ⟨{ after.2.scope with partialBlock? := after.1, indent := a.indent ++ indent },
        after.2.page⟩
      ⟨{ after'.2.scope with partialBlock? := after'.1, indent := b.indent ++ indent },
        after'.2.page⟩ :=
    ⟨⟨hAfter.scope.frames, hAfter.scope.inlines, hBlock, by rw [hScope.indent],
      hAfter.scope.current, hAfter.scope.includesOnly⟩, hAfter.page⟩
  refine (hExpand found.1 found.2 hFound _ _ hInner).bind fun last last' hLast => ?_
  exact .ok ⟨hSame.scope, hLast.page⟩

theorem sameRun_includePartial (h : Agrees allowed r s)
    (hExpand : SameExpansion allowed expand expand') {name : String} (hName : allowed name)
    (args : Arguments) {body? body?' : Option (Template × (Progress → Except RenderError Progress))}
    (hBody : SameBody allowed body? body?') (indent : String) :
    SameRun allowed (r.includePartial expand name args body? indent)
      (s.includePartial expand' name args body?' indent) := by
  intro p q hSame
  rw [includePartial, includePartial, ← hBody.template?]
  refine (alike_scopeWith h hSame.scope hBody.includesOnly).bind fun a b hScope => ?_
  simp only [hScope.current name hName, hScope.partialBlock?]
  split
  · exact .error _
  split
  · exact .ok ⟨hSame.scope, by rw [hSame.page]⟩
  refine (alike_partial? h hScope hName hBody.includesOnly).bind fun found found' hFound => ?_
  obtain ⟨rfl, hFound⟩ := hFound
  exact alike_renderFound h hExpand hFound args hBody.render indent hScope hSame

theorem sameRun_renderInclusion (h : Agrees allowed r s)
    (hExpand : SameExpansion allowed expand expand') {call : Call}
    (hHead : call.head.NamesOnly allowed)
    {body? body?' : Option (Template × (Progress → Except RenderError Progress))}
    (hBody : SameBody allowed body? body?') (indent : String) (ownLine : Bool) :
    SameRun allowed (r.renderInclusion expand call body? indent ownLine)
      (s.renderInclusion expand' call body?' indent ownLine) := by
  intro p q hSame
  have hFrames := hSame.scope.frames
  rw [renderInclusion, renderInclusion, nameOf_congr h hFrames, arguments_congr h hFrames,
    hSame.page]
  refine .bind_same fun name hName => .bind_same fun args _ => ?_
  have hAllowed : allowed name := allowed_of_nameOf hHead hName
  exact (sameRun_includePartial h hExpand hAllowed args hBody indent).tracked hSame _

theorem SameRun.renderInFrame {run run' : Progress → Except RenderError Progress}
    (hRun : SameRun allowed run run') {p q : Progress} (hSame : SameProgress allowed p q)
    (frame : Frame) :
    Alike (SameProgress allowed) (renderInFrame run p frame) (renderInFrame run' q frame) := by
  have hFrame : SameProgress allowed
      { p with scope := Rendering.unnamed (p.scope.push frame) }
      { q with scope := Rendering.unnamed (q.scope.push frame) } :=
    ⟨(hSame.scope.push frame).unnamed, hSame.page⟩
  rw [Rendering.renderInFrame, Rendering.renderInFrame]
  refine (hRun _ _ hFrame).bind fun a b hAfter => ?_
  exact .ok ⟨{ hAfter.scope with frames := hSame.scope.frames }, hAfter.page⟩

theorem SameRun.renderInside {run run' : Progress → Except RenderError Progress}
    (hRun : SameRun allowed run run') (frames : List Frame) :
    SameRun allowed (renderInside run frames) (renderInside run' frames) := by
  intro p q hSame
  have hFrames : Alike (SameProgress allowed) (frames.foldlM (Rendering.renderInFrame run) p)
      (frames.foldlM (Rendering.renderInFrame run') q) :=
    Alike.foldlM (fun _ _ frame hSame => hRun.renderInFrame hSame frame) frames hSame
  rw [Rendering.renderInside, Rendering.renderInside]
  refine hFrames.bind fun a b hAfter => ?_
  exact .ok ⟨{ hAfter.scope with
    inlines := hSame.scope.inlines, includesOnly := hSame.scope.includesOnly }, hAfter.page⟩

theorem sameRun_renderBranches (h : Agrees allowed r s) (outcome : Helper.Outcome)
    {body body' : Progress → Except RenderError Progress} (hBody : SameRun allowed body body')
    {inverse? inverse?' : Option (Progress → Except RenderError Progress)}
    (hInverse : Option.Rel (SameRun allowed) inverse? inverse?') :
    SameRun allowed (r.renderBranches outcome body inverse?)
      (s.renderBranches outcome body' inverse?') := by
  intro p q hSame
  have hHere : SameProgress allowed { p with scope := unnamed p.scope }
      { q with scope := unnamed q.scope } := ⟨hSame.scope.unnamed, hSame.page⟩
  have hElse : Alike (SameProgress allowed)
      (inverse?.elim (.ok p) fun inverse => inverse { p with scope := unnamed p.scope })
      (inverse?'.elim (.ok q) fun inverse => inverse { q with scope := unnamed q.scope }) := by
    cases hInverse with
    | none => exact .ok hSame
    | some hRun => exact hRun _ _ hHere
  cases outcome with
  | value v => exact sameRun_writeValue h true v p q hSame
  | choice b =>
      cases b with
      | true => exact hBody _ _ hHere
      | false => exact hElse
  | nothing => exact .ok hSame
  | body => exact hBody _ _ hHere
  | otherwise => exact hElse
  | inside frames => exact hBody.renderInside frames p q hSame

theorem sameRun_renderBlock (h : Agrees allowed r s) (call : Call)
    {body body' : Progress → Except RenderError Progress} (hBody : SameRun allowed body body')
    {inverse? inverse?' : Option (Progress → Except RenderError Progress)}
    (hInverse : Option.Rel (SameRun allowed) inverse? inverse?') (ownLine : Bool) :
    SameRun allowed (r.renderBlock call body inverse? ownLine)
      (s.renderBlock call body' inverse?' ownLine) := by
  intro p q hSame
  have hFrames := hSame.scope.frames
  have hBodies : inverse?.isSome = inverse?'.isSome := by
    cases hInverse <;> rfl
  rw [renderBlock, renderBlock, nameOf_congr h hFrames, arguments_congr h hFrames, hSame.page]
  refine .bind_same fun name _ => .bind_same fun args _ => ?_
  refine SameRun.tracked ?_ hSame _
  intro p q hSame
  rw [helperFor_congr h, h.strict, hBodies]
  exact .bind_same fun helper _ => .bind_same fun outcome _ =>
    sameRun_renderBranches h outcome hBody hInverse p q hSame

mutual
theorem sameRun_renderElement (h : Agrees allowed r s)
    (hExpand : SameExpansion allowed expand expand') (element : Element)
    (hElement : ∀ call ∈ element.inclusions, call.head.NamesOnly allowed) :
    SameRun allowed (renderElement r expand element) (renderElement s expand' element) := by
  intro p q hSame
  match element with
  | .text text =>
      rw [renderElement, renderElement, hSame.page, hSame.scope.indent]
      exact .ok ⟨hSame.scope, rfl⟩
  | .comment => exact .ok hSame
  | .output call escaped => exact sameRun_renderOutput h call escaped p q hSame
  | .decorator call none =>
      refine (alike_decorate h hSame.scope call ?_).bind fun a b hScope => ?_
      · exact fun body hBody => (Option.not_mem_none body hBody).elim
      · exact .ok ⟨hScope, hSame.page⟩
  | .decorator call (some body) =>
      refine (alike_decorate h hSame.scope call ?_).bind fun a b hScope => ?_
      · intro inner hInner
        exact Option.mem_some.mp hInner ▸ hElement
      · exact .ok ⟨hScope, hSame.page⟩
  | .inclusion call none indent ownLine =>
      have hBody : SameBody allowed none none :=
        ⟨rfl, fun body hBody => (Option.not_mem_none body hBody).elim, .none⟩
      have hHead := hElement call List.mem_cons_self
      exact sameRun_renderInclusion h hExpand hHead hBody indent ownLine p q hSame
  | .inclusion call (some body) indent ownLine =>
      have hOnly : IncludesOnly allowed body := fun inner hInner =>
        hElement inner (List.mem_cons_of_mem call hInner)
      have hRun := sameRun_renderElements h hExpand body hOnly
      have hBody : SameBody allowed (some (body, renderElements r expand body))
          (some (body, renderElements s expand' body)) :=
        ⟨rfl, fun inner hInner => Option.mem_some.mp hInner ▸ hOnly, .some hRun⟩
      have hHead := hElement call List.mem_cons_self
      exact sameRun_renderInclusion h hExpand hHead hBody indent ownLine p q hSame
  | .block call body none ownLine =>
      have hRun := sameRun_renderElements h hExpand body hElement
      exact sameRun_renderBlock h call hRun .none ownLine p q hSame
  | .block call body (some inverse) ownLine =>
      have hRun := sameRun_renderElements h hExpand body fun inner hInner =>
        hElement inner (List.mem_append_left _ hInner)
      have hInverse := sameRun_renderElements h hExpand inverse fun inner hInner =>
        hElement inner (List.mem_append_right _ hInner)
      exact sameRun_renderBlock h call hRun (.some hInverse) ownLine p q hSame

theorem sameRun_renderElements (h : Agrees allowed r s)
    (hExpand : SameExpansion allowed expand expand') (elements : List Element)
    (hElements : IncludesOnly allowed elements) :
    SameRun allowed (renderElements r expand elements) (renderElements s expand' elements) := by
  intro p q hSame
  match elements with
  | [] => exact .ok hSame
  | element :: rest =>
      obtain ⟨hElement, hRest⟩ := includesOnly_cons.mp hElements
      refine (sameRun_renderElement h hExpand element hElement p q hSame).bind fun a b hAfter => ?_
      exact sameRun_renderElements h hExpand rest hRest a b hAfter
end

theorem sameRun_renderTemplate (h : Agrees allowed r s) (depth : Nat) {name name' : Option String}
    (hName : SameName allowed name name') {template : Template}
    (hTemplate : IncludesOnly allowed template) :
    SameRun allowed (r.renderTemplate depth name template)
      (s.renderTemplate depth name' template) := by
  induction depth generalizing name name' template with
  | zero => exact fun p q _ => .error _
  | succ depth ih =>
      have hExpand : SameExpansion allowed (r.renderTemplate depth) (s.renderTemplate depth) :=
        fun name template hTemplate => ih (fun _ _ => Iff.rfl) hTemplate
      intro p q hSame
      refine sameRun_renderElements h hExpand template hTemplate _ _ ?_
      exact ⟨{ hSame.scope with current := hName }, hSame.page⟩

/-- What a template is rendered to depends on nothing else. -/
theorem render_congr (h : Agrees allowed r s) {name name' : Option String}
    (hName : SameName allowed name name') {template : Template}
    (hTemplate : IncludesOnly allowed template) :
    r.render name template = s.render name' template := by
  have hStart : SameProgress allowed ⟨Scope.initial, Page.empty⟩ ⟨Scope.initial, Page.empty⟩ :=
    ⟨⟨rfl, rfl, rfl, rfl, fun _ _ => Iff.rfl, fun entry hEntry => (List.not_mem_nil hEntry).elim⟩,
      rfl⟩
  have hRun := sameRun_renderTemplate h inclusionLimit hName hTemplate _ _ hStart
  have hText : Alike (· = ·) (r.render name template) (s.render name' template) :=
    hRun.bind fun a b hAfter => .ok (congrArg Page.text hAfter.page)
  exact hText.eq

end TemplateBundle.Rendering
