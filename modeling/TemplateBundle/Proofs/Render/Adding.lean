import Mathlib.Data.List.Forall2
import TemplateBundle.Render.Evaluation

/-! Rendering that only adds to the text. A template that defines no partials, rendered in a scope
without name and indentation, leaves the scope as it was; what it adds depends on nothing that was
written before. -/
namespace TemplateBundle

open Json (Value)

namespace Page

theorem text_write (page : Page) (s : String) : (page.write "" s).text = page.text ++ s := by
  by_cases hEmpty : s = ""
  · subst hEmpty
    simp [write]
  · have hSome : s.isEmpty = false := by simpa using hEmpty
    simp [write, hSome]

end Page

namespace Rendering

/-- From the scope the rendering succeeds, keeps the scope and writes the text behind what the page
has. -/
def Adds (run : Progress → Except RenderError Progress) (scope : Scope) (text : String) : Prop :=
  ∀ page : Page, ∃ after : Page, run ⟨scope, page⟩ = .ok ⟨scope, after⟩ ∧
    after.text = page.text ++ text

theorem Adds.nothing {scope : Scope} : Adds (fun p => .ok p) scope "" := by
  intro page
  exact ⟨page, rfl, by simp⟩

theorem Adds.tracked {run : Progress → Except RenderError Progress} {scope : Scope} {text : String}
    (h : Adds run scope text) (startsLine : Progress → Bool) :
    Adds (fun p => Rendering.tracked p (startsLine p) run) scope text := by
  intro page
  obtain ⟨after, hRun, hText⟩ :=
    h { page with wrote := false, startsLine := startsLine ⟨scope, page⟩ }
  simp only [Rendering.tracked, Page.track, hRun, bind, Except.bind, pure, Except.pure]
  split
  · exact ⟨_, rfl, hText⟩
  · exact ⟨_, rfl, hText⟩

variable {r : Rendering} {scope : Scope}
  {expand : Option String → Template → Progress → Except RenderError Progress}

theorem given_reference (ref : Reference) {found : Option Found}
    (hFound : scope.find r.data ref.segments = .ok found) :
    given r scope (.reference ref) = .ok ⟨some ref.text, found⟩ := by
  simp only [given, hFound, bind, Except.bind]

theorem arguments_reference (head : Operand) (ref : Reference) {found : Option Found}
    (hFound : scope.find r.data ref.segments = .ok found) :
    r.arguments scope ⟨head, [.reference ref], [], []⟩ = .ok ⟨[⟨some ref.text, found⟩], []⟩ := by
  have hGiven := given_reference ref hFound
  simp only [arguments, givenAll, givenNamed, hGiven, bind, Except.bind]

theorem adds_nil : Adds (renderElements r expand []) scope "" := by
  intro page
  exact ⟨page, rfl, by simp⟩

theorem adds_cons {element : Element} {rest : List Element} {first later : String}
    (hFirst : Adds (renderElement r expand element) scope first)
    (hLater : Adds (renderElements r expand rest) scope later) :
    Adds (renderElements r expand (element :: rest)) scope (first ++ later) := by
  intro page
  obtain ⟨between, hElement, hText⟩ := hFirst page
  obtain ⟨after, hRest, hAfter⟩ := hLater between
  refine ⟨after, ?_, ?_⟩
  · rw [renderElements, hElement]
    exact hRest
  · rw [hAfter, hText, String.append_assoc]

theorem adds_text (hIndent : scope.indent = "") (s : String) :
    Adds (renderElement r expand (.text s)) scope s := by
  intro page
  refine ⟨page.write "" s, ?_, page.text_write s⟩
  rw [renderElement, hIndent]

/-- A value that is not to be escaped is written as it is shown. -/
theorem adds_value (hIndent : scope.indent = "") (v : Value) :
    Adds (fun p => .ok (r.writeValue false v p)) scope v.shown := by
  intro page
  refine ⟨page.write "" v.shown, ?_, page.text_write _⟩
  simp only [writeValue, Bool.and_false, hIndent]
  rfl

/-- A name that is no helper stands for its value. -/
theorem adds_reference (ref : Reference) {found : Found} (hIndent : scope.indent = "")
    (hHelper : r.library.hasHelper ref.text = false)
    (hFound : scope.find r.data ref.segments = .ok (some found)) :
    Adds (renderElement r expand (.output ⟨.reference ref, [], [], []⟩ false)) scope
      found.value.shown := by
  have hGiven := given_reference ref hFound
  intro page
  obtain ⟨after, hWrite, hText⟩ := adds_value (r := r) hIndent found.value page
  refine ⟨after, ?_, hText⟩
  rw [← hWrite]
  simp only [renderElement, renderOutput, Call.isBare, nameOf, hHelper, hGiven, bind, Except.bind]
  rfl

/-- A helper that computes a value writes it. -/
theorem adds_helper {call : Call} {name : String} {helper : Helper} {args : Arguments} {v : Value}
    (hIndent : scope.indent = "") (hHead : call.head = .name name) (hArgs : call.args ≠ [])
    (hGiven : r.arguments scope call = .ok args)
    (hHelper : r.library.helper? name = .ok (some helper))
    (hOutcome : helper.apply r.library.strict .none [] args = .ok (.value v)) :
    Adds (renderElement r expand (.output call false)) scope v.shown := by
  have hBare : call.isBare = false := by
    simp [Call.isBare, hArgs]
  have hName : r.helperFor name false = .ok helper := by
    simp [helperFor, hHelper, bind, Except.bind]
  have hRun : Adds (fun p => (do
      let helper ← r.helperFor name false
      let outcome ← helper.apply r.library.strict .none [] args
      .ok (r.writeOutcome false outcome p))) scope v.shown := by
    simp only [hName, hOutcome, bind, Except.bind]
    exact adds_value hIndent v
  intro page
  obtain ⟨after, hTracked, hText⟩ := hRun.tracked (fun p => p.page.startsLine) page
  refine ⟨after, ?_, hText⟩
  rw [← hTracked]
  simp only [renderElement, renderOutput, renderCall, hBare, hHead, nameOf, hGiven, bind,
    Except.bind]
  rfl

theorem adds_block {call : Call} {body : Template} {name : String} {helper : Helper}
    {args : Arguments} {outcome : Helper.Outcome} {text : String} (hHead : call.head = .name name)
    (hGiven : r.arguments scope call = .ok args)
    (hHelper : r.library.helper? name = .ok (some helper))
    (hOutcome : helper.apply r.library.strict .one call.blockParams args = .ok outcome)
    (hBody : Adds (r.renderBranches outcome (fun p => renderElements r expand body p) none) scope
      text) (ownLine : Bool) :
    Adds (renderElement r expand (.block call body none ownLine)) scope text := by
  have hName : r.helperFor name true = .ok helper := by
    simp [helperFor, hHelper, bind, Except.bind]
  intro page
  obtain ⟨after, hTracked, hText⟩ :=
    hBody.tracked (fun p => p.page.startsLine || (ownLine && p.page.endsLine)) page
  refine ⟨after, ?_, hText⟩
  rw [← hTracked]
  simp only [renderElement, renderBlock, hHead, nameOf, hGiven, hName, Option.isSome_none,
    Bool.false_eq_true, if_false, hOutcome, bind, Except.bind]

theorem unnamed_eq (hCurrent : scope.current = none) : unnamed scope = scope := by
  rw [unnamed, ← hCurrent]

theorem Adds.body {body : Template} {text : String}
    (h : Adds (renderElements r expand body) scope text) (hCurrent : scope.current = none) :
    Adds (r.renderBranches .body (fun p => renderElements r expand body p) none) scope text := by
  intro page
  obtain ⟨after, hRun, hText⟩ := h page
  refine ⟨after, ?_, hText⟩
  rw [renderBranches, unnamed_eq hCurrent]
  exact hRun

/-- Frames that each add a text add them one after another. -/
theorem adds_inside {render : Progress → Except RenderError Progress} {frames : List Frame}
    {texts : List String} (hCurrent : scope.current = none)
    (hFrames : List.Forall₂ (fun frame text => Adds render (scope.push frame) text) frames texts) :
    Adds (renderInside render frames) scope (String.join texts) := by
  have hFold : Adds (fun p => frames.foldlM (renderInFrame render) p) scope
      (String.join texts) := by
    induction hFrames with
    | nil => exact .nothing
    | @cons frame text frames texts hFirst _ ih =>
        intro page
        obtain ⟨between, hRun, hText⟩ := hFirst page
        obtain ⟨after, hRest, hAfter⟩ := ih between
        refine ⟨after, ?_, ?_⟩
        · have hUnnamed : unnamed (scope.push frame) = scope.push frame := unnamed_eq hCurrent
          simp only [List.foldlM_cons, renderInFrame, hUnnamed, hRun, bind, Except.bind]
          exact hRest
        · rw [hAfter, hText, String.append_assoc, String.join_cons]
  intro page
  obtain ⟨after, hRun, hText⟩ := hFold page
  refine ⟨after, ?_, hText⟩
  dsimp only at hRun
  rw [renderInside, hRun]
  rfl

end Rendering
end TemplateBundle
