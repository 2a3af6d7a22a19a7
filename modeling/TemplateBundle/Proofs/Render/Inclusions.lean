import TemplateBundle.Render.Text
import TemplateBundle.Template.Syntax

/-! The inclusions in a template, at whatever depth, and what they name. -/
namespace TemplateBundle

/-- The name that an operand spells out; a subexpression spells none. -/
def Operand.literalName? : Operand → Option String
  | .name s => some s
  | .reference r => some r.text
  | .literal v => some v.shown
  | .call .. => none

mutual
/-- The calls of the inclusions in an element, those in its bodies too. -/
def Element.inclusions : Element → List Call
  | .text _ => []
  | .comment => []
  | .output _ _ => []
  | .block _ body none _ => inclusions body
  | .block _ body (some inverse) _ => inclusions body ++ inclusions inverse
  | .decorator _ none => []
  | .decorator _ (some body) => inclusions body
  | .inclusion call none _ _ => [call]
  | .inclusion call (some body) _ _ => call :: inclusions body

/-- The calls of the inclusions in a template. -/
def inclusions : List Element → List Call
  | [] => []
  | element :: rest => element.inclusions ++ inclusions rest
end

mutual
/-- The calls of the inclusions in an element that have no body, those in its bodies too. -/
def Element.plainInclusions : Element → List Call
  | .text _ => []
  | .comment => []
  | .output _ _ => []
  | .block _ body none _ => plainInclusions body
  | .block _ body (some inverse) _ => plainInclusions body ++ plainInclusions inverse
  | .decorator _ none => []
  | .decorator _ (some body) => plainInclusions body
  | .inclusion call none _ _ => [call]
  | .inclusion _ (some body) _ _ => plainInclusions body

/-- The calls of the inclusions in a template that have no body. -/
def plainInclusions : List Element → List Call
  | [] => []
  | element :: rest => element.plainInclusions ++ plainInclusions rest
end

theorem mem_plainInclusions {call : Call} {elements : List Element} :
    call ∈ plainInclusions elements ↔ ∃ element ∈ elements, call ∈ element.plainInclusions := by
  induction elements with
  | nil => simp [plainInclusions]
  | cons element rest ih => simp [plainInclusions, ih]

theorem mem_plainInclusions_reverse {call : Call} {elements : List Element} :
    call ∈ plainInclusions elements.reverse ↔ call ∈ plainInclusions elements := by
  simp [mem_plainInclusions]

/-- The operand names nothing but what is allowed: what it spells out is allowed, and a
subexpression may only stand where everything is. -/
def Operand.NamesOnly (allowed : String → Prop) (operand : Operand) : Prop :=
  match operand.literalName? with
  | some spelled => allowed spelled
  | none => ∀ spelled, allowed spelled

/-- The template includes nothing but what is allowed. -/
def IncludesOnly (allowed : String → Prop) (template : Template) : Prop :=
  ∀ call ∈ inclusions template, call.head.NamesOnly allowed

theorem includesOnly_true (template : Template) : IncludesOnly (fun _ => True) template := by
  intro call _
  unfold Operand.NamesOnly
  split
  · trivial
  · exact fun _ => trivial

theorem includesOnly_cons {allowed : String → Prop} {element : Element} {rest : List Element} :
    IncludesOnly allowed (element :: rest) ↔
      (∀ call ∈ element.inclusions, call.head.NamesOnly allowed) ∧ IncludesOnly allowed rest := by
  simp only [IncludesOnly, inclusions, List.mem_append, or_imp, forall_and]

end TemplateBundle
