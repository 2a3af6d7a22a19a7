import TemplateBundle.Outcome
import TemplateBundle.Template.Parser

/-! Which texts are templates. What becomes of the blanks around a tag does not decide it: a text is
read under one choice as far as under the other, and is refused for the same reason. -/
namespace TemplateBundle.Template

open Outcome (Alike)

variable {keep drop : Bool}

/-- Both have read as far, and the text behind is taken the same. -/
def SameFlow {α β : Type} (a : α × Flow) (b : β × Flow) : Prop := a.2 = b.2

/-- As `SameFlow`, for what ends a block. -/
def SameEnd {α β : Type} (a : α × Option α × Flow) (b : β × Option β × Flow) : Prop :=
  a.2.2 = b.2.2

mutual
/-- The choice changes what a node adds to the template, not whether it can be read. -/
theorem alike_addNode (node : Node) (flow : Flow) (elements others : List Element) :
    Alike SameFlow (addNode keep flow elements node) (addNode drop flow others node) := by
  match node with
  | .gap s =>
      rw [addNode, addNode]
      split
      · exact .ok rfl
      · exact .ok rfl
  | .text s => exact .ok rfl
  | .comment place => exact .ok rfl
  | .output tag escaped => exact .bind_same fun _ _ => .ok rfl
  | .decorator tag => exact .bind_same fun _ _ => .ok rfl
  | .inclusion tag => exact .bind_same fun _ _ => .ok rfl
  | .block start body tail =>
      refine .bind_same fun call _ => ?_
      refine (alike_addNodes body _ [] []).bind fun first second hFlow => ?_
      obtain ⟨shown, flow⟩ := first
      obtain ⟨other, _⟩ := second
      obtain rfl : flow = _ := hFlow
      exact (alike_closeBlock _ tail flow shown other).bind fun _ _ hEnd => .ok hEnd
  | .rawBlock start body close =>
      exact .bind_same fun _ _ => .bind_same fun _ _ => .ok rfl
  | .decoratorBlock start body close =>
      exact .bind_same fun _ _ => (alike_addNodes body _ [] []).bind fun _ _ _ =>
        .bind_same fun _ _ => .ok rfl
  | .inclusionBlock start body close =>
      exact .bind_same fun _ _ => (alike_addNodes body _ [] []).bind fun _ _ _ =>
        .bind_same fun _ _ => .ok rfl

theorem alike_addNodes (nodes : List Node) (flow : Flow) (elements others : List Element) :
    Alike SameFlow (addNodes keep flow elements nodes) (addNodes drop flow others nodes) := by
  match nodes with
  | [] => exact .ok rfl
  | node :: rest =>
      refine (alike_addNode node flow elements others).bind fun first second hFlow => ?_
      obtain ⟨shown, flow⟩ := first
      obtain ⟨other, _⟩ := second
      obtain rfl : flow = _ := hFlow
      exact alike_addNodes rest flow shown other

theorem alike_closeBlock (opened : Option String) (tail : BlockTail) (flow : Flow)
    (elements others : List Element) :
    Alike SameEnd (closeBlock keep opened flow elements tail)
      (closeBlock drop opened flow others tail) := by
  match tail with
  | .close tag => exact .bind_same fun _ _ => .ok rfl
  | .other tag body close =>
      exact (alike_addNodes body _ [] []).bind fun _ _ _ => .bind_same fun _ _ => .ok rfl
  | .chain tag body tail =>
      refine .bind_same fun call _ => ?_
      refine (alike_addNodes body _ [] []).bind fun first second hFlow => ?_
      obtain ⟨shown, flow⟩ := first
      obtain ⟨other, _⟩ := second
      obtain rfl : flow = _ := hFlow
      exact (alike_closeBlock _ tail flow shown other).bind fun _ _ hEnd => .ok hEnd
end

/-- A text is a template under one choice if it is under the other, and else refused alike. -/
theorem alike_parse (keep drop : Bool) (text : String) :
    Alike (fun _ _ => True) (parse keep text) (parse drop text) := by
  unfold parse
  cases Outline.parse? text.toList with
  | none => exact .error _
  | some nodes =>
      have hNodes : Alike SameFlow (addNodes keep ⟨false, false⟩ [] nodes)
          (addNodes drop ⟨false, false⟩ [] nodes) := alike_addNodes nodes _ [] []
      revert hNodes
      dsimp only
      rcases addNodes keep ⟨false, false⟩ [] nodes with e | ⟨shown, _⟩
      · rcases addNodes drop ⟨false, false⟩ [] nodes with f | ⟨other, _⟩
        · exact id
        · exact False.elim
      · rcases addNodes drop ⟨false, false⟩ [] nodes with f | ⟨other, _⟩
        · exact False.elim
        · exact fun _ => .ok trivial

end TemplateBundle.Template
