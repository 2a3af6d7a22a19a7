import TemplateBundle.Outcome
import TemplateBundle.Proofs.Render.Inclusions
import TemplateBundle.Proofs.Template.Places
import TemplateBundle.Template.Parser

/-! What a template includes, in terms of its text. Main statement: every inclusion without a body
is read from a tag of the text. -/
namespace TemplateBundle.Template

open Tag (Phrase Term)
open Outline (inclusionTags)

theorem mem_plainInclusions_trimLast {p : Char → Bool} {call : Call} {elements : List Element} :
    call ∈ plainInclusions (trimLast p elements) ↔ call ∈ plainInclusions elements := by
  unfold trimLast
  split <;> rfl

theorem mem_plainInclusions_settle {α : Type} {tag : Placed α} {keepIndent : Bool} {call : Call}
    {elements : List Element} :
    call ∈ plainInclusions (settle tag keepIndent elements) ↔ call ∈ plainInclusions elements := by
  unfold settle
  dsimp only
  split <;> split <;> simp only [mem_plainInclusions_trimLast]

/-- The calls are read from the tags. -/
def ReadFrom (phrases : List Phrase) (calls : List Call) : Prop :=
  ∀ call ∈ calls, ∃ phrase ∈ phrases, readPhrase phrase = .ok call

/-- The calls that were not there before are read from the tags. -/
def Adds (phrases : List Phrase) (before calls : List Call) : Prop :=
  ∀ call ∈ calls, call ∈ before ∨ ∃ phrase ∈ phrases, readPhrase phrase = .ok call

variable {phrases more : List Phrase} {before calls others : List Call}

theorem Adds.readFrom (h : Adds phrases [] calls) : ReadFrom phrases calls :=
  fun call hCall => (h call hCall).resolve_left List.not_mem_nil

namespace ReadFrom

theorem adds (h : ReadFrom phrases calls) (hMore : Adds more calls others) :
    ReadFrom (phrases ++ more) others := by
  intro call hCall
  rcases hMore call hCall with hCall | ⟨phrase, hPhrase, hRead⟩
  · obtain ⟨phrase, hPhrase, hRead⟩ := h call hCall
    exact ⟨phrase, List.mem_append_left more hPhrase, hRead⟩
  · exact ⟨phrase, List.mem_append_right phrases hPhrase, hRead⟩

/-- The body of a block that a tag has ended. -/
theorem ended {α : Type} {tag : Placed α} {keepIndent : Bool} {elements : List Element}
    (h : ReadFrom phrases (plainInclusions elements)) :
    ReadFrom phrases (plainInclusions (settle tag keepIndent elements).reverse) :=
  fun call hCall =>
    h call (mem_plainInclusions_settle.mp (mem_plainInclusions_reverse.mp hCall))

end ReadFrom

/-- An element behind others, whose text may have lost blanks. -/
theorem adds_cons {elements settled : List Element} {element : Element}
    (hSettled : ∀ call, call ∈ plainInclusions settled ↔ call ∈ plainInclusions elements)
    (hElement : ReadFrom phrases element.plainInclusions) :
    Adds phrases (plainInclusions elements) (plainInclusions (element :: settled)) := by
  intro call hCall
  rcases List.mem_append.mp hCall with hCall | hCall
  · exact .inr (hElement call hCall)
  · exact .inl ((hSettled call).mp hCall)

/-- A body that a tag has ended, with the opposite case. -/
theorem adds_inverse {α : Type} (tag : Placed α) {elements inverse : List Element}
    (hInverse : ReadFrom phrases (plainInclusions inverse)) :
    Adds phrases (plainInclusions elements)
      (plainInclusions (settle tag false elements).reverse ++ plainInclusions inverse) := by
  intro call hCall
  rcases List.mem_append.mp hCall with hCall | hCall
  · exact .inl (mem_plainInclusions_settle.mp (mem_plainInclusions_reverse.mp hCall))
  · exact .inr (hInverse call hCall)

variable {preventIndent : Bool}

mutual
theorem adds_addNode (node : Node) {flow flow' : Flow} {elements result : List Element}
    (h : addNode preventIndent flow elements node = .ok (result, flow')) :
    Adds node.inclusionTags (plainInclusions elements) (plainInclusions result) := by
  match node with
  | .gap s =>
      rw [addNode] at h
      split at h
      · cases h
        exact fun call hCall => .inl hCall
      · cases h
        exact adds_cons (fun _ => .rfl) nofun
  | .text s =>
      cases h
      exact adds_cons (fun _ => .rfl) nofun
  | .comment place =>
      cases h
      exact adds_cons (fun _ => mem_plainInclusions_settle) nofun
  | .output tag escaped =>
      obtain ⟨call, -, h⟩ := Outcome.bind_eq_ok.mp h
      cases h
      refine adds_cons (fun _ => ?_) nofun
      split
      · exact mem_plainInclusions_trimLast
      · rfl
  | .decorator tag =>
      obtain ⟨call, -, h⟩ := Outcome.bind_eq_ok.mp h
      cases h
      exact adds_cons (fun _ => mem_plainInclusions_settle) nofun
  | .inclusion tag =>
      obtain ⟨call, hCall, h⟩ := Outcome.bind_eq_ok.mp h
      cases h
      refine adds_cons (fun _ => mem_plainInclusions_settle) fun included hIncluded => ?_
      obtain rfl := List.mem_singleton.mp hIncluded
      exact ⟨tag.value, List.mem_singleton_self _, hCall⟩
  | .block start body tail =>
      obtain ⟨call, -, h⟩ := Outcome.bind_eq_ok.mp h
      obtain ⟨⟨first, between⟩, hBody, h⟩ := Outcome.bind_eq_ok.mp h
      obtain ⟨⟨shown, inverse?, behind⟩, hTail, h⟩ := Outcome.bind_eq_ok.mp h
      cases h
      refine adds_cons (fun _ => mem_plainInclusions_settle) ?_
      exact (adds_addNodes body hBody).readFrom.adds (adds_closeBlock tail hTail call _)
  | .rawBlock start body close =>
      obtain ⟨call, -, h⟩ := Outcome.bind_eq_ok.mp h
      obtain ⟨-, -, h⟩ := Outcome.bind_eq_ok.mp h
      cases h
      refine adds_cons (fun _ => mem_plainInclusions_settle) fun included hIncluded => ?_
      nomatch mem_plainInclusions_settle.mp hIncluded
  | .decoratorBlock start body close =>
      obtain ⟨call, -, h⟩ := Outcome.bind_eq_ok.mp h
      obtain ⟨⟨shown, between⟩, hBody, h⟩ := Outcome.bind_eq_ok.mp h
      obtain ⟨-, -, h⟩ := Outcome.bind_eq_ok.mp h
      cases h
      refine adds_cons (fun _ => mem_plainInclusions_settle) ?_
      exact (adds_addNodes body hBody).readFrom.ended
  | .inclusionBlock start body close =>
      obtain ⟨call, -, h⟩ := Outcome.bind_eq_ok.mp h
      obtain ⟨⟨shown, between⟩, hBody, h⟩ := Outcome.bind_eq_ok.mp h
      obtain ⟨-, -, h⟩ := Outcome.bind_eq_ok.mp h
      cases h
      refine adds_cons (fun _ => mem_plainInclusions_settle) ?_
      exact (adds_addNodes body hBody).readFrom.ended

theorem adds_addNodes (nodes : List Node) {flow flow' : Flow} {elements result : List Element}
    (h : addNodes preventIndent flow elements nodes = .ok (result, flow')) :
    Adds (inclusionTags nodes) (plainInclusions elements) (plainInclusions result) := by
  match nodes with
  | [] =>
      cases h
      exact fun call hCall => .inl hCall
  | node :: rest =>
      obtain ⟨⟨between, flow''⟩, hNode, hRest⟩ := Outcome.bind_eq_ok.mp h
      intro call hCall
      rcases adds_addNodes rest hRest call hCall with hBetween | ⟨phrase, hPhrase, hRead⟩
      · rcases adds_addNode node hNode call hBetween with hBefore | ⟨phrase, hPhrase, hRead⟩
        · exact .inl hBefore
        · exact .inr ⟨phrase, List.mem_append_left _ hPhrase, hRead⟩
      · exact .inr ⟨phrase, List.mem_append_right _ hPhrase, hRead⟩

theorem adds_closeBlock {opened : Option String} {inverse? : Option (List Element)}
    (tail : BlockTail) {flow flow' : Flow} {elements result : List Element}
    (h : closeBlock preventIndent opened flow elements tail = .ok (result, inverse?, flow'))
    (block : Call) (ownLine : Bool) :
    Adds tail.inclusionTags (plainInclusions elements)
      (Element.block block result inverse? ownLine).plainInclusions := by
  match tail with
  | .close tag =>
      obtain ⟨-, -, h⟩ := Outcome.bind_eq_ok.mp h
      cases h
      intro call hCall
      exact .inl (mem_plainInclusions_settle.mp (mem_plainInclusions_reverse.mp hCall))
  | .other tag body close =>
      obtain ⟨⟨second, between⟩, hBody, h⟩ := Outcome.bind_eq_ok.mp h
      obtain ⟨-, -, h⟩ := Outcome.bind_eq_ok.mp h
      cases h
      exact adds_inverse tag (adds_addNodes body hBody).readFrom.ended
  | .chain tag body tail =>
      obtain ⟨call, -, h⟩ := Outcome.bind_eq_ok.mp h
      obtain ⟨⟨second, between⟩, hBody, h⟩ := Outcome.bind_eq_ok.mp h
      obtain ⟨⟨shown, inner?, behind⟩, hTail, h⟩ := Outcome.bind_eq_ok.mp h
      cases h
      refine adds_inverse tag fun included hIncluded => ?_
      rw [plainInclusions, plainInclusions, List.append_nil] at hIncluded
      exact (adds_addNodes body hBody).readFrom.adds (adds_closeBlock tail hTail call _) included
        hIncluded
end

/-- Every inclusion without a body in a template is read from a tag of its text. -/
theorem stands_of_parse {text : String} {template : Template}
    (h : parse preventIndent text = .ok template) {call : Call}
    (hCall : call ∈ plainInclusions template) :
    ∃ phrase, Outline.Stands text.toList phrase ∧ readPhrase phrase = .ok call := by
  unfold parse at h
  split at h
  · cases h
  · next nodes hNodes =>
    split at h
    · next elements flow hAdd =>
      cases h
      have hRead := (adds_addNodes nodes hAdd).readFrom
      obtain ⟨phrase, hPhrase, hRead⟩ := hRead call (mem_plainInclusions_reverse.mp hCall)
      exact ⟨phrase, Outline.stands_of_parse? hNodes phrase hPhrase, hRead⟩
    · cases h

/-- A term that is a label is read as what it says. -/
theorem literalName?_of_label? {term : Term} {operand : Operand} {name : String}
    (h : readTerm term = .ok operand) (hName : term.label? = some name) :
    operand.literalName? = some name := by
  match term with
  | .name s | .reference r =>
      cases h
      exact hName
  | .literal text | .call inner args => cases hName

theorem literalName?_of_call {inner : Term} {args : List (Option String × Term)}
    {operand : Operand} (h : readTerm (.call inner args) = .ok operand) :
    operand.literalName? = none := by
  obtain ⟨head, -, h⟩ := Outcome.bind_eq_ok.mp h
  obtain ⟨operands, -, h⟩ := Outcome.bind_eq_ok.mp h
  cases h
  rfl

/-- A tag at the front of the text is read as the call of an inclusion. -/
def IncludesAt (s : List Char) (call : Call) : Prop :=
  ∃ fuel tag rest, Tag.tagged ['>'] (Tag.inclusionCall fuel) s = some (tag, rest) ∧
    readPhrase tag.value = .ok call

/-- An inclusion without a body that names its partial is written with that name in the text. -/
theorem inclusion_of_parse {text : String} {template : Template}
    (h : parse preventIndent text = .ok template) {call : Call}
    (hCall : call ∈ plainInclusions template) {name : String}
    (hName : call.head.literalName? = some name) :
    ∃ s, Outline.Reached text.toList s ∧ IncludesAt s call ∧
      Nonempty (Tag.Inclusion name.toList s) := by
  obtain ⟨phrase, ⟨s, fuel, tag, rest, hReached, hTag, rfl⟩, hRead⟩ := stands_of_parse h hCall
  refine ⟨s, hReached, ⟨fuel, tag, rest, hTag, hRead⟩, ?_⟩
  obtain ⟨head, hHead, hRead⟩ := Outcome.bind_eq_ok.mp hRead
  obtain ⟨args, -, hRead⟩ := Outcome.bind_eq_ok.mp hRead
  cases hRead
  rcases Tag.inclusion_eq_some hTag with ⟨inner, args, hInner⟩ | ⟨spelled, hLabel, hWritten⟩
  · rw [hInner] at hHead
    rw [literalName?_of_call hHead] at hName
    cases hName
  · rw [literalName?_of_label? hHead hLabel] at hName
    cases hName
    exact hWritten

end TemplateBundle.Template
