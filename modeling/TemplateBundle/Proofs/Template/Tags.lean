import Mathlib.Data.List.TakeWhile
import TemplateBundle.Proofs.Text.Scanner
import TemplateBundle.Template.Tag

/-! What tags take of a text. Each takes from the front and ends with a brace; a tag that includes a
partial spells its name behind the sign. -/
namespace TemplateBundle.Tag

open Text (Scanner)
open Text.Scanner

theorem leavesEnd_identifier : LeavesEnd identifier :=
  (leavesEnd_run1 isSymbol).bind fun _ => .pure _

theorem leavesEnd_separator : LeavesEnd separator :=
  leavesEnd_either (leavesEnd_word _) (leavesEnd_word _)

theorem leavesEnd_item : LeavesEnd item := by
  refine leavesEnd_either (leavesEnd_run1 isSymbol) ?_
  exact (leavesEnd_word _).bind fun _ => (leavesEnd_run _).bind fun key =>
    (leavesEnd_word _).bind fun _ => .pure key

theorem leavesEnd_laterItems (fuel : Nat) : LeavesEnd (laterItems fuel) := by
  induction fuel with
  | zero => exact .pure []
  | succ fuel ih =>
      refine (leavesEnd_optionally (leavesEnd_separator.bind fun _ => leavesEnd_item)).bind ?_
      rintro (_ | key)
      · exact .pure []
      · exact ih.bind fun _ => .pure _

theorem leavesEnd_ups (fuel : Nat) : LeavesEnd (ups fuel) := by
  induction fuel with
  | zero => exact .pure 0
  | succ fuel ih =>
      refine (leavesEnd_optionally ((leavesEnd_word _).bind fun _ => leavesEnd_separator)).bind ?_
      rintro (_ | _)
      · exact .pure 0
      · exact ih.bind fun _ => .pure _

theorem leavesEnd_segments (fuel : Nat) : LeavesEnd (segments fuel) := by
  have hThis : LeavesEnd (either (do word current; separator) (word ['.', '/'])) :=
    leavesEnd_either ((leavesEnd_word _).bind fun _ => leavesEnd_separator) (leavesEnd_word _)
  have hRoot : LeavesEnd (do word ['@', 'r', 'o', 'o', 't']; separator) :=
    (leavesEnd_word _).bind fun _ => leavesEnd_separator
  exact (leavesEnd_optionally hThis).bind fun _ => (leavesEnd_optionally hRoot).bind fun _ =>
    (leavesEnd_optionally (leavesEnd_word _)).bind fun _ => (leavesEnd_ups fuel).bind fun _ =>
    leavesEnd_item.bind fun _ => (leavesEnd_laterItems fuel).bind fun _ => .pure _

/-- A reference is written as its text. -/
theorem reference_eq_some {fuel : Nat} {s rest : List Char} {r : Reference}
    (h : reference fuel s = some (r, rest)) : s = r.text.toList ++ rest := by
  unfold reference at h
  split at h
  · cases h
  · next segs behind hRun =>
    cases h
    obtain ⟨front, rfl⟩ := leavesEnd_segments fuel s segs rest hRun
    simp

theorem leavesEnd_reference (fuel : Nat) : LeavesEnd (reference fuel) := by
  intro s r rest h
  rw [reference_eq_some h]
  exact List.suffix_append _ rest

theorem suffix_of_stringRest {quote : Char} {s rest : List Char}
    (h : stringRest quote s = some rest) : rest <:+ s := by
  fun_induction stringRest quote s with
  | case1 => cases h
  | case2 a b c d s _ ih => exact (ih h).trans (List.suffix_append ['\\', 'u', a, b, c, d] s)
  | case3 => cases h
  | case4 e s _ _ ih => exact (ih h).trans (List.suffix_append ['\\', e] s)
  | case5 => cases h
  | case6 s =>
      cases h
      exact List.suffix_cons quote rest
  | case7 => cases h
  | case8 c s _ _ _ _ ih => exact (ih h).trans (List.suffix_cons c s)

theorem leavesEnd_stringLiteral : LeavesEnd stringLiteral := by
  intro s u rest h
  unfold stringLiteral at h
  split at h
  · next s =>
    obtain ⟨behind, hRest, hSame⟩ := Option.map_eq_some_iff.mp h
    cases hSame
    exact (suffix_of_stringRest hRest).trans (List.suffix_cons _ s)
  · next s =>
    obtain ⟨behind, hRest, hSame⟩ := Option.map_eq_some_iff.mp h
    cases hSame
    exact (suffix_of_stringRest hRest).trans (List.suffix_cons _ s)
  · cases h

theorem leavesEnd_numberLiteral : LeavesEnd numberLiteral := by
  have hExponent : LeavesEnd (do
      word ['E']
      let _ ← optionally (word ['-'])
      let _ ← run1 Text.isDigit) :=
    (leavesEnd_word _).bind fun _ => (leavesEnd_optionally (leavesEnd_word _)).bind fun _ =>
      (leavesEnd_run1 _).bind fun _ => .pure _
  exact (leavesEnd_optionally (leavesEnd_word _)).bind fun _ => (leavesEnd_run1 _).bind fun _ =>
    (leavesEnd_optionally (leavesEnd_word _)).bind fun _ => (leavesEnd_run _).bind fun _ =>
    (leavesEnd_optionally hExponent).bind fun _ => leavesEnd_notAhead _

theorem leavesEnd_wordLiteral (w : List Char) : LeavesEnd (wordLiteral w) :=
  (leavesEnd_word w).bind fun _ => leavesEnd_notAhead _

theorem leavesEnd_literal (fuel : Nat) : LeavesEnd (literal fuel) := by
  induction fuel with
  | zero => exact .none
  | succ fuel ih =>
      have hMember : LeavesEnd (do gap; stringLiteral; token [':']; gap; literal fuel) :=
        leavesEnd_gap.bind fun _ => leavesEnd_stringLiteral.bind fun _ =>
          (leavesEnd_token _).bind fun _ => leavesEnd_gap.bind fun _ => ih
      have hArray : LeavesEnd (do
          word ['[']
          let _ ← optionally (do gap; literal fuel)
          let _ ← many (do token [',']; gap; literal fuel) fuel
          token [']']) :=
        (leavesEnd_word _).bind fun _ =>
          (leavesEnd_optionally (leavesEnd_gap.bind fun _ => ih)).bind fun _ =>
          (leavesEnd_many ((leavesEnd_token _).bind fun _ => leavesEnd_gap.bind fun _ => ih) _).bind
            fun _ => leavesEnd_token _
      have hObject : LeavesEnd (do
          word ['{']
          let _ ← optionally (do gap; stringLiteral; token [':']; gap; literal fuel)
          let _ ← many (do token [',']; gap; stringLiteral; token [':']; gap; literal fuel) fuel
          token ['}']) :=
        (leavesEnd_word _).bind fun _ => (leavesEnd_optionally hMember).bind fun _ =>
          (leavesEnd_many ((leavesEnd_token _).bind fun _ => hMember) _).bind fun _ =>
          leavesEnd_token _
      exact leavesEnd_either leavesEnd_stringLiteral <| leavesEnd_either hArray <|
        leavesEnd_either hObject <| leavesEnd_either leavesEnd_numberLiteral <|
        leavesEnd_either (leavesEnd_wordLiteral _) <|
        leavesEnd_either (leavesEnd_wordLiteral _) (leavesEnd_wordLiteral _)

/-- The parts of a subexpression, each with less fuel than the last. -/
theorem leavesEnd_operands (fuel : Nat) :
    LeavesEnd (operand fuel) ∧ LeavesEnd (argument fuel) ∧ LeavesEnd (subexpression fuel) := by
  induction fuel with
  | zero => exact ⟨.none, .none, .none⟩
  | succ fuel ih =>
      obtain ⟨hOperand, hArgument, hSubexpression⟩ := ih
      refine ⟨?_, ?_, ?_⟩
      · intro s a rest h
        unfold operand at h
        split at h
        · cases h
        · have hLiteral := leavesEnd_written (leavesEnd_literal fuel)
          exact leavesEnd_either (hLiteral.bind fun _ => .pure _)
            (leavesEnd_either ((leavesEnd_reference fuel).bind fun _ => .pure _) hSubexpression)
            s a rest h
      · refine leavesEnd_either ?_ (hOperand.bind fun _ => .pure _)
        exact leavesEnd_identifier.bind fun _ => (leavesEnd_token _).bind fun _ =>
          leavesEnd_gap.bind fun _ => hOperand.bind fun _ => .pure _
      · have hGiven : LeavesEnd (do
            let head ← identifier
            let args ← many (argument fuel) fuel
            if args.isEmpty then fun _ => none
            return (Term.name head, args)) := by
          refine leavesEnd_identifier.bind fun head =>
            (leavesEnd_many hArgument fuel).bind fun args => ?_
          split
          · exact .bind .none fun _ => .pure _
          · exact .pure _
        have hBare : LeavesEnd (do
            return (Term.reference (← reference fuel), ([] : List (Option String × Term)))) :=
          (leavesEnd_reference fuel).bind fun _ => .pure _
        exact (leavesEnd_word _).bind fun _ => leavesEnd_gap.bind fun _ =>
          (leavesEnd_either hGiven hBare).bind fun _ => (leavesEnd_token _).bind fun _ => .pure _

theorem leavesEnd_argument (fuel : Nat) : LeavesEnd (argument fuel) := (leavesEnd_operands fuel).2.1

theorem leavesEnd_subexpression (fuel : Nat) : LeavesEnd (subexpression fuel) :=
  (leavesEnd_operands fuel).2.2

theorem leavesEnd_arguments (fuel : Nat) : LeavesEnd (many (argument fuel) fuel) :=
  leavesEnd_many (leavesEnd_argument fuel) fuel

theorem leavesEnd_referenceTerm (fuel : Nat) :
    LeavesEnd (do return Term.reference (← reference fuel)) :=
  (leavesEnd_reference fuel).bind fun _ => .pure _

theorem leavesEnd_valueHead (fuel : Nat) :
    LeavesEnd (either (subexpression fuel) (do return .reference (← reference fuel))) :=
  leavesEnd_either (leavesEnd_subexpression fuel) (leavesEnd_referenceTerm fuel)

theorem leavesEnd_valueCall (fuel : Nat) : LeavesEnd (valueCall fuel) := by
  refine leavesEnd_either ?_ ((leavesEnd_valueHead fuel).bind fun _ => .pure _)
  refine leavesEnd_identifier.bind fun head => (leavesEnd_arguments fuel).bind fun args => ?_
  split
  · exact .bind .none fun _ => .pure _
  · exact .pure _

theorem leavesEnd_blockParams : LeavesEnd blockParams :=
  (leavesEnd_word _).bind fun _ => (leavesEnd_token _).bind fun _ => leavesEnd_gap.bind fun _ =>
    leavesEnd_identifier.bind fun _ =>
    (leavesEnd_optionally (leavesEnd_gap.bind fun _ => leavesEnd_identifier)).bind fun _ =>
    (leavesEnd_token _).bind fun _ => .pure _

theorem leavesEnd_blockCall (fuel : Nat) : LeavesEnd (blockCall fuel) :=
  leavesEnd_identifier.bind fun _ => (leavesEnd_arguments fuel).bind fun _ =>
    (leavesEnd_optionally (leavesEnd_gap.bind fun _ => leavesEnd_blockParams)).bind fun _ => .pure _

/-- The text of a name in quotes, and what is written between them. -/
theorem leavesEnd_quoted : LeavesEnd (do
    word ['\'']
    let _ ← takeSome quotedLength
    word ['\'']) :=
  (leavesEnd_word _).bind fun _ => (leavesEnd_takeSome _).bind fun _ => leavesEnd_word _

theorem leavesEnd_partialName : LeavesEnd partialName :=
  (leavesEnd_either (leavesEnd_run1 _) (leavesEnd_written leavesEnd_quoted)).bind fun _ => .pure _

theorem leavesEnd_inclusionHead (fuel : Nat) : LeavesEnd (inclusionHead fuel) :=
  leavesEnd_either (leavesEnd_partialName.bind fun _ => .pure _) (leavesEnd_valueHead fuel)

theorem leavesEnd_inclusionCall (fuel : Nat) : LeavesEnd (inclusionCall fuel) :=
  (leavesEnd_inclusionHead fuel).bind fun _ => (leavesEnd_arguments fuel).bind fun _ => .pure _

theorem leavesEnd_tilde : LeavesEnd tilde :=
  (leavesEnd_optionally (leavesEnd_token _)).bind fun _ => .pure _

/-- Whatever the scanner takes, a closing brace is the last of it. -/
def EndsInBrace {α : Type} (x : Scanner α) : Prop :=
  ∀ s a rest, x s = some (a, rest) → '}' :: rest <:+ s

namespace EndsInBrace

variable {α β : Type}

protected theorem bind {x : Scanner α} {f : α → Scanner β} (h : LeavesEnd x)
    (hNext : ∀ a, EndsInBrace (f a)) : EndsInBrace (x >>= f) := by
  intro s b rest hRun
  obtain ⟨a, between, hFirst, hRest⟩ := bind_eq_some.mp hRun
  exact (hNext a between b rest hRest).trans (h s a between hFirst)

protected theorem pure {x : Scanner α} (h : EndsInBrace x) (b : β) :
    EndsInBrace (x >>= fun _ => pure b) := by
  intro s b' rest hRun
  obtain ⟨a, between, hFirst, hRest⟩ := bind_eq_some.mp hRun
  obtain ⟨-, rfl⟩ := pure_eq_some.mp hRest
  exact h s a rest hFirst

protected theorem either {x y : Scanner α} (hx : EndsInBrace x) (hy : EndsInBrace y) :
    EndsInBrace (either x y) := by
  intro s a rest h
  rcases either_eq_some h with hRun | hRun
  · exact hx s a rest hRun
  · exact hy s a rest hRun

end EndsInBrace

theorem endsInBrace_token (count : Nat) :
    EndsInBrace (token (List.replicate (count + 1) '}')) := by
  intro s u rest h
  refine .trans ?_ (List.dropWhile_suffix Text.isGap)
  rw [token_eq_some.mp h, List.replicate_succ', List.append_assoc]
  exact List.suffix_append _ _

theorem endsInBrace_braced {α : Type} {content : Scanner α} (h : LeavesEnd content) (count : Nat)
    (sign : List Char) : EndsInBrace (braced (count + 1) sign content) :=
  .bind (leavesEnd_word _) fun _ => .bind leavesEnd_tilde fun _ =>
    .bind (leavesEnd_token _) fun _ => .bind leavesEnd_gap fun _ => .bind h fun _ =>
    .bind leavesEnd_tilde fun _ => .pure (endsInBrace_token count) _

theorem endsInBrace_tagged {α : Type} {content : Scanner α} (h : LeavesEnd content)
    (sign : List Char) : EndsInBrace (tagged sign content) := endsInBrace_braced h 1 sign

theorem endsInBrace_innerTripleTag (fuel : Nat) : EndsInBrace (innerTripleTag fuel) :=
  .bind (leavesEnd_word _) fun _ => .bind leavesEnd_tilde fun _ =>
    .bind (leavesEnd_token _) fun _ => .bind leavesEnd_gap fun _ =>
    .bind (leavesEnd_valueCall fuel) fun _ => .bind (leavesEnd_token _) fun _ =>
    .bind leavesEnd_tilde fun _ => .pure (endsInBrace_token 1) _

theorem endsInBrace_plainOutput (fuel : Nat) : EndsInBrace (plainOutput fuel) :=
  .either (endsInBrace_braced (leavesEnd_valueCall fuel) 2 []) <|
    .either (endsInBrace_innerTripleTag fuel) <|
    endsInBrace_tagged ((leavesEnd_valueHead fuel).bind fun _ => .pure _) ['&']

theorem endsInBrace_output (fuel : Nat) : EndsInBrace (output fuel) := by
  intro s tag rest h
  unfold output at h
  split at h
  · cases h
  · exact endsInBrace_tagged (leavesEnd_valueCall fuel) [] s tag rest h

theorem leavesEnd_elseWord : LeavesEnd elseWord :=
  leavesEnd_either (leavesEnd_word _) (leavesEnd_word _)

theorem endsInBrace_elseTag : EndsInBrace elseTag := endsInBrace_tagged leavesEnd_elseWord []

theorem endsInBrace_chainTag (fuel : Nat) : EndsInBrace (chainTag fuel) :=
  endsInBrace_tagged (leavesEnd_elseWord.bind fun _ => leavesEnd_gap.bind fun _ =>
    leavesEnd_blockCall fuel) []

theorem leavesEnd_endName : LeavesEnd endName := (leavesEnd_run _).bind fun _ => .pure _

theorem endsInBrace_blockEnd : EndsInBrace blockEnd := endsInBrace_tagged leavesEnd_endName ['/']

theorem endsInBrace_inclusionEnd : EndsInBrace inclusionEnd :=
  endsInBrace_tagged (leavesEnd_either leavesEnd_partialName (.pure _)) ['/']

theorem endsInBrace_rawEnd : EndsInBrace rawEnd := endsInBrace_braced leavesEnd_endName 3 ['/']

theorem suffix_of_after {w s rest : List Char} (h : after w s = some rest) : w ++ rest <:+ s := by
  induction s with
  | nil =>
      unfold after at h
      split at h
      · next hEmpty =>
        cases h
        simp [List.isEmpty_iff.mp hEmpty]
      · cases h
  | cons c s ih =>
      unfold after at h
      split at h
      · next behind hHere =>
        cases h
        exact ⟨[], (stripStart?_eq_some.mp hHere).symm⟩
      · exact (ih h).trans (List.suffix_cons c s)

theorem endsInBrace_after (w : List Char) :
    EndsInBrace (fun s => (after (w ++ ['}']) s).map ((), ·)) := by
  intro s u rest h
  obtain ⟨behind, hAfter, hSame⟩ := Option.map_eq_some_iff.mp h
  cases hSame
  refine .trans ?_ (suffix_of_after hAfter)
  rw [List.append_assoc]
  exact List.suffix_append w _

theorem endsInBrace_comment : EndsInBrace comment :=
  .bind (leavesEnd_word _) fun _ => .either
    (.bind (leavesEnd_token _) fun _ => endsInBrace_after ['-', '-', '}']) (endsInBrace_after ['}'])

theorem partialName_eq_some {s rest : List Char} {name : String}
    (h : partialName s = some (name, rest)) : s = name.toList ++ rest := by
  obtain ⟨chars, between, hChars, hRest⟩ := bind_eq_some.mp h
  obtain ⟨rfl, rfl⟩ := pure_eq_some.mp hRest
  rw [String.toList_ofList]
  rcases either_eq_some hChars with hRun | hRun
  · obtain ⟨-, rfl, rfl⟩ := run1_eq_some hRun
    exact List.takeWhile_append_dropWhile.symm
  · exact (written_eq_some leavesEnd_quoted hRun).1

theorem subexpression_eq_some {fuel : Nat} {s rest : List Char} {head : Term}
    (h : subexpression fuel s = some (head, rest)) : ∃ inner args, head = .call inner args := by
  cases fuel with
  | zero => cases h
  | succ fuel =>
      obtain ⟨-, s₁, -, h⟩ := bind_eq_some.mp h
      obtain ⟨-, s₂, -, h⟩ := bind_eq_some.mp h
      obtain ⟨⟨inner, args⟩, s₃, -, h⟩ := bind_eq_some.mp h
      obtain ⟨-, s₄, -, h⟩ := bind_eq_some.mp h
      obtain ⟨rfl, -⟩ := pure_eq_some.mp h
      exact ⟨inner, args, rfl⟩

/-- What names a partial stands at the front as it is written, unless it is a subexpression. -/
theorem inclusionHead_eq_some {fuel : Nat} {s rest : List Char} {head : Term}
    (h : inclusionHead fuel s = some (head, rest)) :
    (∃ inner args, head = .call inner args) ∨
      ∃ name, head.label? = some name ∧ s = name.toList ++ rest := by
  rcases either_eq_some h with hPlain | hOther
  · obtain ⟨name, between, hName, hRest⟩ := bind_eq_some.mp hPlain
    obtain ⟨rfl, rfl⟩ := pure_eq_some.mp hRest
    exact .inr ⟨name, rfl, partialName_eq_some hName⟩
  · rcases either_eq_some hOther with hCall | hReference
    · exact .inl (subexpression_eq_some hCall)
    · obtain ⟨r, between, hRead, hRest⟩ := bind_eq_some.mp hReference
      obtain ⟨rfl, rfl⟩ := pure_eq_some.mp hRest
      exact .inr ⟨r.text, rfl, reference_eq_some hRead⟩

/-- How a tag that includes a partial is written: two braces, blanks and tildes, the sign, blanks
and the name, with the quotes that it may stand in. -/
structure Inclusion (name s : List Char) where
  lead : List Char
  blanks : List Char
  behind : List Char
  isLead : ∀ c ∈ lead, Text.isGap c ∨ c = '~'
  isBlanks : ∀ c ∈ blanks, Text.isGap c
  spelled : s = '{' :: '{' :: (lead ++ '>' :: (blanks ++ (name ++ behind)))

theorem token_spelled {w s rest : List Char} {u : Unit} (h : token w s = some (u, rest)) :
    ∃ blanks, (∀ c ∈ blanks, Text.isGap c) ∧ s = blanks ++ (w ++ rest) := by
  refine ⟨s.takeWhile Text.isGap, fun c hc => List.mem_takeWhile_imp hc, ?_⟩
  rw [← token_eq_some.mp h, List.takeWhile_append_dropWhile]

theorem tilde_spelled {s rest : List Char} {found : Bool} (h : tilde s = some (found, rest)) :
    ∃ lead, (∀ c ∈ lead, Text.isGap c ∨ c = '~') ∧ s = lead ++ rest := by
  obtain ⟨found?, between, hFound, hRest⟩ := bind_eq_some.mp h
  obtain ⟨-, rfl⟩ := pure_eq_some.mp hRest
  rcases optionally_eq_some hFound with ⟨-, -, rfl⟩ | ⟨_, -, hToken⟩
  · exact ⟨[], by simp, rfl⟩
  · obtain ⟨blanks, hBlanks, rfl⟩ := token_spelled hToken
    refine ⟨blanks ++ ['~'], fun c hc => ?_, by simp⟩
    rcases List.mem_append.mp hc with hc | hc
    · exact .inl (hBlanks c hc)
    · exact .inr (List.mem_singleton.mp hc)

/-- A tag that includes a partial by name has that name in its text. -/
theorem inclusion_eq_some {fuel : Nat} {s rest : List Char} {tag : Content Phrase}
    (h : tagged ['>'] (inclusionCall fuel) s = some (tag, rest)) :
    (∃ inner args, tag.value.head = .call inner args) ∨
      ∃ name, tag.value.head.label? = some name ∧ Nonempty (Inclusion name.toList s) := by
  obtain ⟨_, s₁, hOpen, h⟩ := bind_eq_some.mp h
  obtain ⟨dropBefore, s₂, hTilde, h⟩ := bind_eq_some.mp h
  obtain ⟨_, s₃, hSign, h⟩ := bind_eq_some.mp h
  obtain ⟨_, s₄, hGap, h⟩ := bind_eq_some.mp h
  obtain ⟨call, s₅, hCall, h⟩ := bind_eq_some.mp h
  obtain ⟨dropAfter, s₆, -, h⟩ := bind_eq_some.mp h
  obtain ⟨-, s₇, -, h⟩ := bind_eq_some.mp h
  obtain ⟨rfl, rfl⟩ := pure_eq_some.mp h
  obtain ⟨head, behind, hHead, hArgs⟩ := bind_eq_some.mp hCall
  obtain ⟨args, s₈, -, hArgs⟩ := bind_eq_some.mp hArgs
  obtain ⟨rfl, rfl⟩ := pure_eq_some.mp hArgs
  rcases inclusionHead_eq_some hHead with hInner | ⟨name, hName, hBehind⟩
  · exact .inl hInner
  obtain ⟨lead, hLead, rfl⟩ := tilde_spelled hTilde
  obtain ⟨between, hBetween, rfl⟩ := token_spelled hSign
  refine .inr ⟨name, hName, ⟨lead ++ between, s₃.takeWhile Text.isGap, behind, fun c hc => ?_,
    fun c hc => List.mem_takeWhile_imp hc, ?_⟩⟩
  · rcases List.mem_append.mp hc with hc | hc
    · exact hLead c hc
    · exact .inl (hBetween c hc)
  · rw [word_eq_some.mp hOpen, ← hBehind, gap_eq_some.mp hGap, List.takeWhile_append_dropWhile]
    simp

end TemplateBundle.Tag
