import Mathlib
import TemplateBundle.Discovery
import TemplateBundle.Proofs.Template.Parsing

/-! What a scan for inclusion markers finds of what a template includes. Main statement: a partial
that a template includes by name, without a body, is among the references of its text, unless the
tag is written in a way that the scan does not know. -/
namespace TemplateBundle.Discovery

open Outline (BracesAhead EscapeBehind Passed Reached)

/-- Whether the text that is left begins with what a marker begins with. -/
def MarkerAhead (s : List Char) : Prop :=
  ['{', '{', '>'] <+: s ∨ ['{', '{', '~', '>'] <+: s

theorem MarkerAhead.braces {s : List Char} (h : MarkerAhead s) : BracesAhead s := by
  rcases h with ⟨rest, rfl⟩ | ⟨rest, rfl⟩
  · exact ⟨'>' :: rest, rfl⟩
  · exact ⟨'~' :: '>' :: rest, rfl⟩

theorem dropOne_spelled (p : Char → Bool) (s : List Char) :
    s = dropOne p s ∨ ∃ c, p c = true ∧ s = c :: dropOne p s := by
  cases s with
  | nil => exact .inl rfl
  | cons c s =>
      by_cases hc : p c = true
      · exact .inr ⟨c, hc, by simp [dropOne, hc]⟩
      · exact .inl (by simp [dropOne, hc])

theorem name?_eq_some {s name rest : List Char} (h : name? s = some (name, rest)) :
    s = name ++ rest ∧ (∀ c ∈ name, isNameChar c) ∧ ∀ c ∈ rest.head?, isNameChar c = false := by
  unfold name? at h
  split at h
  · cases h
  · next c cs =>
    split at h
    · next hStart =>
      cases h
      refine ⟨by simp, fun d hd => ?_, fun d hd => ?_⟩
      · rcases List.mem_cons.mp hd with rfl | hd
        · exact (Bool.and_eq_true_iff.mp hStart).1
        · exact List.mem_takeWhile_imp hd
      · have hNot := List.head?_dropWhile_not isNameChar cs
        rw [Option.mem_def.mp hd] at hNot
        exact hNot
    · cases h

/-- A marker holds no closing brace, and no more of a name follows it. -/
theorem marker?_eq_some {s name rest : List Char} (h : marker? s = some (name, rest)) :
    MarkerAhead s ∧ (∃ front, s = front ++ rest ∧ '}' ∉ front) ∧
      ∀ c ∈ rest.head?, isNameChar c = false := by
  unfold marker? at h
  split at h
  · next behind =>
    split at h
    · next after hSign =>
      obtain ⟨hName, hChars, hRest⟩ := name?_eq_some h
      have hOpen : MarkerAhead ('{' :: '{' :: behind) ∧
          ∃ opening, '{' :: '{' :: behind = opening ++ after ∧ '}' ∉ opening := by
        rcases dropOne_spelled (· == '~') behind with hBehind | ⟨c, hTilde, hBehind⟩
        · rw [hBehind, hSign]
          exact ⟨.inl ⟨after, rfl⟩, ['{', '{', '>'], rfl, by decide⟩
        · obtain rfl : c = '~' := by simpa using hTilde
          rw [hBehind, hSign]
          exact ⟨.inr ⟨after, rfl⟩, ['{', '{', '~', '>'], rfl, by decide⟩
      have hQuoted : ∃ quote, after.dropWhile Text.isBlank = quote ++ (name ++ rest) ∧
          '}' ∉ quote := by
        rw [← hName]
        rcases dropOne_spelled (fun c => c == '\'' || c == '"') (after.dropWhile Text.isBlank) with
          hAfter | ⟨c, hQuote, hAfter⟩
        · exact ⟨[], hAfter, by simp⟩
        · refine ⟨[c], hAfter, fun hBrace => ?_⟩
          rw [← List.mem_singleton.mp hBrace] at hQuote
          exact absurd hQuote (by decide)
      obtain ⟨hAhead, opening, hOpening, hOpenFree⟩ := hOpen
      obtain ⟨quote, hAfter, hQuoteFree⟩ := hQuoted
      refine ⟨hAhead, ⟨opening ++ (after.takeWhile Text.isBlank ++ (quote ++ name)), ?_, ?_⟩, hRest⟩
      · rw [hOpening, List.append_assoc, List.append_assoc, List.append_assoc, ← hAfter,
          List.takeWhile_append_dropWhile]
      · simp only [List.mem_append, not_or]
        refine ⟨hOpenFree, fun hBlank => ?_, hQuoteFree, fun hChar => ?_⟩
        · exact absurd (List.mem_takeWhile_imp hBlank) (by decide)
        · exact absurd (hChars _ hChar) (by decide)
    · cases h
  · cases h

theorem markerNames_of_marker {s name rest : List Char} (h : marker? s = some (name, rest)) :
    markerNames false s = name :: markerNames false rest := by
  cases s with
  | nil => cases h
  | cons c cs =>
      rw [markerNames]
      split
      · next hMarker =>
        rw [if_neg Bool.false_ne_true, h] at hMarker
        cases hMarker
        rfl
      · next hMarker =>
        rw [if_neg Bool.false_ne_true, h] at hMarker
        cases hMarker

theorem markerNames_of_none {escaped : Bool} {c : Char} {cs : List Char}
    (h : (if escaped then none else marker? (c :: cs)) = none) :
    markerNames escaped (c :: cs) = markerNames (c == '\\') cs := by
  rw [markerNames]
  split
  · next hMarker =>
    rw [h] at hMarker
    cases hMarker
  · rfl

/-- Whether a backslash stands directly before what follows. -/
def slashBehind (escaped : Bool) (done : List Char) : Bool :=
  match done.getLast? with
  | none => escaped
  | some c => c == '\\'

theorem slashBehind_eq_true {done : List Char} :
    slashBehind false done = true ↔ done.getLast? = some '\\' := by
  unfold slashBehind
  split <;> simp_all

theorem slashBehind_cons (escaped : Bool) (c : Char) (done : List Char) :
    slashBehind escaped (c :: done) = slashBehind (c == '\\') done := by
  unfold slashBehind
  cases done with
  | nil => rfl
  | cons d done => rw [List.getLast?_cons_cons, List.getLast?_cons]

theorem slashBehind_append (escaped : Bool) (ahead : List Char) {done : List Char}
    (h : done ≠ []) : slashBehind escaped (ahead ++ done) = slashBehind escaped done := by
  unfold slashBehind
  rw [List.getLast?_append_of_ne_nil _ h]

/-- A marker is found if every marker ahead of it is closed before it or behind a backslash. -/
theorem mem_markerNames {tag name rest : List Char} (hTag : marker? tag = some (name, rest))
    (before : List Char) (escaped : Bool)
    (hBefore : ∀ ahead behind, before = ahead ++ behind → behind ≠ [] →
      MarkerAhead (behind ++ tag) → '}' ∈ behind ∨ slashBehind escaped ahead = true)
    (hSlash : slashBehind escaped before = false) :
    name ∈ markerNames escaped (before ++ tag) := by
  induction hLength : before.length using Nat.strong_induction_on generalizing before escaped with
  | _ n ih =>
  subst hLength
  cases before with
  | nil =>
      obtain rfl : escaped = false := hSlash
      rw [List.nil_append, markerNames_of_marker hTag]
      exact List.mem_cons_self
  | cons c before =>
      by_cases hNone : (if escaped then none else marker? (c :: before ++ tag)) = none
      · rw [List.cons_append] at hNone ⊢
        rw [markerNames_of_none hNone]
        refine ih before.length (by simp) before (c == '\\') ?_ ?_ rfl
        · intro ahead behind hSplit hBehind hAhead
          rw [← slashBehind_cons escaped]
          exact hBefore (c :: ahead) behind (by simp [hSplit]) hBehind hAhead
        · rw [← slashBehind_cons escaped]
          exact hSlash
      · -- the scan goes on behind a marker that is closed, and so ends ahead of the tag
        obtain ⟨rfl, ⟨other, behind⟩, hMarker⟩ : escaped = false ∧
            ∃ found, marker? (c :: before ++ tag) = some found := by
          cases escaped with
          | true => exact absurd rfl hNone
          | false => exact ⟨rfl, Option.ne_none_iff_exists'.mp hNone⟩
        obtain ⟨hAhead, ⟨front, hFront, hOpen⟩, hRest⟩ := marker?_eq_some hMarker
        have hClosed : '}' ∈ c :: before :=
          (hBefore [] (c :: before) rfl (by simp) hAhead).resolve_right (by decide)
        rcases List.append_eq_append_iff.mp hFront with ⟨more, rfl, -⟩ | ⟨more, hMore, rfl⟩
        · exact absurd (List.mem_append_left more hClosed) hOpen
        have hNonempty : more ≠ [] := by
          rintro rfl
          rw [hMore, List.append_nil] at hClosed
          exact hOpen hClosed
        have hShorter := length_of_marker? hMarker
        rw [markerNames_of_marker hMarker]
        refine List.mem_cons_of_mem other (ih more.length ?_ more false ?_ ?_ rfl)
        · simp only [List.length_append, List.length_cons] at hShorter ⊢
          omega
        · intro ahead behind hSplit hBehind hNext
          by_cases hFirst : ahead = []
          · -- what follows the marker's name is no brace
            subst hFirst
            rw [List.nil_append] at hSplit
            subst hSplit
            obtain ⟨after, hAfter⟩ := hNext.braces
            rw [← hAfter] at hRest
            exact absurd (hRest '{' rfl) (by decide)
          · rw [← slashBehind_append false front hFirst]
            exact hBefore (front ++ ahead) behind (by rw [hMore, hSplit, List.append_assoc]) hBehind
              hNext
        · rw [← slashBehind_append false front hNonempty, ← hMore]
          exact hSlash

/-- A backslash keeps the braces behind it from opening a tag, unless it is escaped itself. -/
def Escaped (before : List Char) : Prop :=
  before.getLast? = some '\\' ∧ ¬ ['\\', '\\'] <:+ before

/-- How an inclusion is written for a scan to find the name `bare` in it. -/
structure Legible {name tag : List Char} (inclusion : Tag.Inclusion name tag)
    (before bare : List Char) : Prop where
  /-- No backslash stands directly before the tag -/
  unescaped : before.getLast? ≠ some '\\'
  /-- No marker that begins among escaped braces reaches up to the tag -/
  unshadowed : ∀ ahead behind, before = ahead ++ behind → behind ≠ [] → EscapeBehind ahead →
    MarkerAhead (behind ++ tag) → ahead.getLast? = some '\\' ∨ '}' ∈ behind
  /-- Nothing but a tilde stands before the sign -/
  lead : inclusion.lead = [] ∨ inclusion.lead = ['~']
  starts : ∃ c ∈ bare.head?, isNameStart c
  chars : ∀ c ∈ bare, isNameChar c
  /-- The name stands in quotes, or something follows that ends it -/
  ends : name = '\'' :: (bare ++ ['\'']) ∨
    name = bare ∧ ∀ c ∈ inclusion.behind.head?, isNameChar c = false

theorem name?_append {name rest : List Char} (hStart : ∃ c ∈ name.head?, isNameStart c)
    (hChars : ∀ c ∈ name, isNameChar c) (hRest : ∀ c ∈ rest.head?, isNameChar c = false) :
    name? (name ++ rest) = some (name, rest) := by
  obtain ⟨c, hHead, hStart⟩ := hStart
  obtain ⟨name, rfl⟩ := List.head?_eq_some_iff.mp hHead
  have hName : ∀ d ∈ name, isNameChar d := fun d hd => hChars d (List.mem_cons_of_mem c hd)
  obtain ⟨hTake, hDrop⟩ := Text.takeWhile_run hName hRest
  rw [List.cons_append, name?, if_pos hStart, hTake, hDrop]

theorem isBlank_of_isGap {c : Char} (h : Text.isGap c = true) : Text.isBlank c = true := by
  simp only [Text.isGap, Bool.or_eq_true, beq_iff_eq, or_assoc] at h
  rcases h with rfl | rfl | rfl | rfl <;> decide

theorem isNameChar_iff {c : Char} : isNameChar c = true ↔
    Text.isBlank c = false ∧ (c == '\'' || c == '"') = false ∧ c ≠ '}' ∧ c ≠ '~' := by
  simp only [isNameChar, Bool.not_eq_true', Bool.or_eq_false_iff, beq_eq_false_iff_ne]
  tauto

namespace Legible

variable {name tag before bare : List Char} {inclusion : Tag.Inclusion name tag}

theorem dropQuote (h : Legible inclusion before bare) :
    ∃ rest, (name ++ inclusion.behind).dropWhile Text.isBlank = name ++ inclusion.behind ∧
      dropOne (fun c => c == '\'' || c == '"') (name ++ inclusion.behind) = bare ++ rest ∧
      ∀ c ∈ rest.head?, isNameChar c = false := by
  obtain ⟨c, hHead, -⟩ := h.starts
  obtain ⟨chars, hBare⟩ := List.head?_eq_some_iff.mp hHead
  obtain ⟨hBlank, hQuote, -⟩ := isNameChar_iff.mp (h.chars c (by simp [hBare]))
  rcases h.ends with rfl | ⟨rfl, hRest⟩
  · refine ⟨'\'' :: inclusion.behind, ?_, by simp [dropOne], fun d hd => ?_⟩
    · rw [List.cons_append, List.dropWhile_cons_of_neg (by decide)]
    · obtain rfl : '\'' = d := Option.some.inj hd
      decide
  · refine ⟨inclusion.behind, ?_, ?_, hRest⟩ <;> generalize inclusion.behind = behind
    · rw [hBare, List.cons_append, List.dropWhile_cons_of_neg (by simp [hBlank])]
    · rw [hBare, List.cons_append, dropOne, if_neg (by simp [hQuote])]

/-- The scan reads the marker at the tag. -/
theorem marker (h : Legible inclusion before bare) : ∃ rest, marker? tag = some (bare, rest) := by
  obtain ⟨rest, hName, hDrop, hRest⟩ := h.dropQuote
  refine ⟨rest, ?_⟩
  have hTilde : dropOne (· == '~') (inclusion.lead ++ '>' :: (inclusion.blanks ++
      (name ++ inclusion.behind))) = '>' :: (inclusion.blanks ++ (name ++ inclusion.behind)) := by
    rcases h.lead with hLead | hLead <;> simp [hLead, dropOne]
  have hBlanks : ∀ c ∈ inclusion.blanks, Text.isBlank c = true := fun c hc =>
    isBlank_of_isGap (inclusion.isBlanks c hc)
  rw [inclusion.spelled, marker?]
  simp only [hTilde]
  rw [List.dropWhile_append_of_pos hBlanks, hName, hDrop]
  exact name?_append h.starts h.chars hRest

end Legible

/-- A partial that a template includes by name and without a body is among the references of its
text, if the inclusion is legible wherever the text has it outside escapes. -/
theorem mem_references_of_inclusion {preventIndent : Bool} {text : String} {template : Template}
    (hParse : Template.parse preventIndent text = .ok template) {call : Call}
    (hCall : call ∈ plainInclusions template) {name : String}
    (hName : call.head.literalName? = some name) {bare : List Char}
    (hLegible : ∀ before tag (inclusion : Tag.Inclusion name.toList tag),
      text.toList = before ++ tag → Template.IncludesAt tag call → ¬ Escaped before →
        Legible inclusion before bare) :
    String.ofList bare ∈ references text := by
  obtain ⟨tag, ⟨before, hText, hPassed⟩, hRead, ⟨inclusion⟩⟩ :=
    Template.inclusion_of_parse hParse hCall hName
  have hBraces : BracesAhead tag := ⟨_, inclusion.spelled.symm⟩
  have hTag := hLegible before tag inclusion hText hRead fun hEscaped =>
    hEscaped.2 (hPassed.slashes hBraces hEscaped.1)
  obtain ⟨rest, hMarker⟩ := hTag.marker
  rw [references, mem_firstOccurrences, hText]
  refine List.mem_map_of_mem (mem_markerNames hMarker before false ?_ ?_)
  · intro ahead behind hSplit hBehind hAhead
    rcases hPassed.braces ahead behind hSplit hBehind hAhead.braces with hClosed | hEscape
    · exact .inl hClosed
    · refine (hTag.unshadowed ahead behind hSplit hBehind hEscape hAhead).symm.imp_right ?_
      exact slashBehind_eq_true.mpr
  · exact Bool.eq_false_iff.mpr fun hSlash => hTag.unescaped (slashBehind_eq_true.mp hSlash)

/-- Where a text that is nothing but an inclusion has it, it is legible. -/
theorem legible_alone {before tag : List Char} (inclusion : Tag.Inclusion ['a'] tag)
    (hText : ['{', '{', '>', ' ', 'a', '}', '}'] = before ++ tag) :
    Legible inclusion before ['a'] := by
  obtain ⟨lead, blanks, behind, hLead, hBlanks, rfl⟩ := inclusion
  have hBefore : before = [] := by
    match before with
    | [] => rfl
    | [c] => simp at hText
    | c :: d :: before =>
        have hBrace : '{' ∈ ['>', ' ', 'a', '}', '}'] := by
          rw [(List.cons_eq_cons.mp (List.cons_eq_cons.mp hText).2).2]
          exact List.mem_append_right before List.mem_cons_self
        exact absurd hBrace (by decide)
  subst hBefore
  simp only [List.nil_append, List.cons.injEq, true_and] at hText
  have hSign : lead = [] := by
    match lead with
    | [] => rfl
    | c :: lead =>
        obtain rfl := (List.cons_eq_cons.mp hText).1
        exact absurd (hLead '>' List.mem_cons_self) (by decide)
  subst hSign
  simp only [List.nil_append, List.cons.injEq, true_and] at hText
  have hBehind : behind = ['}', '}'] := by
    match blanks with
    | [] => simp at hText
    | [c] => exact (List.cons_eq_cons.mp (List.cons_eq_cons.mp hText).2).2.symm
    | c :: d :: blanks =>
        obtain rfl := (List.cons_eq_cons.mp (List.cons_eq_cons.mp hText).2).1
        exact absurd (hBlanks 'a' (List.mem_cons_of_mem c List.mem_cons_self)) (by decide)
  subst hBehind
  have hEnds : ∀ c ∈ ['}', '}'].head?, isNameChar c = false := by
    intro c hc
    obtain rfl := Option.some.inj hc
    decide
  have hChars : ∀ c ∈ ['a'], isNameChar c := by
    intro c hc
    obtain rfl := List.mem_singleton.mp hc
    decide
  exact {
    unescaped := nofun
    unshadowed := fun ahead behind hSplit hBehind =>
      absurd (List.append_eq_nil_iff.mp hSplit.symm).2 hBehind
    lead := .inl rfl
    starts := ⟨'a', rfl, by decide⟩
    chars := hChars
    ends := .inr ⟨rfl, hEnds⟩ }

theorem mem_references_alone :
    Template.parse false "\x7b\x7b> a\x7d\x7d" =
        .ok [.inclusion ⟨.name "a", [], [], []⟩ none "" true] ∧
      "a" ∈ references "\x7b\x7b> a\x7d\x7d" := by
  have hParse : Template.parse false "\x7b\x7b> a\x7d\x7d" =
      .ok [.inclusion ⟨.name "a", [], [], []⟩ none "" true] := by
    unfold Template.parse
    simp only [String.reduceToList]
    cbv
  refine ⟨hParse, ?_⟩
  change String.ofList ['a'] ∈ _
  refine mem_references_of_inclusion hParse List.mem_cons_self rfl ?_
  intro before tag inclusion hText _ _
  exact legible_alone inclusion hText

/-- Behind an escaped backslash a tag is one for the engine, but not for the scan. -/
theorem not_mem_references_behind_slashes :
    Template.parse false "\\\\\x7b\x7b> a\x7d\x7d" =
        .ok [.text "\\", .inclusion ⟨.name "a", [], [], []⟩ none "" false] ∧
      references "\\\\\x7b\x7b> a\x7d\x7d" = [] := by
  constructor
  · unfold Template.parse
    simp only [String.reduceToList]
    cbv
  · decide +kernel

end TemplateBundle.Discovery
