import TemplateBundle.Text.Char

/-! Which partials a template includes, found by scanning its text for inclusion markers. The scan
knows no template syntax: a marker is two braces, an optional tilde, a `>`, blanks, an optional
quote and a name. A marker after a backslash is text, and what begins like a subexpression or a
local variable names no file. -/
namespace TemplateBundle.Discovery

def isNameChar (c : Char) : Bool :=
  !(c == '\'' || c == '"' || c == '}' || c == '~' || Text.isBlank c)

/-- The characters that a name may begin with. -/
def isNameStart (c : Char) : Bool := isNameChar c && !(c == '(' || c == '@')

/-- Drops the character if the text begins with one of its class. -/
def dropOne (p : Char → Bool) : List Char → List Char
  | [] => []
  | c :: cs => if p c then cs else c :: cs

/-- The name that begins here, and the text after it. -/
def name? (s : List Char) : Option (List Char × List Char) :=
  match s with
  | [] => none
  | c :: cs =>
    if isNameStart c then some (c :: cs.takeWhile isNameChar, cs.dropWhile isNameChar) else none

/-- The name in the marker that the text begins with, and the text after the name. -/
def marker? (s : List Char) : Option (List Char × List Char) :=
  match s with
  | '{' :: '{' :: rest =>
    match dropOne (· == '~') rest with
    | '>' :: rest => name? (dropOne (fun c => c == '\'' || c == '"') (rest.dropWhile Text.isBlank))
    | _ => none
  | _ => none

theorem length_dropOne (p : Char → Bool) (s : List Char) : (dropOne p s).length ≤ s.length := by
  cases s with
  | nil => simp [dropOne]
  | cons c cs => simp only [dropOne]; split <;> simp

theorem length_dropWhile (p : Char → Bool) (s : List Char) :
    (s.dropWhile p).length ≤ s.length := (List.dropWhile_sublist p).length_le

theorem length_of_name? {s name rest : List Char} (h : name? s = some (name, rest)) :
    rest.length < s.length := by
  cases s with
  | nil => simp [name?] at h
  | cons c cs =>
    simp only [name?] at h
    split at h
    · have hRest := congrArg Prod.snd (Option.some.inj h)
      simp only at hRest
      subst hRest
      have := length_dropWhile isNameChar cs
      simp only [List.length_cons]
      omega
    · simp at h

/-- A marker is longer than nothing, so a scan that goes on behind it ends. -/
theorem length_of_marker? {s name rest : List Char} (h : marker? s = some (name, rest)) :
    rest.length < s.length := by
  unfold marker? at h
  split at h
  · next after =>
    split at h
    · next tail hTail =>
      have hName := length_of_name? h
      have hQuote := length_dropOne (fun c => c == '\'' || c == '"') (tail.dropWhile Text.isBlank)
      have hBlank := length_dropWhile Text.isBlank tail
      have hTilde := length_dropOne (· == '~') after
      rw [hTail] at hTilde
      simp only [List.length_cons] at hTilde ⊢
      omega
    · simp at h
  · simp at h

/-- The names in the markers of the text, from the left. A marker inside the name of an earlier one
is part of that name; `escaped` says that a backslash stands directly before the text. -/
def markerNames (escaped : Bool) (s : List Char) : List (List Char) :=
  match s with
  | [] => []
  | c :: cs =>
    match _h : if escaped then none else marker? (c :: cs) with
    | some (name, rest) => name :: markerNames false rest
    | none => markerNames (c == '\\') cs
termination_by s.length
decreasing_by
  · cases escaped with
    | true => simp at _h
    | false => exact length_of_marker? (by simpa using _h)
  · simp

/-- The elements of a list in the order of their first occurrences. -/
def firstOccurrences : List String → List String
  | [] => []
  | a :: rest => a :: (firstOccurrences rest).filter (· ≠ a)

theorem mem_firstOccurrences {name : String} {names : List String} :
    name ∈ firstOccurrences names ↔ name ∈ names := by
  induction names with
  | nil => rfl
  | cons a rest ih =>
      by_cases h : name = a
      · simp [firstOccurrences, h]
      · simp [firstOccurrences, h, ih]

/-- The names of the partials that a text includes, each once, in the order of first use. -/
def references (text : String) : List String :=
  firstOccurrences ((markerNames false text.toList).map String.ofList)

end TemplateBundle.Discovery
