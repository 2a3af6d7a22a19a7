import TemplateBundle.Text.Char

/-! Reading a text from its front. A scanner takes something and leaves the rest, or fails and takes
nothing. -/
namespace TemplateBundle.Text

/-- Takes something from the front of a text, or fails. -/
abbrev Scanner := StateT (List Char) Option

namespace Scanner

def word (w : List Char) : Scanner Unit := fun s => (stripStart? w s).map ((), ·)

/-- Takes blanks, if there are any. -/
def gap : Scanner Unit := fun s => some ((), s.dropWhile isGap)

def token (w : List Char) : Scanner Unit := do gap; word w

/-- Takes as many characters of a class as there are. -/
def run (p : Char → Bool) : Scanner (List Char) := fun s => some (s.takeWhile p, s.dropWhile p)

/-- Takes as many characters of a class as there are, at least one. -/
def run1 (p : Char → Bool) : Scanner (List Char) := fun s =>
  if (s.takeWhile p).isEmpty then none else some (s.takeWhile p, s.dropWhile p)

/-- Takes as many characters as `length` says, at least one. -/
def takeSome (length : List Char → Nat) : Scanner (List Char) := fun s =>
  if length s = 0 then none else some (s.take (length s), s.drop (length s))

/-- Fails if a character of the class comes next. -/
def notAhead (p : Char → Bool) : Scanner Unit := fun s =>
  match s with
  | [] => some ((), [])
  | c :: cs => if p c then none else some ((), c :: cs)

/-- What `x` takes, as the text it was written as. -/
def written (x : Scanner Unit) : Scanner (List Char) := fun s =>
  match x s with
  | none => none
  | some ((), rest) => some (s.take (s.length - rest.length), rest)

def optionally {α : Type} (x : Scanner α) : Scanner (Option α) := fun s =>
  match x s with
  | none => some (none, s)
  | some (a, rest) => some (some a, rest)

/-- The first of two that fits. -/
def either {α : Type} (x y : Scanner α) : Scanner α := fun s =>
  match x s with
  | none => y s
  | some r => some r

/-- Whether `x` fits here; nothing is taken. -/
def fits {α : Type} (x : Scanner α) (s : List Char) : Bool := (x s).isSome

/-- Takes `x` as often as it fits, with blanks before each. `fuel` bounds the count. -/
def many {α : Type} (x : Scanner α) : Nat → Scanner (List α)
  | 0 => fun s => some ([], s)
  | fuel + 1 => fun s =>
    match x (s.dropWhile isGap) with
    | none => some ([], s)
    | some (a, rest) =>
      match many x fuel rest with
      | none => some ([a], rest)
      | some (as, rest) => some (a :: as, rest)

end Scanner

end TemplateBundle.Text
