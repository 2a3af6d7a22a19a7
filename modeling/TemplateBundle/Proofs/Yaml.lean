import TemplateBundle.Yaml.Value

/-! YAML texts with nothing in them. Main statement: lines of blanks and comments stand for null. -/
namespace TemplateBundle.Yaml

/-- Whether a text has nothing in it but line ends, spaces and comments. `comment` tells whether it
goes on with a comment. -/
def isVacant (comment : Bool) : List Char → Bool
  | [] => true
  | c :: rest =>
    if isBreak c then isVacant false rest
    else if comment || c == '#' then isVacant true rest
    else c == ' ' && isVacant false rest

/-- A text that holds no document: what may open it is followed by blank lines and comments. -/
def Vacant (text : String) : Prop :=
  ∃ chars, characters? text = some chars ∧ isVacant false chars = true

namespace Cursor

theorem rest_step (c : Cursor) : c.step.rest = c.rest.tail := by
  cases hRest : c.rest with
  | nil => simp [step, hRest]
  | cons char rest =>
      simp only [step, hRest, List.tail_cons]
      split
      · rfl
      · rfl

theorem rest_skip (n : Nat) (c : Cursor) : (c.skip n).rest = c.rest.drop n := by
  induction n generalizing c with
  | zero => rfl
  | succ n ih => rw [skip, ih, rest_step, List.drop_tail]

theorem rest_skipWhile (p : Char → Bool) (c : Cursor) :
    (c.skipWhile p).rest = c.rest.dropWhile p := by
  have hSplit := List.takeWhile_append_dropWhile (p := p) (l := c.rest)
  calc (c.skipWhile p).rest
      = c.rest.drop (c.rest.takeWhile p).length := rest_skip _ c
    _ = (c.rest.takeWhile p ++ c.rest.dropWhile p).drop (c.rest.takeWhile p).length := by
        rw [hSplit]
    _ = c.rest.dropWhile p := List.drop_left

end Cursor

/-- A vacant text goes on with a comment or ends its line once its spaces are passed. -/
theorem isVacant_dropSpaces {s : List Char} (h : isVacant false s = true) :
    isVacant false (s.dropWhile (· == ' ')) = true ∧
      ∀ c ∈ (s.dropWhile (· == ' ')).head?, isBreak c = true ∨ c = '#' := by
  induction s with
  | nil => simp [isVacant]
  | cons c rest ih =>
      by_cases hSpace : c = ' '
      · subst hSpace
        have hRest : isVacant false rest = true := by
          rw [isVacant] at h
          simpa [isBreak] using h
        simpa using ih hRest
      · rw [List.dropWhile_cons_of_neg (by simpa using hSpace)]
        refine ⟨h, ?_⟩
        intro first hFirst
        obtain rfl : c = first := Option.some.inj hFirst
        rw [isVacant] at h
        by_cases hBreak : isBreak c = true
        · exact .inl hBreak
        · by_cases hComment : c = '#'
          · exact .inr hComment
          · simp [hBreak, hComment, hSpace] at h

/-- A vacant text that goes on with a comment does so to the end of a line. -/
theorem isVacant_dropComment {s : List Char} (h : isVacant true s = true) :
    isVacant false (s.dropWhile (!isBreak ·)) = true ∧
      ∀ c ∈ (s.dropWhile (!isBreak ·)).head?, isBreak c = true := by
  induction s with
  | nil => simp [isVacant]
  | cons c rest ih =>
      by_cases hBreak : isBreak c = true
      · rw [List.dropWhile_cons_of_neg (by simp [hBreak])]
        refine ⟨?_, by simp [hBreak]⟩
        rw [isVacant] at h ⊢
        simpa [hBreak] using h
      · have hRest : isVacant true rest = true := by
          rw [isVacant] at h
          simpa [hBreak] using h
        rw [List.dropWhile_cons_of_pos (by simp [hBreak])]
        exact ih hRest

/-- What is left of a line, and of what follows it, once spaces and a comment are passed. -/
def afterComment (s : List Char) : List Char :=
  let comment := s.dropWhile (· == ' ')
  if Text.startsWith ['#'] comment then comment.dropWhile (!isBreak ·) else comment

theorem length_afterComment (s : List Char) : (afterComment s).length ≤ s.length := by
  have hSpaces := (List.dropWhile_sublist (l := s) (· == ' ')).length_le
  have hComment := (List.dropWhile_sublist (l := s.dropWhile (· == ' ')) (!isBreak ·)).length_le
  unfold afterComment
  dsimp only
  split
  · omega
  · exact hSpaces

/-- In a vacant text nothing is left of the line. -/
theorem isVacant_afterComment {s : List Char} (h : isVacant false s = true) :
    isVacant false (afterComment s) = true ∧
      ∀ c ∈ (afterComment s).head?, isBreak c = true := by
  obtain ⟨hVacant, hHead⟩ := isVacant_dropSpaces h
  unfold afterComment
  generalize s.dropWhile (· == ' ') = comment at hVacant hHead ⊢
  cases comment with
  | nil => exact ⟨rfl, nofun⟩
  | cons c rest =>
      by_cases hComment : c = '#'
      · subst hComment
        have hInside : isVacant true ('#' :: rest) = true := by
          rw [isVacant] at hVacant ⊢
          simpa [isBreak] using hVacant
        simpa [Text.startsWith, Text.stripStart?] using isVacant_dropComment hInside
      · have hOther : '#' ≠ c := fun hSame => hComment hSame.symm
        have hSees : Text.startsWith ['#'] (c :: rest) = false := by
          simp [Text.startsWith, Text.stripStart?, hOther]
        simp only [hSees, Bool.false_eq_true, if_false]
        exact ⟨hVacant, fun first hFirst => (hHead first hFirst).resolve_right fun hSame =>
          hComment ((Option.some.inj hFirst).trans hSame)⟩

namespace Lexer

/-- All of a vacant text is skipped before the first token. -/
theorem skipSpace_vacant {fuel : Nat} {l : Lexer} (hBlock : l.flow = 0)
    (hKey : l.keyAllowed = true) (hFuel : l.cursor.rest.length < fuel)
    (h : isVacant false l.cursor.rest = true) :
    ∃ c, c.rest = [] ∧ l.skipSpace fuel = { l with cursor := c } := by
  induction fuel generalizing l with
  | zero => omega
  | succ fuel ih =>
      let gap := l.cursor.skipWhile (· == ' ')
      let line := if gap.sees ['#'] then gap.skipWhile (!isBreak ·) else gap
      have hSkip : l.skipSpace (fuel + 1) =
          if line.rest.head?.any isBreak then skipSpace fuel { l with cursor := line.step }
          else { l with cursor := line } := by
        simp [skipSpace, inBlock, hBlock, hKey, gap, line]
      have hLine : line.rest = afterComment l.cursor.rest := by
        simp only [line, gap, Cursor.sees, afterComment, Cursor.rest_skipWhile]
        split
        · rw [Cursor.rest_skipWhile, Cursor.rest_skipWhile]
        · rw [Cursor.rest_skipWhile]
      obtain ⟨hAfter, hEnds⟩ := isVacant_afterComment h
      have hLength := length_afterComment l.cursor.rest
      rw [← hLine] at hAfter hEnds hLength
      rw [hSkip]
      cases hRest : line.rest with
      | nil => exact ⟨line, hRest, by simp⟩
      | cons c rest =>
          rw [hRest] at hAfter hEnds hLength
          have hBreak : isBreak c = true := hEnds c rfl
          have hNext : line.step.rest = rest := by rw [Cursor.rest_step, hRest, List.tail_cons]
          have hVacant : isVacant false line.step.rest = true := by
            rw [isVacant, if_pos hBreak] at hAfter
            rw [hNext]
            exact hAfter
          have hShort : line.step.rest.length < fuel := by
            rw [hNext]
            rw [List.length_cons] at hLength
            omega
          simp only [List.head?_cons, Option.any_some, hBreak, if_true]
          exact ih hBlock hKey hShort hVacant

/-- A vacant text has no token but its end. -/
theorem run_vacant {chars : List Char} (h : isVacant false chars = true) :
    run (chars.length + 1) { cursor := .start chars } = some [.textEnd] := by
  obtain ⟨c, hRest, hSkip⟩ := skipSpace_vacant (l := { cursor := .start chars }) rfl rfl
    (Nat.lt_succ_self chars.length) h
  have hSkipped : skipSpace (chars.length + 1) { cursor := .start chars } = { cursor := c } := hSkip
  have hOpen : ¬ (c.column : Int) < -1 := by omega
  have hStart : (Cursor.start chars).rest = chars := rfl
  simp [run, hStart, hSkipped, dropStale, closeBlocks, inBlock, hOpen, hRest, endBlocks, dropKey,
    allowKey, push, bind, Option.bind]

end Lexer

/-- A text with nothing in it stands for null. -/
theorem ofText?_vacant {text : String} (h : Vacant text) : ofText? text = some .null := by
  obtain ⟨chars, hChars, hVacant⟩ := h
  have hTokens : Token.ofText? text = some [.textEnd] := by
    rw [Token.ofText?, hChars]
    exact Lexer.run_vacant hVacant
  have hNode : Node.ofText? text = some .empty := by
    rw [Node.ofText?, hTokens]
    rfl
  rw [ofText?, hNode]
  rfl

example : Vacant "# nothing yet\n\n  # later\n" := ⟨_, rfl, by decide⟩

end TemplateBundle.Yaml
