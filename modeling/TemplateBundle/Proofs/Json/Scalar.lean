import TemplateBundle.Json.Printer
import TemplateBundle.Json.Reader

/-! How JSON texts spell strings and numbers, and that they are read as what they spell. A code unit may
be half of a pair; where such a half stands alone, the string spells no text. -/
namespace TemplateBundle.Json

theorem hexValue_hexDigit {n : Nat} (h : n < 16) : Text.hexValue? (Text.hexDigit n) = some n := by
  revert n
  decide

/-! Strings. -/

/-- The text begins with a code unit in four hexadecimal digits. -/
def SpellsUnit (s : List Char) (n : Nat) (rest : List Char) : Prop :=
  ∃ a b c d, s = '\\' :: 'u' :: a :: b :: c :: d :: rest ∧ Text.hexNumber? [a, b, c, d] = some n

/-- The text begins with the rest of a string behind its opening quote. It spells characters, or none at
all if half of a pair of code units stands alone in it. -/
inductive SpellsChars : List Char → Option (List Char) → List Char → Prop where
  | close {rest : List Char} : SpellsChars ('"' :: rest) (some []) rest
  | plain {c : Char} {s rest : List Char} {chars : Option (List Char)} (hQuote : c ≠ '"')
      (hSlash : c ≠ '\\') (hControl : 32 ≤ c.toNat) (hRest : SpellsChars s chars rest) :
      SpellsChars (c :: s) (chars.map (c :: ·)) rest
  | letter {e c : Char} {s rest : List Char} {chars : Option (List Char)}
      (hLetter : escapeValue? e = some c) (hRest : SpellsChars s chars rest) :
      SpellsChars ('\\' :: e :: s) (chars.map (c :: ·)) rest
  | unit {s t rest : List Char} {n : Nat} {chars : Option (List Char)} (hUnit : SpellsUnit s n t)
      (hHigh : isHighSurrogate n = false) (hLow : isLowSurrogate n = false)
      (hRest : SpellsChars t chars rest) : SpellsChars s (chars.map (Char.ofNat n :: ·)) rest
  | pair {s t u rest : List Char} {n m : Nat} {chars : Option (List Char)}
      (hUnit : SpellsUnit s n t) (hSecond : SpellsUnit t m u) (hHigh : isHighSurrogate n = true)
      (hLow : isLowSurrogate m = true) (hRest : SpellsChars u chars rest) :
      SpellsChars s (chars.map (pairedChar n m :: ·)) rest
  | alone {s t rest : List Char} {n : Nat} {chars : Option (List Char)} (hUnit : SpellsUnit s n t)
      (hHalf : isLowSurrogate n = true ∨ isHighSurrogate n = true ∧
        ∀ m u, SpellsUnit t m u → isLowSurrogate m = false)
      (hRest : SpellsChars t chars rest) : SpellsChars s none rest

theorem scanHex_unit {a b c d : Char} {n : Nat} (h : Text.hexNumber? [a, b, c, d] = some n)
    (rest : List Char) : scanHex (a :: b :: c :: d :: rest) = .ok (n, rest) := by
  simp only [Text.hexNumber?, List.foldl_cons, List.foldl_nil, bind, Option.bind_eq_some_iff,
    Option.some.injEq, pure] at h
  obtain ⟨_, ⟨_, ⟨_, ⟨_, rfl, w, hA, rfl⟩, x, hB, rfl⟩, y, hC, rfl⟩, z, hD, rfl⟩ := h
  simp only [scanHex, hA, hB, hC, hD, Nat.zero_mul, Nat.zero_add]

theorem SpellsUnit.length_eq {s rest : List Char} {n : Nat} (h : SpellsUnit s n rest) :
    s.length = rest.length + 6 := by
  obtain ⟨a, b, c, d, rfl, -⟩ := h
  rfl

theorem SpellsChars.length_lt {s rest : List Char} {chars : Option (List Char)}
    (h : SpellsChars s chars rest) : rest.length < s.length := by
  induction h with
  | close => exact Nat.lt_succ_self _
  | plain _ _ _ _ ih => exact Nat.lt_succ_of_lt ih
  | letter _ _ ih => exact Nat.lt_succ_of_lt (Nat.lt_succ_of_lt ih)
  | unit hUnit _ _ _ ih => rw [hUnit.length_eq]; omega
  | pair hUnit hSecond _ _ _ ih => rw [hUnit.length_eq, hSecond.length_eq]; omega
  | alone hUnit _ _ ih => rw [hUnit.length_eq]; omega

/-- What a string spells, from the characters before and those behind. -/
def joined (spelled : Spelled) (chars : Option (List Char)) : Option String :=
  spelled.bind fun front => chars.map fun cs => String.ofList (front.reverse ++ cs)

theorem joined_none (spelled : Spelled) : joined spelled none = none := by
  cases spelled with
  | none => rfl
  | some front => rfl

theorem joined_cons (c : Char) (spelled : Spelled) (chars : Option (List Char)) :
    joined (spelled.map (c :: ·)) chars = joined spelled (chars.map (c :: ·)) := by
  cases spelled with
  | none => rfl
  | some front =>
      cases chars with
      | none => rfl
      | some cs => simp only [joined, Option.map_some, Option.bind_some, List.reverse_cons,
          List.append_assoc, List.singleton_append]

theorem scanString_unit {s t : List Char} {n : Nat} (hUnit : SpellsUnit s n t)
    (hHigh : isHighSurrogate n = false) (hLow : isLowSurrogate n = false) (spelled : Spelled)
    (fuel : Nat) :
    scanString (fuel + 1) spelled s = scanString fuel (spelled.map (Char.ofNat n :: ·)) t := by
  obtain ⟨a, b, c, d, rfl, hNumber⟩ := hUnit
  simp [scanString, scanHex_unit hNumber, hHigh, hLow]

theorem scanString_pair {s t u : List Char} {n m : Nat} (hUnit : SpellsUnit s n t)
    (hSecond : SpellsUnit t m u) (hHigh : isHighSurrogate n = true)
    (hLow : isLowSurrogate m = true) (spelled : Spelled) (fuel : Nat) :
    scanString (fuel + 1) spelled s = scanString fuel (spelled.map (pairedChar n m :: ·)) u := by
  obtain ⟨a, b, c, d, rfl, hNumber⟩ := hUnit
  obtain ⟨a', b', c', d', rfl, hNumber'⟩ := hSecond
  have hNotLow : isLowSurrogate n = false := by
    simp only [isHighSurrogate, isLowSurrogate, Bool.and_eq_true, Bool.and_eq_false_iff,
      decide_eq_true_eq, decide_eq_false_iff_not] at hHigh ⊢
    omega
  simp [scanString, scanHex_unit hNumber, scanHex_unit hNumber', hHigh, hLow, hNotLow]

/-- A string does not end in the middle of an escape. -/
theorem SpellsChars.unit_of_escape {s rest : List Char} {chars : Option (List Char)}
    (h : SpellsChars s chars rest) :
    s ≠ [] ∧ s ≠ ['\\'] ∧ ∀ t, s = '\\' :: 'u' :: t → ∃ n u, SpellsUnit s n u := by
  cases h with
  | close => exact ⟨nofun, nofun, nofun⟩
  | plain hQuote hSlash hControl hRest =>
      exact ⟨nofun, fun h => hSlash (List.cons.inj h).1, fun t h => absurd (List.cons.inj h).1 hSlash⟩
  | letter hLetter hRest =>
      refine ⟨nofun, nofun, fun t h => ?_⟩
      cases h
      cases hLetter
  | unit hUnit | pair hUnit | alone hUnit =>
      refine ⟨?_, ?_, fun t _ => ⟨_, _, hUnit⟩⟩
      · rintro rfl
        exact absurd hUnit.length_eq (by simp)
      · rintro rfl
        exact absurd hUnit.length_eq (by simp)

/-- Half of a pair that stands alone leaves the string without a text. -/
theorem scanString_alone {s t rest : List Char} {n : Nat} {chars : Option (List Char)}
    (hUnit : SpellsUnit s n t)
    (hHalf : isLowSurrogate n = true ∨ isHighSurrogate n = true ∧
      ∀ m u, SpellsUnit t m u → isLowSurrogate m = false)
    (hRest : SpellsChars t chars rest) (spelled : Spelled) (fuel : Nat) :
    scanString (fuel + 1) spelled s = scanString fuel none t := by
  obtain ⟨a, b, c, d, rfl, hNumber⟩ := hUnit
  by_cases hLow : isLowSurrogate n = true
  · simp [scanString, scanHex_unit hNumber, hLow]
  obtain ⟨hHigh, hNext⟩ := hHalf.resolve_left hLow
  obtain ⟨hNonempty, hSlash, hEscape⟩ := hRest.unit_of_escape
  simp only [scanString, scanHex_unit hNumber, hHigh, hLow, if_true, Bool.false_eq_true, if_false]
  rw [if_neg (by decide)]
  split
  · exact absurd rfl hNonempty
  · exact absurd rfl hSlash
  · next second =>
    obtain ⟨m, u, hSecond⟩ := hEscape second rfl
    have hAlone := hNext m u hSecond
    obtain ⟨a', b', c', d', hText, hNumber'⟩ := hSecond
    cases hText
    rw [scanHex_unit hNumber']
    simp only [hAlone, Bool.false_eq_true, if_false]
  · rfl

/-- A string is read as what it spells, to its closing quote. -/
theorem SpellsChars.scanString_eq {s rest : List Char} {chars : Option (List Char)}
    (h : SpellsChars s chars rest) (spelled : Spelled) (fuel : Nat)
    (hFuel : s.length ≤ fuel + rest.length) :
    scanString fuel spelled s = .ok (joined spelled chars, rest) := by
  have hLength := h.length_lt
  obtain ⟨fuel, rfl⟩ : ∃ n, fuel = n + 1 := ⟨fuel - 1, by omega⟩
  cases h with
  | close =>
      cases spelled with
      | none => rfl
      | some front => simp [scanString, joined]
  | @plain c t _ chars hQuote hSlash hControl hRest =>
      have hRead := hRest.scanString_eq (spelled.map (c :: ·)) fuel
        (by rw [List.length_cons] at hFuel; omega)
      rw [← joined_cons, ← hRead]
      simp [scanString, hQuote, hSlash, Nat.not_lt.mpr hControl]
  | @letter e c t _ chars hLetter hRest =>
      have hRead := hRest.scanString_eq (spelled.map (c :: ·)) fuel
        (by simp only [List.length_cons] at hFuel; omega)
      have hUnicode : e ≠ 'u' := by
        rintro rfl
        cases hLetter
      rw [← joined_cons, ← hRead]
      simp [scanString, hLetter]
  | unit hUnit hHigh hLow hRest =>
      rw [hUnit.length_eq] at hFuel
      rw [scanString_unit hUnit hHigh hLow, ← joined_cons]
      exact hRest.scanString_eq _ fuel (by omega)
  | pair hUnit hSecond hHigh hLow hRest =>
      rw [hUnit.length_eq, hSecond.length_eq] at hFuel
      rw [scanString_pair hUnit hSecond hHigh hLow, ← joined_cons]
      exact hRest.scanString_eq _ fuel (by omega)
  | alone hUnit hHalf hRest =>
      rw [hUnit.length_eq] at hFuel
      rw [scanString_alone hUnit hHalf hRest, joined_none]
      exact hRest.scanString_eq none fuel (by omega)

/-- A control character in its four digits. -/
theorem spellsUnit_control {n : Nat} (h : n < 32) (rest : List Char) :
    SpellsUnit ('\\' :: 'u' :: '0' :: '0' :: Text.hexDigit (n / 16) :: Text.hexDigit (n % 16) :: rest)
      n rest := by
  have hHigh : Text.hexValue? (Text.hexDigit (n / 16)) = some (n / 16) :=
    hexValue_hexDigit (by omega)
  have hLow : Text.hexValue? (Text.hexDigit (n % 16)) = some (n % 16) :=
    hexValue_hexDigit (by omega)
  have hZero : Text.hexValue? '0' = some 0 := by decide
  have hCode : n / 16 * 16 + n % 16 = n := by omega
  refine ⟨_, _, _, _, rfl, ?_⟩
  simp [Text.hexNumber?, hZero, hHigh, hLow, hCode]

/-- Whatever is written for a character spells it. -/
theorem SpellsChars.escaped {s rest : List Char} {cs : List Char} (c : Char)
    (h : SpellsChars s (some cs) rest) : SpellsChars (escapedChar c ++ s) (some (c :: cs)) rest := by
  have hLetter {e d : Char} (hEscape : escapeValue? e = some d) := SpellsChars.letter hEscape h
  unfold escapedChar
  split
  · next hChar => rw [hChar]; exact hLetter rfl
  split
  · next hChar => rw [hChar]; exact hLetter rfl
  split
  · next hChar => rw [hChar]; exact hLetter rfl
  split
  · next hChar => rw [hChar]; exact hLetter rfl
  split
  · next hChar => rw [hChar]; exact hLetter rfl
  split
  · next hChar => rw [hChar]; exact hLetter rfl
  split
  · next hChar => rw [hChar]; exact hLetter rfl
  split
  · next hControl =>
    have hHigh : isHighSurrogate c.toNat = false := by
      simp only [isHighSurrogate, Bool.and_eq_false_iff, decide_eq_false_iff_not]
      omega
    have hLow : isLowSurrogate c.toNat = false := by
      simp only [isLowSurrogate, Bool.and_eq_false_iff, decide_eq_false_iff_not]
      omega
    have hUnit := SpellsChars.unit (spellsUnit_control hControl s) hHigh hLow h
    rwa [Option.map_some, Char.ofNat_toNat] at hUnit
  · next hQuote hSlash _ _ _ _ _ hControl =>
    exact (SpellsChars.plain hQuote hSlash (Nat.not_lt.mp hControl) h :)

theorem spellsChars_flatMap (cs rest : List Char) :
    SpellsChars (cs.flatMap escapedChar ++ '"' :: rest) (some cs) rest := by
  induction cs with
  | nil => exact .close
  | cons c cs ih =>
      rw [List.flatMap_cons, List.append_assoc]
      exact ih.escaped c

/-! Numbers. -/

/-- The text does not go on with a character that a number could go on with. -/
def EndsNumber (s : List Char) : Prop :=
  ∀ c ∈ s.head?, Text.isDigit c = false ∧ c ≠ '.' ∧ c ≠ 'e' ∧ c ≠ 'E'

def IsDigits (ds : List Char) : Prop := ds ≠ [] ∧ ∀ d ∈ ds, Text.isDigit d = true

/-- The digits of a whole number: a zero stands in front of no others. -/
def IsWhole (ds : List Char) : Prop := IsDigits ds ∧ ∀ d rest, ds ≠ '0' :: d :: rest

def signChars (negative : Bool) : List Char := if negative then ['-'] else []

/-- The text begins with an exponent, or with none. -/
inductive SpellsExponent : List Char → Option (Bool × List Char) → List Char → Prop where
  | none {rest : List Char} : SpellsExponent rest none rest
  | plain {mark : Char} {ds rest : List Char} (hMark : mark = 'e' ∨ mark = 'E')
      (hDigits : IsDigits ds) : SpellsExponent (mark :: (ds ++ rest)) (some (false, ds)) rest
  | plus {mark : Char} {ds rest : List Char} (hMark : mark = 'e' ∨ mark = 'E')
      (hDigits : IsDigits ds) : SpellsExponent (mark :: '+' :: (ds ++ rest)) (some (false, ds)) rest
  | minus {mark : Char} {ds rest : List Char} (hMark : mark = 'e' ∨ mark = 'E')
      (hDigits : IsDigits ds) : SpellsExponent (mark :: '-' :: (ds ++ rest)) (some (true, ds)) rest

/-- The text begins with a numeral without its sign, and does not go on with it. -/
inductive SpellsNumeral (negative : Bool) : List Char → Numeral → List Char → Prop where
  | whole {ds tail rest : List Char} {exponent? : Option (Bool × List Char)} (hWhole : IsWhole ds)
      (hExponent : SpellsExponent tail exponent? rest) (hEnd : EndsNumber rest) :
      SpellsNumeral negative (ds ++ tail) ⟨negative, ds, [], exponent?⟩ rest
  | fraction {ds fs tail rest : List Char} {exponent? : Option (Bool × List Char)}
      (hWhole : IsWhole ds) (hFraction : IsDigits fs)
      (hExponent : SpellsExponent tail exponent? rest) (hEnd : EndsNumber rest) :
      SpellsNumeral negative (ds ++ '.' :: (fs ++ tail)) ⟨negative, ds, fs, exponent?⟩ rest

section Digits

variable {ds rest : List Char}

theorem IsDigits.takeWhile_eq (h : IsDigits ds) (hEnd : ∀ c ∈ rest.head?, Text.isDigit c = false) :
    (ds ++ rest).takeWhile Text.isDigit = ds ∧ (ds ++ rest).dropWhile Text.isDigit = rest :=
  Text.takeWhile_run h.2 hEnd

/-- Digits begin with none of the signs of an exponent. -/
theorem IsDigits.head_ne (h : IsDigits ds) {c : Char} (hSign : Text.isDigit c = false)
    (t : List Char) : ds ++ rest ≠ c :: t := by
  obtain ⟨d, ds, rfl⟩ := List.exists_cons_of_ne_nil h.1
  rintro hText
  cases hText
  exact absurd (h.2 c (.head _)) (by simp [hSign])

end Digits

theorem SpellsExponent.scanExponent_eq {s rest : List Char} {exponent? : Option (Bool × List Char)}
    (h : SpellsExponent s exponent? rest) (hEnd : EndsNumber rest) :
    scanExponent s = .ok (exponent?, rest) := by
  have hDigits {ds : List Char} (hRun : IsDigits ds) :=
    hRun.takeWhile_eq fun c hMem => (hEnd c hMem).1
  cases h with
  | none =>
      cases s with
      | nil => rfl
      | cons c cs =>
          obtain ⟨-, -, hSmall, hLarge⟩ := hEnd c rfl
          simp [scanExponent, hSmall, hLarge]
  | plain hMark hRun =>
      simp only [scanExponent, if_pos hMark]
      split
      · next hText => exact absurd hText (hRun.head_ne rfl _)
      · next hText => exact absurd hText (hRun.head_ne rfl _)
      · simp [hDigits hRun, hRun.1]
  | plus hMark hRun => simp [scanExponent, hMark, hDigits hRun, hRun.1]
  | minus hMark hRun => simp [scanExponent, hMark, hDigits hRun, hRun.1]

/-- The digits in front of an exponent end there. -/
theorem SpellsExponent.head_ne {s rest : List Char} {exponent? : Option (Bool × List Char)}
    (h : SpellsExponent s exponent? rest) (hEnd : EndsNumber rest) :
    ∀ c ∈ s.head?, Text.isDigit c = false ∧ c ≠ '.' := by
  have hMarks {mark : Char} (hMark : mark = 'e' ∨ mark = 'E') (t : List Char) :
      ∀ c ∈ (mark :: t).head?, Text.isDigit c = false ∧ c ≠ '.' := by
    rintro c ⟨⟩
    rcases hMark with rfl | rfl
    · decide
    · decide
  cases h with
  | none => exact fun c hMem => ⟨(hEnd c hMem).1, (hEnd c hMem).2.1⟩
  | plain hMark _ => exact hMarks hMark _
  | plus hMark _ => exact hMarks hMark _
  | minus hMark _ => exact hMarks hMark _

/-- A numeral is read as it is spelled. -/
theorem SpellsNumeral.scanNumeral_eq {negative : Bool} {s rest : List Char} {numeral : Numeral}
    (h : SpellsNumeral negative s numeral rest) : scanNumeral negative s = .ok (numeral, rest) := by
  cases h with
  | whole hWhole hExponent hEnd =>
      have hHead := hExponent.head_ne hEnd
      obtain ⟨hTake, hDrop⟩ := hWhole.1.takeWhile_eq fun c hMem => (hHead c hMem).1
      simp only [scanNumeral, hTake, hDrop]
      split
      · exact absurd rfl hWhole.1.1
      · exact absurd rfl (hWhole.2 _ _)
      split
      · exact absurd rfl (hHead '.' rfl).2
      · simp [hExponent.scanExponent_eq hEnd, Except.bind, bind]
  | @fraction ds fs tail _ _ hWhole hFraction hExponent hEnd =>
      have hHead := hExponent.head_ne hEnd
      have hPoint : ∀ c ∈ ('.' :: (fs ++ tail)).head?, Text.isDigit c = false := by
        rintro c ⟨⟩
        rfl
      obtain ⟨hTake, hDrop⟩ := hWhole.1.takeWhile_eq hPoint
      obtain ⟨hTakeMore, hDropMore⟩ := hFraction.takeWhile_eq fun c hMem => (hHead c hMem).1
      simp only [scanNumeral, hTake, hDrop]
      split
      · exact absurd rfl hWhole.1.1
      · exact absurd rfl (hWhole.2 _ _)
      simp [hTakeMore, hDropMore, hFraction.1, hExponent.scanExponent_eq hEnd, Except.bind, bind]

theorem SpellsExponent.length_le {s rest : List Char} {exponent? : Option (Bool × List Char)}
    (h : SpellsExponent s exponent? rest) : rest.length ≤ s.length := by
  cases h with
  | none => exact Nat.le_refl _
  | plain | plus | minus => simp only [List.length_cons, List.length_append]; omega

theorem SpellsNumeral.length_lt {negative : Bool} {s rest : List Char} {numeral : Numeral}
    (h : SpellsNumeral negative s numeral rest) : rest.length < s.length := by
  cases h with
  | whole hWhole hExponent hEnd =>
      have := List.length_pos_iff.mpr hWhole.1.1
      have := hExponent.length_le
      rw [List.length_append]
      omega
  | fraction hWhole hFraction hExponent hEnd =>
      have := hExponent.length_le
      simp only [List.length_append, List.length_cons]
      omega

/-- A numeral begins with a digit. -/
theorem SpellsNumeral.exists_digit {negative : Bool} {s rest : List Char} {numeral : Numeral}
    (h : SpellsNumeral negative s numeral rest) : ∃ d t, s = d :: t ∧ Text.isDigit d = true := by
  have hWhole {ds : List Char} (hDigits : IsDigits ds) (t : List Char) :
      ∃ d u, ds ++ t = d :: u ∧ Text.isDigit d = true := by
    obtain ⟨d, ds, rfl⟩ := List.exists_cons_of_ne_nil hDigits.1
    exact ⟨d, ds ++ t, rfl, hDigits.2 d (.head _)⟩
  cases h with
  | whole hDigits _ _ => exact hWhole hDigits.1 _
  | fraction hDigits _ _ _ => exact hWhole hDigits.1 _

theorem isWhole_natural (n : Nat) : IsWhole (toString n).toList := by
  refine ⟨⟨Text.toList_toString_ne_nil n, fun d hMem => Text.isDigit_of_mem_toString hMem⟩, ?_⟩
  intro d ds h
  rcases Nat.eq_zero_or_pos n with rfl | hPos
  · simp at h
  · exact Text.head_toString hPos (by rw [h]; rfl)

theorem number?_natural {n : Nat} (hSize : n ≤ maxUnsigned) :
    Numeral.number? ⟨false, (toString n).toList, [], none⟩ = some (.int n) := by
  simp only [Numeral.number?, Text.digitsValue_toString, if_pos hSize]
  rfl

end TemplateBundle.Json
