import Mathlib.Data.List.DropRight
import TemplateBundle.Proofs.Json.Scalar

/-! How JSON texts spell documents, with blanks wherever they may stand, and that a text is read as
the document it spells. Nothing that is broken is spelled. -/
namespace TemplateBundle.Json

/-- After blanks the text begins with a string. -/
def SpellsString (s : List Char) (text? : Option String) (rest : List Char) : Prop :=
  ∃ t chars, skipGap s = '"' :: t ∧ SpellsChars t chars rest ∧ text? = chars.map String.ofList

inductive SpellsWord : List Char → Document → Prop where
  | null : SpellsWord ['n', 'u', 'l', 'l'] .null
  | true : SpellsWord ['t', 'r', 'u', 'e'] (.bool true)
  | false : SpellsWord ['f', 'a', 'l', 's', 'e'] (.bool false)

mutual
/-- The text begins with blanks and the document, and goes on with `rest`. -/
inductive Spells : List Char → Document → List Char → Prop where
  | word {s letters rest : List Char} {doc : Document} (hWord : SpellsWord letters doc)
      (hText : skipGap s = letters ++ rest) : Spells s doc rest
  | string {s rest : List Char} {text? : Option String} (hText : SpellsString s text? rest) :
      Spells s (.string text?) rest
  | number {s t rest : List Char} {negative : Bool} {numeral : Numeral}
      (hText : skipGap s = signChars negative ++ t) (hNumeral : SpellsNumeral negative t numeral rest) :
      Spells s (.number numeral.number?) rest
  | emptyArray {s t rest : List Char} (hOpen : skipGap s = '[' :: t)
      (hClose : skipGap t = ']' :: rest) : Spells s (.array [] none) rest
  | array {s t rest : List Char} {items : List Document} (hOpen : skipGap s = '[' :: t)
      (hItems : SpellsItems t items rest) : Spells s (.array items none) rest
  | emptyObject {s t rest : List Char} (hOpen : skipGap s = '{' :: t)
      (hClose : skipGap t = '}' :: rest) : Spells s (.object [] none) rest
  | object {s t rest : List Char} {members : List (Option String × Document)}
      (hOpen : skipGap s = '{' :: t) (hMembers : SpellsMembers t members rest) :
      Spells s (.object members none) rest

/-- The text begins with the elements of an array and its end. -/
inductive SpellsItems : List Char → List Document → List Char → Prop where
  | last {s t rest : List Char} {item : Document} (hItem : Spells s item t)
      (hClose : skipGap t = ']' :: rest) : SpellsItems s [item] rest
  | more {s t u rest : List Char} {item : Document} {items : List Document}
      (hItem : Spells s item t) (hComma : skipGap t = ',' :: u)
      (hItems : SpellsItems u items rest) : SpellsItems s (item :: items) rest

/-- The text begins with the members of an object and its end. -/
inductive SpellsMembers : List Char → List (Option String × Document) → List Char → Prop where
  | last {s t u v rest : List Char} {key : Option String} {item : Document}
      (hKey : SpellsString s key t) (hColon : skipGap t = ':' :: u) (hItem : Spells u item v)
      (hClose : skipGap v = '}' :: rest) : SpellsMembers s [(key, item)] rest
  | more {s t u v w rest : List Char} {key : Option String} {item : Document}
      {members : List (Option String × Document)} (hKey : SpellsString s key t)
      (hColon : skipGap t = ':' :: u) (hItem : Spells u item v) (hComma : skipGap v = ',' :: w)
      (hMembers : SpellsMembers w members rest) : SpellsMembers s ((key, item) :: members) rest
end

theorem length_le_of_skipGap {s t : List Char} (h : skipGap s = t) : t.length ≤ s.length :=
  h ▸ (List.dropWhile_sublist _).length_le

theorem skipGap_skipGap (s : List Char) : skipGap (skipGap s) = skipGap s :=
  List.dropWhile_idempotent _ s

theorem skipGap_cons {c : Char} (h : Text.isGap c = false) (s : List Char) :
    skipGap (c :: s) = c :: s := by
  simp [skipGap, h]

theorem skipGap_gap {c : Char} (h : Text.isGap c = true) (s : List Char) :
    skipGap (c :: s) = skipGap s := by
  simp [skipGap, h]

theorem stringChars_append (text : String) (rest : List Char) :
    stringChars text ++ rest = '"' :: (text.toList.flatMap escapedChar ++ '"' :: rest) := by
  simp [stringChars]

/-- A string spells the text that it was written for. -/
theorem SpellsString.written {s rest : List Char} (text : String)
    (h : skipGap s = stringChars text ++ rest) : SpellsString s (some text) rest :=
  ⟨_, _, h.trans (stringChars_append text rest), spellsChars_flatMap text.toList rest,
    congrArg some String.ofList_toList.symm⟩

theorem spellsString_stringChars (text : String) (rest : List Char) :
    SpellsString (stringChars text ++ rest) (some text) rest := by
  refine .written text ?_
  rw [stringChars_append]
  exact skipGap_cons rfl _

/-- A string that is half of a pair spells no text. -/
theorem spellsString_half (rest : List Char) :
    SpellsString ('"' :: '\\' :: 'u' :: 'd' :: '8' :: '0' :: '0' :: '"' :: rest) none rest := by
  have hHigh : isHighSurrogate 0xD800 = true := by decide
  refine ⟨_, none, rfl, .alone ⟨'d', '8', '0', '0', rfl, by decide⟩ (.inr ⟨hHigh, ?_⟩) .close, rfl⟩
  rintro m u ⟨a, b, c, d, hText, -⟩
  cases hText

theorem Spells.natural {s rest : List Char} (n : Nat) (hSize : n ≤ maxUnsigned)
    (hText : skipGap s = (toString n).toList ++ rest) (hEnd : EndsNumber rest) :
    Spells s (.number (some (.int n))) rest := by
  have hNumeral : SpellsNumeral false ((toString n).toList ++ rest)
      ⟨false, (toString n).toList, [], none⟩ rest := .whole (isWhole_natural n) .none hEnd
  rw [← number?_natural hSize]
  exact .number hText hNumeral

theorem SpellsString.gap {c : Char} {s rest : List Char} {text? : Option String}
    (hGap : Text.isGap c = true) (h : SpellsString s text? rest) :
    SpellsString (c :: s) text? rest := by
  obtain ⟨t, chars, hOpen, hChars⟩ := h
  exact ⟨t, chars, (skipGap_gap hGap s).trans hOpen, hChars⟩

theorem Spells.gap {c : Char} {s rest : List Char} {doc : Document} (hGap : Text.isGap c = true)
    (h : Spells s doc rest) : Spells (c :: s) doc rest := by
  have hSkip := skipGap_gap hGap s
  cases h with
  | word hWord hText => exact .word hWord (hSkip.trans hText)
  | string hText => exact .string (hText.gap hGap)
  | number hText hNumeral => exact .number (hSkip.trans hText) hNumeral
  | emptyArray hOpen hClose => exact .emptyArray (hSkip.trans hOpen) hClose
  | array hOpen hItems => exact .array (hSkip.trans hOpen) hItems
  | emptyObject hOpen hClose => exact .emptyObject (hSkip.trans hOpen) hClose
  | object hOpen hMembers => exact .object (hSkip.trans hOpen) hMembers

theorem SpellsMembers.gap {c : Char} {s rest : List Char}
    {members : List (Option String × Document)} (hGap : Text.isGap c = true)
    (h : SpellsMembers s members rest) : SpellsMembers (c :: s) members rest := by
  cases h with
  | last hKey hColon hItem hClose => exact .last (hKey.gap hGap) hColon hItem hClose
  | more hKey hColon hItem hComma hMembers =>
      exact .more (hKey.gap hGap) hColon hItem hComma hMembers

theorem SpellsString.length_lt {s rest : List Char} {text? : Option String}
    (h : SpellsString s text? rest) : rest.length + 1 < s.length := by
  obtain ⟨t, chars, hOpen, hChars, -⟩ := h
  have := length_le_of_skipGap hOpen
  have := hChars.length_lt
  rw [List.length_cons] at *
  omega

theorem SpellsWord.ne_nil {letters : List Char} {doc : Document} (h : SpellsWord letters doc) :
    letters ≠ [] := by
  cases h with
  | null => nofun
  | true => nofun
  | false => nofun

mutual
theorem Spells.length_lt {s rest : List Char} {doc : Document} (h : Spells s doc rest) :
    rest.length < s.length := by
  cases h with
  | word hWord hText =>
      have := length_le_of_skipGap hText
      have := List.length_pos_iff.mpr hWord.ne_nil
      simp only [List.length_append] at *
      omega
  | string hText => exact Nat.lt_of_succ_lt hText.length_lt
  | number hText hNumeral =>
      have := length_le_of_skipGap hText
      have := hNumeral.length_lt
      simp only [List.length_append] at *
      omega
  | emptyArray hOpen hClose =>
      have := length_le_of_skipGap hOpen
      have := length_le_of_skipGap hClose
      simp only [List.length_cons] at *
      omega
  | array hOpen hItems =>
      have := length_le_of_skipGap hOpen
      have := hItems.length_lt
      simp only [List.length_cons] at *
      omega
  | emptyObject hOpen hClose =>
      have := length_le_of_skipGap hOpen
      have := length_le_of_skipGap hClose
      simp only [List.length_cons] at *
      omega
  | object hOpen hMembers =>
      have := length_le_of_skipGap hOpen
      have := hMembers.length_lt
      simp only [List.length_cons] at *
      omega

theorem SpellsItems.length_lt {s rest : List Char} {items : List Document}
    (h : SpellsItems s items rest) : rest.length < s.length := by
  cases h with
  | last hItem hClose =>
      have := hItem.length_lt
      have := length_le_of_skipGap hClose
      simp only [List.length_cons] at *
      omega
  | more hItem hComma hItems =>
      have := hItem.length_lt
      have := length_le_of_skipGap hComma
      have := hItems.length_lt
      simp only [List.length_cons] at *
      omega

theorem SpellsMembers.length_lt {s rest : List Char}
    {members : List (Option String × Document)} (h : SpellsMembers s members rest) :
    rest.length < s.length := by
  cases h with
  | last hKey hColon hItem hClose =>
      have := hKey.length_lt
      have := length_le_of_skipGap hColon
      have := hItem.length_lt
      have := length_le_of_skipGap hClose
      simp only [List.length_cons] at *
      omega
  | more hKey hColon hItem hComma hMembers =>
      have := hKey.length_lt
      have := length_le_of_skipGap hColon
      have := hItem.length_lt
      have := length_le_of_skipGap hComma
      have := hMembers.length_lt
      simp only [List.length_cons] at *
      omega
end

/-- A number begins with a sign or a digit, which no other document begins with. -/
theorem SpellsNumeral.number_head {negative : Bool} {s rest : List Char} {numeral : Numeral}
    (h : SpellsNumeral negative s numeral rest) :
    ∃ c cs, signChars negative ++ s = c :: cs ∧ (c = '-' ∨ Text.isDigit c = true) := by
  obtain ⟨d, t, rfl, hDigit⟩ := h.exists_digit
  cases negative with
  | true => exact ⟨'-', d :: t, rfl, .inl rfl⟩
  | false => exact ⟨d, t, rfl, .inr hDigit⟩

/-- A document begins with none of the marks that end an array or an object. -/
theorem Spells.skipGap_eq {s rest : List Char} {doc : Document} (h : Spells s doc rest) :
    ∃ c cs, skipGap s = c :: cs ∧ c ≠ ']' ∧ c ≠ '}' := by
  cases h with
  | word hWord hText =>
      cases hWord with
      | null => exact ⟨'n', _, hText, by decide, by decide⟩
      | true => exact ⟨'t', _, hText, by decide, by decide⟩
      | false => exact ⟨'f', _, hText, by decide, by decide⟩
  | string hText =>
      obtain ⟨t, -, hOpen, -⟩ := hText
      exact ⟨'"', t, hOpen, by decide, by decide⟩
  | number hText hNumeral =>
      obtain ⟨c, cs, hChars, hHead⟩ := hNumeral.number_head
      refine ⟨c, cs, hText.trans hChars, ?_, ?_⟩
      · rintro rfl
        exact absurd hHead (by decide)
      · rintro rfl
        exact absurd hHead (by decide)
  | emptyArray hOpen hClose => exact ⟨'[', _, hOpen, by decide, by decide⟩
  | array hOpen hItems => exact ⟨'[', _, hOpen, by decide, by decide⟩
  | emptyObject hOpen hClose => exact ⟨'{', _, hOpen, by decide, by decide⟩
  | object hOpen hMembers => exact ⟨'{', _, hOpen, by decide, by decide⟩

theorem SpellsItems.skipGap_eq {s rest : List Char} {items : List Document}
    (h : SpellsItems s items rest) : ∃ c cs, skipGap s = c :: cs ∧ c ≠ ']' := by
  cases h with
  | last hItem _ =>
      obtain ⟨c, cs, hHead, hBracket, -⟩ := hItem.skipGap_eq
      exact ⟨c, cs, hHead, hBracket⟩
  | more hItem _ _ =>
      obtain ⟨c, cs, hHead, hBracket, -⟩ := hItem.skipGap_eq
      exact ⟨c, cs, hHead, hBracket⟩

theorem SpellsMembers.skipGap_eq {s rest : List Char} {members : List (Option String × Document)}
    (h : SpellsMembers s members rest) : ∃ cs, skipGap s = '"' :: cs := by
  cases h with
  | last hKey | more hKey =>
      obtain ⟨t, -, hOpen, -⟩ := hKey
      exact ⟨t, hOpen⟩

/-! A text is read as the document it spells. -/

theorem scanValue_skipGap (fuel : Nat) (s : List Char) :
    scanValue fuel (skipGap s) = scanValue fuel s := by
  cases fuel with
  | zero => rfl
  | succ fuel => simp only [scanValue, skipGap_skipGap]

theorem scanItems_skipGap (fuel : Nat) (s : List Char) :
    scanItems fuel (skipGap s) = scanItems fuel s := by
  cases fuel with
  | zero => rfl
  | succ fuel => simp only [scanItems, scanValue_skipGap]

theorem scanWord_append (doc : Document) (letters rest : List Char) :
    scanWord doc letters (letters ++ rest) = (doc, some rest) := by
  induction letters with
  | nil => rfl
  | cons e es ih => rw [List.cons_append, scanWord, if_pos rfl, ih]

theorem SpellsWord.scanValue_eq {s letters rest : List Char} {doc : Document}
    (h : SpellsWord letters doc) (hText : skipGap s = letters ++ rest) (fuel : Nat) :
    scanValue (fuel + 1) s = (doc, some rest) := by
  cases h with
  | null =>
      simp only [scanValue, hText, List.cons_append]
      exact scanWord_append _ ['u', 'l', 'l'] rest
  | true =>
      simp only [scanValue, hText, List.cons_append]
      exact scanWord_append _ ['r', 'u', 'e'] rest
  | false =>
      simp only [scanValue, hText, List.cons_append]
      exact scanWord_append _ ['a', 'l', 's', 'e'] rest

/-- A document that begins with a digit, or with a minus sign, is a number. -/
theorem SpellsNumeral.scanValue_eq {s t rest : List Char} {negative : Bool} {numeral : Numeral}
    (h : SpellsNumeral negative t numeral rest) (hText : skipGap s = signChars negative ++ t)
    (fuel : Nat) : scanValue (fuel + 1) s = (.number numeral.number?, some rest) := by
  have hRead : scanNumber negative t = (.number numeral.number?, some rest) := by
    simp only [scanNumber, h.scanNumeral_eq]
  cases negative with
  | true =>
      simp only [scanValue, show skipGap s = '-' :: t from hText]
      exact hRead
  | false =>
      obtain ⟨d, t, rfl, hDigit⟩ := h.exists_digit
      have hOther (c : Char) (hNot : Text.isDigit c = false) : d ≠ c := by
        rintro rfl
        exact absurd hDigit (by simp [hNot])
      simp [scanValue, show skipGap s = d :: t from hText, hOther 'n' rfl, hOther 't' rfl,
        hOther 'f' rfl, hOther '-' rfl, hOther '"' rfl, hOther '[' rfl, hOther '{' rfl, hDigit,
        hRead]

/-- A string is read to its closing quote. -/
theorem SpellsString.exists_scan {s rest : List Char} {text? : Option String}
    (h : SpellsString s text? rest) (fuel : Nat) (hFuel : s.length ≤ fuel + 1 + rest.length) :
    ∃ t, skipGap s = '"' :: t ∧ scanString fuel (some []) t = .ok (text?, rest) := by
  obtain ⟨t, chars, hOpen, hChars, rfl⟩ := h
  have hSpace := length_le_of_skipGap hOpen
  rw [List.length_cons] at hSpace
  refine ⟨t, hOpen, ?_⟩
  rw [hChars.scanString_eq (some []) fuel (by omega)]
  rfl

mutual
theorem Spells.scanValue_eq {s rest : List Char} {doc : Document} (h : Spells s doc rest)
    (fuel : Nat) (hFuel : 2 * s.length ≤ fuel + 2 * rest.length) :
    scanValue fuel s = (doc, some rest) := by
  have hLength := h.length_lt
  obtain ⟨fuel, rfl⟩ : ∃ n, fuel = n + 1 := ⟨fuel - 1, by omega⟩
  cases h with
  | word hWord hText => exact hWord.scanValue_eq hText fuel
  | string hText =>
      obtain ⟨t, hOpen, hRead⟩ := hText.exists_scan fuel (by omega)
      simp only [scanValue, hOpen, hRead]
  | number hText hNumeral => exact hNumeral.scanValue_eq hText fuel
  | emptyArray hOpen hClose => simp only [scanValue, hOpen, hClose]
  | array hOpen hItems =>
      have hSpace := length_le_of_skipGap hOpen
      have hRead := hItems.scanItems_eq fuel (by simp only [List.length_cons] at *; omega)
      obtain ⟨c, cs, hHead, hBracket⟩ := hItems.skipGap_eq
      rw [← scanItems_skipGap, hHead] at hRead
      simp [scanValue, hOpen, hHead, hBracket, hRead]
  | emptyObject hOpen hClose => simp only [scanValue, hOpen, hClose]
  | object hOpen hMembers =>
      have hSpace := length_le_of_skipGap hOpen
      have hRead := hMembers.scanMembers_eq fuel
        (by simp only [List.length_cons] at *; omega)
      obtain ⟨cs, hHead⟩ := hMembers.skipGap_eq
      rw [hHead] at hRead
      simp [scanValue, hOpen, hHead, hRead]

theorem SpellsItems.scanItems_eq {s rest : List Char} {items : List Document}
    (h : SpellsItems s items rest) (fuel : Nat)
    (hFuel : 2 * s.length + 1 ≤ fuel + 2 * rest.length) :
    scanItems fuel s = ((items, none), some rest) := by
  have hLength := h.length_lt
  obtain ⟨fuel, rfl⟩ : ∃ n, fuel = n + 1 := ⟨fuel - 1, by omega⟩
  cases h with
  | last hItem hClose =>
      have hSpace := length_le_of_skipGap hClose
      have hRead := hItem.scanValue_eq fuel (by simp only [List.length_cons] at *; omega)
      simp only [scanItems, hRead, hClose]
  | more hItem hComma hItems =>
      have hSpace := length_le_of_skipGap hComma
      have := hItem.length_lt
      have := hItems.length_lt
      have hRead := hItem.scanValue_eq fuel (by simp only [List.length_cons] at *; omega)
      have hReadItems := hItems.scanItems_eq fuel
        (by simp only [List.length_cons] at *; omega)
      obtain ⟨c, cs, hHead, hBracket⟩ := hItems.skipGap_eq
      rw [← scanItems_skipGap, hHead] at hReadItems
      simp [scanItems, hRead, hComma, hHead, hBracket, hReadItems]

theorem SpellsMembers.scanMembers_eq {s rest : List Char}
    {members : List (Option String × Document)} (h : SpellsMembers s members rest) (fuel : Nat)
    (hFuel : 2 * s.length + 1 ≤ fuel + 2 * rest.length) :
    scanMembers fuel (skipGap s) = ((members, none), some rest) := by
  have hLength := h.length_lt
  obtain ⟨fuel, rfl⟩ : ∃ n, fuel = n + 1 := ⟨fuel - 1, by omega⟩
  cases h with
  | last hKey hColon hItem hClose =>
      have := hKey.length_lt
      have := length_le_of_skipGap hColon
      have := length_le_of_skipGap hClose
      have := hItem.length_lt
      simp only [List.length_cons] at *
      obtain ⟨t, hOpen, hReadKey⟩ := hKey.exists_scan fuel (by omega)
      have hRead := hItem.scanValue_eq fuel (by omega)
      simp only [scanMembers, hOpen, hReadKey, hColon, hRead, hClose]
  | more hKey hColon hItem hComma hMembers =>
      have := hKey.length_lt
      have := length_le_of_skipGap hColon
      have := length_le_of_skipGap hComma
      have := hItem.length_lt
      have := hMembers.length_lt
      simp only [List.length_cons] at *
      obtain ⟨t, hOpen, hReadKey⟩ := hKey.exists_scan fuel (by omega)
      have hRead := hItem.scanValue_eq fuel (by omega)
      have hReadMembers := hMembers.scanMembers_eq fuel (by omega)
      obtain ⟨cs, hHead⟩ := hMembers.skipGap_eq
      rw [hHead] at hReadMembers
      simp [scanMembers, hOpen, hReadKey, hColon, hRead, hComma, hHead, hReadMembers]
end

/-! Whatever is spelled may be passed over. -/

theorem passMembers_of_forall {members : List (Option String × Document)}
    (h : ∀ m ∈ members, m.2.pass = .ok ()) : Document.passMembers members = .ok () := by
  induction members with
  | nil => rfl
  | cons m members ih =>
      obtain ⟨key, item⟩ := m
      rw [List.forall_mem_cons] at h
      simp only [Document.passMembers, h.1, ih h.2, bind, Except.bind]

mutual
theorem Spells.pass_eq {s rest : List Char} {doc : Document} (h : Spells s doc rest) :
    doc.pass = .ok () := by
  cases h with
  | word hWord _ =>
      cases hWord with
      | null => rfl
      | true => rfl
      | false => rfl
  | string _ => rfl
  | number _ _ => rfl
  | emptyArray _ _ => rfl
  | array _ hItems => simp only [Document.pass, hItems.passItems_eq, checkTail, bind, Except.bind]
  | emptyObject _ _ => rfl
  | object _ hMembers =>
      simp only [Document.pass, passMembers_of_forall hMembers.pass_eq, checkTail, bind, Except.bind]

theorem SpellsItems.passItems_eq {s rest : List Char} {items : List Document}
    (h : SpellsItems s items rest) : Document.passItems items = .ok () := by
  cases h with
  | last hItem _ => simp only [Document.passItems, hItem.pass_eq, bind, Except.bind]
  | more hItem _ hItems =>
      simp only [Document.passItems, hItem.pass_eq, hItems.passItems_eq, bind, Except.bind]

theorem SpellsMembers.pass_eq {s rest : List Char} {members : List (Option String × Document)}
    (h : SpellsMembers s members rest) : ∀ m ∈ members, m.2.pass = .ok () := by
  cases h with
  | last _ _ hItem _ => exact List.forall_mem_singleton.mpr hItem.pass_eq
  | more _ _ hItem _ hMembers => exact List.forall_mem_cons.mpr ⟨hItem.pass_eq, hMembers.pass_eq⟩
end

theorem Spells.pass_of_mem {s rest : List Char} {members : List (Option String × Document)}
    (h : Spells s (.object members none) rest) : ∀ m ∈ members, m.2.pass = .ok () := by
  cases h with
  | word hWord _ => cases hWord
  | emptyObject _ _ => exact List.forall_mem_nil _
  | object _ hMembers => exact hMembers.pass_eq

/-- Nothing but blanks may follow the document. -/
theorem readWith_of_spells {α : Type} {decode : Document → Except Fault α} {text : String}
    {doc : Document} {rest : List Char} (h : Spells text.toList doc rest)
    (hRest : skipGap rest = []) : readWith decode text = decode doc := by
  have hRead := h.scanValue_eq (2 * text.toList.length + 2) (by omega)
  simp only [readWith, hRead]
  cases decode doc with
  | error fault => rfl
  | ok value => simp [hRest, bind, Except.bind]

end TemplateBundle.Json
