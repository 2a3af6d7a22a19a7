import TemplateBundle.Proofs.Json.Spelling

/-! Values are spelled by their compact texts. Only what is written without signs and fractions is
looked at. -/
namespace TemplateBundle.Json

mutual
/-- The value is made of strings, natural numbers of 64 bits, arrays and objects. -/
def Value.Plain : Value → Prop
  | .string _ => True
  | .number (.int (.ofNat n)) => n ≤ maxUnsigned
  | .array items => PlainItems items
  | .object members => PlainMembers members
  | _ => False

/-- The elements are plain values. -/
def PlainItems : List Value → Prop
  | [] => True
  | v :: rest => v.Plain ∧ PlainItems rest

/-- The members have plain values. -/
def PlainMembers : List (String × Value) → Prop
  | [] => True
  | (_, v) :: rest => v.Plain ∧ PlainMembers rest
end

theorem Value.toList_compress (v : Value) : v.compress.toList = v.chars := String.toList_ofList

theorem toList_quote (text : String) : (quote text).toList = stringChars text :=
  String.toList_ofList

theorem skipGap_natural (n : Nat) (rest : List Char) :
    skipGap ((toString n).toList ++ rest) = (toString n).toList ++ rest := by
  cases hDigits : (toString n).toList with
  | nil => exact absurd hDigits (Text.toList_toString_ne_nil n)
  | cons d ds =>
      have hDigit : Text.isDigit d = true :=
        Text.isDigit_of_mem_toString (n := n) (by rw [hDigits]; exact List.mem_cons_self)
      refine skipGap_cons ?_ _
      by_contra hGap
      simp only [Text.isGap, Bool.not_eq_false, Bool.or_eq_true, beq_iff_eq] at hGap
      rcases hGap with ((rfl | rfl) | rfl) | rfl <;> exact absurd hDigit (by decide)

theorem endsNumber_cons {c : Char}
    (h : Text.isDigit c = false ∧ c ≠ '.' ∧ c ≠ 'e' ∧ c ≠ 'E') (s : List Char) :
    EndsNumber (c :: s) := by
  intro d hd
  obtain rfl : c = d := by simpa using hd
  exact h

mutual
/-- A plain value is spelled by its compact text. -/
theorem spells_chars {v : Value} (hPlain : v.Plain) {rest : List Char} (hEnd : EndsNumber rest) :
    Spells (v.chars ++ rest) (.ofValue v) rest := by
  cases v with
  | string text => exact .string (spellsString_stringChars text rest)
  | number number =>
      cases number with
      | int i =>
          cases i with
          | ofNat n => exact .natural n hPlain (skipGap_natural n rest) hEnd
          | negSucc n => exact hPlain.elim
      | float x => exact hPlain.elim
  | array items =>
      rcases eq_or_ne items [] with rfl | hItems
      · exact .emptyArray (skipGap_cons rfl _) (skipGap_cons rfl _)
      · have hOpen : (Value.array items).chars ++ rest =
            '[' :: (itemsChars items ++ ']' :: rest) := by
          simp [Value.chars]
        rw [hOpen]
        exact .array (skipGap_cons rfl _) (spellsItems_itemsChars hItems hPlain rest)
  | object members =>
      rcases eq_or_ne members [] with rfl | hMembers
      · exact .emptyObject (skipGap_cons rfl _) (skipGap_cons rfl _)
      · have hOpen : (Value.object members).chars ++ rest =
            '{' :: (membersChars members ++ '}' :: rest) := by
          simp [Value.chars]
        rw [hOpen]
        exact .object (skipGap_cons rfl _) (spellsMembers_membersChars hMembers hPlain rest)
  | null => exact hPlain.elim
  | bool b => exact hPlain.elim

theorem spellsItems_itemsChars {items : List Value} (hItems : items ≠ [])
    (hPlain : PlainItems items) (rest : List Char) :
    SpellsItems (itemsChars items ++ ']' :: rest) (Document.ofItems items) rest := by
  match items with
  | [] => exact absurd rfl hItems
  | [v] =>
      exact .last (spells_chars hPlain.1 (endsNumber_cons (by decide) rest)) (skipGap_cons rfl _)
  | v :: w :: items =>
      have hComma : itemsChars (v :: w :: items) ++ ']' :: rest =
          v.chars ++ ',' :: (itemsChars (w :: items) ++ ']' :: rest) := by
        simp [itemsChars]
      rw [hComma]
      exact .more (spells_chars hPlain.1 (endsNumber_cons (by decide) _)) (skipGap_cons rfl _)
        (spellsItems_itemsChars (List.cons_ne_nil w items) hPlain.2 rest)

theorem spellsMembers_membersChars {members : List (String × Value)} (hMembers : members ≠ [])
    (hPlain : PlainMembers members) (rest : List Char) :
    SpellsMembers (membersChars members ++ '}' :: rest) (Document.ofMembers members) rest := by
  match members with
  | [] => exact absurd rfl hMembers
  | [(key, v)] =>
      have hColon : membersChars [(key, v)] ++ '}' :: rest =
          stringChars key ++ ':' :: (v.chars ++ '}' :: rest) := by
        simp [membersChars]
      rw [hColon]
      exact .last (spellsString_stringChars _ _) (skipGap_cons rfl _)
        (spells_chars hPlain.1 (endsNumber_cons (by decide) rest)) (skipGap_cons rfl _)
  | (key, v) :: next :: members =>
      have hColon : membersChars ((key, v) :: next :: members) ++ '}' :: rest =
          stringChars key ++ ':' :: (v.chars ++ ',' :: (membersChars (next :: members) ++
            '}' :: rest)) := by
        simp [membersChars]
      rw [hColon]
      exact .more (spellsString_stringChars _ _) (skipGap_cons rfl _)
        (spells_chars hPlain.1 (endsNumber_cons (by decide) _)) (skipGap_cons rfl _)
        (spellsMembers_membersChars (List.cons_ne_nil next members) hPlain.2 rest)
end

end TemplateBundle.Json
