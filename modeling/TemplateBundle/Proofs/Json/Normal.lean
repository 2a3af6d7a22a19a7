import TemplateBundle.Proofs.Json.Spelling

/-! What is left of a value that was written and is read again: the members of each object in the
order of their keys, and of several members of one key the last. -/
namespace TemplateBundle.Json

mutual
/-- The value with all objects in order. -/
def Value.normal : Value → Value
  | .array items => .array (normalItems items)
  | .object members => .ofMembers (normalMembers members)
  | v => v

/-- The elements with all objects in order. -/
def normalItems : List Value → List Value
  | [] => []
  | v :: rest => v.normal :: normalItems rest

/-- The members, as they stand, with all objects in their values in order. -/
def normalMembers : List (String × Value) → List (String × Value)
  | [] => []
  | (key, v) :: rest => (key, v.normal) :: normalMembers rest
end

mutual
/-- How deep arrays and objects are nested in the value. -/
def Value.height : Value → Nat
  | .array items => heightItems items + 1
  | .object members => heightMembers members + 1
  | _ => 0

/-- How deep arrays and objects are nested in the elements. -/
def heightItems : List Value → Nat
  | [] => 0
  | v :: rest => max v.height (heightItems rest)

/-- How deep arrays and objects are nested in the members. -/
def heightMembers : List (String × Value) → Nat
  | [] => 0
  | (_, v) :: rest => max v.height (heightMembers rest)
end

mutual
theorem toValue_ofValue {depth : Nat} {v : Value} (h : v.height < depth) :
    (Document.ofValue v).toValue depth = .ok v.normal := by
  cases v with
  | null => rfl
  | bool b => rfl
  | number n => rfl
  | string s => rfl
  | array items =>
      rw [Value.height] at h
      have hItems := itemValues_ofItems (by omega : heightItems items < depth - 1)
      have hOpen : ¬ depth ≤ 1 := by omega
      rw [Document.ofValue, Document.toValue, if_neg hOpen, hItems]
      rfl
  | object members =>
      rw [Value.height] at h
      have hMembers := memberValues_ofMembers (by omega : heightMembers members < depth - 1) []
      have hOpen : ¬ depth ≤ 1 := by omega
      rw [Document.ofValue, Document.toValue, if_neg hOpen, hMembers]
      rfl

theorem itemValues_ofItems {depth : Nat} {items : List Value} (h : heightItems items < depth) :
    Document.itemValues depth (Document.ofItems items) = .ok (normalItems items) := by
  match items with
  | [] => rfl
  | v :: rest =>
      rw [heightItems] at h
      have hFirst := toValue_ofValue (by omega : v.height < depth)
      have hRest := itemValues_ofItems (by omega : heightItems rest < depth)
      rw [Document.ofItems, Document.itemValues, hFirst, hRest]
      rfl

theorem memberValues_ofMembers {depth : Nat} {members : List (String × Value)}
    (h : heightMembers members < depth) (seen : Members) :
    Document.memberValues depth (Document.ofMembers members) seen =
      .ok ((normalMembers members).foldl (fun seen (key, v) => seen.insert key v) seen) := by
  match members with
  | [] => rfl
  | (key, v) :: rest =>
      rw [heightMembers] at h
      have hFirst := toValue_ofValue (by omega : v.height < depth)
      have hRest := memberValues_ofMembers (by omega : heightMembers rest < depth)
        (seen.insert key v.normal)
      rw [Document.ofMembers, Document.memberValues, hFirst]
      exact hRest
end

/-- A text that spells what a value is written as is read as this value, in order. -/
theorem parse_of_spells {text : String} {v : Value} {rest : List Char}
    (h : Spells text.toList (.ofValue v) rest) (hRest : skipGap rest = [])
    (hHeight : v.height < depthLimit) : parse text = .ok v.normal := by
  rw [parse, readWith_of_spells h hRest, toValue_ofValue hHeight]

theorem normalMembers_eq_map (members : List (String × Value)) :
    normalMembers members = members.map fun (key, v) => (key, v.normal) := by
  induction members with
  | nil => rfl
  | cons member rest ih => rw [normalMembers, ih, List.map_cons]

theorem normalItems_strings (texts : List String) :
    normalItems (texts.map Value.string) = texts.map Value.string := by
  induction texts with
  | nil => rfl
  | cons text texts ih => rw [List.map_cons, normalItems, ih]; rfl

theorem heightItems_strings (texts : List String) :
    heightItems (texts.map Value.string) = 0 := by
  induction texts with
  | nil => rfl
  | cons text texts ih => rw [List.map_cons, heightItems, ih]; rfl

end TemplateBundle.Json
