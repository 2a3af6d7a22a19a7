import Mathlib.Data.List.Perm.Basic
import Mathlib.Data.String.Basic
import Mathlib.Tactic.Tauto
import TemplateBundle.Json.Document

/-! Objects that are built up member by member: the last member of a key is the one that is found,
and the members of different keys all stay. -/
namespace TemplateBundle.Json.Members

theorem get?_cons (k : String) (v : Value) (rest : Members) (key : String) :
    get? ((k, v) :: rest) key = if key = k then some v else rest.get? key := by
  unfold get?
  by_cases hKey : key = k
  · simp [hKey]
  · have : (key == k) = false := by simpa using hKey
    simp [List.lookup_cons, hKey, this]

theorem get?_insert (members : Members) (key other : String) (value : Value) :
    (members.insert key value).get? other =
      if other = key then some value else members.get? other := by
  induction members with
  | nil => rw [insert, get?_cons]
  | cons member rest ih =>
      obtain ⟨k, v⟩ := member
      rw [insert]
      split
      · next hSame =>
        subst hSame
        rw [get?_cons, get?_cons]
        split <;> rfl
      split
      · rw [get?_cons]
      · next hOther _ =>
        rw [get?_cons, get?_cons, ih]
        by_cases hFirst : other = k
        · rw [if_pos hFirst, if_pos hFirst, if_neg (hFirst ▸ Ne.symm hOther)]
        · rw [if_neg hFirst, if_neg hFirst]

theorem get?_foldl_insert (pairs : List (String × Value)) (members : Members) (key : String) :
    get? (pairs.foldl (fun members (k, v) => members.insert k v) members) key =
      (pairs.reverse.lookup key).or (members.get? key) := by
  induction pairs generalizing members with
  | nil => simp
  | cons pair rest ih =>
      obtain ⟨k, v⟩ := pair
      have hFirst : List.lookup key [(k, v)] = if key = k then some v else none :=
        get?_cons k v [] key
      rw [List.foldl_cons, ih, get?_insert, List.reverse_cons, List.lookup_append, hFirst]
      split
      · simp
      · simp

/-- Of several members of a key the last is kept. -/
theorem get?_ofList (pairs : List (String × Value)) (key : String) :
    (ofList pairs).get? key = pairs.reverse.lookup key := by
  rw [ofList, get?_foldl_insert]
  simp [get?]

theorem mem_keys_insert {members : Members} {key other : String} {value : Value} :
    other ∈ (members.insert key value).map Prod.fst ↔
      other = key ∨ other ∈ members.map Prod.fst := by
  induction members with
  | nil => simp [insert]
  | cons member rest ih =>
      obtain ⟨k, v⟩ := member
      rw [insert]
      split
      · next hSame => simp [hSame]
      split
      · simp
      · rw [List.map_cons, List.mem_cons, ih, List.map_cons, List.mem_cons]
        exact or_left_comm

/-- The keys are those of the pairs. -/
theorem mem_keys_ofList {pairs : List (String × Value)} {key : String} :
    key ∈ (ofList pairs).map Prod.fst ↔ key ∈ pairs.map Prod.fst := by
  have hFold (members : Members) :
      key ∈ (pairs.foldl (fun members (k, v) => members.insert k v) members).map Prod.fst ↔
        key ∈ members.map Prod.fst ∨ key ∈ pairs.map Prod.fst := by
    induction pairs generalizing members with
    | nil => simp
    | cons pair rest ih =>
        rw [List.foldl_cons, ih, mem_keys_insert, List.map_cons, List.mem_cons]
        tauto
  rw [ofList, hFold]
  simp

theorem sorted_insert {members : Members} (key : String) (value : Value)
    (h : members.Pairwise fun a b => a.1 < b.1) :
    (members.insert key value).Pairwise fun a b => a.1 < b.1 := by
  induction members with
  | nil => simp [insert]
  | cons member rest ih =>
      obtain ⟨k, v⟩ := member
      obtain ⟨hBehind, hRest⟩ := List.pairwise_cons.mp h
      rw [insert]
      split
      · next hSame => exact List.pairwise_cons.mpr ⟨fun b hb => hSame ▸ hBehind b hb, hRest⟩
      split
      · next hBefore =>
        refine List.pairwise_cons.mpr ⟨fun b hb => ?_, h⟩
        rcases List.mem_cons.mp hb with rfl | hb
        · exact hBefore
        · exact lt_trans hBefore (hBehind b hb)
      · next hOther hNotBefore =>
        refine List.pairwise_cons.mpr ⟨fun b hb => ?_, ih hRest⟩
        have hKey : b.1 = key ∨ b.1 ∈ rest.map Prod.fst :=
          mem_keys_insert.mp (List.mem_map_of_mem hb)
        rcases hKey with hKey | hKey
        · rw [hKey]
          exact lt_of_le_of_ne (not_lt.mp hNotBefore) (Ne.symm hOther)
        · obtain ⟨c, hc, hSame⟩ := List.mem_map.mp hKey
          rw [← hSame]
          exact hBehind c hc

/-- The members stand in the order of their keys, one for each. -/
theorem sorted_ofList (pairs : List (String × Value)) :
    (ofList pairs).Pairwise fun a b => a.1 < b.1 := by
  have hFold (members : Members) (h : members.Pairwise fun a b => a.1 < b.1) :
      (pairs.foldl (fun members (k, v) => members.insert k v) members).Pairwise
        fun a b => a.1 < b.1 := by
    induction pairs generalizing members with
    | nil => exact h
    | cons pair rest ih => exact ih _ (sorted_insert pair.1 pair.2 h)
  exact hFold [] .nil

theorem insert_perm {members : Members} {key : String} (value : Value)
    (hNew : key ∉ members.map Prod.fst) :
    (members.insert key value).Perm ((key, value) :: members) := by
  induction members with
  | nil => exact .refl _
  | cons member rest ih =>
      obtain ⟨k, v⟩ := member
      simp only [List.map_cons, List.mem_cons, not_or] at hNew
      rw [insert, if_neg hNew.1]
      split
      · exact .refl _
      · exact ((ih hNew.2).cons _).trans (.swap ..)

theorem foldl_insert_perm {pairs : List (String × Value)} {members : Members}
    (hKeys : ((members ++ pairs).map Prod.fst).Nodup) :
    (pairs.foldl (fun members (k, v) => members.insert k v) members).Perm (members ++ pairs) := by
  induction pairs generalizing members with
  | nil => simp
  | cons pair rest ih =>
      obtain ⟨k, v⟩ := pair
      have hMoved : (members ++ (k, v) :: rest).Perm ((k, v) :: members ++ rest) :=
        List.perm_middle
      have hDistinct := (hMoved.map Prod.fst).nodup_iff.mp hKeys
      have hNew : k ∉ members.map Prod.fst := by
        simp only [List.cons_append, List.map_cons, List.map_append, List.nodup_cons] at hDistinct
        exact fun h => hDistinct.1 (List.mem_append_left _ h)
      have hInsert := (insert_perm v hNew).append_right rest
      refine (ih ((hInsert.map Prod.fst).nodup_iff.mpr hDistinct)).trans ?_
      exact hInsert.trans hMoved.symm

/-- Members of different keys are only put in order. -/
theorem ofList_perm {pairs : List (String × Value)} (hKeys : (pairs.map Prod.fst).Nodup) :
    (ofList pairs).Perm pairs :=
  foldl_insert_perm (by simpa using hKeys)

end TemplateBundle.Json.Members
