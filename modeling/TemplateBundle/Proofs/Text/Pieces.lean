import Mathlib.Data.List.Basic
import TemplateBundle.Proofs.Text.Scanner

/-! Texts as pieces between separators. What replaces a pattern without a separator replaces it in
each piece for itself. -/
namespace TemplateBundle.Text

theorem splitOn_eq (sep : Char) (s : List Char) : splitOn sep s = s.splitOn sep := by
  induction s with
  | nil => rfl
  | cons c cs ih =>
      rw [splitOn, List.splitOn, List.splitOnP_cons_eq_if_modifyHead, ← List.splitOn, ← ih]
      by_cases hSep : c = sep
      · rw [if_pos hSep, if_pos (beq_iff_eq.mpr hSep)]
      · rw [if_neg hSep, if_neg (by simpa using hSep)]
        cases hRest : splitOn sep cs with
        | nil => exact absurd (ih.symm.trans hRest) (List.splitOn_ne_nil sep cs)
        | cons piece rest => rfl

variable {sep c : Char} {s piece : List Char}

theorem splitOn_ne_nil (sep : Char) (s : List Char) : splitOn sep s ≠ [] := by
  rw [splitOn_eq]
  exact List.splitOn_ne_nil sep s

theorem intercalate_splitOn (sep : Char) (s : List Char) :
    List.intercalate [sep] (splitOn sep s) = s := by
  rw [splitOn_eq, List.intercalate_splitOn]

theorem splitOn_append (sep : Char) (front rest : List Char) :
    splitOn sep (front ++ sep :: rest) = splitOn sep front ++ splitOn sep rest := by
  simp only [splitOn_eq, List.splitOn]
  exact List.splitOnP_append_cons front rest (beq_self_eq_true sep)

theorem splitOn_of_not_mem (h : sep ∉ s) : splitOn sep s = [s] := by
  have hOne : (List.intercalate [sep] [s]).splitOn sep = [s] :=
    List.splitOn_intercalate sep (by simpa using h) (List.cons_ne_nil _ _)
  rwa [List.intercalate_singleton, ← splitOn_eq] at hOne

/-- Texts that are joined are split as each of them is. -/
theorem splitOn_intercalate {texts : List (List Char)} (h : texts ≠ []) :
    splitOn sep (List.intercalate [sep] texts) = texts.flatMap (splitOn sep) := by
  induction texts with
  | nil => exact absurd rfl h
  | cons first rest ih =>
      cases rest with
      | nil => rw [List.intercalate_singleton, List.flatMap_singleton]
      | cons second rest =>
          rw [List.intercalate_cons_cons, List.append_assoc, List.singleton_append, splitOn_append,
            ih (List.cons_ne_nil _ _)]
          rfl

theorem flatMap_splitOn {pieces : List (List Char)} (h : ∀ piece ∈ pieces, sep ∉ piece) :
    pieces.flatMap (splitOn sep) = pieces := by
  induction pieces with
  | nil => rfl
  | cons piece rest ih =>
      rw [List.forall_mem_cons] at h
      rw [List.flatMap_cons, splitOn_of_not_mem h.1, ih h.2, List.singleton_append]

/-- Characters other than the separator stand in the pieces, and in no other place. -/
theorem mem_iff_of_ne (h : c ≠ sep) : c ∈ s ↔ ∃ piece ∈ splitOn sep s, c ∈ piece := by
  induction s with
  | nil => simp [splitOn]
  | cons d ds ih =>
      rw [splitOn, List.mem_cons, ih]
      by_cases hSep : d = sep
      · have hOther : c ≠ d := fun hSame => h (hSame.trans hSep)
        simp [hSep, h]
      · rw [if_neg hSep]
        cases hRest : splitOn sep ds with
        | nil => exact absurd hRest (splitOn_ne_nil sep ds)
        | cons piece rest => simp [or_assoc]

theorem not_mem_of_mem_splitOn (h : piece ∈ splitOn sep s) : sep ∉ piece := by
  induction s generalizing piece with
  | nil =>
      rw [splitOn, List.mem_singleton] at h
      rw [h]
      exact List.not_mem_nil
  | cons d ds ih =>
      rw [splitOn] at h
      split at h
      · rcases List.mem_cons.mp h with rfl | h
        · exact List.not_mem_nil
        · exact ih h
      · next hSep =>
        cases hRest : splitOn sep ds with
        | nil => exact absurd hRest (splitOn_ne_nil sep ds)
        | cons first rest =>
            rw [hRest] at h ih
            rcases List.mem_cons.mp h with rfl | h
            · rw [List.mem_cons, not_or]
              exact ⟨Ne.symm hSep, ih (.head _)⟩
            · exact ih (.tail _ h)

section Replacement

variable {pattern : List Char} (replacement : List Char)

/-- Fuel that suffices does not matter. -/
theorem replaceFuel_congr (hPattern : pattern ≠ []) {fuel other : Nat} (hFuel : s.length ≤ fuel)
    (hOther : s.length ≤ other) :
    replaceFuel pattern replacement fuel s = replaceFuel pattern replacement other s := by
  induction fuel generalizing s other with
  | zero =>
      rw [List.eq_nil_of_length_eq_zero (Nat.le_zero.mp hFuel)]
      cases other with
      | zero => rfl
      | succ other => rfl
  | succ fuel ih =>
      cases s with
      | nil =>
          cases other with
          | zero => rfl
          | succ other => rfl
      | cons c cs =>
          obtain ⟨other, rfl⟩ : ∃ n, other = n + 1 := ⟨other - 1, by
            rw [List.length_cons] at hOther
            omega⟩
          rw [List.length_cons, Nat.succ_le_succ_iff] at hFuel hOther
          rw [replaceFuel, replaceFuel]
          cases hStart : stripStart? pattern (c :: cs) with
          | none => exact congrArg (c :: ·) (ih hFuel hOther)
          | some rest =>
              have hLength := congrArg List.length (Scanner.stripStart?_eq_some.mp hStart)
              have hPositive := List.length_pos_iff.mpr hPattern
              rw [List.length_cons, List.length_append] at hLength
              exact congrArg (replacement ++ ·) (ih (by omega) (by omega))

theorem replaceAll_of_start (hPattern : pattern ≠ []) (rest : List Char) :
    replaceAll pattern replacement (pattern ++ rest) =
      replacement ++ replaceAll pattern replacement rest := by
  obtain ⟨p, ps, rfl⟩ := List.exists_cons_of_ne_nil hPattern
  have hStart : stripStart? (p :: ps) (p :: (ps ++ rest)) = some rest :=
    Scanner.stripStart?_eq_some.mpr rfl
  rw [replaceAll, List.cons_append, List.length_cons, replaceFuel, hStart]
  refine congrArg (replacement ++ ·) (replaceFuel_congr replacement hPattern ?_ (Nat.le_refl _))
  rw [List.length_append]
  omega

theorem replaceAll_of_none {c : Char} {cs : List Char}
    (h : stripStart? pattern (c :: cs) = none) :
    replaceAll pattern replacement (c :: cs) = c :: replaceAll pattern replacement cs := by
  rw [replaceAll, List.length_cons, replaceFuel, h]
  rfl

/-- What a text begins with ends before the separator. -/
theorem exists_append_of_start {front rest behind : List Char} (hSep : sep ∉ pattern)
    (h : front ++ sep :: rest = pattern ++ behind) : ∃ cs, front = pattern ++ cs := by
  rcases List.append_eq_append_iff.mp h with ⟨cs, hPattern, hBehind⟩ | ⟨cs, hFront, -⟩
  · cases cs with
    | nil => exact ⟨[], by rw [hPattern, List.append_nil, List.append_nil]⟩
    | cons c cs =>
        obtain ⟨rfl, -⟩ := List.cons.inj hBehind
        rw [hPattern] at hSep
        exact absurd (List.mem_append_right front (.head _)) hSep
  · exact ⟨cs, hFront⟩

/-- A pattern without the separator is replaced on either side of it. -/
theorem replaceAll_append (hPattern : pattern ≠ []) (hSep : sep ∉ pattern)
    (front rest : List Char) :
    replaceAll pattern replacement (front ++ sep :: rest) =
      replaceAll pattern replacement front ++ sep :: replaceAll pattern replacement rest := by
  induction hLength : front.length using Nat.strongRecOn generalizing front with
  | ind n ih =>
      subst hLength
      by_cases hStart : ∃ cs, front = pattern ++ cs
      · obtain ⟨cs, rfl⟩ := hStart
        have hShorter : cs.length < (pattern ++ cs).length := by
          have := List.length_pos_iff.mpr hPattern
          rw [List.length_append]
          omega
        rw [List.append_assoc, replaceAll_of_start replacement hPattern,
          replaceAll_of_start replacement hPattern, ih _ hShorter cs rfl, List.append_assoc]
      · have hNone (later : List Char) (hLater : ∀ behind, later = pattern ++ behind →
            ∃ cs, front = pattern ++ cs) : stripStart? pattern later = none :=
          Option.eq_none_iff_forall_ne_some.mpr fun behind hBehind =>
            hStart (hLater behind (Scanner.stripStart?_eq_some.mp hBehind))
        have hWhole := hNone (front ++ sep :: rest) fun _ => exists_append_of_start hSep
        have hFront := hNone front fun behind hBehind => ⟨behind, hBehind⟩
        cases front with
        | nil => exact replaceAll_of_none replacement hWhole
        | cons c cs =>
            rw [List.cons_append] at hWhole ⊢
            rw [replaceAll_of_none replacement hWhole, ih cs.length (Nat.lt_succ_self _) cs rfl,
              replaceAll_of_none replacement hFront]
            rfl

theorem replaceAll_intercalate (hPattern : pattern ≠ []) (hSep : sep ∉ pattern)
    (texts : List (List Char)) :
    replaceAll pattern replacement (List.intercalate [sep] texts) =
      List.intercalate [sep] (texts.map (replaceAll pattern replacement)) := by
  induction texts with
  | nil => rfl
  | cons first rest ih =>
      cases rest with
      | nil => rw [List.intercalate_singleton, List.map_singleton, List.intercalate_singleton]
      | cons second rest =>
          rw [List.intercalate_cons_cons, List.append_assoc, List.singleton_append,
            replaceAll_append replacement hPattern hSep, ih, List.map_cons, List.map_cons,
            List.map_cons, List.intercalate_cons_cons, List.append_assoc, List.singleton_append]

/-- Nothing is replaced in a text without the pattern. -/
theorem replaceAll_of_not_infix (h : ¬ pattern <:+: s) : replaceAll pattern replacement s = s := by
  induction s with
  | nil => rfl
  | cons c cs ih =>
      have hStart : stripStart? pattern (c :: cs) = none := by
        refine Option.eq_none_iff_forall_ne_some.mpr fun rest hRest => h ?_
        exact ⟨[], rest, (Scanner.stripStart?_eq_some.mp hRest).symm⟩
      rw [replaceAll_of_none replacement hStart,
        ih fun hInfix => h (hInfix.trans (List.infix_cons List.infix_rfl))]

end Replacement

end TemplateBundle.Text
