import Mathlib.Data.List.Basic
import TemplateBundle.Text.Scanner

/-! What a scanner leaves of a text is the end of it. -/
namespace TemplateBundle.Text.Scanner

variable {α β : Type}

/-- Scanners go on with what is left. -/
theorem bind_eq_some {x : Scanner α} {f : α → Scanner β} {s rest : List Char} {b : β} :
    (x >>= f) s = some (b, rest) ↔ ∃ a between, x s = some (a, between) ∧
      f a between = some (b, rest) := by
  change (x s >>= fun r => f r.1 r.2) = some (b, rest) ↔ _
  simp [Option.bind_eq_some_iff]

theorem pure_eq_some {a b : α} {s rest : List Char} :
    (pure a : Scanner α) s = some (b, rest) ↔ b = a ∧ rest = s := by
  change some (a, s) = some (b, rest) ↔ _
  simp [eq_comm]

/-- Whatever the scanner takes, it takes from the front. -/
def LeavesEnd (x : Scanner α) : Prop := ∀ s a rest, x s = some (a, rest) → rest <:+ s

namespace LeavesEnd

protected theorem pure (a : α) : LeavesEnd (pure a : Scanner α) := by
  intro s b rest h
  obtain ⟨-, rfl⟩ := pure_eq_some.mp h
  exact List.suffix_rfl

protected theorem bind {x : Scanner α} {f : α → Scanner β} (h : LeavesEnd x)
    (hNext : ∀ a, LeavesEnd (f a)) : LeavesEnd (x >>= f) := by
  intro s b rest hRun
  obtain ⟨a, between, hFirst, hRest⟩ := bind_eq_some.mp hRun
  exact (hNext a between b rest hRest).trans (h s a between hFirst)

theorem none : LeavesEnd (fun _ => none : Scanner α) := fun _ _ _ h => nomatch h

end LeavesEnd

theorem stripStart?_eq_some {w s rest : List Char} :
    stripStart? w s = some rest ↔ s = w ++ rest := by
  induction w generalizing s with
  | nil => simp [stripStart?, eq_comm]
  | cons c w ih =>
      cases s with
      | nil => simp [stripStart?]
      | cons d s =>
          by_cases hSame : c = d
          · simp [stripStart?, hSame, ih]
          · simp [stripStart?, hSame, Ne.symm hSame]

theorem word_eq_some {w s rest : List Char} {u : Unit} :
    word w s = some (u, rest) ↔ s = w ++ rest := by
  simp [word, stripStart?_eq_some]

theorem gap_eq_some {s rest : List Char} {u : Unit} :
    gap s = some (u, rest) ↔ rest = s.dropWhile isGap := by
  simp [gap, eq_comm]

theorem token_eq_some {w s rest : List Char} {u : Unit} :
    token w s = some (u, rest) ↔ s.dropWhile isGap = w ++ rest := by
  simp [token, bind_eq_some, gap_eq_some, word_eq_some]

theorem leavesEnd_word (w : List Char) : LeavesEnd (word w) := by
  intro s u rest h
  rw [word_eq_some.mp h]
  exact List.suffix_append w rest

theorem leavesEnd_gap : LeavesEnd gap := by
  intro s u rest h
  rw [gap_eq_some.mp h]
  exact List.dropWhile_suffix isGap

theorem leavesEnd_token (w : List Char) : LeavesEnd (token w) :=
  leavesEnd_gap.bind fun _ => leavesEnd_word w

theorem leavesEnd_run (p : Char → Bool) : LeavesEnd (run p) := by
  intro s a rest h
  obtain ⟨-, rfl⟩ := Prod.mk.inj (Option.some.inj h)
  exact List.dropWhile_suffix p

theorem run1_eq_some {p : Char → Bool} {s a rest : List Char} (h : run1 p s = some (a, rest)) :
    s.takeWhile p ≠ [] ∧ a = s.takeWhile p ∧ rest = s.dropWhile p := by
  unfold run1 at h
  split at h
  · cases h
  · next hSome =>
    cases h
    exact ⟨fun hNone => hSome (by rw [hNone]; rfl), rfl, rfl⟩

theorem leavesEnd_run1 (p : Char → Bool) : LeavesEnd (run1 p) := by
  intro s a rest h
  rw [(run1_eq_some h).2.2]
  exact List.dropWhile_suffix p

theorem leavesEnd_takeSome (length : List Char → Nat) : LeavesEnd (takeSome length) := by
  intro s a rest h
  unfold takeSome at h
  split at h
  · cases h
  · cases h
    exact List.drop_suffix _ s

theorem leavesEnd_notAhead (p : Char → Bool) : LeavesEnd (notAhead p) := by
  intro s u rest h
  unfold notAhead at h
  split at h
  · cases h
    exact List.suffix_rfl
  · split at h
    · cases h
    · cases h
      exact List.suffix_rfl

/-- What was written stands before the rest. -/
theorem written_eq_some {x : Scanner Unit} (hx : LeavesEnd x) {s a rest : List Char}
    (h : written x s = some (a, rest)) : s = a ++ rest ∧ x s = some ((), rest) := by
  unfold written at h
  split at h
  · cases h
  · next behind hRun =>
    cases h
    obtain ⟨front, rfl⟩ := hx s () rest hRun
    simp [hRun]

theorem leavesEnd_written {x : Scanner Unit} (hx : LeavesEnd x) : LeavesEnd (written x) := by
  intro s a rest h
  rw [(written_eq_some hx h).1]
  exact List.suffix_append a rest

theorem optionally_eq_some {x : Scanner α} {s rest : List Char} {a? : Option α}
    (h : optionally x s = some (a?, rest)) :
    (x s = none ∧ a? = none ∧ rest = s) ∨ ∃ a, a? = some a ∧ x s = some (a, rest) := by
  unfold optionally at h
  split at h
  · next hNone =>
    cases h
    exact .inl ⟨hNone, rfl, rfl⟩
  · next a behind hRun =>
    cases h
    exact .inr ⟨a, rfl, hRun⟩

theorem leavesEnd_optionally {x : Scanner α} (hx : LeavesEnd x) : LeavesEnd (optionally x) := by
  intro s a rest h
  rcases optionally_eq_some h with ⟨-, -, rfl⟩ | ⟨a, -, hRun⟩
  · exact List.suffix_rfl
  · exact hx s a rest hRun

theorem either_eq_some {x y : Scanner α} {s rest : List Char} {a : α}
    (h : either x y s = some (a, rest)) : x s = some (a, rest) ∨ y s = some (a, rest) := by
  unfold either at h
  split at h
  · exact .inr h
  · next hRun => exact .inl (hRun.trans h)

theorem leavesEnd_either {x y : Scanner α} (hx : LeavesEnd x) (hy : LeavesEnd y) :
    LeavesEnd (either x y) := by
  intro s a rest h
  rcases either_eq_some h with hRun | hRun
  · exact hx s a rest hRun
  · exact hy s a rest hRun

theorem leavesEnd_many {x : Scanner α} (hx : LeavesEnd x) (fuel : Nat) :
    LeavesEnd (many x fuel) := by
  induction fuel with
  | zero =>
      intro s a rest h
      cases h
      exact List.suffix_rfl
  | succ fuel ih =>
      intro s as rest h
      unfold many at h
      split at h
      · cases h
        exact List.suffix_rfl
      · next a between hFirst =>
        have hBetween := (hx _ a between hFirst).trans (List.dropWhile_suffix isGap)
        split at h
        · cases h
          exact hBetween
        · next later behind hLater =>
          cases h
          exact (ih between later rest hLater).trans hBetween

end TemplateBundle.Text.Scanner
