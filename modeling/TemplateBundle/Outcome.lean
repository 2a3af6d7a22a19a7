/-! Steps that may fail, one after another: all of them have succeeded if the last one has. -/
namespace TemplateBundle.Outcome

variable {ε δ α β : Type}

theorem bind_eq_ok {x : Except ε α} {f : α → Except ε β} {b : β} :
    x >>= f = .ok b ↔ ∃ a, x = .ok a ∧ f a = .ok b := by
  cases x with
  | error e => simp [bind, Except.bind]
  | ok a => simp [bind, Except.bind]

theorem map_eq_ok {x : Except ε α} {f : α → β} {b : β} :
    x.map f = .ok b ↔ ∃ a, x = .ok a ∧ f a = b := by
  cases x with
  | error e => simp [Except.map]
  | ok a => simp [Except.map]

theorem mapError_eq_ok {x : Except ε α} {f : ε → δ} {a : α} :
    x.mapError f = .ok a ↔ x = .ok a := by
  cases x with
  | error e =>
      constructor
      · exact fun h => nomatch h
      · exact fun h => nomatch h
  | ok b =>
      constructor
      · exact fun h => congrArg Except.ok (Except.ok.inj h)
      · exact fun h => congrArg Except.ok (Except.ok.inj h)

theorem isOk_iff {x : Except ε α} : x.isOk ↔ ∃ a, x = .ok a := by
  cases x with
  | error e => simp [Except.isOk, Except.toBool]
  | ok a => simp [Except.isOk, Except.toBool]

theorem eq_ok_of_toOption {x : Except ε α} {a : α} (h : x.toOption = some a) : x = .ok a := by
  cases x with
  | error e => cases h
  | ok b => exact congrArg Except.ok (Option.some.inj h)

theorem exists_of_toOption {σ : Type} {x : Except ε α × σ} {a : α} (h : x.1.toOption = some a) :
    ∃ after, x = (.ok a, after) := by
  obtain ⟨outcome, after⟩ := x
  obtain rfl : outcome = .ok a := eq_ok_of_toOption h
  exact ⟨after, rfl⟩

/-- Two outcomes are alike: both fail with the same error, or both succeed with related results. -/
def Alike (R : α → β → Prop) : Except ε α → Except ε β → Prop
  | .ok a, .ok b => R a b
  | .error e, .error f => e = f
  | _, _ => False

namespace Alike

variable {γ : Type} {R : α → β → Prop}

theorem ok {a : α} {b : β} (h : R a b) : Alike R (.ok a : Except ε α) (.ok b) := h

theorem error (e : ε) : Alike R (.error e) (.error e) := rfl

theorem bind {S : γ → δ → Prop} {x : Except ε α} {y : Except ε β} {f : α → Except ε γ}
    {g : β → Except ε δ} (h : Alike R x y) (hNext : ∀ a b, R a b → Alike S (f a) (g b)) :
    Alike S (x >>= f) (y >>= g) := by
  cases x with
  | error e =>
      cases y with
      | error e' => exact h
      | ok b => exact h.elim
  | ok a =>
      cases y with
      | error e => exact h.elim
      | ok b => exact hNext a b h

theorem eq {x y : Except ε α} (h : Alike (· = ·) x y) : x = y := by
  cases x with
  | error e =>
      cases y with
      | error e' => exact congrArg Except.error h
      | ok b => exact h.elim
  | ok a =>
      cases y with
      | error e => exact h.elim
      | ok b => exact congrArg Except.ok h

/-- After the same outcome it goes on alike. -/
theorem bind_same {S : γ → δ → Prop} {x : Except ε α} {f : α → Except ε γ} {g : α → Except ε δ}
    (hNext : ∀ a, x = .ok a → Alike S (f a) (g a)) : Alike S (x >>= f) (x >>= g) := by
  cases x with
  | error e => exact rfl
  | ok a => exact hNext a rfl

theorem foldlM {item : Type} {step : α → item → Except ε α} {step' : β → item → Except ε β}
    (hStep : ∀ a b i, R a b → Alike R (step a i) (step' b i)) (items : List item) {a : α} {b : β}
    (h : R a b) : Alike R (items.foldlM step a) (items.foldlM step' b) := by
  induction items generalizing a b with
  | nil => exact h
  | cons i rest ih =>
      rw [List.foldlM_cons, List.foldlM_cons]
      exact (hStep a b i h).bind fun _ _ hNext => ih hNext

end Alike
end TemplateBundle.Outcome
