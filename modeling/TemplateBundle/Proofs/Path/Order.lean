import TemplateBundle.Build.Target

/-! The order of paths, and the templates of a target in that order: each once, whichever of the
patterns match it. -/
namespace TemplateBundle

namespace Component

theorem before_name {a b : String} : (name a).before (name b) = true ↔ a < b := decide_eq_true_iff

theorem before_irrefl (a : Component) : a.before a = false := by
  cases a with
  | root => rfl
  | here => rfl
  | up => rfl
  | name s => exact decide_eq_false (String.lt_irrefl s)

theorem before_trans {a b c : Component} (hab : a.before b = true) (hbc : b.before c = true) :
    a.before c = true := by
  cases a <;> cases b <;> cases c <;>
    first
    | rfl
    | exact absurd hab Bool.false_ne_true
    | exact absurd hbc Bool.false_ne_true
    | skip
  case name.name.name =>
    exact before_name.mpr (String.lt_trans (before_name.mp hab) (before_name.mp hbc))

/-- Of two components that differ one comes first. -/
theorem before_of_ne {a b : Component} (hNe : a ≠ b) (h : b.before a = false) :
    a.before b = true := by
  cases a <;> cases b <;>
    first
    | rfl
    | exact absurd rfl hNe
    | exact absurd h.symm Bool.false_ne_true
    | skip
  case name.name a b =>
    refine before_name.mpr (Decidable.byContradiction fun hNot => hNe ?_)
    have hAbove := String.not_lt.mp (of_decide_eq_false h)
    exact congrArg name (String.le_antisymm hAbove (String.not_lt.mp hNot))

end Component

theorem componentsBefore_cons {a b : Component} {as bs : List Component} :
    componentsBefore (a :: as) (b :: bs) = true ↔
      a.before b = true ∨ a = b ∧ componentsBefore as bs = true := by
  rw [componentsBefore]
  split
  · next hSame =>
    subst hSame
    simp [Component.before_irrefl]
  · next hNe => simp [hNe]

theorem componentsBefore_irrefl (as : List Component) : componentsBefore as as = false := by
  induction as with
  | nil => rfl
  | cons a as ih => rw [componentsBefore, if_pos rfl, ih]

theorem componentsBefore_trans {as bs cs : List Component}
    (hab : componentsBefore as bs = true) (hbc : componentsBefore bs cs = true) :
    componentsBefore as cs = true := by
  induction as generalizing bs cs with
  | nil =>
      cases cs with
      | nil => cases bs <;> cases hbc
      | cons c cs => rfl
  | cons a as ih =>
      cases bs with
      | nil => cases hab
      | cons b bs =>
          cases cs with
          | nil => cases hbc
          | cons c cs =>
              rw [componentsBefore_cons] at hab hbc ⊢
              rcases hab with hab | ⟨rfl, hab⟩
              · rcases hbc with hbc | ⟨rfl, -⟩
                · exact .inl (Component.before_trans hab hbc)
                · exact .inl hab
              · rcases hbc with hbc | ⟨rfl, hbc⟩
                · exact .inl hbc
                · exact .inr ⟨rfl, ih hab hbc⟩

theorem componentsBefore_of_ne {as bs : List Component} (hNe : as ≠ bs)
    (h : componentsBefore bs as = false) : componentsBefore as bs = true := by
  induction as generalizing bs with
  | nil =>
      cases bs with
      | nil => exact absurd rfl hNe
      | cons b bs => rfl
  | cons a as ih =>
      cases bs with
      | nil => cases h
      | cons b bs =>
          rw [componentsBefore_cons]
          by_cases hSame : a = b
          · subst hSame
            rw [componentsBefore, if_pos rfl] at h
            exact .inr ⟨rfl, ih (fun hRest => hNe (hRest ▸ rfl)) h⟩
          · rw [componentsBefore, if_neg (Ne.symm hSame)] at h
            exact .inl (Component.before_of_ne hSame h)

namespace Path

theorem before_trans {p q r : Path} (hpq : p.before q = true) (hqr : q.before r = true) :
    p.before r = true := componentsBefore_trans hpq hqr

theorem before_of_not_same {p q : Path} (hNe : p.same q = false) (h : q.before p = false) :
    p.before q = true :=
  componentsBefore_of_ne (ne_of_beq_false hNe) h

theorem before_irrefl (p : Path) : p.before p = false := componentsBefore_irrefl p.components

theorem same_iff {p q : Path} : p.same q = true ↔ p.components = q.components := beq_iff_eq

theorem same_refl (p : Path) : p.same p = true := same_iff.mpr rfl

theorem same_trans {p q r : Path} (hpq : p.same q = true) (hqr : q.same r = true) :
    p.same r = true := same_iff.mpr ((same_iff.mp hpq).trans (same_iff.mp hqr))

theorem same_symm {p q : Path} (h : p.same q = true) : q.same p = true :=
  same_iff.mpr (same_iff.mp h).symm

/-- Equal paths come before the same paths and behind the same. -/
theorem before_congr {p q r : Path} (h : p.same q = true) :
    p.before r = q.before r ∧ r.before p = r.before q := by
  rw [same_iff] at h
  simp only [before, h, and_self]

theorem not_same_of_before {p q : Path} (h : p.before q = true) : p.same q = false := by
  refine Bool.eq_false_iff.mpr fun hSame => ?_
  rw [(before_congr hSame).1, before_irrefl] at h
  cases h

/-- What is equal to one of two paths that differ is not equal to the other. -/
theorem not_same_of_same {p q r : Path} (hpq : p.same q = true) (hpr : p.same r = false) :
    q.same r = false :=
  Bool.eq_false_iff.mpr fun hqr => Bool.false_ne_true (hpr.symm.trans (same_trans hpq hqr))

theorem not_before_trans {p q r : Path} (hpq : q.before p = false) (hqr : r.before q = false) :
    r.before p = false := by
  refine Bool.eq_false_iff.mpr fun hrp => ?_
  cases hSame : q.same r with
  | true =>
      rw [(before_congr hSame).1] at hpq
      exact Bool.false_ne_true (hpq.symm.trans hrp)
  | false =>
      have hqp := before_trans (before_of_not_same hSame hqr) hrp
      exact Bool.false_ne_true (hpq.symm.trans hqp)

theorem not_before_of_before {p q : Path} (h : p.before q = true) : q.before p = false := by
  refine Bool.eq_false_iff.mpr fun hqp => ?_
  exact Bool.false_ne_true ((before_irrefl p).symm.trans (before_trans h hqp))

/-- The order in which paths are sorted. -/
theorem notBehind_trans (p q r : Path) (hpq : (!q.before p) = true) (hqr : (!r.before q) = true) :
    (!r.before p) = true := by
  simp only [Bool.not_eq_true'] at hpq hqr ⊢
  exact not_before_trans hpq hqr

theorem notBehind_total (p q : Path) : (!q.before p || !p.before q) = true := by
  cases hqp : q.before p with
  | false => rfl
  | true => simp [not_before_of_before hqp]

/-- Paths that are sorted are in order. -/
theorem pairwise_mergeSort (files : List Path) :
    (files.mergeSort fun p q => !q.before p).Pairwise fun p q => q.before p = false := by
  have hSorted := files.pairwise_mergeSort notBehind_trans notBehind_total
  simpa only [Bool.not_eq_true'] using hSorted

end Path

namespace BuildTarget

/-- What is in a list after a path was put into it. -/
theorem mem_of_mem_insertPath {p q : Path} {sorted : List Path} (h : q ∈ insertPath p sorted) :
    q = p ∨ q ∈ sorted := by
  induction sorted with
  | nil => exact .inl (List.mem_singleton.mp h)
  | cons first rest ih =>
      rw [insertPath] at h
      split at h
      · rcases List.mem_cons.mp h with rfl | hRest
        · exact .inr List.mem_cons_self
        · exact (ih hRest).imp_right (List.mem_cons_of_mem first)
      split at h
      · exact .inr h
      · exact List.mem_cons.mp h

/-- A list in strict order stays so: what is there already is not put in again. -/
theorem pairwise_insertPath (p : Path) {sorted : List Path}
    (h : sorted.Pairwise fun a b => a.before b = true) :
    (insertPath p sorted).Pairwise fun a b => a.before b = true := by
  induction sorted with
  | nil => exact List.pairwise_singleton _ p
  | cons first rest ih =>
      obtain ⟨hFirst, hRest⟩ := List.pairwise_cons.mp h
      rw [insertPath]
      split
      · next hBefore =>
        refine List.pairwise_cons.mpr ⟨fun q hq => ?_, ih hRest⟩
        rcases mem_of_mem_insertPath hq with rfl | hq
        · exact hBefore
        · exact hFirst q hq
      split
      · exact h
      · next hNotBefore hNotSame =>
        have hNotSame : p.same first = false :=
          Bool.eq_false_iff.mpr fun hSame => hNotSame (Path.same_symm hSame)
        have hp : p.before first = true :=
          Path.before_of_not_same hNotSame (Bool.eq_false_iff.mpr hNotBefore)
        refine List.pairwise_cons.mpr ⟨fun q hq => ?_, h⟩
        rcases List.mem_cons.mp hq with rfl | hq
        · exact hp
        · exact Path.before_trans hp (hFirst q hq)

theorem pairwise_foldl_insertPath {files sorted : List Path}
    (h : sorted.Pairwise fun a b => a.before b = true) :
    (files.foldl (fun sorted p => insertPath p sorted) sorted).Pairwise
      fun a b => a.before b = true := by
  induction files generalizing sorted with
  | nil => exact h
  | cons p rest ih => exact ih (pairwise_insertPath p h)

/-- The templates of a target come in strict order. -/
theorem pairwise_expandSources {target : BuildTarget} {tree : FileTree} {base : Path}
    {sources : List Path} (h : target.expandSources tree base = .ok sources) :
    sources.Pairwise fun a b => a.before b = true := by
  obtain ⟨files, -, h⟩ := Outcome.bind_eq_ok.mp h
  cases h
  exact pairwise_foldl_insertPath .nil

end BuildTarget
end TemplateBundle
