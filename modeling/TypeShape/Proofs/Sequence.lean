/-
Steps one after the other, each of which may fail, and the first one that does not.
-/
import Mathlib.Data.List.Basic

namespace TypeShape

variable {ε σ α β : Type}

/-- A sequence that gives something has gone through both of its steps. -/
theorem exists_of_bind_eq_ok {x : Except ε α} {f : α → Except ε β} {b : β}
    (h : x >>= f = .ok b) : ∃ a, x = .ok a ∧ f a = .ok b := by
  cases x with
  | error e => cases h
  | ok a => exact ⟨a, rfl, h⟩

/-- A sequence fails in its first step, or in its second one after the first. -/
theorem bind_eq_error {x : Except ε α} {f : α → Except ε β} {e : ε} (h : x >>= f = .error e) :
    x = .error e ∨ ∃ a, x = .ok a ∧ f a = .error e := by
  cases x with
  | error e' =>
      cases h
      exact .inl rfl
  | ok a => exact .inr ⟨a, rfl, h⟩

/-- A check before a step fails, or is gone. -/
theorem ite_bind_ok {c : Prop} [Decidable c] {e : ε} {a : α} {f : α → Except ε β} :
    ((if c then .ok a else .error e) >>= f) = if c then f a else .error e := by
  split
  case isTrue => rfl
  case isFalse => rfl

/-- Steps for a list fail in the step for one of its elements. -/
theorem exists_of_mapM_eq_error {f : α → Except ε β} {l : List α} {e : ε}
    (h : l.mapM f = .error e) : ∃ a ∈ l, f a = .error e := by
  induction l with
  | nil => cases h
  | cons a l ih =>
      rw [List.mapM_cons] at h
      rcases bind_eq_error h with h | ⟨b, -, h⟩
      · exact ⟨a, List.mem_cons_self .., h⟩
      · rcases bind_eq_error h with h | ⟨bs, -, h⟩
        · obtain ⟨a', hmem, ha'⟩ := ih h
          exact ⟨a', List.mem_cons_of_mem _ hmem, ha'⟩
        · cases h

/-- Steps for a list that give something have gone through the step for each element. -/
theorem exists_of_mapM_eq_ok {f : α → Except ε β} {l : List α} {bs : List β}
    (h : l.mapM f = .ok bs) : ∀ a ∈ l, ∃ b, f a = .ok b := by
  induction l generalizing bs with
  | nil => exact List.forall_mem_nil _
  | cons a l ih =>
      rw [List.mapM_cons] at h
      obtain ⟨b, hfirst, h⟩ := exists_of_bind_eq_ok h
      obtain ⟨rest, hrest, -⟩ := exists_of_bind_eq_ok h
      exact List.forall_mem_cons.2 ⟨⟨b, hfirst⟩, ih hrest⟩

-- ======================================================= first successes

section

variable {step : σ → α → σ} {attempt : σ → α → Option β} {s : σ} {x : α} {b : β}
  {steps after : List α}

/-- Of the attempts along some steps, each in the state that the steps before it lead to, the
first one that succeeds gives `b`, and is followed by the steps `after`. -/
def FirstSuccess (step : σ → α → σ) (attempt : σ → α → Option β) (s : σ) (steps : List α) (b : β)
    (after : List α) : Prop :=
  ∃ before x, steps = before ++ x :: after ∧ attempt (before.foldl step s) x = some b
    ∧ ∀ earlier y later, before = earlier ++ y :: later → attempt (earlier.foldl step s) y = none

theorem not_firstSuccess_nil : ¬ FirstSuccess step attempt s [] b after := by
  rintro ⟨before, x, heq, -⟩
  cases before <;> cases heq

/-- A success at once is the first one. -/
theorem firstSuccess_cons_of_some {b' : β} (h : attempt s x = some b') :
    FirstSuccess step attempt s (x :: steps) b after ↔ b' = b ∧ steps = after := by
  constructor
  · rintro ⟨before, y, heq, hsome, hnone⟩
    cases before with
    | nil =>
        cases heq
        exact ⟨Option.some.inj (h.symm.trans hsome), rfl⟩
    | cons z before =>
        cases heq
        cases h.symm.trans (hnone [] x before rfl)
  · rintro ⟨rfl, rfl⟩
    exact ⟨[], x, rfl, h, fun earlier y later heq => by cases earlier <;> cases heq⟩

/-- Without one, the first success is among the steps that follow. -/
theorem firstSuccess_cons_of_none (h : attempt s x = none) :
    FirstSuccess step attempt s (x :: steps) b after
      ↔ FirstSuccess step attempt (step s x) steps b after := by
  constructor
  · rintro ⟨before, y, heq, hsome, hnone⟩
    cases before with
    | nil =>
        cases heq
        cases h.symm.trans hsome
    | cons z before =>
        cases heq
        exact ⟨before, y, rfl, hsome, fun earlier z later heq =>
          hnone (x :: earlier) z later (by rw [heq, List.cons_append])⟩
  · rintro ⟨before, y, rfl, hsome, hnone⟩
    refine ⟨x :: before, y, rfl, hsome, fun earlier z later heq => ?_⟩
    cases earlier with
    | nil =>
        cases heq
        exact h
    | cons w earlier =>
        cases heq
        exact hnone earlier z later rfl

end

end TypeShape
