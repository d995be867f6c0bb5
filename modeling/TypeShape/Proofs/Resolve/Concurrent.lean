/-
Resolution of a declaration with all its properties at work together.

It comes to the same as resolution by plain recursion: the same schemas, failure in the
same cases, and after a success the same stretches of calls, though those of different
properties may come in another order.
-/
import TypeShape.Batch.Basic
import TypeShape.Proofs.Queue.Together

namespace TypeShape

-- ================================================================ calls

namespace Traced

variable {α β : Type}

/-- Reorderings of what happened reorder the calls. -/
theorem calls_perm {x : Traced α} {y : Traced β} (h : x.events.Perm y.events) :
    x.calls.Perm y.calls :=
  h.filterMap _

/-- A computation fails exactly when it gives nothing. -/
theorem fails_iff {x : Traced α} : (∃ e, x.result = .error e) ↔ ∀ a, x.result ≠ .ok a := by
  cases h : x.result with
  | error e => simp
  | ok a => simp

end Traced

-- ========================================================= declarations

namespace Batch

variable (read : LiteralReader) (r : Registry) (d : Declaration)

/-- Resolving a declaration, with its properties taking turns in the queue, always comes
to an end, gives a schema exactly when the plain recursion gives it, and so fails exactly
when that fails. After a success the calls are those of the recursion in some order: each
property does its stretches without a pause, and a stretch has the factory's call before
those of the modifiers, in the order of their chain. -/
theorem resolve_like_sequential :
    (∃ result, (Queue.run (3 * (Plan.ofDeclaration read r d).size)
        (.initial (Plan.ofDeclaration read r d))).outcome = some result
      ∧ (resolve read r d).result = result)
    ∧ (∀ s, (resolve read r d).result = .ok s
        ↔ (Sequential.ofDeclaration read r d).result = .ok s)
    ∧ ((∃ e, (resolve read r d).result = .error e)
        ↔ ∃ e, (Sequential.ofDeclaration read r d).result = .error e)
    ∧ ∀ s, (resolve read r d).result = .ok s →
        (resolve read r d).calls.Perm (Sequential.ofDeclaration read r d).calls
        ∧ (Sequential.ofDeclaration read r d).events
            = (Sequential.stretchesOf read r d).flatten
        ∧ ∃ done : List (List Event), (resolve read r d).events = done.flatten
            ∧ done.Perm (Sequential.stretchesOf read r d) := by
  have hwaits := Plan.waits_ofDeclaration read r d
  have horder := Plan.inOrder_ofDeclaration read r d
  -- the queue gives what the plan gives in order, and that is the plain recursion
  have hok : ∀ s, (resolve read r d).result = .ok s
      ↔ (Sequential.ofDeclaration read r d).result = .ok s := by
    intro s
    rw [← horder]
    exact Plan.result_run hwaits
  refine ⟨?_, hok, ?_, ?_⟩
  · obtain ⟨result, houtcome, -⟩ := Plan.outcome_run hwaits
    refine ⟨result, houtcome, ?_⟩
    show (Queue.run _ _).outcome.getD _ = result
    rw [houtcome]
    rfl
  · rw [Traced.fails_iff, Traced.fails_iff]
    exact forall_congr' fun s => not_congr (hok s)
  · intro s hs
    have hplan : (Plan.ofDeclaration read r d).inOrder.result = .ok s :=
      (Plan.result_run hwaits).1 hs
    obtain ⟨done, hdone, hperm⟩ := Plan.events_run hwaits hplan
    have hevents := Plan.events_inOrder hplan
    rw [Plan.stretches_ofDeclaration read r hplan] at hperm hevents
    rw [horder] at hevents
    refine ⟨Traced.calls_perm ?_, hevents, done, hdone, hperm⟩
    rw [hevents]
    -- stretches are done whole, so a permutation of them is one of their calls
    show (Plan.ofDeclaration read r d).run.events.Perm _
    rw [hdone]
    exact hperm.flatten

/-- A property of a registered type with a modifier, beside a list of inline objects. -/
theorem resolve_like_sequential_boxes :
    let read : LiteralReader := fun name _ =>
      .ok ⟨name, .null, [⟨"c", "Box<1>&Max<2>", false⟩], .null⟩
    let r : Registry := {
      types := [("Box<>", fun _ => .ok (some (.string {})))]
      modifiers := [("Max<>", fun s _ => .ok (some (s.constrain (.mostLength 2))))]
      interfaces := [] }
    let d : Declaration :=
      ⟨"D", .null, [⟨"a", "{c:Box}[]&Max<3>", false⟩, ⟨"b", "Box<4>", true⟩], .null⟩
    (∃ s, (resolve read r d).result = .ok s)
    ∧ (resolve read r d).calls.Perm (Sequential.ofDeclaration read r d).calls := by
  refine ⟨⟨_, rfl⟩, ((resolve_like_sequential _ _ _).2.2.2 _ rfl).1⟩

end Batch

end TypeShape
