/-
When plans are through and with what, by counting rounds.

A settled plan is through in the round in which it starts. A plan that waits starts its
properties in the next round, and two rounds after the first fault among them, or after the
last of them without a fault, it is through itself. The first fault is that of the least round,
and of several in one round the one that stands first. All this is read off the plan, with no
queue in sight; that the queue comes to the same is a matter of the invariant that keeps its
jobs in the order of rounds.
-/
import TypeShape.Proofs.Queue.Paths

namespace TypeShape

/-- The round in which something is through, and what it has come to. -/
structure Completion where
  round : Nat
  result : Except Fault Schema

-- ====================================================== several together

/-- The first fault of several: the others come in later rounds, or stand after it in its
own. -/
structure FirstFault (cs : List Completion) (i round : Nat) (e : Fault) : Prop where
  here : cs[i]? = some ⟨round, .error e⟩
  least : ∀ j round' e', cs[j]? = some ⟨round', .error e'⟩ →
    round < round' ∨ round = round' ∧ i ≤ j

/-- All have come to schemas, the last of them in this round. -/
structure AllThrough (cs : List Completion) (round : Nat) (schemas : List Schema) : Prop where
  results : cs.map (·.result) = schemas.map .ok
  upper : ∀ c ∈ cs, c.round ≤ round
  last : ∃ c ∈ cs, c.round = round

/-- The first fault and its round, or all schemas and the last round. -/
def gather : List Completion → Nat × Except Fault (List Schema)
  | [] => (0, .ok [])
  | c :: rest =>
    match c.result, gather rest with
    | .ok s, (round, .ok others) => (max c.round round, .ok (s :: others))
    | .ok _, (round, .error e) => (round, .error e)
    | .error e, (_, .ok _) => (c.round, .error e)
    | .error e, (round, .error e') =>
      if round < c.round then (round, .error e') else (c.round, .error e)

section Gather

variable {cs : List Completion} {i i' round round' : Nat} {e e' : Fault}
  {schemas schemas' : List Schema}

/-- There is only one first fault. -/
theorem FirstFault.unique (h : FirstFault cs i round e) (h' : FirstFault cs i' round' e') :
    round = round' ∧ e = e' := by
  have before := h.least _ _ _ h'.here
  have after := h'.least _ _ _ h.here
  obtain rfl : i = i' := by omega
  have same := h.here.symm.trans h'.here
  cases same
  exact ⟨rfl, rfl⟩

/-- The first one that fails in the round in which all start decides. -/
theorem FirstFault.eq_of_at_once (h : FirstFault cs i' round' e') (started : round ≤ round')
    (here : cs[i]? = some ⟨round, .error e⟩)
    (before : ∀ j < i, ∀ e'', cs[j]? ≠ some ⟨round, .error e''⟩) : e' = e := by
  have decided := h.least _ _ _ here
  obtain rfl : round = round' := by omega
  have notEarlier : ¬i' < i := fun earlier => before i' earlier e' h.here
  obtain rfl : i' = i := by omega
  cases h.here.symm.trans here
  rfl

/-- There is only one last round. -/
theorem AllThrough.unique (h : AllThrough cs round schemas) (h' : AllThrough cs round' schemas') :
    round = round' ∧ schemas = schemas' := by
  obtain ⟨c, hc, rfl⟩ := h.last
  obtain ⟨c', hc', rfl⟩ := h'.last
  refine ⟨Nat.le_antisymm (h'.upper c hc) (h.upper c' hc'), ?_⟩
  have same := h.results.symm.trans h'.results
  exact List.map_injective_iff.2 (fun _ _ hs => Except.ok.inj hs) same

/-- Where all have come to schemas there is no fault. -/
theorem no_fault (h : cs.map (·.result) = schemas.map .ok) (i : Nat) :
    cs[i]? ≠ some ⟨round, .error e⟩ := by
  intro here
  have mem : Except.error e ∈ cs.map (·.result) :=
    List.mem_map_of_mem (f := (·.result)) (List.mem_of_getElem? here)
  rw [h] at mem
  obtain ⟨s, -, hs⟩ := List.mem_map.1 mem
  cases hs

/-- A fault at the front is the first if no other one comes in an earlier round. -/
theorem firstFault_cons {rest : List Completion}
    (h : ∀ (j round' : Nat) (e' : Fault), rest[j]? = some ⟨round', .error e'⟩ → round ≤ round') :
    FirstFault (⟨round, .error e⟩ :: rest) 0 round e := by
  refine ⟨rfl, ?_⟩
  intro j round' e' hj
  cases j with
  | zero =>
      cases hj
      exact .inr ⟨rfl, Nat.le_refl _⟩
  | succ j =>
      have := h j round' e' hj
      omega

/-- The first fault stays the first behind a schema or a fault of a later round. -/
theorem FirstFault.cons {rest : List Completion} (h : FirstFault rest i round e) {c : Completion}
    (later : ∀ e', c.result = .error e' → round < c.round) :
    FirstFault (c :: rest) (i + 1) round e := by
  refine ⟨h.here, ?_⟩
  intro j round' e' hj
  cases j with
  | zero =>
      cases hj
      exact .inl (later e' rfl)
  | succ j =>
      have := h.least j round' e' hj
      omega

/-- Schemas come of schemas only, and no round is later than the last. -/
theorem gather_ok (h : gather cs = (round, .ok schemas)) :
    cs.map (·.result) = schemas.map .ok ∧ (∀ c ∈ cs, c.round ≤ round)
      ∧ (cs ≠ [] → ∃ c ∈ cs, c.round = round) := by
  induction cs generalizing round schemas with
  | nil =>
      cases h
      exact ⟨rfl, fun c hc => (nomatch hc), fun nonempty => absurd rfl nonempty⟩
  | cons c rest ih =>
      unfold gather at h
      split at h
      case h_1 s round others hs hrest =>
        cases h
        obtain ⟨results, upper, last⟩ := ih hrest
        refine ⟨by rw [List.map_cons, hs, results]; rfl, ?_, fun _ => ?_⟩
        · intro x hx
          rcases List.mem_cons.1 hx with rfl | hx
          · exact Nat.le_max_left ..
          · exact Nat.le_trans (upper x hx) (Nat.le_max_right ..)
        · by_cases later : c.round < round
          · have nonempty : rest ≠ [] := by
              rintro rfl
              cases hrest
              exact Nat.not_lt_zero _ later
            obtain ⟨x, hx, rfl⟩ := last nonempty
            exact ⟨x, List.mem_cons_of_mem _ hx, (Nat.max_eq_right (Nat.le_of_lt later)).symm⟩
          · exact ⟨c, List.mem_cons_self .., (Nat.max_eq_left (Nat.le_of_not_lt later)).symm⟩
      case h_2 => cases h
      case h_3 => cases h
      case h_4 => split at h <;> cases h

/-- A fault that several come to is the first one. -/
theorem gather_error (h : gather cs = (round, .error e)) : ∃ i, FirstFault cs i round e := by
  induction cs generalizing round e with
  | nil => cases h
  | cons c rest ih =>
      obtain ⟨here, result⟩ := c
      unfold gather at h
      split at h
      case h_1 => cases h
      case h_2 s round e hs hrest =>
        cases h
        cases hs
        obtain ⟨i, first⟩ := ih hrest
        exact ⟨i + 1, first.cons fun e' he' => nomatch he'⟩
      case h_3 e round others hs hrest =>
        cases h
        cases hs
        exact ⟨0, firstFault_cons fun j round' e' hj => absurd hj (no_fault (gather_ok hrest).1 j)⟩
      case h_4 e round e' hs hrest =>
        cases hs
        obtain ⟨i, first⟩ := ih hrest
        split at h
        case isTrue earlier =>
          cases h
          exact ⟨i + 1, first.cons fun e' he' => earlier⟩
        case isFalse later =>
          cases h
          refine ⟨0, firstFault_cons fun j round' e' hj => ?_⟩
          have := first.least j round' e' hj
          dsimp only at later
          omega

/-- Completions come to the first fault among them, if there is one. -/
theorem gather_eq_error_iff : gather cs = (round, .error e) ↔ ∃ i, FirstFault cs i round e := by
  refine ⟨gather_error, ?_⟩
  rintro ⟨i, h⟩
  cases gathered : gather cs with
  | mk round' result =>
      cases result with
      | ok schemas => exact absurd h.here (no_fault (gather_ok gathered).1 i)
      | error e' =>
          obtain ⟨i', h'⟩ := gather_error gathered
          obtain ⟨rfl, rfl⟩ := h.unique h'
          rfl

/-- Without a fault they come to all schemas, in the round of the last one. -/
theorem gather_eq_ok_iff (nonempty : cs ≠ []) :
    gather cs = (round, .ok schemas) ↔ AllThrough cs round schemas := by
  have all {round schemas} (h : gather cs = (round, .ok schemas)) :
      AllThrough cs round schemas := by
    obtain ⟨results, upper, last⟩ := gather_ok h
    exact ⟨results, upper, last nonempty⟩
  refine ⟨all, ?_⟩
  intro h
  cases gathered : gather cs with
  | mk round' result =>
      cases result with
      | ok schemas' =>
          obtain ⟨rfl, rfl⟩ := h.unique (all gathered)
          rfl
      | error e =>
          obtain ⟨i, fault⟩ := gather_error gathered
          exact absurd fault.here (no_fault h.results i)

end Gather

-- ================================================================= plans

namespace Plan

mutual

/-- When a plan is through that starts in a round, and with what. -/
def completion : Plan → Nat → Completion
  | .settled outcome, start => ⟨start, outcome.result⟩
  | .waiting _ name properties finish, start =>
    match gather (completions properties (start + 1)) with
    | (round, .error e) => ⟨round + 2, .error e⟩
    | (round, .ok schemas) =>
      ⟨round + 2, (finish (.modelOf name (fields (properties.map (·.1)) schemas))).result⟩
termination_by structural plan => plan

/-- The same for the plans of properties that start together. -/
def completions : List (Property × Plan) → Nat → List Completion
  | [], _ => []
  | (_, plan) :: rest, start => completion plan start :: completions rest start
termination_by structural properties => properties

end

theorem completions_eq_map (properties : List (Property × Plan)) (start : Nat) :
    completions properties start = properties.map fun entry => entry.2.completion start := by
  induction properties with
  | nil => rfl
  | cons entry rest ih => rw [completions, ih, List.map_cons]

/-- What holds of a plan as soon as it holds of the plans it waits for holds of all plans. -/
theorem induction {P : Plan → Prop} (settled : ∀ outcome, P (.settled outcome))
    (waiting : ∀ started name properties finish, (∀ entry ∈ properties, P entry.2) →
      P (.waiting started name properties finish)) (plan : Plan) : P plan := by
  cases plan with
  | settled outcome => exact settled outcome
  | waiting started name properties finish =>
      apply waiting
      intro entry hentry
      exact induction settled waiting entry.2
termination_by plan
decreasing_by
  have := List.sizeOf_lt_of_mem hentry
  obtain ⟨p, inner⟩ := entry
  simp only [Prod.mk.sizeOf_spec, Plan.waiting.sizeOf_spec] at this ⊢
  omega

section Waiting

variable {started : List Event} {name : Text} {properties : List (Property × Plan)}
  {finish : Schema → Traced Schema} {start round : Nat}

/-- Two rounds after the first fault a plan that waits is through with it. -/
theorem completion_of_firstFault {i : Nat} {e : Fault}
    (h : FirstFault (completions properties (start + 1)) i round e) :
    (waiting started name properties finish).completion start = ⟨round + 2, .error e⟩ := by
  rw [completion, gather_eq_error_iff.2 ⟨i, h⟩]

/-- Two rounds after the last of its properties it goes on with their model. -/
theorem completion_of_allThrough {schemas : List Schema}
    (h : AllThrough (completions properties (start + 1)) round schemas) :
    (waiting started name properties finish).completion start
      = ⟨round + 2, (finish (.modelOf name (fields (properties.map (·.1)) schemas))).result⟩ := by
  have nonempty : completions properties (start + 1) ≠ [] := by
    obtain ⟨c, hc, -⟩ := h.last
    exact List.ne_nil_of_mem hc
  rw [completion, (gather_eq_ok_iff nonempty).2 h]

/-- One of the two happens. -/
theorem firstFault_or_allThrough (nonempty : properties ≠ []) (start : Nat) :
    (∃ i round e, FirstFault (completions properties start) i round e)
      ∨ ∃ round schemas, AllThrough (completions properties start) round schemas := by
  have nonempty : completions properties start ≠ [] := by
    rw [completions_eq_map]
    simpa using nonempty
  cases gathered : gather (completions properties start) with
  | mk round result =>
      cases result with
      | error e =>
          obtain ⟨i, h⟩ := gather_eq_error_iff.1 gathered
          exact .inl ⟨i, round, e, h⟩
      | ok schemas => exact .inr ⟨round, schemas, (gather_eq_ok_iff nonempty).1 gathered⟩

end Waiting

/-- Nothing is through before it starts. -/
theorem Waits.start_le_round {plan : Plan} (h : plan.Waits) (start : Nat) :
    start ≤ (plan.completion start).round := by
  induction plan using induction generalizing start with
  | settled outcome => exact Nat.le_refl _
  | waiting started name properties finish ih =>
      have later : ∀ c ∈ completions properties (start + 1), start + 1 ≤ c.round := by
        intro c hc
        rw [completions_eq_map] at hc
        obtain ⟨entry, hentry, rfl⟩ := List.mem_map.1 hc
        exact ih entry hentry (waits_of_mem h.2 hentry) (start + 1)
      obtain ⟨i, round, e, fault⟩ | ⟨round, schemas, all⟩ :=
        firstFault_or_allThrough h.1 (start + 1)
      · rw [completion_of_firstFault fault]
        have := later _ (List.mem_of_getElem? fault.here)
        dsimp only at this ⊢
        omega
      · rw [completion_of_allThrough all]
        obtain ⟨c, hc, rfl⟩ := all.last
        have := later c hc
        dsimp only
        omega

/-- Schemas of all are the schemas of each. -/
theorem forall₂_of_results {properties : List (Property × Plan)} {start : Nat}
    {schemas : List Schema}
    (h : (completions properties start).map (·.result) = schemas.map .ok) :
    List.Forall₂ (fun entry s => (entry.2.completion start).result = .ok s)
      properties schemas := by
  rw [completions_eq_map, List.map_map, ← List.forall₂_eq_eq_eq,
    List.forall₂_map_left_iff, List.forall₂_map_right_iff] at h
  exact h

/-- A schema is the one that the plan comes to in order. -/
theorem inOrder_of_completion {plan : Plan} {start : Nat} {s : Schema}
    (h : (plan.completion start).result = .ok s) : plan.inOrder.result = .ok s := by
  induction plan using induction generalizing start s with
  | settled outcome => exact h
  | waiting started name properties finish ih =>
      rw [completion] at h
      split at h
      case h_1 => cases h
      case h_2 round schemas gathered =>
        have each := forall₂_of_results (gather_ok gathered).1
        have inOrder : List.Forall₂ (fun entry s => entry.2.inOrder.result = .ok s)
            properties schemas :=
          ((List.forall₂_and_left _ _).2 ⟨ih, each⟩).imp fun entry s h => h.1 h.2
        exact result_waiting.2 ⟨_, result_inOrderAll inOrder, h⟩

/-- So are the fields of several. -/
theorem inOrderAll_of_results {properties : List (Property × Plan)} {start : Nat}
    {schemas : List Schema}
    (h : (completions properties start).map (·.result) = schemas.map .ok) :
    (inOrderAll properties).result = .ok (fields (properties.map (·.1)) schemas) :=
  result_inOrderAll ((forall₂_of_results h).imp fun _ _ => inOrder_of_completion)

end Plan

end TypeShape
