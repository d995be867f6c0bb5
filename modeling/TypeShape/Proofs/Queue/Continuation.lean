/-
A plan inside of more: events before it, and something that goes on with its result.

What a plan goes on with is looked at in one turn only, the last one, when the outermost plan
is woken. Until then a run with more around the plan takes the turns of a run of the plan
alone, with the same jobs and with sleepers that differ in how the outermost of them goes on.
So it comes to what the plan comes to by itself, with the rest around it (`run_between`).
-/
import TypeShape.Proofs.Queue.Turn

namespace TypeShape

/-- A plan with events before it, and what goes on with its result. -/
def Plan.between (before : List Event) (next : Schema → Traced Schema) : Plan → Plan
  | .settled outcome => .settled ((outcome >>= next).after before)
  | .waiting started name properties finish =>
    .waiting (before ++ started) name properties fun m => finish m >>= next

namespace Queue

variable {before : List Event} {next : Schema → Traced Schema} {s : State} {z : Sleeper}

-- ================================================================ states

/-- The sleeper with more to go on with, if it is the outermost one. -/
def Sleeper.onto (next : Schema → Traced Schema) (z : Sleeper) : Sleeper :=
  { z with finish := fun m => if z.path = [] then z.finish m >>= next else z.finish m }

/-- The state of a run with more before and after the outermost plan. -/
def State.between (before : List Event) (next : Schema → Traced Schema) (s : State) : State :=
  { s with sleepers := s.sleepers.map (Sleeper.onto next), events := before ++ s.events }

/-- What a state has come to, if its run stops here. -/
def State.answer (s : State) : Traced Schema :=
  ⟨s.events, s.outcome.getD (.error (.unresolvable []))⟩

theorem State.sleeper?_between (before : List Event) (next : Schema → Traced Schema) (s : State)
    (path : Path) :
    (s.between before next).sleeper? path = (s.sleeper? path).map (Sleeper.onto next) :=
  List.find?_map ..

theorem State.replace_between (s : State) (z : Sleeper) :
    (s.between before next).replace (z.onto next) = (s.replace z).between before next := by
  unfold State.replace State.between
  dsimp only
  rw [List.map_map, List.map_map]
  congr 1
  refine List.map_congr_left fun old _ => ?_
  show (if old.path == z.path then z.onto next else old.onto next)
    = Sleeper.onto next (if old.path == z.path then z else old)
  split <;> rfl

theorem State.happen_between (s : State) (events : List Event) :
    (s.between before next).happen events = (s.happen events).between before next := by
  unfold State.happen State.between
  rw [List.append_assoc]

theorem State.conclude_between (s : State) (result : Except Fault Schema) (path : Path) :
    (s.between before next).conclude result path
      = (s.conclude result path).between before next := by
  cases path <;> rfl

-- ================================================================= turns

/-- Inside of the outermost plan everything begins as it did. -/
theorem start_between {path : Path} (inner : path ≠ []) (s : State) (plan : Plan) :
    start (s.between before next) path plan = (start s path plan).between before next := by
  cases plan with
  | settled outcome =>
      show ((s.between before next).happen _).conclude _ path = _
      rw [State.happen_between, State.conclude_between]
      rfl
  | waiting started name properties finish =>
      unfold start State.push State.happen State.between Sleeper.onto
      dsimp only
      rw [List.map_cons, List.append_assoc]
      simp only [if_neg inner]

/-- A delivery inside of the outermost plan is not changed by what is around that. -/
theorem deliver_between (s : State) (z : Sleeper) (index : Nat) (result : Except Fault Schema) :
    deliver (s.between before next) (z.onto next) index result
      = (deliver s z index result).between before next := by
  cases result with
  | error e =>
      show ((s.between before next).replace
        (Sleeper.onto next { z with called := true })).push _ = _
      rw [State.replace_between]
      rfl
  | ok schema =>
      let z' : Sleeper := { z with results := z.results ++ [(index, schema)] }
      show (if z'.results.length = z'.properties.length then
          ((s.between before next).replace (Sleeper.onto next { z' with called := true })).push
            [.wake z'.path (.ok z'.model)]
        else (s.between before next).replace (z'.onto next))
        = State.between before next (if z'.results.length = z'.properties.length then
          (s.replace { z' with called := true }).push [.wake z'.path (.ok z'.model)]
        else s.replace z')
      rw [State.replace_between, State.replace_between]
      split <;> rfl

/-- The plans that are still to begin are not the outermost one. -/
def Job.Inner : Job → Prop
  | .start path _ => path ≠ []
  | _ => True

/-- The job wakes the outermost plan. -/
def Job.Last : Job → Prop
  | .wake path _ => path = []
  | _ => False

/-- Before the last turn every turn is that of the plan alone. -/
theorem turn_between {job : Job} (inner : job.Inner) (early : ¬ job.Last) (s : State) :
    turn (s.between before next) job = (turn s job).between before next := by
  cases job with
  | start path plan => exact start_between inner s plan
  | ended path index result =>
      have found := s.sleeper?_between before next path
      cases hz : s.sleeper? path with
      | none =>
          rw [hz] at found
          rw [turn_ended_of_none hz, turn_ended_of_none found]
      | some z =>
          rw [hz] at found
          rw [turn_ended_of_some hz, turn_ended_of_some found, deliver_between]
          show (if z.called then _ else _) = _
          split <;> rfl
  | wake path model =>
      have inside : path ≠ [] := early
      unfold turn
      dsimp only
      rw [s.sleeper?_between]
      cases hz : s.sleeper? path with
      | none => rfl
      | some z =>
          have same : z.path = path := by simpa using List.find?_some hz
          cases model with
          | error e => exact State.conclude_between ..
          | ok m =>
              have finish : (z.onto next).finish m = z.finish m := if_neg (same ▸ inside)
              dsimp only [Option.map_some]
              rw [finish, State.happen_between, State.conclude_between]

/-- The outermost plan has begun and has not ended. -/
structure State.Running (s : State) : Prop where
  outcome : s.outcome = none
  jobs : ∀ job ∈ s.jobs, job.Inner

namespace State.Running

theorem push (h : s.Running) {jobs : List Job} (inner : ∀ job ∈ jobs, job.Inner) :
    (s.push jobs).Running :=
  ⟨h.outcome, fun job hjob => (List.mem_append.1 hjob).elim (h.jobs job) (inner job)⟩

theorem conclude (h : s.Running) {path : Path} (inner : path ≠ [])
    (result : Except Fault Schema) : (s.conclude result path).Running := by
  cases path with
  | nil => exact absurd rfl inner
  | cons index path => exact h.push (List.forall_mem_singleton.2 (show Job.Inner _ from trivial))

/-- A delivery only queues the waking of a sleeper. -/
theorem deliver (h : s.Running) (z : Sleeper) (index : Nat) (result : Except Fault Schema) :
    (deliver s z index result).Running := by
  have woken (s : State) (h : s.Running) (path : Path) (model : Except Fault Schema) :
      (s.push [.wake path model]).Running :=
    h.push (List.forall_mem_singleton.2 (show Job.Inner _ from trivial))
  cases result with
  | error e => exact woken (s.replace _) ⟨h.outcome, h.jobs⟩ ..
  | ok schema =>
      unfold Queue.deliver
      dsimp only
      split
      case isTrue => exact woken (s.replace _) ⟨h.outcome, h.jobs⟩ ..
      case isFalse => exact ⟨h.outcome, h.jobs⟩

/-- Before the last turn the outermost plan neither ends nor begins again. -/
theorem turn (h : s.Running) {job : Job} (inner : job.Inner) (early : ¬ job.Last) :
    (turn s job).Running := by
  -- an outcome could only come of the outermost plan, and no job begins or wakes it
  cases job with
  | start path plan =>
      cases plan with
      | settled outcome => exact conclude (s := s.happen _) ⟨h.outcome, h.jobs⟩ inner _
      | waiting started name properties finish =>
          unfold Queue.turn Queue.start
          apply push
          case h => exact ⟨h.outcome, h.jobs⟩
          intro job hjob
          obtain ⟨entry, -, rfl⟩ := List.mem_map.1 hjob
          exact List.cons_ne_nil _ _
  | ended path index result =>
      cases hz : s.sleeper? path with
      | none =>
          rw [turn_ended_of_none hz]
          exact h
      | some z =>
          rw [turn_ended_of_some hz]
          split
          case isTrue => exact h
          case isFalse => exact h.deliver z index result
  | wake path model =>
      unfold Queue.turn
      dsimp only
      split
      case h_1 => exact h
      case h_2 z hz =>
        cases model with
        | error e => exact h.conclude early _
        | ok m => exact conclude (s := s.happen _) ⟨h.outcome, h.jobs⟩ early _

end State.Running

-- ================================================================== runs

/-- After the outcome nothing happens. -/
theorem run_of_outcome {result : Except Fault Schema} (h : s.outcome = some result)
    (rounds : Nat) : run rounds s = s := by
  cases rounds with
  | zero => rfl
  | succ rounds =>
      unfold run
      rw [h]

/-- A waking that nobody waits for is forgotten. -/
theorem turn_wake_of_none {path : Path} {model : Except Fault Schema}
    (hz : s.sleeper? path = none) : turn s (.wake path model) = s := by
  unfold turn
  dsimp only
  rw [hz]

/-- The last turn is that of the plan alone and what goes on with its result. -/
theorem answer_turn_last (before : List Event) (next : Schema → Traced Schema)
    (m : Except Fault Schema) (hz : s.sleeper? [] = some z) :
    ∃ result result', (turn s (.wake [] m)).outcome = some result
      ∧ (turn (s.between before next) (.wake [] m)).outcome = some result'
      ∧ (turn (s.between before next) (.wake [] m)).answer
        = ((turn s (.wake [] m)).answer >>= next).after before := by
  have same : z.path = [] := by simpa using List.find?_some hz
  have found := s.sleeper?_between before next []
  rw [hz] at found
  cases m with
  | error e =>
      unfold turn
      dsimp only
      rw [hz, found]
      exact ⟨_, _, rfl, rfl, rfl⟩
  | ok m =>
      have finish : (z.onto next).finish m = z.finish m >>= next := if_pos same
      unfold turn
      dsimp only
      rw [hz, found]
      dsimp only [Option.map_some]
      refine ⟨_, _, rfl, rfl, ?_⟩
      show (⟨before ++ s.events ++ ((z.onto next).finish m).events,
          ((z.onto next).finish m).result⟩ : Traced Schema)
        = (((z.finish m).after s.events) >>= next).after before
      rw [finish, Traced.after_bind, List.append_assoc]
      rfl

/-- A run with more around the plan comes to what the plan alone comes to, with the rest
around it. -/
theorem answer_run_between (before : List Event) (next : Schema → Traced Schema) (rounds : Nat)
    (h : s.Running) :
    (run rounds (s.between before next)).answer
      = ((run rounds s).answer >>= next).after before := by
  have stopped {s : State} (h : s.Running) :
      (s.between before next).answer = (s.answer >>= next).after before := by
    obtain ⟨jobs, sleepers, events, outcome⟩ := s
    cases h.outcome
    rfl
  induction rounds generalizing s with
  | zero => exact stopped h
  | succ rounds ih =>
      obtain ⟨jobs, sleepers, events, outcome⟩ := s
      cases h.outcome
      cases jobs with
      | nil => exact stopped h
      | cons job jobs =>
          let rest : State := ⟨jobs, sleepers, events, none⟩
          have left : rest.Running := ⟨rfl, fun j hj => h.jobs j (List.mem_cons_of_mem _ hj)⟩
          show (run rounds (turn (rest.between before next) job)).answer
            = ((run rounds (turn rest job)).answer >>= next).after before
          -- only the waking of the outermost plan tells the two runs apart: with it one is over and
          -- the other does the rest
          by_cases last : job.Last
          · match job, last with
            | .wake [] m, _ =>
                cases hz : rest.sleeper? [] with
                | none =>
                    have found := rest.sleeper?_between before next []
                    rw [hz] at found
                    rw [turn_wake_of_none hz, turn_wake_of_none found]
                    exact ih left
                | some z =>
                    obtain ⟨result, result', ended, ended', answer⟩ :=
                      answer_turn_last before next m hz
                    rw [run_of_outcome ended, run_of_outcome ended', answer]
          · have inner := h.jobs job (List.mem_cons_self ..)
            rw [turn_between inner last]
            exact ih (left.turn inner last)

end Queue

/-- A plan inside of more comes to what it comes to by itself, with the rest around it. -/
theorem Plan.run_between (plan : Plan) (before : List Event) (next : Schema → Traced Schema) :
    (plan.between before next).run = (plan.run >>= next).after before := by
  cases plan with
  | settled outcome => rfl
  | waiting started name properties finish =>
      let begun := Queue.start ⟨[], [], [], none⟩ [] (.waiting started name properties finish)
      have running : begun.Running := ⟨rfl, fun job hjob => by
        obtain ⟨entry, -, rfl⟩ := List.mem_map.1 hjob
        exact List.cons_ne_nil _ _⟩
      have rounds : 3 * (1 + sizes properties) = 3 * sizes properties + 2 + 1 := by omega
      have whole := Queue.answer_run_between before next (3 * sizes properties + 2) running
      show (Queue.run (3 * (1 + sizes properties)) _).answer
        = ((Queue.run (3 * (1 + sizes properties)) _).answer >>= next).after before
      rw [rounds]
      exact whole

end TypeShape
