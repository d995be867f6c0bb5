/-
Every run ends, with an outcome.

# The measure

A plan begins once, is woken at most once and ends at most once, so a queued beginning
is worth three turns for every plan in it, a sleeper that nobody has called yet two, a
waking two and an ending one. Every turn makes the whole smaller, and at the start it is
the bound that a run is given.

# No waking is lost

When nothing is queued and there is no outcome, the outermost plan sleeps; and below
each sleeper that nobody has called there is another one. Sleepers that lie ever deeper
cannot be finitely many.
-/
import Mathlib.Algebra.GroupWithZero.Nat
import Mathlib.Algebra.Order.BigOperators.Group.List
import Mathlib.Algebra.Order.Group.Nat
import TypeShape.Proofs.Queue.Turn

namespace TypeShape.Queue

variable {plan : Plan} {s : State}

-- =========================================================== the measure

/-- How many turns a job can still lead to. -/
def Job.worth : Job → Nat
  | .start _ inner => 3 * inner.size
  | .ended .. => 1
  | .wake .. => 2

/-- How many turns can still follow. -/
def State.worth (s : State) : Nat :=
  (s.jobs.map Job.worth).sum + 2 * s.uncalled.length

/-- What happens is worth nothing. -/
@[simp] theorem State.worth_happen (s : State) (events : List Event) :
    (s.happen events).worth = s.worth :=
  rfl

theorem State.worth_push (s : State) (jobs : List Job) :
    (s.push jobs).worth = s.worth + (jobs.map Job.worth).sum := by
  show ((s.jobs ++ jobs).map Job.worth).sum + 2 * s.uncalled.length = _
  rw [List.map_append, List.sum_append, State.worth]
  omega

theorem State.worth_conclude (s : State) (result : Except Fault Schema) (path : Path) :
    (s.conclude result path).worth ≤ s.worth + 1 := by
  cases path with
  | nil => exact Nat.le_succ _
  | cons i path => exact Nat.le_of_eq (s.worth_push _)

/-- The beginnings of the properties of a plan are worth what the properties are. -/
theorem worth_starts (path : Path) (properties : List (Property × Plan)) (first : Nat) :
    (((properties.zipIdx first).map fun (entry : (Property × Plan) × Nat) =>
        Job.start (entry.2 :: path) entry.1.2).map Job.worth).sum
      = 3 * Plan.sizes properties := by
  induction properties generalizing first with
  | nil => rfl
  | cons entry rest ih =>
      obtain ⟨p, inner⟩ := entry
      rw [List.zipIdx_cons, List.map_cons, List.map_cons, List.sum_cons, ih, Plan.sizes]
      show 3 * inner.size + _ = _
      omega

section Turns

variable {path : Path} {z : Sleeper} {i : Nat} {result : Except Fault Schema}

/-- A sleeper that is called gives up the two turns that it was worth. -/
theorem State.worth_replace (hnodup : s.asleep.Nodup) (hz : s.sleeper? path = some z)
    (huncalled : z.called = false) {z' : Sleeper} (hpath : z'.path = path) :
    (s.replace z').worth + (if z'.called then 2 else 0) = s.worth := by
  have hlength := (State.uncalled_replace hnodup hz huncalled hpath).length_eq
  show (s.jobs.map Job.worth).sum + _ + _ = (s.jobs.map Job.worth).sum + _
  cases hcalled : z'.called with
  | true =>
      rw [hcalled, if_pos rfl, List.length_append, List.length_singleton] at hlength
      rw [if_pos rfl]
      omega
  | false =>
      rw [hcalled, if_neg (by simp), List.nil_append] at hlength
      rw [if_neg (by simp), hlength]
      rfl

/-- Calling a sleeper costs nothing, as its waking is worth as much as it was. -/
theorem State.worth_call (hnodup : s.asleep.Nodup) (hz : s.sleeper? z.path = some z)
    (huncalled : z.called = false) (results : List (Nat × Schema)) (model : Except Fault Schema) :
    ((s.replace { z with results, called := true }).push [.wake z.path model]).worth
      = s.worth := by
  let z' : Sleeper := { z with results, called := true }
  have hworth := State.worth_replace hnodup hz huncalled (show z'.path = z.path from rfl)
  rw [if_pos rfl] at hworth
  rw [State.worth_push]
  exact hworth

/-- Delivering an ending costs nothing, a waking included. -/
theorem worth_deliver (hnodup : s.asleep.Nodup) (hz : s.sleeper? path = some z)
    (huncalled : z.called = false) : (deliver s z i result).worth = s.worth := by
  obtain rfl : z.path = path := (State.sleeper_split hnodup hz).1
  cases result with
  | error e => exact State.worth_call hnodup hz huncalled _ _
  | ok schema =>
      show State.worth (if _ then _ else _) = _
      split
      · exact State.worth_call hnodup hz huncalled _ _
      · let z' : Sleeper := { z with results := z.results ++ [(i, schema)] }
        have hworth := State.worth_replace hnodup hz huncalled (show z'.path = z.path from rfl)
        rwa [if_neg (by simp [z', huncalled])] at hworth

/-- The turn of a beginning takes one of the turns that the plan is worth. -/
theorem worth_start (s : State) (path : Path) (inner : Plan) :
    (start s path inner).worth < 3 * inner.size + s.worth := by
  cases inner with
  | settled outcome =>
      have hconclude := State.worth_conclude (s.happen outcome.events) outcome.result path
      rw [State.worth_happen] at hconclude
      show (State.conclude _ _ _).worth < 3 * 1 + _
      omega
  | waiting started name properties finish =>
      show (State.push _ _).worth < 3 * (1 + Plan.sizes properties) + _
      rw [State.worth_push, worth_starts]
      show (s.jobs.map Job.worth).sum + 2 * (path :: s.uncalled).length + _
        < _ + ((s.jobs.map Job.worth).sum + 2 * s.uncalled.length)
      rw [List.length_cons]
      omega

/-- The turn of an ending queues nothing but a waking of a sleeper. -/
theorem worth_ended (hnodup : s.asleep.Nodup) :
    (turn s (.ended path i result)).worth = s.worth := by
  cases hz : s.sleeper? path with
  | none => rw [turn_ended_of_none hz]
  | some z =>
      rw [turn_ended_of_some hz]
      cases huncalled : z.called with
      | true => rfl
      | false => exact worth_deliver hnodup hz huncalled

/-- The turn of a waking queues nothing but an ending. -/
theorem worth_wake (s : State) (path : Path) (model : Except Fault Schema) :
    (turn s (.wake path model)).worth ≤ s.worth + 1 := by
  unfold turn
  dsimp only
  cases s.sleeper? path with
  | none => exact Nat.le_succ _
  | some z =>
      cases model with
      | error e => exact State.worth_conclude s (.error e) path
      | ok m => exact State.worth_conclude (s.happen _) (z.finish m).result path

/-- Every turn makes the worth of the queue smaller. -/
theorem worth_turn {job : Job} {jobs : List Job} (h : Inv plan [] s)
    (hjobs : s.jobs = job :: jobs) : (turn { s with jobs } job).worth < s.worth := by
  have hworth : s.worth = job.worth + State.worth { s with jobs } := by
    show (s.jobs.map Job.worth).sum + _ = _ + ((jobs.map Job.worth).sum + _)
    rw [hjobs, List.map_cons, List.sum_cons, Nat.add_assoc]
    rfl
  rw [hworth]
  cases job with
  | start path inner => exact worth_start _ path inner
  | ended path i result =>
      have hnodup : (State.asleep { s with jobs }).Nodup := h.asleep_nodup
      rw [worth_ended hnodup]
      exact Nat.lt_one_add_iff.2 (Nat.le_refl _)
  | wake path model =>
      have hwake := worth_wake { s with jobs } path model
      show _ < 2 + _
      omega

end Turns

-- ============================================================== the runs

/-- A run with rounds for all that can follow keeps the invariant and stops only at an
outcome or with nothing queued. -/
theorem Inv.run {rounds : Nat} (hwaits : plan.Waits) (h : Inv plan [] s)
    (hworth : s.worth ≤ rounds) :
    Inv plan [] (run rounds s)
      ∧ ((Queue.run rounds s).outcome = none → (Queue.run rounds s).jobs = []) := by
  induction rounds generalizing s with
  | zero =>
      refine ⟨h, fun _ => ?_⟩
      cases hjobs : s.jobs with
      | nil => exact hjobs
      | cons job jobs =>
          have hless := worth_turn h hjobs
          omega
  | succ rounds ih =>
      obtain ⟨jobs, sleepers, events, outcome⟩ := s
      cases outcome with
      | some result => exact ⟨h, fun hnone => (nomatch hnone)⟩
      | none =>
          cases jobs with
          | nil => exact ⟨h, fun _ => rfl⟩
          | cons job jobs =>
              have hless := worth_turn h rfl
              exact ih (h.turn hwaits rfl) (by omega)

/-- A sleeper that nobody has called waits for a property: it has fewer results than
properties. -/
theorem Sleeper.Right.exists_missing {z : Sleeper} (h : z.Right plan)
    (huncalled : z.called = false) : ∃ i < z.properties.length, i ∉ z.results.map (·.1) := by
  by_contra hall
  push Not at hall
  have hsubset : List.range z.properties.length ⊆ z.results.map (·.1) := fun i hi =>
    hall i (List.mem_range.1 hi)
  have hle := (List.subperm_of_subset List.nodup_range hsubset).length_le
  rw [List.length_range, List.length_map] at hle
  have hlt := h.unfinished huncalled
  omega

/-- What a sleeper misses is what a job is about, or sleeps in turn. -/
theorem Inv.job_or_asleep (h : Inv plan [] s) {z : Sleeper} (hz : z ∈ s.sleepers)
    (huncalled : z.called = false) {i : Nat} (hi : i < z.properties.length)
    (hnone : i ∉ z.results.map (·.1)) :
    (∃ job ∈ s.jobs, job.about = i :: z.path) ∨ i :: z.path ∈ s.uncalled := by
  have hactive := (h.missing z hz huncalled i hi).resolve_left hnone
  rw [List.nil_append] at hactive
  exact (List.mem_append.1 hactive).imp_left List.mem_map.1

/-- Below a sleeper that nobody has called, when nothing is queued, lies another one. -/
theorem Inv.uncalled_below (h : Inv plan [] s) (hjobs : s.jobs = []) {path : Path}
    (hpath : path ∈ s.uncalled) : ∃ i, i :: path ∈ s.uncalled := by
  obtain ⟨z, hz, rfl⟩ := List.mem_map.1 hpath
  obtain ⟨hzmem, huncalled⟩ := List.mem_filter.1 hz
  have huncalled : z.called = false := by simpa using huncalled
  obtain ⟨i, hi, hnone⟩ := (h.sleepers z hzmem).exists_missing huncalled
  refine ⟨i, (h.job_or_asleep hzmem huncalled hi hnone).resolve_left ?_⟩
  rintro ⟨job, hjob, -⟩
  rw [hjobs] at hjob
  cases hjob

/-- No waking is lost: with nothing queued there is an outcome. -/
theorem Inv.outcome_of_no_jobs (h : Inv plan [] s) (hjobs : s.jobs = []) :
    s.outcome ≠ none := by
  intro hnone
  have hroot : [] ∈ s.uncalled := by
    have hactive := h.outermost.1 hnone
    rw [List.nil_append, State.active, hjobs] at hactive
    exact hactive
  have hdeep : ∀ n, ∃ path ∈ s.uncalled, path.length = n := by
    intro n
    induction n with
    | zero => exact ⟨[], hroot, rfl⟩
    | succ n ih =>
        obtain ⟨path, hpath, hlength⟩ := ih
        obtain ⟨i, hi⟩ := h.uncalled_below hjobs hpath
        exact ⟨i :: path, hi, by rw [List.length_cons, hlength]⟩
  obtain ⟨path, hpath, hlength⟩ := hdeep ((s.uncalled.map List.length).sum + 1)
  have hle := List.le_sum_of_mem (List.mem_map_of_mem (f := List.length) hpath)
  omega

end TypeShape.Queue
