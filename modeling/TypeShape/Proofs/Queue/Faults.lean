/-
Where the fault of a run comes from.

The queue makes no faults of its own. It only passes on what a settled part of the plan, or
the end of one that waited, comes to, so whatever is true of all these faults is true of the
one that the run ends with, in whichever order the turns are taken (`fault_run`). What the parts
of a type come to is told by the layers of its inline objects (`FailsOnly.ofType_succ`).
-/
import TypeShape.Proofs.Queue.Together

namespace TypeShape

/-- Every fault that a part of the plan can come to satisfies `P`. -/
inductive Plan.FailsOnly (P : Fault → Prop) : Plan → Prop
  | settled {outcome : Traced Schema} (h : ∀ e, outcome.result = .error e → P e) :
      FailsOnly P (.settled outcome)
  | waiting {started : List Event} {name : Text} {properties : List (Property × Plan)}
      {finish : Schema → Traced Schema} (parts : ∀ entry ∈ properties, FailsOnly P entry.2)
      (finishing : ∀ m e, (finish m).result = .error e → P e) :
      FailsOnly P (.waiting started name properties finish)

theorem Plan.FailsOnly.mono {P Q : Fault → Prop} {plan : Plan} (h : plan.FailsOnly P)
    (hPQ : ∀ e, P e → Q e) : plan.FailsOnly Q := by
  induction h with
  | settled h => exact .settled fun e he => hPQ e (h e he)
  | waiting _ finishing ih => exact .waiting ih fun m e he => hPQ e (finishing m e he)

namespace Queue

variable {P : Fault → Prop} {s : State}

-- ========================================================= the invariant

/-- What a job carries can only fail with `P`. -/
def Job.FailsOnly (P : Fault → Prop) : Job → Prop
  | .start _ inner => inner.FailsOnly P
  | .ended _ _ result => ∀ e, result = .error e → P e
  | .wake _ model => ∀ e, model = .error e → P e

/-- Everything that is queued, sleeps or has come out can only fail with `P`. -/
structure FailsOnly (P : Fault → Prop) (s : State) : Prop where
  jobs : ∀ job ∈ s.jobs, job.FailsOnly P
  sleepers : ∀ z ∈ s.sleepers, ∀ m e, (z.finish m).result = .error e → P e
  outcome : ∀ e, s.outcome = some (.error e) → P e

namespace FailsOnly

theorem initial {plan : Plan} (h : plan.FailsOnly P) : FailsOnly P (.initial plan) := by
  constructor
  case jobs =>
    intro job hjob
    rw [List.mem_singleton.1 hjob]
    exact h
  case sleepers => exact fun z hz => nomatch hz
  case outcome => exact fun e he => nomatch he

theorem push (h : FailsOnly P s) {jobs : List Job} (hjobs : ∀ job ∈ jobs, job.FailsOnly P) :
    FailsOnly P (s.push jobs) := by
  refine ⟨?_, h.sleepers, h.outcome⟩
  intro job hjob
  rcases List.mem_append.1 hjob with hjob | hjob
  · exact h.jobs job hjob
  · exact hjobs job hjob

theorem happen (h : FailsOnly P s) (events : List Event) : FailsOnly P (s.happen events) :=
  ⟨h.jobs, h.sleepers, h.outcome⟩

/-- A plan ends with a fault that satisfies `P`, or with none. -/
theorem conclude (h : FailsOnly P s) {result : Except Fault Schema}
    (hresult : ∀ e, result = .error e → P e) (path : Path) :
    FailsOnly P (s.conclude result path) := by
  cases path with
  | nil =>
      refine ⟨h.jobs, h.sleepers, ?_⟩
      intro e he
      exact hresult e (Option.some.inj he)
  | cons index path =>
      apply h.push
      intro job hjob
      rw [List.mem_singleton.1 hjob]
      exact hresult

/-- A sleeper keeps what it goes on with. -/
theorem replace (h : FailsOnly P s) {z : Sleeper}
    (hz : ∀ m e, (z.finish m).result = .error e → P e) : FailsOnly P (s.replace z) := by
  refine ⟨h.jobs, ?_, h.outcome⟩
  intro z' hz'
  obtain ⟨old, hold, rfl⟩ := List.mem_map.1 hz'
  split
  case isTrue => exact hz
  case isFalse => exact h.sleepers old hold

-- ============================================================== the runs

/-- A plan that begins can fail as it says. -/
theorem start (h : FailsOnly P s) (path : Path) {plan : Plan} (hplan : plan.FailsOnly P) :
    FailsOnly P (start s path plan) := by
  cases hplan with
  | settled hresult => exact (h.happen _).conclude hresult path
  | waiting parts finishing =>
      unfold Queue.start
      apply push
      · refine ⟨h.jobs, ?_, h.outcome⟩
        intro z hz
        rcases List.mem_cons.1 hz with rfl | hz
        · exact finishing
        · exact h.sleepers z hz
      · intro job hjob
        obtain ⟨entry, hentry, rfl⟩ := List.mem_map.1 hjob
        exact parts entry.1 (List.fst_mem_of_mem_zipIdx hentry)

/-- A delivery hands on the fault that is delivered, or none. -/
theorem deliver (h : FailsOnly P s) {z : Sleeper} (index : Nat)
    (hz : ∀ m e, (z.finish m).result = .error e → P e) {result : Except Fault Schema}
    (hresult : ∀ e, result = .error e → P e) : FailsOnly P (deliver s z index result) := by
  cases result with
  | error e =>
      apply push
      · exact h.replace hz
      · intro job hjob
        rw [List.mem_singleton.1 hjob]
        exact hresult
  | ok schema =>
      unfold Queue.deliver
      dsimp only
      split
      case isTrue =>
        apply push
        · exact h.replace hz
        · intro job hjob
          rw [List.mem_singleton.1 hjob]
          exact fun e he => nomatch he
      case isFalse => exact h.replace hz

/-- A turn only passes faults on. -/
theorem turn (h : FailsOnly P s) {job : Job} (hjob : job.FailsOnly P) :
    FailsOnly P (turn s job) := by
  have asleep : ∀ {path z}, s.sleeper? path = some z →
      ∀ m e, (z.finish m).result = .error e → P e := by
    intro path z hz
    exact h.sleepers z (List.mem_of_find?_eq_some hz)
  cases job with
  | start path plan => exact h.start path hjob
  | ended path index result =>
      cases hz : s.sleeper? path with
      | none =>
          rw [turn_ended_of_none hz]
          exact h
      | some z =>
          rw [turn_ended_of_some hz]
          split
          case isTrue => exact h
          case isFalse => exact h.deliver index (asleep hz) hjob
  | wake path model =>
      unfold Queue.turn
      dsimp only
      split
      case h_1 => exact h
      case h_2 z hz =>
        cases model with
        | error e => exact h.conclude hjob path
        | ok m => exact (h.happen _).conclude (asleep hz m) path

/-- So only such faults come of a run. -/
theorem run (h : FailsOnly P s) (rounds : Nat) : FailsOnly P (run rounds s) := by
  induction rounds generalizing s with
  | zero => exact h
  | succ rounds ih =>
      obtain ⟨jobs, sleepers, events, outcome⟩ := s
      cases outcome with
      | some result => exact h
      | none =>
          cases jobs with
          | nil => exact h
          | cons job jobs =>
              have rest : FailsOnly P ⟨jobs, sleepers, events, none⟩ :=
                ⟨fun j hj => h.jobs j (List.mem_cons_of_mem _ hj), h.sleepers, h.outcome⟩
              exact ih (rest.turn (h.jobs job (List.mem_cons_self ..)))

end FailsOnly

end Queue

/-- A run fails with a fault of a part of its plan. -/
theorem Plan.fault_run {P : Fault → Prop} {plan : Plan} (waits : plan.Waits)
    (h : plan.FailsOnly P) {e : Fault} (failed : plan.run.result = .error e) : P e := by
  obtain ⟨result, houtcome, -⟩ := Plan.outcome_run waits
  have only := (Queue.FailsOnly.initial h).run (3 * plan.size)
  apply only.outcome e
  rw [houtcome, ← Plan.result_of_outcome houtcome, failed]

-- ======================================================= plans of types

namespace Plan.FailsOnly

variable {P : Fault → Prop} {read : LiteralReader} {r : Registry}

/-- The parts of a type fail as its expression does, or with an inline object in it, as the
reader, the modifiers after the object and the parts of the properties do. -/
theorem ofType_succ {depth : Nat} {name t : Text}
    (expression : inlineObject? (Text.trim t) = none →
      ∀ e, (r.resolveExpression (Text.trim t)).result = .error e → P e)
    (unread : ∀ object modifiers, inlineObject? (Text.trim t) = some (object, modifiers) →
      ∀ e, read name (unwrapLists object.length object).2 = .error e → P e)
    (finishing : ∀ object modifiers, inlineObject? (Text.trim t) = some (object, modifiers) →
      ∀ (m : Schema) (e : Fault), (r.applyModifiers modifiers
        (m.nested (unwrapLists object.length object).1)).result = .error e → P e)
    (parts : ∀ object modifiers, inlineObject? (Text.trim t) = some (object, modifiers) →
      ∀ d, read name (unwrapLists object.length object).2 = .ok d → ∀ p ∈ d.properties,
        (ofType read r depth (inlineName d.name p.name) p.type).FailsOnly P) :
    (ofType read r (depth + 1) name t).FailsOnly P := by
  unfold ofType
  dsimp only
  split
  case h_1 plain => exact .settled (expression plain)
  case h_2 object modifiers found =>
    split
    case h_1 fault failed =>
      apply FailsOnly.settled
      intro e same
      cases same
      exact unread object modifiers found _ failed
    case h_2 d parsed =>
      split
      case h_1 => exact .settled (finishing object modifiers found _)
      case h_2 =>
        refine .waiting ?_ (finishing object modifiers found)
        intro entry hentry
        obtain ⟨p, hp, rfl⟩ := List.mem_map.1 hentry
        exact parts object modifiers found d parsed p hp

/-- The parts of a declaration fail as those of its properties do. -/
theorem ofDeclaration {d : Declaration} (parts : ∀ p ∈ d.properties,
      (ofPropertyType read r (inlineName d.name p.name) p.type).FailsOnly P) :
    (ofDeclaration read r d).FailsOnly P := by
  unfold Plan.ofDeclaration
  split
  case h_1 => exact .settled fun e failed => nomatch failed
  case h_2 =>
    refine .waiting ?_ fun m e failed => nomatch failed
    intro entry hentry
    obtain ⟨p, hp, rfl⟩ := List.mem_map.1 hentry
    exact parts p hp

end Plan.FailsOnly

end TypeShape
