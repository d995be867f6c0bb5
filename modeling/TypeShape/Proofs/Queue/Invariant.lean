/-
What holds of the queue at every moment.

# Who has the floor

Every plan that has been reached and not been dealt with is *active*: a job is queued
about it, or it sleeps and nobody has called it yet. No plan is active twice, the plans
below a sleeper are active until their results are delivered to it, and the outermost
plan is active until there is an outcome. Between the taking of a job and the end of
its turn the plan that the job is about is in the *hand* of the turn.

# What is right

What has been queued or delivered agrees with the plan run in order: a result is the
result in order, or both are faults. Which fault is reported is not said here, since it
depends on the turns.
-/
import Mathlib.Data.List.Nodup
import TypeShape.Proofs.Queue.Paths

namespace TypeShape.Queue

variable {plan : Plan} {hand : List Path} {s : State}

-- ========================================================= active plans

/-- The path of the plan that a job is about. -/
def Job.about : Job → Path
  | .start path _ => path
  | .ended path index _ => index :: path
  | .wake path _ => path

namespace State

/-- The paths of the sleepers. -/
def asleep (s : State) : List Path :=
  s.sleepers.map (·.path)

/-- The paths of the sleepers that nobody has called yet. -/
def uncalled (s : State) : List Path :=
  (s.sleepers.filter fun z => !z.called).map (·.path)

/-- The plans that have been reached and not been dealt with. -/
def active (s : State) : List Path :=
  s.jobs.map Job.about ++ s.uncalled

/-- A sleeper is told apart from the others by its path, also when it is replaced. -/
theorem sleeper_split {path : Path} {z : Sleeper} (hnodup : s.asleep.Nodup)
    (hz : s.sleeper? path = some z) :
    z.path = path ∧ ∃ others, s.sleepers.Perm (z :: others) ∧ (∀ o ∈ others, o.path ≠ path)
      ∧ ∀ z', z'.path = path → (s.replace z').sleepers.Perm (z' :: others) := by
  have hpath : z.path = path := by simpa using List.find?_some hz
  subst hpath
  refine ⟨rfl, ?_⟩
  obtain ⟨front, back, hsplit⟩ := List.append_of_mem (List.mem_of_find?_eq_some hz)
  have hdistinct : ∀ o ∈ front ++ back, o.path ≠ z.path := by
    intro o ho heq
    have hperm : s.sleepers.Perm (z :: (front ++ back)) := by
      rw [hsplit]
      exact List.perm_middle
    have hnodup' := (hperm.map Sleeper.path).nodup_iff.1 hnodup
    rw [List.map_cons, List.nodup_cons] at hnodup'
    exact hnodup'.1 (heq ▸ List.mem_map_of_mem ho)
  refine ⟨front ++ back, by rw [hsplit]; exact List.perm_middle, hdistinct, fun z' hz' => ?_⟩
  have hkeep : ∀ l : List Sleeper, (∀ o ∈ l, o.path ≠ z.path) →
      (l.map fun old => if old.path == z'.path then z' else old) = l := by
    intro l hl
    refine (List.map_congr_left fun o ho => ?_).trans (List.map_id l)
    rw [if_neg (by simpa [hz'] using hl o ho)]
    rfl
  show (s.sleepers.map _).Perm _
  rw [hsplit, List.map_append, List.map_cons,
    hkeep front fun o ho => hdistinct o (List.mem_append_left _ ho),
    hkeep back fun o ho => hdistinct o (List.mem_append_right _ ho), if_pos (by simp [hz'])]
  exact List.perm_middle

/-- A sleeper that was uncalled leaves the uncalled ones exactly when it is called. -/
theorem uncalled_replace {path : Path} {z z' : Sleeper} (hnodup : s.asleep.Nodup)
    (hz : s.sleeper? path = some z) (huncalled : z.called = false) (hpath' : z'.path = path) :
    ((if z'.called then [path] else []) ++ (s.replace z').uncalled).Perm s.uncalled := by
  obtain ⟨hpath, others, hbefore, -, hafter⟩ := sleeper_split hnodup hz
  have hbefore' : s.uncalled.Perm (path :: (others.filter fun o => !o.called).map (·.path)) := by
    refine ((hbefore.filter _).map _).trans ?_
    rw [List.filter_cons_of_pos (by simp [huncalled]), List.map_cons, hpath]
  refine List.Perm.trans ?_ hbefore'.symm
  refine (List.Perm.append_left _ (((hafter z' hpath').filter _).map _)).trans ?_
  cases hcalled : z'.called with
  | true =>
      rw [List.filter_cons_of_neg (by simp [hcalled])]
      exact .refl _
  | false =>
      rw [List.filter_cons_of_pos (by simp [hcalled]), List.map_cons, hpath']
      exact .refl _

/-- A sleeper that is called hands its floor on. -/
theorem active_replace {path : Path} {z z' : Sleeper} (hnodup : s.asleep.Nodup)
    (hz : s.sleeper? path = some z) (huncalled : z.called = false) (hpath' : z'.path = path) :
    ((if z'.called then [path] else []) ++ (s.replace z').active).Perm s.active := by
  show (_ ++ (s.jobs.map Job.about ++ (s.replace z').uncalled)).Perm
    (s.jobs.map Job.about ++ s.uncalled)
  rw [← List.append_assoc]
  refine (List.Perm.append_right _ List.perm_append_comm).trans ?_
  rw [List.append_assoc]
  exact List.Perm.append_left _ (uncalled_replace hnodup hz huncalled hpath')

end State

-- ========================================================= what is right

/-- A sleeper stands for the plan at its path, and its results are those in order. -/
structure Sleeper.Right (plan : Plan) (z : Sleeper) : Prop where
  stands : ∃ started properties,
    plan.at? z.path = some (.waiting started z.name properties z.finish)
      ∧ z.properties = properties.map (·.1)
  results_nodup : (z.results.map (·.1)).Nodup
  results_right : ∀ entry ∈ z.results, ∃ inner,
    plan.at? (entry.1 :: z.path) = some inner ∧ inner.inOrder.result = .ok entry.2
  unfinished : z.called = false → z.results.length < z.properties.length

/-- A job carries what the plan at its path comes to in order, up to the fault. -/
def Job.Right (plan : Plan) (asleep : List Path) : Job → Prop
  | .start path inner => plan.at? path = some inner ∧ path ∉ asleep
  | .ended path index result => ∃ inner, plan.at? (index :: path) = some inner
      ∧ result.toOption = inner.inOrder.result.toOption
  | .wake path model => path ∈ asleep ∧ ∃ started name properties finish,
      plan.at? path = some (.waiting started name properties finish)
        ∧ model.toOption = (Plan.inOrderAll properties).result.toOption.map (.modelOf name)

/-- What holds of a state while a turn has some plans in its hand. -/
structure Inv (plan : Plan) (hand : List Path) (s : State) : Prop where
  active_nodup : (hand ++ s.active).Nodup
  asleep_nodup : s.asleep.Nodup
  sleepers : ∀ z ∈ s.sleepers, z.Right plan
  jobs : ∀ job ∈ s.jobs, job.Right plan s.asleep
  below : ∀ i path, i :: path ∈ hand ++ s.active ∨ i :: path ∈ s.asleep → path ∈ s.asleep
  delivered : ∀ z ∈ s.sleepers, ∀ entry ∈ z.results, entry.1 :: z.path ∉ hand ++ s.active
  missing : ∀ z ∈ s.sleepers, z.called = false → ∀ i < z.properties.length,
    i ∈ z.results.map (·.1) ∨ i :: z.path ∈ hand ++ s.active
  outermost : s.outcome = none ↔ [] ∈ hand ++ s.active
  outcome : ∀ result, s.outcome = some result →
    result.toOption = plan.inOrder.result.toOption

-- ======================================================= moving the floor

/-- Whether a plan is in the hand or has a job makes no difference to the others. -/
theorem Inv.move (h : Inv plan hand s) {hand' : List Path} {s' : State}
    (hsleepers : s'.sleepers = s.sleepers) (houtcome : s'.outcome = s.outcome)
    (hactive : (hand' ++ s'.active).Perm (hand ++ s.active))
    (hjobs : ∀ job ∈ s'.jobs, job.Right plan s.asleep) : Inv plan hand' s' := by
  have hasleep : s'.asleep = s.asleep := congrArg (List.map _) hsleepers
  constructor
  case active_nodup => exact hactive.nodup_iff.2 h.active_nodup
  case asleep_nodup =>
    rw [hasleep]
    exact h.asleep_nodup
  case sleepers =>
    rw [hsleepers]
    exact h.sleepers
  case jobs =>
    rw [hasleep]
    exact hjobs
  case below =>
    intro i path hpath
    rw [hasleep, hactive.mem_iff] at hpath
    rw [hasleep]
    exact h.below i path hpath
  case delivered =>
    intro z hz entry hentry
    rw [hactive.mem_iff]
    exact h.delivered z (hsleepers ▸ hz) entry hentry
  case missing =>
    intro z hz hcalled i hi
    rw [hactive.mem_iff]
    exact h.missing z (hsleepers ▸ hz) hcalled i hi
  case outermost =>
    rw [houtcome, hactive.mem_iff]
    exact h.outermost
  case outcome =>
    rw [houtcome]
    exact h.outcome

/-- Taking a job takes the plan that it is about into the hand. -/
theorem Inv.take {job : Job} {jobs : List Job} (h : Inv plan [] s) (hjob : s.jobs = job :: jobs) :
    Inv plan [job.about] { s with jobs } ∧ job.Right plan s.asleep := by
  refine ⟨h.move rfl rfl ?_ fun j hj => h.jobs j ?_, h.jobs job ?_⟩
  · show (job.about :: (jobs.map Job.about ++ s.uncalled)).Perm (s.jobs.map Job.about ++ s.uncalled)
    rw [hjob]
    exact .refl _
  · rw [hjob]
    exact List.mem_cons_of_mem _ hj
  · rw [hjob]
    exact List.mem_cons_self ..

/-- Queueing a right job about the plan in the hand leaves the hand empty. -/
theorem Inv.put {job : Job} (h : Inv plan [job.about] s) (hjob : job.Right plan s.asleep) :
    Inv plan [] (s.push [job]) := by
  refine h.move rfl rfl ?_ fun j hj => ?_
  · show ((s.jobs ++ [job]).map Job.about ++ s.uncalled).Perm (job.about :: s.active)
    rw [List.map_append, List.append_assoc]
    exact List.perm_middle
  · rcases List.mem_append.1 hj with hj | hj
    · exact h.jobs j hj
    · rw [List.mem_singleton.1 hj]
      exact hjob

/-- Events change nothing that the invariant speaks of. -/
theorem Inv.happen (h : Inv plan hand s) (events : List Event) :
    Inv plan hand (s.happen events) :=
  h.move rfl rfl (.refl _) h.jobs

/-- The plan in the hand ends: with an outcome if it is the outermost one, else with the
news of its end. -/
theorem Inv.conclude {path : Path} {inner : Plan} {result : Except Fault Schema}
    (h : Inv plan [path] s) (hinner : plan.at? path = some inner)
    (hresult : result.toOption = inner.inOrder.result.toOption) :
    Inv plan [] (s.conclude result path) := by
  cases path with
  | cons i path => exact h.put ⟨inner, hinner, hresult⟩
  | nil =>
      cases hinner
      have hfresh : [] ∉ s.active := (List.nodup_cons.1 h.active_nodup).1
      constructor
      case active_nodup => exact (List.nodup_cons.1 h.active_nodup).2
      case asleep_nodup => exact h.asleep_nodup
      case sleepers => exact h.sleepers
      case jobs => exact h.jobs
      case below =>
        intro i path hpath
        exact h.below i path (hpath.imp_left (List.mem_append_right _))
      case delivered =>
        intro z hz entry hentry hactive
        exact h.delivered z hz entry hentry (List.mem_append_right _ hactive)
      case missing =>
        intro z hz hcalled i hi
        refine (h.missing z hz hcalled i hi).imp_right fun hactive => ?_
        rcases List.mem_cons.1 hactive with hroot | hactive
        · cases hroot
        · exact hactive
      case outermost => exact ⟨fun hnone => (nomatch hnone), fun hroot => absurd hroot hfresh⟩
      case outcome =>
        intro result' hsome
        cases hsome
        exact hresult

end TypeShape.Queue
