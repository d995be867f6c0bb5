/-
Working together comes to the same as working in order.

The results agree because the invariant says so of every outcome and every run has one.
For the events, each turn does one stretch: what has been seen and what is still to come
make up the stretches of the plan at every moment. In a plan that succeeds nothing can be
left over at the end, since whatever is active has somebody waiting for it.
-/
import TypeShape.Proofs.Queue.Ends

namespace TypeShape

namespace Plan

/-- The last stretch of a plan that waits and succeeds. -/
def closing : Plan → List (List Event)
  | .settled _ => []
  | .waiting _ name properties finish =>
    match (inOrderAll properties).result with
    | .ok fields => [(finish (.modelOf name fields)).events]
    | .error _ => []

/-- The last stretch of the plan at a path. -/
def closingAt (plan : Plan) (path : Queue.Path) : List (List Event) :=
  ((plan.at? path).map closing).getD []

theorem closingAt_of {plan inner : Plan} {path : Queue.Path} (h : plan.at? path = some inner) :
    plan.closingAt path = inner.closing := by
  rw [closingAt, h]
  rfl

end Plan

namespace Queue

variable {plan : Plan} {s : State}

-- ======================================================= what is to come

/-- The stretches that a job will lead to. -/
def Job.pending (plan : Plan) : Job → List (List Event)
  | .start _ inner => inner.stretches
  | .ended .. => []
  | .wake path _ => plan.closingAt path

/-- The stretches that are still to come: those of the jobs, and the last ones of the
sleepers that nobody has called. -/
def State.pending (plan : Plan) (s : State) : List (List Event) :=
  s.jobs.flatMap (Job.pending plan) ++ s.uncalled.flatMap plan.closingAt

theorem State.pending_push (s : State) (jobs : List Job) :
    ((s.push jobs).pending plan).Perm (jobs.flatMap (Job.pending plan) ++ s.pending plan) := by
  show ((s.jobs ++ jobs).flatMap _ ++ s.uncalled.flatMap _).Perm _
  rw [List.flatMap_append, State.pending, ← List.append_assoc]
  exact List.Perm.append_right _ List.perm_append_comm

theorem State.pending_conclude (s : State) (result : Except Fault Schema) (path : Path) :
    ((s.conclude result path).pending plan).Perm (s.pending plan) := by
  cases path with
  | nil => exact .refl _
  | cons i path => exact s.pending_push _

/-- The stretches to come from the beginnings of properties are those of their plans. -/
theorem pending_starts (path : Path) (properties : List (Property × Plan)) (first : Nat) :
    ((properties.zipIdx first).map fun (entry : (Property × Plan) × Nat) =>
        Job.start (entry.2 :: path) entry.1.2).flatMap (Job.pending plan)
      = Plan.allStretches properties := by
  induction properties generalizing first with
  | nil => rfl
  | cons entry rest ih =>
      rw [List.zipIdx_cons, List.map_cons, List.flatMap_cons, ih]
      rfl

/-- A sleeper that is called hands its last stretch on. -/
theorem State.pending_replace {path : Path} {z z' : Sleeper} (hnodup : s.asleep.Nodup)
    (hz : s.sleeper? path = some z) (huncalled : z.called = false) (hpath' : z'.path = path) :
    ((if z'.called then plan.closingAt path else []) ++ (s.replace z').pending plan).Perm
      (s.pending plan) := by
  have hmove := (State.uncalled_replace hnodup hz huncalled hpath').flatMap_right plan.closingAt
  have hhand : (if z'.called then [path] else []).flatMap plan.closingAt
      = if z'.called then plan.closingAt path else [] := by
    split
    · rw [List.flatMap_cons, List.flatMap_nil, List.append_nil]
    · rfl
  rw [List.flatMap_append, hhand] at hmove
  show (_ ++ (s.jobs.flatMap _ ++ (s.replace z').uncalled.flatMap _)).Perm
    (s.jobs.flatMap _ ++ s.uncalled.flatMap _)
  rw [← List.append_assoc]
  refine (List.Perm.append_right _ List.perm_append_comm).trans ?_
  rw [List.append_assoc]
  exact List.Perm.append_left _ hmove

-- ===================================================== nothing left over

/-- In a plan that succeeds: whatever is active has somebody waiting for it, and what
has been seen and what is to come are the stretches of the plan. -/
structure Whole (plan : Plan) (s : State) : Prop where
  awaited : ∀ i path, i :: path ∈ s.active → path ∈ s.uncalled
  seen : ∃ seen, s.events = seen.flatten ∧ (seen ++ s.pending plan).Perm plan.stretches

/-- At the start all stretches are to come. -/
theorem Whole.initial (plan : Plan) : Whole plan (.initial plan) := by
  refine ⟨fun i path hpath => ?_, [], rfl, ?_⟩
  · cases List.mem_singleton.1 hpath
  · show (([.start [] plan] : List Job).flatMap _ ++ []).Perm _
    rw [List.append_nil, List.flatMap_cons, List.flatMap_nil, List.append_nil]
    exact .refl _

/-- Every active plan is a plan of the tree. -/
theorem Inv.at?_of_active (h : Inv plan [] s) {path : Path} (hpath : path ∈ s.active) :
    ∃ inner, plan.at? path = some inner := by
  rcases List.mem_append.1 hpath with hpath | hpath
  · obtain ⟨job, hjob, rfl⟩ := List.mem_map.1 hpath
    have hright := h.jobs job hjob
    cases job with
    | start path inner => exact ⟨inner, hright.1⟩
    | ended path i result =>
        obtain ⟨inner, hinner, -⟩ := hright
        exact ⟨inner, hinner⟩
    | wake path model =>
        obtain ⟨-, _, _, _, _, hat, -⟩ := hright
        exact ⟨_, hat⟩
  · obtain ⟨z, hz, rfl⟩ := List.mem_map.1 hpath
    obtain ⟨_, _, hat, -⟩ := (h.sleepers z (List.mem_filter.1 hz).1).stands
    exact ⟨_, hat⟩

/-- With all results delivered, no property of a sleeper is active. -/
theorem Inv.not_active_of_full (h : Inv plan [] s) {z : Sleeper} (hz : z ∈ s.sleepers)
    (hlength : z.results.length = z.properties.length) (i : Nat) : i :: z.path ∉ s.active := by
  intro hactive
  have hright := h.sleepers z hz
  obtain ⟨inner, hinner⟩ := h.at?_of_active hactive
  have hi := hright.lt_of_at? hinner
  obtain ⟨entry, hentry, rfl⟩ := List.mem_map.1 (hright.all_delivered hlength hi)
  exact h.delivered z hz entry hentry hactive

section Success

variable {job : Job} {jobs : List Job} {schema : Schema}

/-- A turn that only ends the plan of its job keeps everything accounted for. -/
theorem Whole.conclude {stretch : List Event} {path : Path} {result : Except Fault Schema}
    (h : Whole plan s) (hjobs : s.jobs = job :: jobs) (habout : job.about = path)
    (hpending : job.pending plan = [stretch]) :
    Whole plan ((State.happen { s with jobs } stretch).conclude result path) := by
  obtain ⟨awaited, seen, hevents, hseen⟩ := h
  have hactive : ∀ q, q ∈ ((State.happen { s with jobs } stretch).conclude result path).active →
      q ∈ s.active := by
    intro q hq
    show q ∈ s.jobs.map Job.about ++ s.uncalled
    rw [hjobs, List.map_cons, List.cons_append, habout]
    cases path with
    | nil => exact List.mem_cons_of_mem _ hq
    | cons i path =>
        have hq : q ∈ (jobs ++ [Job.ended path i result]).map Job.about ++ s.uncalled := hq
        rw [List.map_append, List.append_assoc] at hq
        exact List.perm_middle.mem_iff.1 hq
  have huncalled : ((State.happen { s with jobs } stretch).conclude result path).uncalled
      = s.uncalled := by
    cases path <;> rfl
  have happened : ((State.happen { s with jobs } stretch).conclude result path).events
      = s.events ++ stretch := by
    cases path <;> rfl
  refine ⟨fun i q hq => huncalled ▸ awaited i q (hactive _ hq), seen ++ [stretch], ?_, ?_⟩
  · rw [happened, hevents, List.flatten_append, List.flatten_singleton]
  · refine (List.Perm.append_left _ (State.pending_conclude _ _ _)).trans (.trans ?_ hseen)
    show ((seen ++ [stretch]) ++ (jobs.flatMap _ ++ s.uncalled.flatMap _)).Perm
      (seen ++ (s.jobs.flatMap _ ++ s.uncalled.flatMap _))
    rw [hjobs, List.flatMap_cons, hpending, List.append_assoc, List.append_assoc]

/-- The beginning of a plan that waits keeps everything accounted for. -/
theorem Whole.start_waiting {path : Path} {started : List Event} {name : Text}
    {properties : List (Property × Plan)} {finish : Schema → Traced Schema}
    (h : Whole plan s)
    (hjobs : s.jobs = .start path (.waiting started name properties finish) :: jobs)
    (hat : plan.at? path = some (.waiting started name properties finish)) :
    Whole plan (start { s with jobs } path (.waiting started name properties finish)) := by
  obtain ⟨awaited, seen, hevents, hseen⟩ := h
  refine ⟨fun i q hq => ?_, seen ++ [started], ?_, ?_⟩
  · have hq := (State.active_start_waiting _ _ _ _ _ _).mem_iff.1 hq
    rcases List.mem_append.1 hq with hq | hq
    · obtain ⟨j, -, hj⟩ := List.mem_map.1 hq
      exact (List.cons.inj hj).2 ▸ List.mem_cons_self ..
    · refine List.mem_cons_of_mem _ (awaited i q ?_)
      show i :: q ∈ s.jobs.map Job.about ++ s.uncalled
      rw [hjobs]
      exact hq
  · show s.events ++ started = _
    rw [hevents, List.flatten_append, List.flatten_singleton]
  · refine List.Perm.trans ?_ hseen
    show ((seen ++ [started]) ++ ((jobs ++ _).flatMap _ ++ (path :: s.uncalled).flatMap _)).Perm
      (seen ++ (s.jobs.flatMap _ ++ s.uncalled.flatMap _))
    rw [hjobs, List.flatMap_append, pending_starts, List.flatMap_cons, List.flatMap_cons,
      Plan.closingAt_of hat, List.append_assoc]
    refine List.Perm.append_left _ (.cons started ?_)
    -- the jobs before: those of the plan and the rest; afterwards the rest comes first
    show ((jobs.flatMap (Job.pending plan) ++ Plan.allStretches properties) ++ (_ ++ _)).Perm
      ((Plan.allStretches properties ++ _) ++ jobs.flatMap (Job.pending plan) ++ _)
    refine (List.Perm.append_right _ List.perm_append_comm).trans ?_
    simp only [List.append_assoc]
    refine List.Perm.append_left _ ?_
    rw [← List.append_assoc, ← List.append_assoc]
    exact List.Perm.append_right _ List.perm_append_comm

/-- A turn without events that leaves the floor as it is, or gives it up, keeps
everything accounted for. -/
theorem Whole.quiet {s' : State} (h : Whole plan s) (hevents : s'.events = s.events)
    (hpending : (s'.pending plan).Perm (s.pending plan))
    (hawaited : ∀ i path, i :: path ∈ s'.active → path ∈ s'.uncalled) : Whole plan s' := by
  obtain ⟨-, seen, hseen, hperm⟩ := h
  exact ⟨hawaited, seen, hevents.trans hseen, (List.Perm.append_left _ hpending).trans hperm⟩

/-- The calling of a sleeper with all results keeps everything accounted for: none of its
properties is active any more. -/
theorem Whole.call {path : Path} {z z' : Sleeper} {model : Except Fault Schema}
    (h : Whole plan s) (hinv : Inv plan [] ((s.replace z').push [.wake z.path model]))
    (hnodup : s.asleep.Nodup) (hz : s.sleeper? path = some z) (huncalled : z.called = false)
    (hpath' : z'.path = path) (hcalled : z'.called = true)
    (hlength : z'.results.length = z'.properties.length) :
    Whole plan ((s.replace z').push [.wake z.path model]) := by
  obtain ⟨hpath, others, -, -, hafter⟩ := State.sleeper_split hnodup hz
  refine h.quiet rfl ?_ fun j q hq => ?_
  · refine (State.pending_push _ _).trans
      (.trans ?_ (State.pending_replace hnodup hz huncalled hpath'))
    rw [if_pos hcalled, List.flatMap_cons, List.flatMap_nil, List.append_nil, Job.pending, hpath]
  · have hfloor := State.active_replace hnodup hz huncalled hpath'
    have hleft := State.uncalled_replace hnodup hz huncalled hpath'
    rw [if_pos hcalled] at hfloor hleft
    have hfull := hinv.not_active_of_full ((hafter z' hpath').mem_iff.2 (List.mem_cons_self ..))
      hlength j
    have hold : j :: q ∈ s.active := by
      refine hfloor.mem_iff.1 ?_
      have hq : j :: q ∈ (s.jobs ++ [Job.wake z.path model]).map Job.about
          ++ (s.replace z').uncalled := hq
      rw [List.map_append, List.append_assoc] at hq
      have hq : j :: q ∈ z.path :: (s.replace z').active := List.perm_middle.mem_iff.1 hq
      rwa [hpath] at hq
    rcases List.mem_cons.1 (hleft.mem_iff.2 (h.awaited j q hold)) with rfl | hmem
    · exact absurd (hpath' ▸ hq) hfull
    · exact hmem

/-- A result that is not the last one of a sleeper leaves the floor as it is. -/
theorem Whole.add {path : Path} {z z' : Sleeper} (h : Whole plan s) (hnodup : s.asleep.Nodup)
    (hz : s.sleeper? path = some z) (huncalled : z.called = false) (hpath' : z'.path = path)
    (huncalled' : z'.called = false) : Whole plan (s.replace z') := by
  have hnot : ¬ z'.called = true := by simp [huncalled']
  have hactive := State.active_replace hnodup hz huncalled hpath'
  have hkeep := State.uncalled_replace hnodup hz huncalled hpath'
  rw [if_neg hnot, List.nil_append] at hactive hkeep
  refine h.quiet rfl ?_ fun j q hq => ?_
  · refine .trans ?_ (State.pending_replace hnodup hz huncalled hpath')
    rw [if_neg hnot]
    exact .refl _
  · exact hkeep.mem_iff.2 (h.awaited j q (hactive.mem_iff.1 hq))

/-- So does a job that is taken and comes to nothing. -/
theorem Whole.forget (h : Whole plan s) (hjobs : s.jobs = job :: jobs)
    (hnothing : job.pending plan = []) : Whole plan { s with jobs } := by
  have hactive : s.active = job.about :: State.active { s with jobs } := by
    show s.jobs.map Job.about ++ s.uncalled = _
    rw [hjobs]
    rfl
  have hpending : s.pending plan = State.pending plan { s with jobs } := by
    show s.jobs.flatMap _ ++ s.uncalled.flatMap _ = _
    rw [hjobs, List.flatMap_cons, hnothing]
    rfl
  exact h.quiet rfl (hpending ▸ .refl _) fun j q hq =>
    h.awaited j q (hactive ▸ List.mem_cons_of_mem _ hq)

/-- The waking of a sleeper does the last stretch of its plan. -/
theorem Whole.turn_wake {path : Path} {model : Except Fault Schema}
    (hok : plan.inOrder.result = .ok schema) (htaken : Inv plan [path] { s with jobs })
    (hright : (Job.wake path model).Right plan s.asleep) (h : Whole plan s)
    (hjobs : s.jobs = .wake path model :: jobs) :
    Whole plan (Queue.turn { s with jobs } (.wake path model)) := by
  obtain ⟨hasleep, started, name, properties, finish, hat, hmodel⟩ := hright
  obtain ⟨s', hs'⟩ := Plan.result_at? hok hat
  obtain ⟨fields, hfields, -⟩ := Plan.result_waiting.1 hs'
  rw [hfields] at hmodel
  obtain rfl := toOption_eq_some_iff.1 hmodel
  obtain ⟨z, hz, rfl⟩ := htaken.exists_sleeper hasleep hat
  unfold Queue.turn
  dsimp only
  rw [hz]
  refine h.conclude hjobs rfl ?_
  show plan.closingAt path = _
  rw [Plan.closingAt_of hat, Plan.closing, hfields]

/-- An ending is taken in by the sleeper, or forgotten. -/
theorem Whole.turn_ended {path : Path} {i : Nat} {result : Except Fault Schema}
    (hok : plan.inOrder.result = .ok schema) (hnodup : s.asleep.Nodup)
    (hright : (Job.ended path i result).Right plan s.asleep)
    (hstep : Inv plan [] (Queue.turn { s with jobs } (.ended path i result)))
    (h : Whole plan s) (hjobs : s.jobs = .ended path i result :: jobs) :
    Whole plan (Queue.turn { s with jobs } (.ended path i result)) := by
  obtain ⟨inner, hinner, hresult⟩ := hright
  obtain ⟨value, hvalue⟩ := Plan.result_at? hok hinner
  rw [hvalue] at hresult
  obtain rfl := toOption_eq_some_iff.1 hresult
  -- the plan comes to a schema, so no part of it fails and what ends is a schema too
  have hforget : Whole plan { s with jobs } := h.forget hjobs rfl
  cases hz : State.sleeper? { s with jobs } path with
  | none =>
      rw [turn_ended_of_none hz]
      exact hforget
  | some z =>
      rw [turn_ended_of_some hz] at hstep ⊢
      cases hcalled : z.called with
      | true => exact hforget
      | false =>
          have hpath := (State.sleeper_split hnodup hz).1
          rw [hcalled, if_neg (by simp)] at hstep
          rw [if_neg (by simp)]
          unfold deliver at hstep ⊢
          dsimp only at hstep ⊢
          split at hstep
          case isTrue hlength =>
              rw [if_pos hlength]
              exact hforget.call hstep hnodup hz hcalled hpath rfl hlength
          case isFalse hlength =>
              rw [if_neg hlength]
              exact hforget.add hnodup hz hcalled hpath hcalled

/-- Every turn in a plan that succeeds keeps everything accounted for. -/
theorem Whole.turn (hok : plan.inOrder.result = .ok schema) (hwaits : plan.Waits)
    (hinv : Inv plan [] s) (h : Whole plan s) (hjobs : s.jobs = job :: jobs) :
    Whole plan (turn { s with jobs } job) := by
  obtain ⟨htaken, hright⟩ := hinv.take hjobs
  cases job with
  | start path inner =>
      cases inner with
      | settled outcome => exact h.conclude hjobs rfl rfl
      | waiting started name properties finish => exact h.start_waiting hjobs hright.1
  | wake path model => exact h.turn_wake hok htaken hright hjobs
  | ended path i result =>
      exact h.turn_ended hok hinv.asleep_nodup hright (hinv.turn hwaits hjobs) hjobs

/-- A run in a plan that succeeds keeps everything accounted for. -/
theorem Whole.run {rounds : Nat} (hok : plan.inOrder.result = .ok schema)
    (hwaits : plan.Waits) (hinv : Inv plan [] s) (h : Whole plan s) :
    Whole plan (run rounds s) := by
  induction rounds generalizing s with
  | zero => exact h
  | succ rounds ih =>
      obtain ⟨jobs, sleepers, events, outcome⟩ := s
      cases outcome with
      | some result => exact h
      | none =>
          cases jobs with
          | nil => exact h
          | cons job jobs => exact ih (hinv.turn hwaits rfl) (h.turn hok hwaits hinv rfl)

end Success

/-- With an outcome, nothing is left that would have somebody waiting for it. -/
theorem Whole.no_active (h : Whole plan s) (hinv : Inv plan [] s) (houtcome : s.outcome ≠ none)
    (path : Path) : path ∉ s.active := by
  induction path with
  | nil => exact fun hroot => houtcome (hinv.outermost.2 hroot)
  | cons i path ih => exact fun hpath => ih (List.mem_append_right _ (h.awaited i path hpath))

end Queue

-- ============================================================= the runs

namespace Plan

variable {plan : Plan}

/-- Every run has an outcome, which agrees with the plan run in order. -/
theorem outcome_run (h : plan.Waits) :
    ∃ result, (Queue.run (3 * plan.size) (.initial plan)).outcome = some result
      ∧ result.toOption = plan.inOrder.result.toOption := by
  have hworth : (Queue.State.initial plan).worth ≤ 3 * plan.size := Nat.le_refl _
  obtain ⟨hinv, hstop⟩ := (Queue.Inv.initial plan).run h hworth
  cases houtcome : (Queue.run (3 * plan.size) (.initial plan)).outcome with
  | none => exact absurd houtcome (hinv.outcome_of_no_jobs (hstop houtcome))
  | some result => exact ⟨result, rfl, hinv.outcome result houtcome⟩

/-- The outcome is the result. -/
theorem result_of_outcome {result : Except Fault Schema}
    (h : (Queue.run (3 * plan.size) (.initial plan)).outcome = some result) :
    plan.run.result = result := by
  show (Queue.run (3 * plan.size) (.initial plan)).outcome.getD _ = result
  rw [h]
  rfl

/-- Working together gives a schema exactly when working in order gives it. -/
theorem result_run (h : plan.Waits) {s : Schema} :
    plan.run.result = .ok s ↔ plan.inOrder.result = .ok s := by
  obtain ⟨result, houtcome, hagrees⟩ := outcome_run h
  rw [result_of_outcome houtcome, ← toOption_eq_some_iff, ← toOption_eq_some_iff, hagrees]

/-- In a plan that succeeds, working together does the same stretches as working in
order, perhaps in another order. -/
theorem events_run (h : plan.Waits) {s : Schema} (hok : plan.inOrder.result = .ok s) :
    ∃ done : List (List Event), plan.run.events = done.flatten ∧ done.Perm plan.stretches := by
  have hinv := ((Queue.Inv.initial plan).run h (Nat.le_refl _)).1
  have hwhole : Queue.Whole plan (Queue.run (3 * plan.size) (.initial plan)) :=
    (Queue.Whole.initial plan).run hok h (Queue.Inv.initial plan)
  obtain ⟨result, houtcome, -⟩ := outcome_run h
  have hnone := hwhole.no_active hinv (by rw [houtcome]; exact Option.some_ne_none _)
  obtain ⟨-, seen, hevents, hperm⟩ := hwhole
  refine ⟨seen, hevents, .trans ?_ hperm⟩
  have hjobs := List.eq_nil_iff_forall_not_mem.2 fun path hpath =>
    hnone path (List.mem_append_left _ hpath)
  have huncalled := List.eq_nil_iff_forall_not_mem.2 fun path hpath =>
    hnone path (List.mem_append_right _ hpath)
  rw [Queue.State.pending, List.map_eq_nil_iff.1 hjobs, huncalled]
  show seen.Perm (seen ++ [])
  rw [List.append_nil]

end Plan

end TypeShape
