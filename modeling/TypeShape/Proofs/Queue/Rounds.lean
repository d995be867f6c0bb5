/-
The queue keeps the order of rounds.

A job belongs to a round: a plan starts one round below the plan that waits for it, an ending
is delivered a round after the end, and a waking a round after that. The jobs of one round stand
before those of the next, and there are never jobs of three rounds. Within a round they stand
in the order of declaration: where the ways to two plans part, the job of the earlier property
comes first, however deep below it lies. A turn queues jobs of the next round only, and only
next to the plan that it is about, so it keeps this order (`Timely.advance`).

It follows that the first fault that is delivered to a sleeper is the first by the count of
rounds. Whatever is still on its way to the sleeper has not been through before, and what is
through in the same round stands behind it in the queue.
-/
import TypeShape.Proofs.Queue.Together
import TypeShape.Proofs.Resolve.Completion

namespace TypeShape

-- ======================================================= paths in order

namespace Queue

variable {p p' q q' : Path}

/-- Where the ways to two plans part, the first one goes on to an earlier property. -/
def Before (p q : Path) : Prop :=
  ∃ i j path, i < j ∧ i :: path <:+ p ∧ j :: path <:+ q

theorem Before.mono (h : Before p q) (hp : p <:+ p') (hq : q <:+ q') : Before p' q' := by
  obtain ⟨i, j, path, hij, hi, hj⟩ := h
  exact ⟨i, j, path, hij, hi.trans hp, hj.trans hq⟩

theorem not_before_self : ¬Before p p := by
  rintro ⟨i, j, path, hij, hi, hj⟩
  have same := List.suffix_of_suffix_length_le hi hj (by simp)
  have := List.cons.inj (same.eq_of_length (by simp))
  omega

theorem Before.of_cons_left {i : Nat} (h : Before (i :: p) q) :
    Before p q ∨ ∃ j, i < j ∧ j :: p <:+ q := by
  obtain ⟨i', j, path, hij, hi, hj⟩ := h
  rcases List.suffix_cons_iff.1 hi with heq | hi
  · cases heq
    exact .inr ⟨j, hij, hj⟩
  · exact .inl ⟨i', j, path, hij, hi, hj⟩

theorem Before.of_cons_right {j : Nat} (h : Before p (j :: q)) :
    Before p q ∨ ∃ i, i < j ∧ i :: q <:+ p := by
  obtain ⟨i, j', path, hij, hi, hj⟩ := h
  rcases List.suffix_cons_iff.1 hj with heq | hj
  · cases heq
    exact .inr ⟨i, hij, hi⟩
  · exact .inl ⟨i, j', path, hij, hi, hj⟩

/-- No property lies on the way to the plan that it belongs to. -/
theorem not_cons_suffix {i : Nat} : ¬i :: p <:+ p := by
  intro h
  have := h.length_le
  simp at this

/-- Two properties of one plan are before each other as they stand. -/
theorem lt_of_before {i j : Nat} (h : Before (i :: p) (j :: p)) : i < j := by
  rcases h.of_cons_left with h | ⟨j', hlt, hj⟩
  · rcases h.of_cons_right with h | ⟨i', -, hi⟩
    · exact absurd h not_before_self
    · exact absurd hi not_cons_suffix
  · rcases List.suffix_cons_iff.1 hj with heq | hj
    · cases heq
      exact hlt
    · exact absurd hj not_cons_suffix

end Queue

-- ================================================== completions by paths

namespace Plan

variable {plan inner : Plan} {path : Queue.Path}

/-- When the plan at a path is through, with the outermost plan starting in round 0. -/
def completionAt (plan : Plan) (path : Queue.Path) : Completion :=
  match plan.at? path with
  | some inner => inner.completion path.length
  | none => ⟨0, .error (.unresolvable [])⟩

theorem completionAt_of (h : plan.at? path = some inner) :
    plan.completionAt path = inner.completion path.length := by
  rw [completionAt, h]

/-- The completions that a plan waits for are those at the paths below it. -/
theorem getElem?_completions {started : List Event} {name : Text}
    {properties : List (Property × Plan)} {finish : Schema → Traced Schema}
    (h : plan.at? path = some (.waiting started name properties finish)) {i : Nat}
    {c : Completion} :
    (completions properties (path.length + 1))[i]? = some c
      ↔ i < properties.length ∧ plan.completionAt (i :: path) = c := by
  rw [completions_eq_map, List.getElem?_map]
  by_cases hi : i < properties.length
  · rw [List.getElem?_eq_getElem hi, completionAt_of (at?_property h hi)]
    simp [hi]
  · simp [hi]

end Plan

namespace Queue

variable {plan : Plan} {s : State} {job : Job} {jobs : List Job}

-- ============================================================ invariant

/-- The round that a job belongs to. -/
def Job.round (plan : Plan) : Job → Nat
  | .start path _ => path.length
  | .ended path i _ => (plan.completionAt (i :: path)).round + 1
  | .wake path _ => (plan.completionAt path).round

/-- A job carries what the plan that it is about is through with, or will be. -/
def Job.Carries (plan : Plan) : Job → Prop
  | .start _ _ => True
  | .ended path i result => result = (plan.completionAt (i :: path)).result
  | .wake path model => ∀ started name properties finish,
      plan.at? path = some (.waiting started name properties finish) →
        (model.bind fun m => (finish m).result) = (plan.completionAt path).result

/-- The second job stands behind the first by rights: in its round and not about an earlier
property, or in the next round. What it is about is then next to something that had its turn
before the first job, and so not about a later one. -/
def Follows (plan : Plan) (job later : Job) : Prop :=
  later.round plan = job.round plan ∧ ¬Before later.about job.about
    ∨ later.round plan = job.round plan + 1 ∧ ¬Before job.about later.about

/-- What holds of the queue between turns. -/
structure Timely (plan : Plan) (s : State) : Prop where
  carried : ∀ job ∈ s.jobs, job.Carries plan
  order : s.jobs.Pairwise (Follows plan)
  delivered : ∀ z ∈ s.sleepers, ∀ entry ∈ z.results,
    (plan.completionAt (entry.1 :: z.path)).result = .ok entry.2
      ∧ ∀ job ∈ s.jobs, (plan.completionAt (entry.1 :: z.path)).round < job.round plan
  outcome : ∀ result, s.outcome = some result → result = (plan.completion 0).result

/-- No job behind another one belongs to an earlier round. -/
theorem Follows.round_le {later : Job} (h : Follows plan job later) :
    job.round plan ≤ later.round plan := by
  obtain ⟨h, -⟩ | ⟨h, -⟩ := h <;> omega

/-- A job about a plan belongs to a round up to the one after which the plan is through. -/
theorem Job.Right.round_le (hwaits : plan.Waits) {asleep : List Path}
    (h : job.Right plan asleep) : job.round plan ≤ (plan.completionAt job.about).round + 1 := by
  cases job with
  | start path inner =>
      have := (hwaits.at? h.1).start_le_round path.length
      rw [← Plan.completionAt_of h.1] at this
      exact Nat.le_succ_of_le this
  | ended path i result => exact Nat.le_refl _
  | wake path model => exact Nat.le_succ _

theorem Timely.initial (plan : Plan) : Timely plan (.initial plan) := by
  constructor
  case carried =>
    intro job hjob
    rw [List.mem_singleton.1 hjob]
    trivial
  case order => exact List.pairwise_singleton ..
  case delivered => exact fun z hz => nomatch hz
  case outcome => exact fun result hresult => nomatch hresult

-- ============================================================== a turn

/-- What sleepers have after a turn they had before, or else it was through before the round. -/
def Arrives (plan : Plan) (round : Nat) (s s' : State) : Prop :=
  ∀ z ∈ s'.sleepers, ∀ entry ∈ z.results,
    (∃ old ∈ s.sleepers, old.path = z.path ∧ entry ∈ old.results)
      ∨ (plan.completionAt (entry.1 :: z.path)).result = .ok entry.2
        ∧ (plan.completionAt (entry.1 :: z.path)).round < round

/-- Nothing arrives where the sleepers stay as they are. -/
theorem Arrives.of_sleepers {round : Nat} {s' : State} (h : s'.sleepers = s.sleepers) :
    Arrives plan round s s' :=
  fun z hz _ hentry => .inl ⟨z, h ▸ hz, rfl, hentry⟩

/-- A turn keeps the order if it queues jobs of the next round, one before the other, each
next to the plan that the turn is about. -/
theorem Timely.advance (h : Timely plan s) (hjobs : s.jobs = job :: jobs) {s' : State}
    {queued : List Job} (hqueued : s'.jobs = jobs ++ queued)
    (carried : ∀ new ∈ queued, new.Carries plan)
    (round : ∀ new ∈ queued, new.round plan = job.round plan + 1)
    (near : ∀ new ∈ queued, ∀ old ∈ jobs, (Before old.about new.about → Before old.about job.about)
      ∧ (Before new.about old.about → Before job.about old.about))
    (order : queued.Pairwise fun new later => ¬Before later.about new.about)
    (delivered : Arrives plan (job.round plan) s s')
    (outcome : ∀ result, s'.outcome = some result → result = (plan.completion 0).result) :
    Timely plan s' := by
  -- the jobs that are left are of the round of the job that is taken or of the next one, and what
  -- is queued is of the next one
  have behind := h.order
  rw [hjobs, List.pairwise_cons] at behind
  obtain ⟨first, rest⟩ := behind
  have latest : ∀ new ∈ s'.jobs, job.round plan ≤ new.round plan := by
    intro new hnew
    rw [hqueued] at hnew
    rcases List.mem_append.1 hnew with hnew | hnew
    · exact (first new hnew).round_le
    · have := round new hnew
      omega
  constructor
  case carried =>
    intro new hnew
    rw [hqueued] at hnew
    rcases List.mem_append.1 hnew with hnew | hnew
    · exact h.carried new (hjobs ▸ List.mem_cons_of_mem _ hnew)
    · exact carried new hnew
  case order =>
    rw [hqueued, List.pairwise_append]
    refine ⟨rest, ?_, ?_⟩
    · refine order.imp_of_mem fun hnew hlater before => .inl ⟨?_, before⟩
      rw [round _ hnew, round _ hlater]
    · intro old hold new hnew
      have hround := round new hnew
      obtain ⟨toJob, ofJob⟩ := near new hnew old hold
      -- where the old job is of this round, it keeps before the new one by that; where it is of the
      -- next, by the places of the plans
      rcases first old hold with ⟨same, before⟩ | ⟨next, before⟩
      · exact .inr ⟨by omega, mt toJob before⟩
      · exact .inl ⟨by omega, mt ofJob before⟩
  case delivered =>
    intro z hz entry hentry
    rcases delivered z hz entry hentry with ⟨old, hold, hpath, hentry⟩ | ⟨result, early⟩
    · obtain ⟨result, early⟩ := h.delivered old hold entry hentry
      rw [← hpath]
      have := early job (hjobs ▸ List.mem_cons_self ..)
      exact ⟨result, fun new hnew => Nat.lt_of_lt_of_le this (latest new hnew)⟩
    · exact ⟨result, fun new hnew => Nat.lt_of_lt_of_le early (latest new hnew)⟩
  case outcome => exact outcome

/-- A turn that queues nothing, or a single job on the way to the plan that it is about. -/
theorem Timely.advance_up (h : Timely plan s) (hjobs : s.jobs = job :: jobs) {s' : State}
    (queued : Option Job) (hqueued : s'.jobs = jobs ++ queued.toList)
    (carried : ∀ new ∈ queued, new.Carries plan)
    (round : ∀ new ∈ queued, new.round plan = job.round plan + 1)
    (up : ∀ new ∈ queued, new.about <:+ job.about)
    (delivered : Arrives plan (job.round plan) s s')
    (outcome : ∀ result, s'.outcome = some result → result = (plan.completion 0).result) :
    Timely plan s' := by
  refine h.advance hjobs hqueued ?_ ?_ ?_ ?_ delivered outcome
  · exact fun new hnew => carried new (Option.mem_toList.1 hnew)
  · exact fun new hnew => round new (Option.mem_toList.1 hnew)
  · intro new hnew old hold
    have hup := up new (Option.mem_toList.1 hnew)
    exact ⟨fun before => before.mono (List.suffix_refl _) hup,
      fun before => before.mono hup (List.suffix_refl _)⟩
  · cases queued with
    | none => exact .nil
    | some new => exact List.pairwise_singleton ..

/-- A turn that queues nothing. -/
theorem Timely.advance_quiet (h : Timely plan s) (hjobs : s.jobs = job :: jobs) {s' : State}
    (hqueued : s'.jobs = jobs)
    (delivered : Arrives plan (job.round plan) s s')
    (outcome : ∀ result, s'.outcome = some result → result = (plan.completion 0).result) :
    Timely plan s' := by
  have nothing : s'.jobs = jobs ++ (none : Option Job).toList := by
    rw [hqueued]
    exact (List.append_nil _).symm
  refine h.advance_up hjobs none nothing ?_ ?_ ?_ delivered outcome
  · exact fun new hnew => nomatch hnew
  · exact fun new hnew => nomatch hnew
  · exact fun new hnew => nomatch hnew

/-- A plan is through in the round of its job, with what it comes to. -/
theorem Timely.conclude (h : Timely plan s) (hjobs : s.jobs = job :: jobs) {path : Path}
    (about : job.about = path) (round : job.round plan = (plan.completionAt path).round)
    {result : Except Fault Schema} (hresult : result = (plan.completionAt path).result)
    (events : List Event) :
    Timely plan ((State.happen { s with jobs } events).conclude result path) := by
  cases path with
  | nil =>
      refine h.advance_quiet hjobs rfl (.of_sleepers rfl) ?_
      intro result' houtcome
      cases houtcome
      exact hresult
  | cons i path =>
      refine h.advance_up hjobs (some (.ended path i result)) rfl ?_ ?_ ?_ (.of_sleepers rfl)
        h.outcome
      · rintro new ⟨⟩
        exact hresult
      · rintro new ⟨⟩
        rw [round]
        rfl
      · rintro new ⟨⟩
        rw [about]
        exact List.suffix_refl _

/-- Below a plan that has not begun nothing goes on. -/
theorem Inv.asleep_of_below (h : Inv plan [] s) {i : Nat} {path q : Path}
    (hq : q ∈ s.active ∨ q ∈ s.asleep) (below : i :: path <:+ q) : path ∈ s.asleep := by
  induction q with
  | nil =>
      have := below.length_le
      simp at this
  | cons j q ih =>
      have parent := h.below j q hq
      rcases List.suffix_cons_iff.1 below with heq | below
      · cases heq
        exact parent
      · exact ih (.inr parent) below

/-- A plan that begins and waits queues its properties in order. -/
theorem Timely.start_waiting (h : Timely plan s) (hinv : Inv plan [] s) {path : Path}
    {started : List Event} {name : Text} {properties : List (Property × Plan)}
    {finish : Schema → Traced Schema}
    (hjobs : s.jobs = .start path (.waiting started name properties finish) :: jobs) :
    Timely plan (start { s with jobs } path (.waiting started name properties finish)) := by
  have right : Job.Right plan s.asleep (.start path (.waiting started name properties finish)) :=
    hinv.jobs _ (hjobs ▸ List.mem_cons_self ..)
  -- nothing below this plan has been reached, since it does not sleep
  have apart : ∀ old ∈ jobs, ∀ k, ¬k :: path <:+ old.about := by
    intro old hold k below
    have active : old.about ∈ s.active :=
      List.mem_append_left _ (List.mem_map_of_mem (hjobs ▸ List.mem_cons_of_mem _ hold))
    exact right.2 (hinv.asleep_of_below (.inl active) below)
  refine h.advance hjobs rfl ?_ ?_ ?_ ?_ ?_ h.outcome
  · intro new hnew
    obtain ⟨entry, -, rfl⟩ := List.mem_map.1 hnew
    trivial
  · intro new hnew
    obtain ⟨entry, -, rfl⟩ := List.mem_map.1 hnew
    rfl
  · -- the properties stand where the plan stands among the jobs that are left
    intro new hnew old hold
    obtain ⟨entry, -, rfl⟩ := List.mem_map.1 hnew
    constructor
    · intro before
      rcases before.of_cons_right with before | ⟨k, -, below⟩
      · exact before
      · exact absurd below (apart old hold k)
    · intro before
      rcases before.of_cons_left with before | ⟨k, -, below⟩
      · exact before
      · exact absurd below (apart old hold k)
  · -- among themselves they are queued by their positions
    rw [← List.pairwise_map (f := Job.about) (R := fun p q => ¬Before q p), map_about_starts,
      List.pairwise_map]
    refine List.pairwise_lt_range.imp ?_
    intro i j hij before
    have := lt_of_before before
    omega
  · intro z hz entry hentry
    rcases List.mem_cons.1 hz with rfl | hz
    · cases hentry
    · exact .inl ⟨z, hz, rfl, hentry⟩

-- ============================================================== the floor

section Floor

variable {z : Sleeper} {started : List Event} {name : Text} {properties : List (Property × Plan)}
  {finish : Schema → Traced Schema}

/-- A property that comes to a fault is not among the results that a sleeper has. -/
theorem Timely.notMem_results (h : Timely plan s) (hz : z ∈ s.sleepers) {i : Nat} {e : Fault}
    (hfault : (plan.completionAt (i :: z.path)).result = .error e) :
    i ∉ z.results.map (·.1) := by
  intro hmem
  obtain ⟨entry, hentry, rfl⟩ := List.mem_map.1 hmem
  have result := (h.delivered z hz entry hentry).1
  rw [hfault] at result
  cases result

/-- A sleeper that is not called misses a property two rounds after which it is through, or
later: the one that comes to the first fault, or any one if there is no fault. -/
theorem Timely.exists_missing (h : Timely plan s) (hinv : Inv plan [] s) (hwaits : plan.Waits)
    (hz : z ∈ s.sleepers) (huncalled : z.called = false)
    (hat : plan.at? z.path = some (.waiting started name properties finish)) :
    ∃ i < properties.length, i ∉ z.results.map (·.1)
      ∧ (plan.completionAt (i :: z.path)).round + 2 ≤ (plan.completionAt z.path).round := by
  have hright := hinv.sleepers z hz
  rw [Plan.completionAt_of hat]
  obtain ⟨i, round, e, fault⟩ | ⟨round, schemas, all⟩ :=
    Plan.firstFault_or_allThrough (hwaits.at? hat).1 (z.path.length + 1)
  · obtain ⟨hi, here⟩ := (Plan.getElem?_completions hat).1 fault.here
    refine ⟨i, hi, h.notMem_results hz (congrArg Completion.result here), ?_⟩
    rw [here, Plan.completion_of_firstFault fault]
  · obtain ⟨i, hi, hnone⟩ := hright.exists_missing huncalled
    rw [hright.length_properties hat] at hi
    have mem := List.mem_of_getElem? ((Plan.getElem?_completions hat).2 ⟨hi, rfl⟩)
    refine ⟨i, hi, hnone, ?_⟩
    rw [Plan.completion_of_allThrough all]
    exact Nat.add_le_add_right (all.upper _ mem) 2

/-- While no job belongs to a round before `now`, no plan that sleeps uncalled is through by
then, and a property that it waits for at most one round before. -/
theorem Timely.floor (h : Timely plan s) (hinv : Inv plan [] s) (hwaits : plan.Waits) {now : Nat}
    (hnow : ∀ job ∈ s.jobs, now ≤ job.round plan) {path : Path} {inner : Plan}
    (hat : plan.at? path = some inner) (hpath : path ∈ s.uncalled) :
    now < (plan.completionAt path).round := by
  induction inner using Plan.induction generalizing path with
  | settled outcome =>
      obtain ⟨z, hz, rfl⟩ := List.mem_map.1 hpath
      obtain ⟨_, _, hat', -⟩ := (hinv.sleepers z (List.mem_filter.1 hz).1).stands
      rw [hat] at hat'
      cases hat'
  | waiting started name properties finish ih =>
      obtain ⟨z, hz, rfl⟩ := List.mem_map.1 hpath
      obtain ⟨hzmem, huncalled⟩ := List.mem_filter.1 hz
      have huncalled : z.called = false := by simpa using huncalled
      obtain ⟨i, hi, hnone, through⟩ := h.exists_missing hinv hwaits hzmem huncalled hat
      have later : now ≤ (plan.completionAt (i :: z.path)).round + 1 := by
        have hlength := (hinv.sleepers z hzmem).length_properties hat
        rcases hinv.job_or_asleep hzmem huncalled (hlength ▸ hi) hnone with
          ⟨job, hjob, about⟩ | asleep
        · have upper := (hinv.jobs job hjob).round_le hwaits
          rw [about] at upper
          exact Nat.le_trans (hnow job hjob) upper
        · have := ih properties[i] (List.getElem_mem hi) (Plan.at?_property hat hi) asleep
          omega
      omega

end Floor

-- =================================================== an ending arrives

section Delivery

variable {path : Path} {i : Nat} {result : Except Fault Schema} {z : Sleeper}
  {started : List Event} {name : Text} {properties : List (Property × Plan)}
  {finish : Schema → Traced Schema}

/-- What stands behind the ending of a property belongs to one that is through later, or in the
same round and is a later property. -/
theorem Follows.least {later : Job} (h : Follows plan (.ended path i result) later) {j : Nat}
    (about : later.about = j :: path)
    (upper : later.round plan ≤ (plan.completionAt (j :: path)).round + 1) :
    (plan.completionAt (i :: path)).round < (plan.completionAt (j :: path)).round
      ∨ (plan.completionAt (i :: path)).round = (plan.completionAt (j :: path)).round ∧ i ≤ j := by
  have ending : (Job.ended path i result).round plan = (plan.completionAt (i :: path)).round + 1 :=
    rfl
  obtain ⟨same, before⟩ | ⟨next, -⟩ := h
  · rw [about] at before
    have ordered : i ≤ j := by
      by_contra hlt
      exact before ⟨j, i, path, by omega, List.suffix_refl _, List.suffix_refl _⟩
    omega
  · omega

/-- A fault that reaches a sleeper is the first among those of its properties. -/
theorem Timely.firstFault_of_ended (h : Timely plan s) (hinv : Inv plan [] s)
    (hwaits : plan.Waits) (hjobs : s.jobs = .ended z.path i result :: jobs)
    (hz : z ∈ s.sleepers) (huncalled : z.called = false)
    (hat : plan.at? z.path = some (.waiting started name properties finish))
    {e : Fault} (hresult : (plan.completionAt (i :: z.path)).result = .error e)
    (hi : i < properties.length) :
    FirstFault (Plan.completions properties (z.path.length + 1)) i
      (plan.completionAt (i :: z.path)).round e := by
  have behind := h.order
  rw [hjobs, List.pairwise_cons] at behind
  obtain ⟨first, -⟩ := behind
  have hnow : ∀ job ∈ s.jobs, (plan.completionAt (i :: z.path)).round + 1 ≤ job.round plan := by
    intro job hjob
    rw [hjobs] at hjob
    rcases List.mem_cons.1 hjob with rfl | hjob
    · exact Nat.le_refl _
    · exact (first job hjob).round_le
  constructor
  case here =>
    refine (Plan.getElem?_completions hat).2 ⟨hi, ?_⟩
    rw [← hresult]
  case least =>
    intro j round e' hj
    obtain ⟨hlt, there⟩ := (Plan.getElem?_completions hat).1 hj
    -- a property that fails has not delivered anything, so it has a job or sleeps
    have hnone := h.notMem_results hz (congrArg Completion.result there)
    have hlength := (hinv.sleepers z hz).length_properties hat
    obtain rfl : (plan.completionAt (j :: z.path)).round = round := congrArg Completion.round there
    rcases hinv.job_or_asleep hz huncalled (hlength ▸ hlt) hnone with ⟨job, hjob, about⟩ | asleep
    · have upper := (hinv.jobs job hjob).round_le hwaits
      rw [about] at upper
      rw [hjobs] at hjob
      rcases List.mem_cons.1 hjob with rfl | hjob
      · cases about
        exact .inr ⟨rfl, Nat.le_refl _⟩
      · exact (first job hjob).least about upper
    · -- and one that sleeps ends in a later round than any job that is queued
      have later := h.floor hinv hwaits hnow (Plan.at?_property hat hlt) asleep
      omega

/-- Once all results are there, the last of them was delivered last. -/
theorem allThrough_of_full (hwaits : plan.Waits) (hright : z.Right plan)
    (hlength : z.results.length = z.properties.length) {round : Nat}
    (delivered : ∀ entry ∈ z.results, (plan.completionAt (entry.1 :: z.path)).result = .ok entry.2
      ∧ (plan.completionAt (entry.1 :: z.path)).round ≤ round)
    (last : ∃ entry ∈ z.results, (plan.completionAt (entry.1 :: z.path)).round = round) :
    ∃ started properties schemas,
      plan.at? z.path = some (.waiting started z.name properties z.finish)
        ∧ AllThrough (Plan.completions properties (z.path.length + 1)) round schemas
        ∧ z.model = .modelOf z.name (Plan.fields (properties.map (·.1)) schemas) := by
  obtain ⟨started, properties, fields, hat, hfields, hmodel⟩ := hright.model_eq hlength
  have hcount := hright.length_properties hat
  have each : ∀ j < properties.length, ∃ entry ∈ z.results, entry.1 = j := by
    intro j hj
    exact List.mem_map.1 (hright.all_delivered hlength (hcount ▸ hj))
  obtain ⟨j, round', e, fault⟩ | ⟨round', schemas, all⟩ :=
    Plan.firstFault_or_allThrough (hwaits.at? hat).1 (z.path.length + 1)
  · -- no property fails, since each has delivered a schema
    obtain ⟨hj, here⟩ := (Plan.getElem?_completions hat).1 fault.here
    obtain ⟨entry, hentry, rfl⟩ := each j hj
    have result := (delivered entry hentry).1
    rw [here] at result
    cases result
  · -- the last one through sets the round, and it is the one that was delivered last
    have same : round' = round := by
      apply Nat.le_antisymm
      · obtain ⟨c, hc, rfl⟩ := all.last
        obtain ⟨j, hcj⟩ := List.getElem?_of_mem hc
        obtain ⟨hj, rfl⟩ := (Plan.getElem?_completions hat).1 hcj
        obtain ⟨entry, hentry, rfl⟩ := each j hj
        exact (delivered entry hentry).2
      · obtain ⟨entry, hentry, rfl⟩ := last
        have hi := hright.index_lt (List.mem_map_of_mem hentry)
        exact all.upper _ (List.mem_of_getElem?
          ((Plan.getElem?_completions hat).2 ⟨hcount ▸ hi, rfl⟩))
    subst same
    refine ⟨started, properties, schemas, hat, all, ?_⟩
    have fields_eq := hfields.symm.trans (Plan.inOrderAll_of_results all.results)
    rw [hmodel, Except.ok.inj fields_eq]

/-- A sleeper after a replacement is the new one, or was there before. -/
theorem State.mem_replace {z' other : Sleeper} (h : other ∈ (s.replace z').sleepers) :
    other = z' ∨ other ∈ s.sleepers := by
  obtain ⟨old, hold, rfl⟩ := List.mem_map.1 h
  split
  case isTrue => exact .inl rfl
  case isFalse => exact .inr hold

/-- A fault that is delivered wakes its sleeper two rounds after the property has failed. -/
theorem Timely.deliver_error (h : Timely plan s) (hinv : Inv plan [] s) (hwaits : plan.Waits)
    {e : Fault} (hjobs : s.jobs = .ended z.path i (.error e) :: jobs) (hz : z ∈ s.sleepers)
    (huncalled : z.called = false) :
    Timely plan (deliver { s with jobs } z i (.error e)) := by
  have ending : Job.ended z.path i (.error e) ∈ s.jobs := hjobs ▸ List.mem_cons_self ..
  have carried : .error e = (plan.completionAt (i :: z.path)).result := h.carried _ ending
  obtain ⟨inner, hinner, -⟩ := hinv.jobs _ ending
  obtain ⟨started, name, properties, finish, p, hat, hp⟩ := Plan.at?_cons.1 hinner
  have hi := (List.getElem?_eq_some_iff.1 hp).1
  have fault := h.firstFault_of_ended hinv hwaits hjobs hz huncalled hat carried.symm hi
  have through := Plan.completionAt_of hat
  rw [Plan.completion_of_firstFault fault] at through
  refine h.advance_up hjobs (some (.wake z.path (.error e))) rfl ?_ ?_ ?_ ?_ h.outcome
  · rintro new ⟨⟩ started' name' properties' finish' hat'
    rw [through]
    rfl
  · rintro new ⟨⟩
    exact congrArg Completion.round through
  · rintro new ⟨⟩
    exact List.suffix_cons ..
  · intro other hother entry hentry
    rcases State.mem_replace hother with rfl | hother
    · exact .inl ⟨z, hz, rfl, hentry⟩
    · exact .inl ⟨other, hother, rfl, hentry⟩

/-- What a sleeper has with the schema at hand was through when the property at hand was: the
rest before, and the schema itself just then. -/
theorem Timely.delivered_append (h : Timely plan s) {schema : Schema}
    (hjobs : s.jobs = .ended z.path i (.ok schema) :: jobs) (hz : z ∈ s.sleepers) :
    ∀ entry ∈ z.results ++ [(i, schema)],
      (plan.completionAt (entry.1 :: z.path)).result = .ok entry.2
        ∧ (plan.completionAt (entry.1 :: z.path)).round
            ≤ (plan.completionAt (i :: z.path)).round := by
  have ending : Job.ended z.path i (.ok schema) ∈ s.jobs := hjobs ▸ List.mem_cons_self ..
  have carried : .ok schema = (plan.completionAt (i :: z.path)).result := h.carried _ ending
  intro entry hentry
  rcases List.mem_append.1 hentry with hentry | hentry
  · obtain ⟨result, early⟩ := h.delivered z hz entry hentry
    exact ⟨result, Nat.le_of_lt_succ (early _ ending)⟩
  · rw [List.mem_singleton.1 hentry]
    exact ⟨carried.symm, Nat.le_refl _⟩

/-- A schema that is delivered wakes its sleeper if it is the last one, two rounds after the
last property is through, and else only joins the others. -/
theorem Timely.deliver_ok (h : Timely plan s) (hwaits : plan.Waits) {schema : Schema}
    (hjobs : s.jobs = .ended z.path i (.ok schema) :: jobs) (hz : z ∈ s.sleepers)
    (hinv' : Inv plan [] (deliver { s with jobs } z i (.ok schema))) :
    Timely plan (deliver { s with jobs } z i (.ok schema)) := by
  have delivered := h.delivered_append hjobs hz
  have arrived : ∀ called, Arrives plan ((Job.ended z.path i (.ok schema)).round plan) s
      (State.replace { s with jobs }
        { z with results := z.results ++ [(i, schema)], called }) := by
    intro called other hother entry hentry
    rcases State.mem_replace hother with rfl | hother
    · obtain ⟨result, early⟩ := delivered entry hentry
      exact .inr ⟨result, Nat.lt_succ_of_le early⟩
    · exact .inl ⟨other, hother, rfl, hentry⟩
  revert hinv'
  unfold Queue.deliver
  dsimp only
  split
  case isTrue hlength =>
    intro hinv'
    let z' : Sleeper := { z with results := z.results ++ [(i, schema)], called := true }
    have hmem : z' ∈ (State.replace { s with jobs } z').sleepers :=
      List.mem_map.2 ⟨z, hz, by rw [if_pos (by simp [z'])]⟩
    -- with this result there is one for every property, so all of them are through and the model is
    -- made of them
    obtain ⟨started, properties, schemas, hat, all, hmodel⟩ :=
      allThrough_of_full hwaits (hinv'.sleepers z' hmem) hlength delivered
        ⟨(i, schema), List.mem_append_right _ (List.mem_singleton.2 rfl), rfl⟩
    have through := Plan.completionAt_of hat
    rw [Plan.completion_of_allThrough all] at through
    refine h.advance_up hjobs (some (.wake z.path (.ok z'.model))) rfl ?_ ?_ ?_
      (arrived true) h.outcome
    · rintro new ⟨⟩ _ _ _ _ hat'
      rw [hat] at hat'
      cases hat'
      rw [through, hmodel]
      rfl
    · rintro new ⟨⟩
      exact congrArg Completion.round through
    · rintro new ⟨⟩
      exact List.suffix_cons ..
  case isFalse hlength =>
    exact fun _ => h.advance_quiet hjobs rfl (arrived z.called) h.outcome

/-- An ending that is delivered wakes its sleeper two rounds after the end of what decides:
the first fault, or the last of all properties. -/
theorem Timely.deliver (h : Timely plan s) (hinv : Inv plan [] s) (hwaits : plan.Waits)
    (hjobs : s.jobs = .ended path i result :: jobs)
    (hz : State.sleeper? { s with jobs } path = some z) (huncalled : z.called = false)
    (hinv' : Inv plan [] (deliver { s with jobs } z i result)) :
    Timely plan (deliver { s with jobs } z i result) := by
  have hpath : z.path = path := by simpa using List.find?_some hz
  have hzmem : z ∈ s.sleepers := List.mem_of_find?_eq_some hz
  subst hpath
  cases result with
  | error e => exact h.deliver_error hinv hwaits hjobs hzmem huncalled
  | ok schema => exact h.deliver_ok hwaits hjobs hzmem hinv'

end Delivery

-- ============================================================ every turn

/-- A turn that changes nothing but that its job is gone. -/
theorem Timely.forget (h : Timely plan s) (hjobs : s.jobs = job :: jobs) :
    Timely plan { s with jobs } :=
  h.advance_quiet hjobs rfl (.of_sleepers rfl) h.outcome

/-- An ending reaches a sleeper that waits for it, and makes no difference to any other. -/
theorem Timely.turn_ended (h : Timely plan s) (hinv : Inv plan [] s) (hwaits : plan.Waits)
    {path : Path} {i : Nat} {result : Except Fault Schema}
    (hjobs : s.jobs = .ended path i result :: jobs) :
    Timely plan (Queue.turn { s with jobs } (.ended path i result)) := by
  have next := hinv.turn hwaits hjobs
  revert next
  cases hz : State.sleeper? { s with jobs } path with
  | none =>
      rw [turn_ended_of_none hz]
      exact fun _ => h.forget hjobs
  | some z =>
      rw [turn_ended_of_some hz]
      cases huncalled : z.called with
      | true => exact fun _ => h.forget hjobs
      | false => exact h.deliver hinv hwaits hjobs hz huncalled

/-- A plan that goes on is through in the round in which it wakes. -/
theorem Timely.turn_wake (h : Timely plan s) (hinv : Inv plan [] s) {path : Path}
    {model : Except Fault Schema} (hjobs : s.jobs = .wake path model :: jobs) :
    Timely plan (Queue.turn { s with jobs } (.wake path model)) := by
  have waking : Job.wake path model ∈ s.jobs := hjobs ▸ List.mem_cons_self ..
  obtain ⟨asleep, started, name, properties, finish, hat, -⟩ := hinv.jobs _ waking
  obtain ⟨z, hz, rfl⟩ := hinv.exists_sleeper asleep hat
  have through := h.carried _ waking started name properties z.finish hat
  have hz : State.sleeper? { s with jobs } path = some z := hz
  unfold Queue.turn
  dsimp only
  rw [hz]
  cases model with
  | error e =>
      have quiet : State.happen { s with jobs } [] = { s with jobs } := by
        simp [State.happen]
      have next := h.conclude hjobs rfl rfl through []
      rwa [quiet] at next
  | ok m => exact h.conclude hjobs rfl rfl through _

/-- Every turn keeps the order of rounds. -/
theorem Timely.turn (h : Timely plan s) (hinv : Inv plan [] s) (hwaits : plan.Waits)
    (hjobs : s.jobs = job :: jobs) : Timely plan (turn { s with jobs } job) := by
  cases job with
  | start path inner =>
      have right := hinv.jobs _ (hjobs ▸ List.mem_cons_self ..)
      cases inner with
      | settled outcome =>
          have through := Plan.completionAt_of right.1
          exact h.conclude hjobs rfl (congrArg Completion.round through).symm
            (congrArg Completion.result through).symm outcome.events
      | waiting started name properties finish => exact h.start_waiting hinv hjobs
  | ended path i result => exact h.turn_ended hinv hwaits hjobs
  | wake path model => exact h.turn_wake hinv hjobs

/-- A run keeps the order of rounds. -/
theorem Timely.run (h : Timely plan s) (hinv : Inv plan [] s) (hwaits : plan.Waits)
    (rounds : Nat) : Timely plan (run rounds s) := by
  induction rounds generalizing s with
  | zero => exact h
  | succ rounds ih =>
      obtain ⟨jobs, sleepers, events, outcome⟩ := s
      cases outcome with
      | some result => exact h
      | none =>
          cases jobs with
          | nil => exact h
          | cons job jobs => exact ih (h.turn hinv hwaits rfl) (hinv.turn hwaits rfl)

end Queue

/-- Working together comes to what the count of rounds says, faults included. -/
theorem Plan.result_run_eq {plan : Plan} (hwaits : plan.Waits) :
    plan.run.result = (plan.completion 0).result := by
  obtain ⟨result, houtcome, -⟩ := Plan.outcome_run hwaits
  have timely := (Queue.Timely.initial plan).run (Queue.Inv.initial plan) hwaits (3 * plan.size)
  rw [Plan.result_of_outcome houtcome]
  exact timely.outcome result houtcome

end TypeShape
