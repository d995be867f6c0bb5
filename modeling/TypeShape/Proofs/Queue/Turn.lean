/-
A turn keeps the invariant of the queue.

One lemma for each thing that a turn can do: a plan begins and ends at once, a plan
begins and waits, an ending is delivered or comes too late, a sleeper goes on.
-/
import Mathlib.Data.List.Perm.Subperm
import TypeShape.Proofs.Queue.Invariant

namespace TypeShape.Queue

variable {plan : Plan} {hand : List Path} {s : State}

-- =============================================== the model of a sleeper

/-- Two lists match when the second is looked up place by place. -/
theorem forall₂_filterMap_range {α β : Type} {R : α → β → Prop} {l : List α}
    {get : Nat → Option β}
    (h : ∀ i (hi : i < l.length), ∃ b, get i = some b ∧ R l[i] b) :
    List.Forall₂ R l ((List.range l.length).filterMap get) := by
  induction l generalizing get with
  | nil => exact .nil
  | cons a l ih =>
      obtain ⟨b, hb, hab⟩ := h 0 (Nat.succ_pos _)
      rw [List.length_cons, List.range_succ_eq_map, List.filterMap_cons, hb,
        List.filterMap_map]
      exact .cons hab (ih fun i hi => h (i + 1) (Nat.succ_lt_succ hi))

namespace Sleeper.Right

variable {z : Sleeper}

/-- A sleeper waits for as many properties as the plan that it stands for. -/
theorem length_properties (h : z.Right plan) {started : List Event} {name : Text}
    {properties : List (Property × Plan)} {finish : Schema → Traced Schema}
    (hat : plan.at? z.path = some (.waiting started name properties finish)) :
    z.properties.length = properties.length := by
  obtain ⟨_, _, hat', hproperties⟩ := h.stands
  rw [hat] at hat'
  cases hat'
  rw [hproperties, List.length_map]

/-- A plan right below a sleeper is that of a property that the sleeper waits for. -/
theorem lt_of_at? (h : z.Right plan) {i : Nat} {inner : Plan}
    (hinner : plan.at? (i :: z.path) = some inner) : i < z.properties.length := by
  obtain ⟨_, _, properties, _, p, hat, hp⟩ := Plan.at?_cons.1 hinner
  rw [h.length_properties hat]
  exact (List.getElem?_eq_some_iff.1 hp).1

/-- Results are delivered from the properties that a sleeper waits for. -/
theorem index_lt (h : z.Right plan) {i : Nat} (hi : i ∈ z.results.map (·.1)) :
    i < z.properties.length := by
  obtain ⟨entry, hentry, rfl⟩ := List.mem_map.1 hi
  obtain ⟨inner, hinner, -⟩ := h.results_right entry hentry
  exact h.lt_of_at? hinner

/-- As many results as properties are the results of all properties. -/
theorem all_delivered (h : z.Right plan) (hlength : z.results.length = z.properties.length)
    {i : Nat} (hi : i < z.properties.length) : i ∈ z.results.map (·.1) := by
  have hsubset : z.results.map (·.1) ⊆ List.range z.properties.length := fun j hj =>
    List.mem_range.2 (h.index_lt hj)
  have hperm : (z.results.map (·.1)).Perm (List.range z.properties.length) := by
    refine (List.subperm_of_subset h.results_nodup hsubset).perm_of_length_le ?_
    rw [List.length_range, List.length_map]
    exact Nat.le_of_eq hlength.symm
  exact hperm.mem_iff.2 (List.mem_range.2 hi)

/-- With all results in, a sleeper's model is the one that its properties make in order. -/
theorem model_eq (h : z.Right plan) (hlength : z.results.length = z.properties.length) :
    ∃ started properties fields,
      plan.at? z.path = some (.waiting started z.name properties z.finish)
        ∧ (Plan.inOrderAll properties).result = .ok fields
        ∧ z.model = .modelOf z.name fields := by
  obtain ⟨started, properties, hat, hproperties⟩ := h.stands
  have hcount : z.properties.length = properties.length := by rw [hproperties, List.length_map]
  let get (i : Nat) : Option Schema := (z.results.find? fun r => r.1 == i).map (·.2)
  have hget : ∀ i (hi : i < properties.length),
      ∃ b, get i = some b ∧ properties[i].2.inOrder.result = .ok b := by
    intro i hi
    obtain ⟨entry, hentry, hindex⟩ := List.mem_map.1 (h.all_delivered hlength (hcount ▸ hi))
    obtain ⟨found, hfound⟩ : ∃ found, z.results.find? (fun r => r.1 == i) = some found :=
      Option.isSome_iff_exists.1 (List.find?_isSome.2 ⟨entry, hentry, by simp [hindex]⟩)
    have hfoundIndex : found.1 = i := by simpa using List.find?_some hfound
    obtain ⟨inner, hinner, hresult⟩ := h.results_right found (List.mem_of_find?_eq_some hfound)
    obtain ⟨_, _, _, _, p, hat', hp⟩ := Plan.at?_cons.1 hinner
    rw [hat] at hat'
    cases hat'
    rw [hfoundIndex, List.getElem?_eq_getElem hi] at hp
    refine ⟨found.2, by simp only [get, hfound, Option.map_some], ?_⟩
    rw [Option.some.inj hp]
    exact hresult
  refine ⟨started, properties, _, hat, Plan.result_inOrderAll (forall₂_filterMap_range hget), ?_⟩
  show Schema.modelOf z.name (Plan.fields z.properties _) = _
  rw [hcount, hproperties]

end Sleeper.Right

-- ======================================================== a plan begins

/-- The paths of the properties of a plan, in order. -/
theorem map_about_starts (path : Path) (properties : List (Property × Plan)) :
    (properties.zipIdx.map fun (entry : (Property × Plan) × Nat) =>
        Job.start (entry.2 :: path) entry.1.2).map Job.about
      = (List.range properties.length).map (· :: path) := by
  rw [List.map_map, List.range_eq_range', ← List.zipIdx_map_snd 0 properties, List.map_map]
  rfl

/-- After the beginning of a plan that waits the floor is that of its properties, of the
plan itself and of all others. -/
theorem State.active_start_waiting (s : State) (path : Path) (started : List Event)
    (name : Text) (properties : List (Property × Plan)) (finish : Schema → Traced Schema) :
    (start s path (.waiting started name properties finish)).active.Perm
      ((List.range properties.length).map (· :: path) ++ path :: s.active) := by
  show ((s.jobs ++ _).map Job.about ++ path :: s.uncalled).Perm _
  rw [List.map_append, map_about_starts]
  refine (List.perm_middle.trans
    (.cons _ (List.Perm.append_right _ List.perm_append_comm))).trans ?_
  rw [List.append_assoc]
  exact List.perm_middle.symm

/-- What is active then. -/
theorem State.mem_active_start_waiting {path q : Path} {started : List Event} {name : Text}
    {properties : List (Property × Plan)} {finish : Schema → Traced Schema} :
    q ∈ (start s path (.waiting started name properties finish)).active
      ↔ (∃ i < properties.length, q = i :: path) ∨ q ∈ path :: s.active := by
  rw [(State.active_start_waiting s path started name properties finish).mem_iff, List.mem_append,
    List.mem_map]
  simp only [List.mem_range, eq_comm]

/-- A sleeper that has just fallen asleep has no results, and waits for something. -/
theorem Sleeper.Right.fresh {path : Path} {started : List Event} {name : Text}
    {properties : List (Property × Plan)} {finish : Schema → Traced Schema}
    (hat : plan.at? path = some (.waiting started name properties finish))
    (hsome : properties ≠ []) :
    let z : Sleeper :=
      { path, name, properties := properties.map (·.1), results := [], called := false, finish }
    z.Right plan := by
  intro z
  refine ⟨⟨started, properties, hat, rfl⟩, List.nodup_nil, fun _ hentry => (nomatch hentry),
    fun _ => ?_⟩
  rw [List.length_map]
  exact List.length_pos_iff.2 hsome

/-- A job stays right when a plan that it is not about falls asleep. -/
theorem Job.Right.sleep {job : Job} {asleep : List Path} (h : job.Right plan asleep)
    {path : Path} (hother : job.about ≠ path) : job.Right plan (path :: asleep) := by
  cases job with
  | start q inner =>
      refine ⟨h.1, fun hq => ?_⟩
      rcases List.mem_cons.1 hq with heq | hq
      · exact hother heq
      · exact h.2 hq
  | ended q i result => exact h
  | wake q model => exact ⟨List.mem_cons_of_mem _ h.1, h.2⟩

/-- The beginnings of the properties of a plan are right, as nobody sleeps there yet. -/
theorem right_of_mem_starts {path : Path} {started : List Event} {name : Text}
    {properties : List (Property × Plan)} {finish : Schema → Traced Schema}
    (hat : plan.at? path = some (.waiting started name properties finish)) {asleep : List Path}
    (hfresh : ∀ i, i :: path ∉ asleep) {job : Job}
    (hjob : job ∈ properties.zipIdx.map fun (entry : (Property × Plan) × Nat) =>
      Job.start (entry.2 :: path) entry.1.2) : job.Right plan asleep := by
  obtain ⟨⟨⟨p, child⟩, i⟩, hentry, rfl⟩ := List.mem_map.1 hjob
  have hp : properties[i]? = some (p, child) := List.mem_zipIdx_iff_getElem?.1 hentry
  exact ⟨Plan.at?_cons.2 ⟨_, _, _, _, p, hat, hp⟩, hfresh i⟩

/-- A plan that begins and waits: its properties are active in its place. -/
theorem Inv.start_waiting {path : Path} {started : List Event} {name : Text}
    {properties : List (Property × Plan)} {finish : Schema → Traced Schema}
    (h : Inv plan [path] s) (hat : plan.at? path = some (.waiting started name properties finish))
    (hfresh : path ∉ s.asleep) (hsome : properties ≠ []) :
    Inv plan [] (start s path (.waiting started name properties finish)) := by
  have hnodup := List.nodup_cons.1 h.active_nodup
  -- the properties have not been reached, since nobody sleeps above them
  have hbelow : ∀ i, i :: path ∉ path :: s.active ∧ i :: path ∉ s.asleep := fun i =>
    ⟨fun hi => hfresh (h.below i path (.inl hi)), fun hi => hfresh (h.below i path (.inr hi))⟩
  constructor
  case active_nodup =>
    -- the paths of the properties differ by their positions, and none of them was active
    have hactive := State.active_start_waiting s path started name properties finish
    rw [List.nil_append, hactive.nodup_iff, List.nodup_append]
    refine ⟨?_, h.active_nodup, fun a ha b hb hab => ?_⟩
    · exact List.nodup_range.map fun i j hij => (List.cons.inj hij).1
    · obtain ⟨i, -, rfl⟩ := List.mem_map.1 ha
      exact (hbelow i).1 (hab ▸ hb)
  case asleep_nodup => exact List.nodup_cons.2 ⟨hfresh, h.asleep_nodup⟩
  case sleepers =>
    intro z hz
    rcases List.mem_cons.1 hz with rfl | hz
    · exact .fresh hat hsome
    · exact h.sleepers z hz
  case jobs =>
    intro job hjob
    -- jobs that were queued are about other plans, for this one was in the hand
    rcases List.mem_append.1 hjob with hjob | hjob
    · have habout : job.about ∈ s.active := List.mem_append_left _ (List.mem_map_of_mem hjob)
      have hother : job.about ≠ path := fun heq => hnodup.1 (heq ▸ habout)
      exact (h.jobs job hjob).sleep hother
    · refine right_of_mem_starts hat (fun i hi => ?_) hjob
      rcases List.mem_cons.1 hi with heq | hi
      · exact List.cons_ne_self i path heq
      · exact (hbelow i).2 hi
  case below =>
    intro i q hq
    rw [List.nil_append, State.mem_active_start_waiting] at hq
    -- above a property sleeps this plan; above any other plan sleeps who did before
    rcases hq with (⟨j, -, hj⟩ | hq) | hq
    · exact (List.cons.inj hj).2 ▸ List.mem_cons_self ..
    · exact List.mem_cons_of_mem _ (h.below i q (.inl hq))
    · rcases List.mem_cons.1 hq with heq | hq
      · exact List.mem_cons_of_mem _ (h.below i q (.inl (heq ▸ List.mem_cons_self ..)))
      · exact List.mem_cons_of_mem _ (h.below i q (.inr hq))
  case delivered =>
    intro z hz entry hentry
    -- the new sleeper has no results, and no other one sleeps at its path
    rcases List.mem_cons.1 hz with rfl | hz
    · cases hentry
    · rw [List.nil_append, State.mem_active_start_waiting]
      rintro (⟨j, -, hj⟩ | hactive)
      · exact hfresh ((List.cons.inj hj).2 ▸ List.mem_map_of_mem hz)
      · exact h.delivered z hz entry hentry hactive
  case missing =>
    intro z hz hcalled i hi
    rw [List.nil_append, State.mem_active_start_waiting]
    rcases List.mem_cons.1 hz with rfl | hz
    · rw [List.length_map] at hi
      exact .inr (.inl ⟨i, hi, rfl⟩)
    · exact (h.missing z hz hcalled i hi).imp_right .inr
  case outermost =>
    rw [List.nil_append, State.mem_active_start_waiting]
    refine h.outermost.trans ⟨.inr, ?_⟩
    rintro (⟨i, -, hi⟩ | hroot)
    · cases hi
    · exact hroot
  case outcome => exact h.outcome

-- =================================================== an ending arrives

theorem Job.Right.congr {job : Job} {asleep asleep' : List Path} (h : job.Right plan asleep)
    (hmem : ∀ q, q ∈ asleep' ↔ q ∈ asleep) : job.Right plan asleep' := by
  cases job with
  | start q inner => exact ⟨h.1, fun hq => h.2 ((hmem q).1 hq)⟩
  | ended q i result => exact h
  | wake q model => exact ⟨(hmem q).2 h.1, h.2⟩

/-- With the plan of a property in the hand, the outermost plan goes on as long as it is active. -/
theorem Inv.outermost_inner {i : Nat} {path : Path} (h : Inv plan [i :: path] s) :
    s.outcome = none ↔ [] ∈ s.active := by
  refine h.outermost.trans ⟨fun hroot => ?_, List.mem_cons_of_mem _⟩
  rcases List.mem_cons.1 hroot with heq | hroot
  · cases heq
  · exact hroot

/-- An ending that nobody waits for any more is forgotten. -/
theorem Inv.drop {i : Nat} {path : Path} (h : Inv plan [i :: path] s)
    (hcalled : ∀ z ∈ s.sleepers, z.path = path → z.called = true) : Inv plan [] s := by
  have hnodup := List.nodup_cons.1 h.active_nodup
  constructor
  case active_nodup => exact hnodup.2
  case asleep_nodup => exact h.asleep_nodup
  case sleepers => exact h.sleepers
  case jobs => exact h.jobs
  case below =>
    intro j q hq
    exact h.below j q (hq.imp_left (List.mem_cons_of_mem _))
  case delivered =>
    intro z hz entry hentry hactive
    exact h.delivered z hz entry hentry (List.mem_cons_of_mem _ hactive)
  case missing =>
    intro z hz huncalled j hj
    refine (h.missing z hz huncalled j hj).imp_right fun hactive => ?_
    rcases List.mem_cons.1 hactive with heq | hactive
    · rw [hcalled z hz (List.cons.inj heq).2] at huncalled
      cases huncalled
    · exact hactive
  case outermost => exact h.outermost_inner
  case outcome => exact h.outcome

/-- What a sleeper becomes when the ending of a property is delivered to it. -/
structure Delivered (z : Sleeper) (i : Nat) (z' : Sleeper) : Prop where
  path : z'.path = z.path
  properties : z'.properties = z.properties
  kept : ∀ j ∈ z.results.map (·.1), j ∈ z'.results.map (·.1)
  added : ∀ j ∈ z'.results.map (·.1), j = i ∨ j ∈ z.results.map (·.1)
  present : z'.called = false → i ∈ z'.results.map (·.1)

/-- A sleeper takes in an ending: the floor that the ended plan had goes to the sleeper
if it is called, and to nobody otherwise. -/
theorem Inv.deliver {i : Nat} {path : Path} {z z' : Sleeper} (h : Inv plan [i :: path] s)
    (hz : s.sleeper? path = some z) (huncalled : z.called = false) (hright : z'.Right plan)
    (hdelivered : Delivered z i z') :
    Inv plan (if z'.called then [path] else []) (s.replace z') := by
  obtain ⟨hpath, others, hbefore, hothers, hafter⟩ := State.sleeper_split h.asleep_nodup hz
  have hpath' : z'.path = path := hdelivered.path.trans hpath
  have hafter := hafter z' hpath'
  have hnodup := List.nodup_cons.1 h.active_nodup
  have hzmem : z ∈ s.sleepers := hbefore.mem_iff.2 (List.mem_cons_self ..)
  have hasleep : ∀ q, q ∈ (s.replace z').asleep ↔ q ∈ s.asleep := fun q => by
    rw [State.asleep, State.asleep, (hafter.map _).mem_iff, (hbefore.map _).mem_iff,
      List.map_cons, List.map_cons, hdelivered.path]
  have hactive := State.active_replace h.asleep_nodup hz huncalled hpath'
  -- the sleepers are `z'` and the others, as they were `z` and the others; in each case it is
  -- asked which of them is meant
  constructor
  case active_nodup => exact hactive.nodup_iff.2 hnodup.2
  case asleep_nodup =>
    refine (hafter.map Sleeper.path).nodup_iff.2 ?_
    rw [List.map_cons, hdelivered.path, ← List.map_cons (f := Sleeper.path)]
    exact (hbefore.map Sleeper.path).nodup_iff.1 h.asleep_nodup
  case sleepers =>
    intro o ho
    rcases List.mem_cons.1 (hafter.mem_iff.1 ho) with rfl | ho
    · exact hright
    · exact h.sleepers o (hbefore.mem_iff.2 (List.mem_cons_of_mem _ ho))
  case jobs => exact fun job hjob => (h.jobs job hjob).congr hasleep
  case below =>
    intro j q hq
    rw [hactive.mem_iff, hasleep] at hq
    exact (hasleep q).2 (h.below j q (hq.imp_left (List.mem_cons_of_mem _)))
  case delivered =>
    intro o ho entry hentry hfound
    have hmem := hactive.mem_iff.1 hfound
    clear hfound
    rcases List.mem_cons.1 (hafter.mem_iff.1 ho) with rfl | ho
    · -- the plan whose ending is delivered was in the hand, hence in no other place
      rcases hdelivered.added _ (List.mem_map_of_mem hentry) with heq | hold
      · rw [heq, hpath'] at hmem
        exact hnodup.1 hmem
      · obtain ⟨old, hold, heq⟩ := List.mem_map.1 hold
        rw [← heq, hdelivered.path] at hmem
        exact h.delivered z hzmem old hold (List.mem_cons_of_mem _ hmem)
    · exact h.delivered o (hbefore.mem_iff.2 (List.mem_cons_of_mem _ ho)) entry hentry
        (List.mem_cons_of_mem _ hmem)
  case missing =>
    intro o ho hcalled j hj
    rw [hactive.mem_iff]
    rcases List.mem_cons.1 (hafter.mem_iff.1 ho) with rfl | ho
    · rw [hdelivered.properties] at hj
      rcases h.missing z hzmem huncalled j hj with hold | hmem
      · exact .inl (hdelivered.kept j hold)
      · -- what was missing is still active, save for the plan in the hand
        rcases List.mem_cons.1 hmem with heq | hmem
        · exact .inl ((List.cons.inj heq).1 ▸ hdelivered.present hcalled)
        · exact .inr (hdelivered.path ▸ hmem)
    · refine (h.missing o (hbefore.mem_iff.2 (List.mem_cons_of_mem _ ho)) hcalled j hj).imp_right
        fun hmem => ?_
      rcases List.mem_cons.1 hmem with heq | hmem
      · exact absurd (List.cons.inj heq).2 (hothers o ho)
      · exact hmem
  case outermost =>
    rw [hactive.mem_iff]
    exact h.outermost_inner
  case outcome => exact h.outcome

/-- An ending that comes when nobody sleeps there changes nothing. -/
theorem turn_ended_of_none {path : Path} {i : Nat} {result : Except Fault Schema}
    (hz : s.sleeper? path = none) : turn s (.ended path i result) = s := by
  unfold turn
  dsimp only
  rw [hz]

/-- An ending reaches the one that sleeps there, unless that one has been called. -/
theorem turn_ended_of_some {path : Path} {i : Nat} {result : Except Fault Schema} {z : Sleeper}
    (hz : s.sleeper? path = some z) :
    turn s (.ended path i result) = if z.called then s else Queue.deliver s z i result := by
  unfold turn
  dsimp only
  rw [hz]

-- ============================================================ every turn

/-- A sleeper with one more right result is right. -/
theorem Sleeper.Right.add {z : Sleeper} (h : z.Right plan) {i : Nat} {schema : Schema}
    {inner : Plan} (hinner : plan.at? (i :: z.path) = some inner)
    (hresult : inner.inOrder.result = .ok schema) (hfresh : i ∉ z.results.map (·.1))
    (called : Bool) (hlength : called = false → z.results.length + 1 < z.properties.length) :
    { z with results := z.results ++ [(i, schema)], called }.Right plan := by
  refine ⟨h.stands, ?_, fun entry hentry => ?_, fun hcalled => ?_⟩
  · rw [List.map_append]
    refine List.nodup_append.2 ⟨h.results_nodup, List.nodup_singleton _, fun a ha b hb hab => ?_⟩
    rw [List.map_singleton, List.mem_singleton] at hb
    rw [hab, hb] at ha
    exact hfresh ha
  · rcases List.mem_append.1 hentry with hentry | hentry
    · exact h.results_right entry hentry
    · rw [List.mem_singleton.1 hentry]
      exact ⟨inner, hinner, hresult⟩
  · rw [List.length_append]
    exact hlength hcalled

/-- So is one that is called because of a fault. -/
theorem Sleeper.Right.call {z : Sleeper} (h : z.Right plan) : { z with called := true }.Right plan :=
  ⟨h.stands, h.results_nodup, h.results_right, fun hcalled => (nomatch hcalled)⟩

/-- A fault calls a sleeper and leaves its results alone. -/
theorem Delivered.fault (z : Sleeper) (i : Nat) : Delivered z i { z with called := true } :=
  ⟨rfl, rfl, fun _ hj => hj, fun _ hj => .inr hj, fun hcalled => (nomatch hcalled)⟩

/-- A schema is added to the results. -/
theorem Delivered.schema (z : Sleeper) (i : Nat) (schema : Schema) (called : Bool) :
    Delivered z i { z with results := z.results ++ [(i, schema)], called } := by
  refine ⟨rfl, rfl, fun j hj => ?_, fun j hj => ?_, fun _ => ?_⟩
  · rw [List.map_append]
    exact List.mem_append_left _ hj
  · rw [List.map_append, List.mem_append] at hj
    exact hj.symm.imp_left fun hj => by simpa using hj
  · rw [List.map_append]
    exact List.mem_append_right _ (List.mem_singleton.2 rfl)

section Ending

variable {i : Nat} {path : Path} {result : Except Fault Schema} {inner : Plan} {z : Sleeper}

/-- The one that is called by an ending is woken with what the properties make together. -/
theorem Inv.call {z' : Sleeper} {model : Except Fault Schema} {started : List Event}
    {properties : List (Property × Plan)} (h : Inv plan [i :: z.path] s)
    (hz : s.sleeper? z.path = some z) (huncalled : z.called = false)
    (hat : plan.at? z.path = some (.waiting started z.name properties z.finish))
    (hright : z'.Right plan) (hdelivered : Delivered z i z') (hcalled : z'.called = true)
    (hmodel : model.toOption
      = (Plan.inOrderAll properties).result.toOption.map (.modelOf z.name)) :
    Inv plan [] ((s.replace z').push [.wake z.path model]) := by
  have hput := h.deliver hz huncalled hright hdelivered
  rw [if_pos hcalled] at hput
  refine hput.put ⟨?_, started, z.name, properties, z.finish, hat, hmodel⟩
  show z.path ∈ (s.sleepers.map _).map Sleeper.path
  rw [List.map_map]
  refine List.mem_map.2 ⟨z, List.mem_of_find?_eq_some hz, ?_⟩
  show (if z.path == z'.path then z' else z).path = z.path
  rw [if_pos (by simp [hdelivered.path]), hdelivered.path]

/-- The fault of a property is that of all properties together, and calls the sleeper. -/
theorem Inv.deliver_error {e : Fault} (h : Inv plan [i :: z.path] s)
    (hz : s.sleeper? z.path = some z) (huncalled : z.called = false)
    (hinner : plan.at? (i :: z.path) = some inner)
    (hresult : inner.inOrder.result.toOption = none) :
    Inv plan [] (Queue.deliver s z i (.error e)) := by
  have hright : z.Right plan := h.sleepers z (List.mem_of_find?_eq_some hz)
  obtain ⟨started, properties, hat, -⟩ := hright.stands
  refine h.call hz huncalled hat hright.call (.fault z i) rfl ?_
  cases hall : (Plan.inOrderAll properties).result with
  | error e => rfl
  | ok fields =>
      obtain ⟨_, _, _, _, p, hat', hp⟩ := Plan.at?_cons.1 hinner
      rw [hat] at hat'
      cases hat'
      obtain ⟨s', hs'⟩ := Plan.result_of_inOrderAll hall (List.mem_of_getElem? hp)
      rw [hs'] at hresult
      cases hresult

/-- A schema is taken in as one more result, and the last one calls the sleeper. -/
theorem Inv.deliver_ok {schema : Schema} (h : Inv plan [i :: z.path] s)
    (hz : s.sleeper? z.path = some z) (huncalled : z.called = false)
    (hinner : plan.at? (i :: z.path) = some inner) (hok : inner.inOrder.result = .ok schema) :
    Inv plan [] (Queue.deliver s z i (.ok schema)) := by
  have hzmem : z ∈ s.sleepers := List.mem_of_find?_eq_some hz
  have hright : z.Right plan := h.sleepers z hzmem
  have hfresh : i ∉ z.results.map (·.1) := fun hi => by
    obtain ⟨entry, hentry, rfl⟩ := List.mem_map.1 hi
    exact h.delivered z hzmem entry hentry (List.mem_cons_self ..)
  show Inv plan [] (if (z.results ++ [(i, schema)]).length = z.properties.length then _ else _)
  split
  case isTrue hlength =>
      have hright' : { z with results := z.results ++ [(i, schema)], called := true }.Right plan :=
        hright.add hinner hok hfresh true fun hcalled => (nomatch hcalled)
      obtain ⟨_, _, fields, hat, hfields, hmodel⟩ := hright'.model_eq hlength
      refine h.call hz huncalled hat hright' (.schema z i schema true) rfl ?_
      rw [hfields]
      exact congrArg some hmodel
  case isFalse hlength =>
      have hlt := hright.unfinished huncalled
      rw [List.length_append, List.length_singleton] at hlength
      have hadd := h.deliver hz huncalled
        (hright.add hinner hok hfresh z.called fun _ => by omega) (.schema z i schema z.called)
      rw [if_neg (by simp [huncalled])] at hadd
      exact hadd

/-- An ending reaches a sleeper that waits for it. -/
theorem Inv.turn_ended (h : Inv plan [i :: path] s) (hz : s.sleeper? path = some z)
    (huncalled : z.called = false) (hinner : plan.at? (i :: path) = some inner)
    (hresult : result.toOption = inner.inOrder.result.toOption) :
    Inv plan [] (Queue.deliver s z i result) := by
  obtain rfl : z.path = path := (State.sleeper_split h.asleep_nodup hz).1
  cases result with
  | error e => exact h.deliver_error hz huncalled hinner hresult.symm
  | ok schema => exact h.deliver_ok hz huncalled hinner (toOption_eq_some_iff.1 hresult.symm)

end Ending

/-- Somebody sleeps at a path that is said to be asleep, and goes on as the plan there does. -/
theorem Inv.exists_sleeper {path : Path} {started : List Event} {name : Text}
    {properties : List (Property × Plan)} {finish : Schema → Traced Schema} (h : Inv plan hand s)
    (hasleep : path ∈ s.asleep)
    (hat : plan.at? path = some (.waiting started name properties finish)) :
    ∃ z, s.sleeper? path = some z ∧ z.finish = finish := by
  obtain ⟨z, hz⟩ : ∃ z, s.sleeper? path = some z := by
    obtain ⟨z, hzmem, hzpath⟩ := List.mem_map.1 hasleep
    exact Option.isSome_iff_exists.1 (List.find?_isSome.2 ⟨z, hzmem, by simp [hzpath]⟩)
  have hpath := (State.sleeper_split h.asleep_nodup hz).1
  obtain ⟨_, _, hat', -⟩ := (h.sleepers z (List.mem_of_find?_eq_some hz)).stands
  rw [hpath, hat] at hat'
  cases hat'
  exact ⟨z, hz, rfl⟩

/-- A sleeper goes on with what it is woken with. -/
theorem Inv.turn_wake {path : Path} {model : Except Fault Schema}
    (h : Inv plan [path] s) (hjob : (Job.wake path model).Right plan s.asleep) :
    Inv plan [] (turn s (.wake path model)) := by
  obtain ⟨hasleep, started, name, properties, finish, hat, hmodel⟩ := hjob
  obtain ⟨z, hz, rfl⟩ := h.exists_sleeper hasleep hat
  unfold turn
  dsimp only
  rw [hz]
  dsimp only
  cases hfields : (Plan.inOrderAll properties).result with
  | error e =>
      rw [hfields] at hmodel
      cases model with
      | ok m => cases hmodel
      | error e' =>
          refine h.conclude hat ?_
          rw [Plan.inOrder, Traced.bind_of_error _ (by simpa using hfields)]
          rfl
  | ok fields =>
      rw [hfields] at hmodel
      obtain rfl := toOption_eq_some_iff.1 hmodel
      refine (h.happen _).conclude hat ?_
      rw [Plan.inOrder, Traced.bind_of_ok _ (by simpa using hfields)]
      rfl

/-- Every turn keeps the invariant. -/
theorem Inv.turn {job : Job} {jobs : List Job} (hwaits : plan.Waits) (h : Inv plan [] s)
    (hjobs : s.jobs = job :: jobs) : Inv plan [] (turn { s with jobs } job) := by
  obtain ⟨htaken, hright⟩ := h.take hjobs
  cases job with
  | start path inner =>
      cases inner with
      | settled outcome => exact (htaken.happen _).conclude hright.1 rfl
      | waiting started name properties finish =>
          exact htaken.start_waiting hright.1 hright.2 (hwaits.at? hright.1).1
  | wake path model => exact htaken.turn_wake hright
  | ended path i result =>
      obtain ⟨inner, hinner, hresult⟩ := hright
      cases hz : State.sleeper? { s with jobs } path with
      | none =>
          rw [turn_ended_of_none hz]
          refine htaken.drop fun z hzmem hzpath => ?_
          exact absurd hzpath (by simpa using List.find?_eq_none.1 hz z hzmem)
      | some z =>
          rw [turn_ended_of_some hz]
          cases huncalled : z.called with
          | false => exact htaken.turn_ended hz huncalled hinner hresult
          | true =>
              obtain ⟨-, others, hbefore, hothers, -⟩ := State.sleeper_split htaken.asleep_nodup hz
              refine htaken.drop fun o ho hopath => ?_
              rcases List.mem_cons.1 (hbefore.mem_iff.1 ho) with rfl | ho
              · exact huncalled
              · exact absurd hopath (hothers o ho)

/-- At the start the outermost plan is active and nothing else. -/
theorem Inv.initial (plan : Plan) : Inv plan [] (.initial plan) := by
  refine ⟨List.nodup_singleton _, List.nodup_nil, fun z hz => (nomatch hz), fun job hjob => ?_,
    fun i path hpath => ?_, fun z hz => (nomatch hz), fun z hz => (nomatch hz),
    ⟨fun _ => List.mem_singleton.2 rfl, fun _ => rfl⟩, fun result hresult => (nomatch hresult)⟩
  · rw [List.mem_singleton.1 hjob]
    exact ⟨rfl, fun hasleep => (nomatch hasleep)⟩
  · rcases hpath with hpath | hpath
    · cases List.mem_singleton.1 hpath
    · cases hpath

end TypeShape.Queue
