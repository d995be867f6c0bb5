/-
Resolution with all properties of a declaration at work together.

The properties take turns in a queue. A property goes on without a pause until it has
to wait for the properties of an inline object; these are queued and the property
sleeps. When a property ends, its ending is queued too. The first failure among the
properties of one object, or the last of their endings without a failure, wakes the
one that waits, through the queue again. What is still queued when the outermost plan
has ended does not happen.
-/
import TypeShape.Resolve.Plan

namespace TypeShape

namespace Queue

-- ================================================================= state

/-- The way from the outermost plan to a plan in it, by positions, the last one first. -/
abbrev Path := List Nat

/-- What is queued. -/
inductive Job
  /-- Begin a plan. -/
  | start (path : Path) (plan : Plan)
  /-- A property of the object at `path` has ended. -/
  | ended (path : Path) (index : Nat) (result : Except Fault Schema)
  /-- Go on with the plan at a path: the model that it waited for, or the failure. -/
  | wake (path : Path) (model : Except Fault Schema)

/-- A plan that waits: what its properties have come to so far. -/
structure Sleeper where
  path : Path
  name : Text
  properties : List Property
  results : List (Nat × Schema)
  /-- Whether the waking is queued already. -/
  called : Bool
  finish : Schema → Traced Schema

/-- What is queued, who sleeps, what has happened, and how the outermost plan ended. -/
structure State where
  jobs : List Job
  sleepers : List Sleeper
  events : List Event
  outcome : Option (Except Fault Schema)

namespace State

/-- Only the outermost plan is queued. -/
def initial (plan : Plan) : State :=
  { jobs := [.start [] plan], sleepers := [], events := [], outcome := none }

/-- Queue jobs. -/
def push (s : State) (jobs : List Job) : State :=
  { s with jobs := s.jobs ++ jobs }

/-- Events happen. -/
def happen (s : State) (events : List Event) : State :=
  { s with events := s.events ++ events }

/-- The sleeper at a path. -/
def sleeper? (s : State) (path : Path) : Option Sleeper :=
  s.sleepers.find? (·.path == path)

/-- Put a sleeper in the place of the one at its path. -/
def replace (s : State) (z : Sleeper) : State :=
  { s with sleepers := s.sleepers.map fun old => if old.path == z.path then z else old }

/-- The plan at a path has ended: the outermost one ends everything, any other one
queues its ending for the one that waits. -/
def conclude (s : State) (result : Except Fault Schema) : Path → State
  | [] => { s with outcome := some result }
  | index :: path => s.push [.ended path index result]

end State

/-- The model of a sleeper, from what its properties have come to. -/
def Sleeper.model (z : Sleeper) : Schema :=
  let schemas := (List.range z.properties.length).filterMap fun i =>
    (z.results.find? fun r => r.1 == i).map (·.2)
  .modelOf z.name (Plan.fields z.properties schemas)

-- ================================================================= turns

/-- The turn of a plan that begins. -/
def start (s : State) (path : Path) : Plan → State
  | .settled outcome => (s.happen outcome.events).conclude outcome.result path
  | .waiting started name properties finish =>
    let z : Sleeper :=
      { path, name, properties := properties.map (·.1), results := [], called := false, finish }
    { s.happen started with sleepers := z :: s.sleepers }.push
      (properties.zipIdx.map fun (entry : (Property × Plan) × Nat) =>
        Job.start (entry.2 :: path) entry.1.2)

/-- An ending reaches the sleeper that waits for it. -/
def deliver (s : State) (z : Sleeper) (index : Nat) : Except Fault Schema → State
  | .error e => (s.replace { z with called := true }).push [.wake z.path (.error e)]
  | .ok schema =>
    let z := { z with results := z.results ++ [(index, schema)] }
    if z.results.length = z.properties.length then
      (s.replace { z with called := true }).push [.wake z.path (.ok z.model)]
    else s.replace z

/-- The turn of a job. -/
def turn (s : State) : Job → State
  | .start path plan => start s path plan
  | .ended path index result =>
    match s.sleeper? path with
    | none => s
    | some z => if z.called then s else deliver s z index result
  | .wake path model =>
    match s.sleeper? path with
    | none => s
    | some z =>
      match model with
      | .error e => s.conclude (.error e) path
      | .ok m =>
        let outcome := z.finish m
        (s.happen outcome.events).conclude outcome.result path

/-- Take jobs from the front until the outermost plan has ended, at most so many. -/
def run : Nat → State → State
  | 0, s => s
  | rounds + 1, s =>
    match s.outcome, s.jobs with
    | none, job :: jobs => run rounds (turn { s with jobs } job)
    | _, _ => s

end Queue

namespace Plan

mutual

/-- The number of plans in a plan, itself included. -/
def size : Plan → Nat
  | .settled _ => 1
  | .waiting _ _ properties _ => 1 + sizes properties
termination_by structural plan => plan

/-- The number of plans in the plans of some properties. -/
def sizes : List (Property × Plan) → Nat
  | [] => 0
  | (_, plan) :: rest => size plan + sizes rest
termination_by structural properties => properties

end

/-- Run a plan with all properties at work together. A plan begins, ends and is woken at
most once each. -/
def run (plan : Plan) : Traced Schema :=
  let s := Queue.run (3 * plan.size) (.initial plan)
  ⟨s.events, s.outcome.getD (.error (.unresolvable []))⟩

end Plan

end TypeShape
