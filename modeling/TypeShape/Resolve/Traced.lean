/-
Results with the events on the way to them.

Factories and modifiers are called in an order that can be observed, and so is the
reading of inline literals; a computation therefore carries what happened, also when it
fails.
-/
import TypeShape.Fault

namespace TypeShape

/-- What happens while a type is resolved. -/
inductive Event
  /-- A factory or modifier is called under its registered name. -/
  | call (name : Text) (parameters : List Text)
  /-- The source parser is asked for an inline literal. -/
  | literal
deriving DecidableEq

/-- The name and the parameters of a call. -/
def Event.call? : Event → Option (Text × List Text)
  | .call name parameters => some (name, parameters)
  | .literal => none

/-- A result and the events that led to it. -/
structure Traced (α : Type) where
  events : List Event
  result : Except Fault α

namespace Traced

variable {α β : Type}

/-- A result without events. -/
def ofResult (r : Except Fault α) : Traced α :=
  ⟨[], r⟩

/-- One event and the result after it. -/
def event (e : Event) (r : Except Fault α) : Traced α :=
  ⟨[e], r⟩

/-- Events that come before a computation. -/
def after (events : List Event) (x : Traced α) : Traced α :=
  { x with events := events ++ x.events }

instance : Monad Traced where
  pure a := ⟨[], .ok a⟩
  bind x f := match x.result with
    | .ok a => (f a).after x.events
    | .error e => ⟨x.events, .error e⟩

/-- The calls among the events. -/
def calls (x : Traced α) : List (Text × List Text) :=
  x.events.filterMap Event.call?

/-- Whether an inline literal was read. -/
def readsLiteral (x : Traced α) : Bool :=
  x.events.elem .literal

end Traced

end TypeShape
