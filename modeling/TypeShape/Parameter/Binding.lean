/-
Calls: values for the parameters of a function, by position and by name.

A call binds if every parameter gets exactly one value, its default included, and
nothing is left over. The values are then converted in the order of the parameters; a
parameter without a hint takes its value as it is.
-/
import TypeShape.Parameter.Convert

namespace TypeShape

/-- A parameter of a function. -/
structure Parameter where
  name : Text
  hint : Option Hint
  default : Option Json
  /-- Whether it takes its value by name only. -/
  byName : Bool

/-- The arguments of a call. -/
structure Arguments where
  positional : List Json
  named : List (Text × Json)

namespace Parameter

/-- The value of a parameter, given the values by position that are left, and what of
these is left then. -/
def take (named : List (Text × Json)) (p : Parameter) (left : List Json) :
    Option (Json × List Json) :=
  match p.byName, left, Json.lookup? named p.name with
  | false, v :: left, none => some (v, left)
  | false, _ :: _, some _ => none
  | _, left, some v => some (v, left)
  | _, left, none => p.default.map fun v => (v, left)

/-- The values of parameters in their order. -/
def bindAll (named : List (Text × Json)) : List Parameter → List Json →
    Option (List (Parameter × Json))
  | [], [] => some []
  | [], _ :: _ => none
  | p :: rest, left => do
    let (v, left) ← p.take named left
    return (p, v) :: (← bindAll named rest left)

/-- Bind a call to parameters. -/
def bind? (parameters : List Parameter) (a : Arguments) : Option (List (Parameter × Json)) :=
  if a.named.all fun (name, _) => parameters.any (·.name == name) then
    bindAll a.named parameters a.positional
  else none

/-- The value of a parameter after conversion, under its name. -/
def converted (p : Parameter) (v : Json) : Except ParameterFault (Text × Json) :=
  match p.hint with
  | none => .ok (p.name, v)
  | some hint => (hint.convert p.name v).map (p.name, ·)

/-- The values of parameters after conversion, up to the first that cannot be converted. -/
def convertAll : List (Parameter × Json) → Except ParameterFault (List (Text × Json))
  | [] => .ok []
  | (p, v) :: rest => do
    let entry ← p.converted v
    return entry :: (← convertAll rest)

/-- The converted values of a call, by name. -/
def convertCall (parameters : List Parameter) (a : Arguments) :
    Except Fault (List (Text × Json)) :=
  match bind? parameters a with
  | none => .error .wrongArguments
  | some bound => (convertAll bound).mapError .parameter

end Parameter

end TypeShape
