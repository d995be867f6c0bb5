/-
Ready-made type factories and modifiers: schemas of built-in types, lists of them,
ranges, and limits of length and size.
-/
import TypeShape.Number.Literal
import TypeShape.Registry.Basic

namespace TypeShape

/-- A number parameter, or the fault that it is none. -/
def numberParameter {α : Type} (read? : Text → Option α) (t : Text) : Except Fault α :=
  match read? t with
  | some n => .ok n
  | none => .error .notNumber

/-- The fault of a factory or modifier that always fails, with its parameters. -/
def rejected (who : Text) (parameters : List Text) : Fault :=
  .unresolvable (who ++ Text.join "|" parameters)

namespace Factory

/-- A built-in type; no parameters are allowed. -/
def builtIn (name : Text) : Factory
  | [] => .ok (Schema.builtIn? name)
  | _ => .error .wrongArguments

/-- A built-in type, whatever the parameters. -/
def builtInOfAny (name : Text) : Factory :=
  fun _ => .ok (Schema.builtIn? name)

/-- The built-in type that the one parameter names. -/
def named : Factory
  | [p] => .ok (Schema.builtIn? p)
  | _ => .error .wrongArguments

/-- Lists of the built-in type that the one parameter names. -/
def listOf : Factory
  | [p] => .ok ((Schema.builtIn? p).map .arrayOf)
  | _ => .error .wrongArguments

/-- Numbers between two parameters. -/
def range : Factory
  | [low, high] => do
    let least ← numberParameter NumberLiteral.float? low
    let most ← numberParameter NumberLiteral.float? high
    return some (.number { least := some least, most := some most })
  | _ => .error .wrongArguments

/-- Declines. -/
def none : Factory :=
  fun _ => .ok Option.none

/-- Fails. -/
def failing : Factory :=
  fun parameters => .error (rejected "custom:" parameters)

end Factory

namespace Modifier

/-- A limit that the one parameter gives. -/
def limit {α : Type} (read? : Text → Option α) (constraint : α → Schema.Constraint) : Modifier
  | s, [p] => do
    let n ← numberParameter read? p
    return some (s.constrain (constraint n))
  | _, _ => .error .wrongArguments

/-- At most so many characters or items. -/
def mostLength : Modifier :=
  limit NumberLiteral.int? .mostLength

/-- At least so many characters or items. -/
def leastLength : Modifier :=
  limit NumberLiteral.int? .leastLength

/-- At least so much. -/
def least : Modifier :=
  limit NumberLiteral.float? .least

/-- At most so much. -/
def most : Modifier :=
  limit NumberLiteral.float? .most

/-- Lists of the schema; no parameters are allowed. -/
def array : Modifier
  | s, [] => .ok (some (.arrayOf s))
  | _, _ => .error .wrongArguments

/-- A built-in type in place of the schema; no parameters are allowed. -/
def replace (name : Text) : Modifier
  | _, [] => .ok (Schema.builtIn? name)
  | _, _ => .error .wrongArguments

/-- The schema itself. -/
def same : Modifier :=
  fun s _ => .ok (some s)

/-- Declines, which keeps the schema. -/
def none : Modifier :=
  fun _ _ => .ok Option.none

/-- Fails. -/
def failing : Modifier :=
  fun _ parameters => .error (rejected "modifier:" parameters)

end Modifier

end TypeShape
