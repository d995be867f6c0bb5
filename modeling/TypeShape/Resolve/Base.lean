/-
The meaning of type expressions without inline objects.

A base type is a list of another one, a function, a built-in type, a registered type or
an earlier declaration, in this order. Modifiers are applied from left to right.
-/
import TypeShape.Registry.Basic
import TypeShape.Resolve.Traced
import TypeShape.TypeText.Expression
import TypeShape.TypeText.Inline

namespace TypeShape

-- ============================================================= base types

/-- Count and drop the list suffixes at the end of a reversed text. -/
def dropSuffixesReversed : Text → Nat × Text
  | ']' :: '[' :: rest =>
    let (n, base) := dropSuffixesReversed rest
    (n + 1, base)
  | t => (0, t)

/-- The number of list suffixes of a type, and the type without them. -/
def dropListSuffixes (t : Text) : Nat × Text :=
  let (n, base) := dropSuffixesReversed t.reverse
  (n, base.reverse)

/-- What makes a type a function type, wherever it stands. -/
def arrow : Text := "=>"

namespace Registry

variable (r : Registry)

/-- A type that the registry knows by name: a registered type, or else an earlier
declaration. A registered type that declines hides a declaration of its name. -/
def resolveNamed (t : Text) : Traced (Option Schema) :=
  let applied := TypeText.Applied.read t
  match r.types.find? applied.name with
  | some factory =>
    .event (.call applied.name applied.parameters) (factory applied.parameters)
  | none => pure ((r.interfaces.find? applied.name).map (.reference applied.name))

/-- A base type without list suffixes. -/
def resolveSingle (t : Text) : Traced Schema :=
  if Text.includes t arrow then pure .any
  else match Schema.builtIn? t with
    | some s => pure s
    | none => do
      match ← r.resolveNamed t with
      | some s => pure s
      | none => .ofResult (.error (.unresolvable t))

/-- A base type. -/
def resolveBase (t : Text) : Traced Schema := do
  let (n, base) := dropListSuffixes t
  return (← r.resolveSingle base).nested n

-- ============================================================== modifiers

/-- Apply the registered ones of some modifiers; the others change nothing. -/
def applyModifiers : List Text → Schema → Traced Schema
  | [], s => pure s
  | m :: rest, s =>
    let applied := TypeText.Applied.read m
    match r.modifiers.find? applied.name with
    | none => applyModifiers rest s
    | some modifier => do
      let changed ← .event (.call applied.name applied.parameters)
        (modifier s applied.parameters)
      applyModifiers rest (changed.getD s)

/-- A base type with modifiers. -/
def resolveExpression (t : Text) : Traced Schema := do
  let chain := TypeText.Chain.read t
  r.applyModifiers chain.modifiers (← r.resolveBase chain.base)

end Registry

end TypeShape
