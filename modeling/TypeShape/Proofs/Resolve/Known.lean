/-
Type expressions where little is registered.

A name that is not that of a registered type can only mean an earlier declaration, and
modifiers that are not registered change nothing. So without registered types and modifiers
an expression fails exactly when its base type is not known (`resolveExpression_eq_error_iff`).
-/
import TypeShape.Proofs.Registry.Filling
import TypeShape.Proofs.Resolve.Traced
import TypeShape.Resolve.Base

namespace TypeShape

-- ============================================================ base types

/-- The base type of an expression, without its modifiers and list suffixes. -/
def baseOf (t : Text) : Text :=
  (dropListSuffixes (TypeText.Chain.read t).base).2

/-- A base type is known if it is a function type or built in, or if it is looked up under
one of the given names. -/
def Known (names : List Text) (b : Text) : Prop :=
  Text.includes b arrow = true ∨ b ∈ Schema.builtIns.map (·.1)
    ∨ (TypeText.Applied.read b).name ∈ names

instance (names : List Text) (b : Text) : Decidable (Known names b) :=
  inferInstanceAs (Decidable (_ ∨ _ ∨ _))

theorem Known.congr {names names' : List Text} (h : ∀ n, n ∈ names ↔ n ∈ names') (b : Text) :
    Known names b ↔ Known names' b := by
  unfold Known
  rw [h]

-- ================================================================= names

theorem Schema.builtIn?_eq_none_iff {t : Text} :
    builtIn? t = none ↔ t ∉ builtIns.map (·.1) := by
  rw [← find?_key_eq_none]
  exact Option.map_eq_none_iff

namespace Registry

variable {r : Registry}

/-- A name that no type is registered under can only mean an earlier declaration. -/
theorem resolveNamed_of_notRegistered {t : Text}
    (h : r.types.find? (TypeText.Applied.read t).name = none) :
    r.resolveNamed t = pure ((r.interfaces.find? (TypeText.Applied.read t).name).map
      (.reference (TypeText.Applied.read t).name)) := by
  unfold resolveNamed
  dsimp only
  rw [h]

/-- A base type without list suffixes fails exactly when it is not known, and is named by
the fault. -/
theorem resolveSingle_eq_error_iff (types : r.types = []) {t : Text} {e : Fault} :
    (r.resolveSingle t).result = .error e
      ↔ ¬Known r.interfaces.names t ∧ e = .unresolvable t := by
  unfold Registry.resolveSingle Known
  by_cases function : Text.includes t arrow = true
  · simp [function]
  · cases builtIn : Schema.builtIn? t with
    | some s =>
        have mem : t ∈ Schema.builtIns.map (·.1) := by
          by_contra h
          rw [Schema.builtIn?_eq_none_iff.2 h] at builtIn
          cases builtIn
        simp [function, mem]
    | none =>
        have notMem := Schema.builtIn?_eq_none_iff.1 builtIn
        rw [resolveNamed_of_notRegistered (by rw [types]; rfl)]
        cases found : r.interfaces.find? (TypeText.Applied.read t).name with
        | some target =>
            have mem := Table.isSome_find?.1 (Option.isSome_of_eq_some found)
            simp [function, mem]
        | none =>
            have absent := Table.find?_eq_none.1 found
            simp [function, notMem, absent, eq_comm]

/-- Without registered modifiers all of them are passed over. -/
theorem applyModifiers_eq_pure (modifiers : r.modifiers = []) (ms : List Text) (s : Schema) :
    r.applyModifiers ms s = pure s := by
  induction ms with
  | nil => rfl
  | cons m ms ih =>
      rw [applyModifiers, modifiers]
      exact ih

theorem resolveExpression_eq_error_iff (types : r.types = []) (modifiers : r.modifiers = [])
    {t : Text} {e : Fault} :
    (r.resolveExpression t).result = .error e
      ↔ ¬Known r.interfaces.names (baseOf t) ∧ e = .unresolvable (baseOf t) := by
  have nested : r.resolveExpression t
      = (·.nested (dropListSuffixes (TypeText.Chain.read t).base).1)
          <$> r.resolveSingle (baseOf t) := by
    unfold resolveExpression resolveBase baseOf
    simp only [applyModifiers_eq_pure modifiers, bind_pure, map_eq_pure_bind]
  rw [nested, Traced.result_map_eq_error_iff, resolveSingle_eq_error_iff types]

end Registry

end TypeShape
