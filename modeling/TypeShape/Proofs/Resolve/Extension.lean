/-
Registries that know more declarations.

A name that is not known is a fault, and a declaration is looked for only where neither a rule
of the language nor a registered type comes first. So a registry with the same types and
modifiers that knows more declarations resolves whatever the smaller one resolves. It does not
only come to the same schema: what is laid out before anything is called is the same plan
(`Plan.ofDeclaration_eq`), so the calls are the same and come in the same order
(`Batch.resolve_extended`).
-/
import TypeShape.Proofs.Lookup
import TypeShape.Proofs.Resolve.Agreement

namespace TypeShape

namespace Registry

/-- The second registry has the types and modifiers of the first, and every declaration that
the first knows leads to the same schema. -/
structure ExtendedBy (r r' : Registry) : Prop where
  types : ∀ name, r'.types.find? name = r.types.find? name
  modifiers : ∀ name, r'.modifiers.find? name = r.modifiers.find? name
  interfaces : r.interfaces.Extends r'.interfaces

namespace ExtendedBy

variable {r r' r'' : Registry} {t : Text} {s : Schema}

theorem refl (r : Registry) : r.ExtendedBy r :=
  ⟨fun _ => rfl, fun _ => rfl, Table.Extends.refl r.interfaces⟩

theorem trans (h : r.ExtendedBy r') (g : r'.ExtendedBy r'') : r.ExtendedBy r'' := by
  constructor
  case types =>
    intro name
    rw [g.types, h.types]
  case modifiers =>
    intro name
    rw [g.modifiers, h.modifiers]
  case interfaces => exact h.interfaces.trans g.interfaces

/-- A declaration that is added takes nothing from those that are known. -/
theorem withInterface (r : Registry) (name : Text) (schema : Schema) :
    r.ExtendedBy (r.withInterface name schema) :=
  ⟨fun _ => rfl, fun _ => rfl, Table.extends_add r.interfaces name schema⟩

/-- Nor do many of them, added one after another. -/
theorem foldl_withInterface (r : Registry) (added : Table Schema) :
    r.ExtendedBy (added.foldl (fun r e => r.withInterface e.1 e.2) r) := by
  induction added generalizing r with
  | nil => exact .refl r
  | cons e added ih => exact (withInterface r e.1 e.2).trans (ih _)

-- ================================================================= types

/-- A base type that is resolved is found in the same place. -/
theorem resolveSingle (h : r.ExtendedBy r') (ok : (r.resolveSingle t).result = .ok s) :
    r'.resolveSingle t = r.resolveSingle t := by
  unfold Registry.resolveSingle at ok ⊢
  split at ok
  case isTrue function => rw [if_pos function, if_pos function]
  case isFalse other =>
    rw [if_neg other, if_neg other]
    cases builtIn : Schema.builtIn? t with
    | some s => rfl
    | none =>
        rw [builtIn] at ok
        dsimp only at ok ⊢
        unfold Registry.resolveNamed at ok ⊢
        dsimp only at ok ⊢
        rw [h.types]
        cases factory : r.types.find? (TypeText.Applied.read t).name with
        | some make => rfl
        | none =>
            rw [factory] at ok
            dsimp only at ok ⊢
            cases found : r.interfaces.find? (TypeText.Applied.read t).name with
            | some target => rw [h.interfaces _ _ found]
            | none =>
                -- the smaller registry cannot have succeeded without the name
                rw [found] at ok
                cases ok

theorem applyModifiers (h : r.ExtendedBy r') (modifiers : List Text) (s : Schema) :
    r'.applyModifiers modifiers s = r.applyModifiers modifiers s :=
  applyModifiers_congr h.modifiers modifiers s

/-- An expression that is resolved stays resolved, with the same calls. -/
theorem resolveExpression (h : r.ExtendedBy r') (ok : (r.resolveExpression t).result = .ok s) :
    r'.resolveExpression t = r.resolveExpression t := by
  obtain ⟨base, hbase, -⟩ := Traced.result_bind_eq_ok_iff.1 ok
  have same : r'.resolveBase (TypeText.Chain.read t).base
      = r.resolveBase (TypeText.Chain.read t).base := by
    unfold Registry.resolveBase at hbase ⊢
    dsimp only at hbase ⊢
    obtain ⟨single, hsingle, -⟩ := Traced.result_bind_eq_ok_iff.1 hbase
    rw [h.resolveSingle hsingle]
  unfold Registry.resolveExpression
  dsimp only
  simp only [same, h.applyModifiers]

end ExtendedBy

end Registry

-- ================================================================= plans

namespace Plan

variable {read : LiteralReader} {r r' : Registry}

/-- A type that is resolved has the same plan. -/
theorem ofType_eq (h : r.ExtendedBy r') {depth : Nat} {name t : Text} {s : Schema}
    (ok : (ofType read r depth name t).inOrder.result = .ok s) :
    ofType read r' depth name t = ofType read r depth name t := by
  induction depth generalizing name t s with
  | zero => rfl
  | succ depth ih =>
      unfold ofType at ok ⊢
      dsimp only at ok ⊢
      simp only [h.applyModifiers]
      cases object : inlineObject? (Text.trim t) with
      | none =>
          rw [object] at ok
          exact congrArg settled (h.resolveExpression ok)
      | some found =>
          rw [object] at ok
          dsimp only at ok ⊢
          cases parsed : read name (unwrapLists found.1.length found.1).2 with
          | error e => rfl
          | ok d =>
              rw [parsed] at ok
              obtain ⟨dname, kind, properties, line⟩ := d
              cases properties with
              | nil => rfl
              | cons first rest =>
                  dsimp only at ok ⊢
                  -- the object is resolved, and so are all of its properties
                  obtain ⟨fields, hfields, -⟩ := result_waiting.1 ok
                  congr 1
                  apply List.map_congr_left
                  intro p hp
                  obtain ⟨s', hs'⟩ := result_of_inOrderAll hfields (List.mem_map_of_mem hp)
                  rw [ih hs']

/-- A declaration that is resolved has the same plan. -/
theorem ofDeclaration_eq (h : r.ExtendedBy r') {d : Declaration} {s : Schema}
    (ok : (ofDeclaration read r d).inOrder.result = .ok s) :
    ofDeclaration read r' d = ofDeclaration read r d := by
  obtain ⟨name, kind, properties, line⟩ := d
  cases properties with
  | nil => rfl
  | cons first rest =>
      unfold ofDeclaration at ok ⊢
      dsimp only at ok ⊢
      obtain ⟨fields, hfields, -⟩ := result_waiting.1 ok
      apply congrArg (waiting [] name · pure)
      apply List.map_congr_left
      intro p hp
      obtain ⟨s', hs'⟩ := result_of_inOrderAll hfields (List.mem_map_of_mem hp)
      unfold ofPropertyType at hs' ⊢
      rw [ofType_eq h hs']

end Plan

-- ========================================================== declarations

namespace Batch

/-- A declaration that is resolved means the same, and makes the same calls in the same order,
in every registry that knows more declarations; in particular after any number of declarations
have been added. -/
theorem resolve_extended (read : LiteralReader) {r : Registry} {d : Declaration} {s : Schema}
    (ok : (resolve read r d).result = .ok s) :
    (∀ r', r.ExtendedBy r' →
      (resolve read r' d).result = .ok s ∧ (resolve read r' d).calls = (resolve read r d).calls)
    ∧ ∀ added : Table Schema,
      resolve read (added.foldl (fun r e => r.withInterface e.1 e.2) r) d
        = resolve read r d := by
  have same : ∀ r', r.ExtendedBy r' → resolve read r' d = resolve read r d := by
    intro r' more
    have inOrder := (Plan.result_run (Plan.waits_ofDeclaration read r d)).1 ok
    unfold resolve
    rw [Plan.ofDeclaration_eq more inOrder]
  refine ⟨?_, fun added => same _ (.foldl_withInterface r added)⟩
  intro r' more
  rw [same r' more]
  exact ⟨ok, rfl⟩

/-- A known declaration, and a registered type in an inline object, with more declarations
beside them; one of these has the name of the registered type. -/
theorem resolve_extended_crate :
    let read : LiteralReader := fun name _ => .ok ⟨name, .null, [⟨"c", "Box<1>", false⟩], .null⟩
    let r : Registry := {
      types := [("Box<>", fun _ => .ok (some (.string {})))]
      modifiers := []
      interfaces := [("Crate", .number {})] }
    let d : Declaration :=
      ⟨"D", .null, [⟨"a", "{c:Box}", false⟩, ⟨"b", "Crate[]", true⟩], .null⟩
    let r' := (r.withInterface "Box<>" .any).withInterface "Crate" .boolean
    (∃ s, (resolve read r d).result = .ok s ∧ (resolve read r' d).result = .ok s)
    ∧ (resolve read r' d).calls = [("Box<>".toList, ["1".toList])] := by
  refine ⟨⟨_, rfl, ?_⟩, ?_⟩
  · exact ((resolve_extended _ rfl).1 _ (.trans (.withInterface ..) (.withInterface ..))).1
  · exact ((resolve_extended _ rfl).1 _ (.trans (.withInterface ..) (.withInterface ..))).2

end Batch

end TypeShape
