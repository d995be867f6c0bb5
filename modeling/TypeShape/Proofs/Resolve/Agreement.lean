/-
What two registries make of one declaration.

A name that no registry knows is a fault, never a schema of its own. So a registry that
knows other declarations can change whether a type is resolved, but not what it is resolved
to: where two registries have the same types and modifiers, and the same schema for every
declaration that both know, they agree wherever both succeed (`agree_resolve`).
-/
import TypeShape.Batch.Basic
import TypeShape.Proofs.Queue.Together

namespace TypeShape

-- ============================================================ agreement

namespace Traced

variable {α β : Type} {x y : Traced α} {f g : α → Traced β}

/-- Wherever both computations succeed, they come to the same. -/
def Agree (x y : Traced α) : Prop :=
  ∀ a b, x.result = .ok a → y.result = .ok b → a = b

theorem Agree.refl (x : Traced α) : Agree x x := by
  intro a b ha hb
  exact Except.ok.inj (ha.symm.trans hb)

/-- Sequences agree part by part. -/
theorem Agree.bind (h : Agree x y) (hfg : ∀ a, Agree (f a) (g a)) : Agree (x >>= f) (y >>= g) := by
  intro b b' hb hb'
  obtain ⟨a, ha, hfa⟩ := result_bind_eq_ok_iff.1 hb
  obtain ⟨a', ha', hga'⟩ := result_bind_eq_ok_iff.1 hb'
  have same : a = a' := h a a' ha ha'
  rw [← same] at hga'
  exact hfg a b b' hfa hga'

end Traced

open Traced (Agree)

namespace Registry

/-- Modifiers are applied without a look at the types and the declarations. -/
theorem applyModifiers_congr {r r' : Registry}
    (h : ∀ name, r.modifiers.find? name = r'.modifiers.find? name) (modifiers : List Text)
    (s : Schema) : r.applyModifiers modifiers s = r'.applyModifiers modifiers s := by
  induction modifiers generalizing s with
  | nil => rfl
  | cons m rest ih =>
      rw [applyModifiers, applyModifiers, h]
      cases r'.modifiers.find? (TypeText.Applied.read m).name with
      | none => exact ih s
      | some modifier => simp only [ih]

/-- The registries have the same types and modifiers, and no declaration that both know has
two schemas. -/
structure Agrees (r r' : Registry) : Prop where
  types : r.types = r'.types
  modifiers : r.modifiers = r'.modifiers
  interfaces : ∀ name s s', r.interfaces.find? name = some s →
    r'.interfaces.find? name = some s' → s = s'

namespace Agrees

variable {r r' : Registry}

-- ================================================================ types

/-- A name means the same in registries that agree, where both know it. -/
theorem resolveSingle (h : r.Agrees r') (t : Text) :
    Agree (r.resolveSingle t) (r'.resolveSingle t) := by
  unfold Registry.resolveSingle
  split
  case isTrue => exact Agree.refl _
  case isFalse =>
    cases Schema.builtIn? t with
    | some s => exact Agree.refl _
    | none =>
        dsimp only
        unfold Registry.resolveNamed
        dsimp only
        rw [← h.types]
        cases r.types.find? (TypeText.Applied.read t).name with
        | some factory => exact Agree.refl _
        | none =>
            -- only here the registries differ, and a name that one of them does not know
            -- is a fault there
            dsimp only
            rw [Traced.pure_bind, Traced.pure_bind]
            intro s s' hs hs'
            cases found : r.interfaces.find? (TypeText.Applied.read t).name with
            | none =>
                rw [found] at hs
                cases hs
            | some target =>
                cases found' : r'.interfaces.find? (TypeText.Applied.read t).name with
                | none =>
                    rw [found'] at hs'
                    cases hs'
                | some target' =>
                    rw [found] at hs
                    rw [found'] at hs'
                    cases hs
                    cases hs'
                    rw [h.interfaces _ _ _ found found']

theorem applyModifiers (h : r.Agrees r') (modifiers : List Text) (s : Schema) :
    r.applyModifiers modifiers s = r'.applyModifiers modifiers s :=
  applyModifiers_congr (fun name => by rw [h.modifiers]) modifiers s

/-- So does an expression. -/
theorem resolveExpression (h : r.Agrees r') (t : Text) :
    Agree (r.resolveExpression t) (r'.resolveExpression t) := by
  unfold Registry.resolveExpression
  apply Agree.bind
  · unfold Registry.resolveBase
    apply Agree.bind
    · exact h.resolveSingle _
    · exact fun s => Agree.refl _
  · intro s
    rw [h.applyModifiers]
    exact Agree.refl _

end Agrees

end Registry

-- ========================================================= declarations

namespace Sequential

variable (read : LiteralReader) {r r' : Registry}

/-- Fields agree if their types do. -/
theorem agree_fieldsBy {resolve resolve' : Property → Traced Schema}
    (h : ∀ p, Agree (resolve p) (resolve' p)) (properties : List Property) :
    Agree (fieldsBy resolve properties) (fieldsBy resolve' properties) := by
  induction properties with
  | nil => exact Agree.refl _
  | cons p rest ih =>
      unfold fieldsBy
      apply Agree.bind (h p)
      intro s
      apply Agree.bind ih
      exact fun others => Agree.refl _

/-- Types agree at any depth. -/
theorem agree_ofType (h : r.Agrees r') (depth : Nat) (name t : Text) :
    Agree (ofType read r depth name t) (ofType read r' depth name t) := by
  induction depth generalizing name t with
  | zero => exact Agree.refl _
  | succ depth ih =>
      unfold ofType
      dsimp only
      cases Plan.inlineObject? (Text.trim t) with
      | none => exact h.resolveExpression _
      | some found =>
          dsimp only
          apply Agree.bind (Agree.refl _)
          intro d
          apply Agree.bind
          · exact agree_fieldsBy (fun p => ih _ _) d.properties
          · intro fields
            rw [h.applyModifiers]
            exact Agree.refl _

theorem agree_ofDeclaration (h : r.Agrees r') (d : Declaration) :
    Agree (ofDeclaration read r d) (ofDeclaration read r' d) := by
  unfold ofDeclaration
  apply Agree.bind
  · exact agree_fieldsBy (fun p => agree_ofType read h _ _ _) d.properties
  · exact fun fields => Agree.refl _

end Sequential

/-- Two registries that agree resolve a declaration to one schema, if both resolve it. -/
theorem Batch.agree_resolve (read : LiteralReader) {r r' : Registry} (h : r.Agrees r')
    (d : Declaration) : Agree (resolve read r d) (resolve read r' d) := by
  have inOrder : ∀ (r : Registry) s, (resolve read r d).result = .ok s ↔
      (Sequential.ofDeclaration read r d).result = .ok s := by
    intro r s
    rw [← Plan.inOrder_ofDeclaration]
    exact Plan.result_run (Plan.waits_ofDeclaration read r d)
  intro s s' hs hs'
  exact Sequential.agree_ofDeclaration read h d s s' ((inOrder r s).1 hs) ((inOrder r' s').1 hs')

end TypeShape
