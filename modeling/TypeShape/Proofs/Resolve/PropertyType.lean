/-
The type of a property, resolved in the words of its parts.

The plan of a type lays out everything inside of it at once, down to a bound on its depth. It
is nothing but the plan of the declaration that its literal reads as, with the reading before
it and with lists and modifiers after it (`ofPropertyType_eq`). So resolution is the recursion
without a bound that it should be, queue and all: the model of the literal, then the lists
around it, then the modifiers (`run_ofPropertyType`).
-/
import TypeShape.Batch.Basic
import TypeShape.Proofs.Queue.Continuation
import TypeShape.Proofs.Resolve.Depth

namespace TypeShape

variable (read : LiteralReader) (r : Registry)

/-- The model of an object literal: it is read under a name, and the declaration that it reads
as is resolved. -/
def resolveLiteral (name literal : Text) : Traced Schema := do
  let d ← .event .literal (read name literal)
  Batch.resolve read r d

namespace Plan

variable {read}

/-- The plan of a type is that of the declaration in it, with the rest around. -/
theorem ofPropertyType_eq (hread : read.Shrinks) (name t : Text) :
    ofPropertyType read r name t = match inlineObject? (Text.trim t) with
      | none => .settled (r.resolveExpression (Text.trim t))
      | some (object, modifiers) =>
        let (lists, literal) := unwrapLists object.length object
        match read name literal with
        | .error e => .settled (.event .literal (.error e))
        | .ok d =>
          (ofDeclaration read r d).between [.literal] fun s =>
            r.applyModifiers modifiers (s.nested lists) := by
  have hdepth := Sequential.braces_lt_depthFor name t
  unfold ofPropertyType
  cases hn : depthFor name t with
  | zero => exact absurd (hn ▸ hdepth) (Nat.not_lt_zero _)
  | succ depth =>
      rw [hn] at hdepth
      rw [ofType]
      dsimp only
      cases hobject : inlineObject? (Text.trim t) with
      | none => rfl
      | some found =>
          obtain ⟨object, modifiers⟩ := found
          dsimp only
          cases hliteral : unwrapLists object.length object with
          | mk lists literal =>
              dsimp only
              cases hd : read name literal with
              | error e => rfl
              | ok d =>
                  -- a property has fewer braces than the type, so one depth less is enough for it
                  have hplan (p : Property) (hp : p ∈ d.properties) :
                      ofType read r depth (inlineName d.name p.name) p.type
                        = ofPropertyType read r (inlineName d.name p.name) p.type := by
                    have hlt := hread.property_lt hobject hliteral hd hp
                    exact ofType_depth r hread (by omega) (Sequential.braces_lt_depthFor _ _)
                  obtain ⟨dname, kind, properties, line⟩ := d
                  cases properties with
                  | nil => rfl
                  | cons first rest =>
                      have hplans := List.map_congr_left fun p hp =>
                        congrArg (Prod.mk p) (hplan p hp)
                      refine (congrArg (waiting _ _ · _) hplans).trans ?_
                      simp only [ofDeclaration, between, Traced.pure_bind, List.append_nil]

/-- A type is an inline object with lists around it and modifiers after it, or an expression. -/
theorem run_ofPropertyType (hread : read.Shrinks) (name t : Text) :
    (ofPropertyType read r name t).run = (match inlineObject? (Text.trim t) with
      | none => r.resolveExpression (Text.trim t)
      | some (object, modifiers) => do
        let (lists, literal) := unwrapLists object.length object
        let s ← resolveLiteral read r name literal
        r.applyModifiers modifiers (s.nested lists)) := by
  rw [ofPropertyType_eq r hread]
  cases inlineObject? (Text.trim t) with
  | none =>
      generalize r.resolveExpression (Text.trim t) = outcome
      rfl
  | some found =>
      obtain ⟨object, modifiers⟩ := found
      dsimp only
      obtain ⟨lists, literal⟩ := unwrapLists object.length object
      dsimp only
      unfold resolveLiteral
      cases hd : read name literal with
      | error e => rfl
      | ok d =>
          dsimp only
          rw [run_between, Traced.bind_of_ok (a := d) _ rfl, Traced.after_bind, Batch.resolve,
            Traced.events_event]

end Plan

end TypeShape
