/-
Modifiers nobody registered.

A modifier is looked up by its name when its turn comes, and without an entry the next one has
its turn. So only the registered ones take part (`applyModifiers_filter`), one after the other
(`applyModifiers_eq_foldlM`). Chained to the text of a type, be it an inline object, an
expression or no type at all, a modifier takes part in nothing else either: the type means the
same, fails the same and calls the same without the ones that are not registered
(`Plan.run_chained`).
-/
import TypeShape.Proofs.Resolve.PropertyType
import TypeShape.Proofs.TypeText.Chained

namespace TypeShape

open TypeText (separator chained)

namespace Registry

variable (r : Registry)

/-- Whether a modifier is registered under the name that it is looked up by. -/
def modifies (m : Text) : Bool :=
  (r.modifiers.find? (TypeText.Applied.read m).name).isSome

/-- What a modifier makes of a schema: nothing, unless it is registered and answers. -/
def modify (s : Schema) (m : Text) : Traced Schema :=
  let applied := TypeText.Applied.read m
  match r.modifiers.find? applied.name with
  | some modifier => do
    let answer ← .event (.call applied.name applied.parameters) (modifier s applied.parameters)
    return answer.getD s
  | none => pure s

/-- One modifier has its turn after the other. -/
theorem applyModifiers_eq_foldlM (ms : List Text) (s : Schema) :
    r.applyModifiers ms s = ms.foldlM r.modify s := by
  induction ms generalizing s with
  | nil => rfl
  | cons m ms ih =>
      have step : r.applyModifiers (m :: ms) s = r.modify s m >>= r.applyModifiers ms := by
        rw [applyModifiers]
        unfold modify
        dsimp only
        cases r.modifiers.find? (TypeText.Applied.read m).name with
        | some modifier => simp only [bind_assoc, pure_bind]
        | none => rw [pure_bind]
      rw [step, List.foldlM_cons]
      exact bind_congr ih

/-- Only the registered modifiers take part. -/
theorem applyModifiers_filter (ms : List Text) (s : Schema) :
    r.applyModifiers (ms.filter r.modifies) s = r.applyModifiers ms s := by
  induction ms generalizing s with
  | nil => rfl
  | cons m ms ih =>
      by_cases h : r.modifies m = true
      · rw [List.filter_cons_of_pos h, applyModifiers_eq_foldlM, applyModifiers_eq_foldlM,
          List.foldlM_cons, List.foldlM_cons]
        simp only [← applyModifiers_eq_foldlM, ih]
      · have hnone := Option.not_isSome_iff_eq_none.1 h
        rw [List.filter_cons_of_neg h, ih, applyModifiers, hnone]

/-- After some modifiers, the others take part as far as they are registered. -/
theorem applyModifiers_append_filter (before ms : List Text) :
    r.applyModifiers (before ++ (ms.filter fun m => r.modifies (Text.trim m)).map Text.trim)
      = r.applyModifiers (before ++ ms.map Text.trim) := by
  funext s
  have hfilter : (ms.filter fun m => r.modifies (Text.trim m)).map Text.trim
      = (ms.map Text.trim).filter r.modifies := by
    rw [List.filter_map]
    rfl
  rw [← applyModifiers_filter, ← applyModifiers_filter r (before ++ ms.map Text.trim), hfilter,
    List.filter_append, List.filter_append, List.filter_filter]
  simp only [Bool.and_self]

end Registry

namespace Plan

variable {r : Registry} {ms : List Text}

/-- What a type with modifiers chained to it comes to. -/
theorem run_foldl_chained {read : LiteralReader} (hread : read.Shrinks)
    (plain : ∀ m ∈ ms, separator ∉ m ∧ '}' ∉ m) (name t : Text) :
    (ofPropertyType read r name (ms.foldl chained t)).run
      = (match inlineObject? (Text.trim t) with
        | none =>
          r.resolveBase (TypeText.Chain.read (Text.trim t)).base >>=
            r.applyModifiers ((TypeText.Chain.read (Text.trim t)).modifiers ++ ms.map Text.trim)
        | some (object, modifiers) => do
          let (lists, literal) := unwrapLists object.length object
          let s ← resolveLiteral read r name literal
          r.applyModifiers (modifiers ++ ms.map Text.trim) (s.nested lists)) := by
  rw [run_ofPropertyType r hread, TypeText.inlineObject?_chained plain]
  cases inlineObject? (Text.trim t) with
  | none =>
      dsimp only [Option.map_none]
      rw [Registry.resolveExpression, TypeText.Chain.read_chained plain]
  | some found => rfl

/-- Whatever stands before them, in balance or not, modifiers that are not registered may as
well be left out: the result is the same, and so is the fault, with the same events. -/
theorem run_chained (r : Registry) (plain : ∀ m ∈ ms, separator ∉ m ∧ '}' ∉ m)
    (name t : Text) :
    (ofPropertyType Source.readLiteral r name (ms.foldl chained t)).run
      = (ofPropertyType Source.readLiteral r name
          ((ms.filter fun m => r.modifies (Text.trim m)).foldl chained t)).run := by
  have plain' : ∀ m ∈ ms.filter fun m => r.modifies (Text.trim m), separator ∉ m ∧ '}' ∉ m :=
    fun m hm => plain m (List.mem_of_mem_filter hm)
  rw [run_foldl_chained readLiteral_shrinks plain, run_foldl_chained readLiteral_shrinks plain']
  simp only [Registry.applyModifiers_append_filter]

/-- An object whose brace is never closed, with modifiers after it. Only the one in the middle
is registered, since names with parameters are looked up by themselves. -/
theorem run_chained_open :
    let r : Registry :=
      { Registry.empty with modifiers := [("Max<>", fun s _ => .ok (some (.list s {})))] }
    let ms : List Text := ["Max", " Max< 3> ", "brand \x7b"]
    (∀ m ∈ ms, separator ∉ m ∧ '}' ∉ m)
      ∧ (ofPropertyType Source.readLiteral r "Model"
          " \x7b a: string[] & Max &  Max< 3>  & brand \x7b").run
        = (ofPropertyType Source.readLiteral r "Model" " \x7b a: string[] &  Max< 3> ").run := by
  intro r ms
  have plain : ∀ m ∈ ms, separator ∉ m ∧ '}' ∉ m := by decide
  exact ⟨plain, run_chained r plain "Model" " \x7b a: string[]"⟩

end Plan

end TypeShape
