/-
Resolution by plain recursion: one property after another, depth first, and no queue.

This is the meaning that resolution with all properties at work together is measured
by. The plan of a type, run in order, is this recursion (`inOrder_ofType`), and when it
succeeds its events are known from the texts alone: every property calls the factory
of its base type and then its registered modifiers in the order of their chain
(`stretches_ofType`).
-/
import Mathlib.Data.List.Forall2
import TypeShape.Proofs.Resolve.Traced
import TypeShape.Resolve.Plan

namespace TypeShape

variable (read : LiteralReader) (r : Registry)

-- ======================================================== the recursion

namespace Sequential

/-- Resolve properties one after another. -/
def fieldsBy (resolve : Property → Traced Schema) : List Property → Traced (List (Field Schema))
  | [] => pure []
  | p :: rest => do
    let s ← resolve p
    let others ← fieldsBy resolve rest
    return { key := p.name, required := !p.isOptional, schema := s } :: others

/-- Resolve a type; `depth` bounds the nesting of inline objects. -/
def ofType : Nat → Text → Text → Traced Schema
  | 0, _, t => .ofResult (.error (.unresolvable t))
  | depth + 1, name, t =>
    let t := Text.trim t
    match Plan.inlineObject? t with
    | none => r.resolveExpression t
    | some (object, modifiers) => do
      let (lists, literal) := unwrapLists object.length object
      let d ← .event .literal (read name literal)
      let fields ← fieldsBy (fun p => ofType depth (inlineName d.name p.name) p.type) d.properties
      r.applyModifiers modifiers ((Schema.modelOf d.name fields).nested lists)

/-- Resolve a declaration. -/
def ofDeclaration (d : Declaration) : Traced Schema := do
  let resolve (p : Property) :=
    let name := inlineName d.name p.name
    ofType read r (Plan.depthFor name p.type) name p.type
  return .modelOf d.name (← fieldsBy resolve d.properties)

-- ============================================================== results

section Results

variable {r} {resolve : Property → Traced Schema} {properties : List Property} {s : Schema}

/-- Properties come to fields exactly when each of them comes to a schema. -/
theorem fieldsBy_eq_ok_iff {fields : List (Field Schema)} :
    (fieldsBy resolve properties).result = .ok fields
      ↔ ∃ schemas, List.Forall₂ (fun p s => (resolve p).result = .ok s) properties schemas
        ∧ fields = Plan.fields properties schemas := by
  induction properties generalizing fields with
  | nil =>
      refine ⟨fun h => ⟨[], .nil, (Except.ok.inj h).symm⟩, ?_⟩
      rintro ⟨schemas, hschemas, rfl⟩
      cases hschemas
      rfl
  | cons p rest ih =>
      unfold fieldsBy
      constructor
      · intro h
        obtain ⟨s, hs, h⟩ := Traced.result_bind_eq_ok_iff.1 h
        obtain ⟨others, hothers, h⟩ := Traced.result_bind_eq_ok_iff.1 h
        obtain ⟨schemas, hschemas, rfl⟩ := ih.1 hothers
        cases h
        exact ⟨s :: schemas, .cons hs hschemas, rfl⟩
      · rintro ⟨_, hschemas, rfl⟩
        cases hschemas with
        | @cons _ s _ schemas hs hschemas =>
            exact Traced.result_bind_eq_ok_iff.2 ⟨s, hs, Traced.result_bind_eq_ok_iff.2
              ⟨_, ih.2 ⟨schemas, hschemas, rfl⟩, rfl⟩⟩

/-- Where properties come to fields, each of them comes to a schema. -/
theorem result_of_fieldsBy {fields : List (Field Schema)}
    (h : (fieldsBy resolve properties).result = .ok fields) {p : Property} (hp : p ∈ properties) :
    ∃ s, (resolve p).result = .ok s := by
  obtain ⟨schemas, hschemas, -⟩ := fieldsBy_eq_ok_iff.1 h
  clear h
  induction hschemas with
  | nil => cases hp
  | cons first _ ih =>
      rcases List.mem_cons.1 hp with rfl | hp
      · exact ⟨_, first⟩
      · exact ih hp

/-- The model of properties is made exactly when each of them comes to a schema. -/
theorem modelOf_fieldsBy_eq_ok_iff {name : Text} :
    (do return Schema.modelOf name (← fieldsBy resolve properties) : Traced Schema).result = .ok s
      ↔ ∃ schemas, List.Forall₂ (fun p s => (resolve p).result = .ok s) properties schemas
        ∧ s = .modelOf name (Plan.fields properties schemas) := by
  rw [Traced.result_bind_eq_ok_iff]
  constructor
  · rintro ⟨fields, hfields, h⟩
    obtain ⟨schemas, hschemas, rfl⟩ := fieldsBy_eq_ok_iff.1 hfields
    cases h
    exact ⟨schemas, hschemas, rfl⟩
  · rintro ⟨schemas, hschemas, rfl⟩
    exact ⟨_, fieldsBy_eq_ok_iff.2 ⟨schemas, hschemas, rfl⟩, rfl⟩

end Results

end Sequential

namespace Plan

/-- Plans of properties, run in order, are the recursion over these properties. -/
theorem inOrderAll_map (plan : Property → Plan) (properties : List Property) :
    inOrderAll (properties.map fun p => (p, plan p))
      = Sequential.fieldsBy (fun p => (plan p).inOrder) properties := by
  induction properties with
  | nil => rfl
  | cons p rest ih =>
      rw [List.map_cons, inOrderAll, ih]
      rfl

/-- A plan that waits, run in order, is the recursion over its properties, and then what
it goes on with. -/
theorem inOrder_waiting_map (started : List Event) (name : Text) (plan : Property → Plan)
    (properties : List Property) (finish : Schema → Traced Schema) :
    (waiting started name (properties.map fun p => (p, plan p)) finish).inOrder
      = Traced.after started (do
          let fields ← Sequential.fieldsBy (fun p => (plan p).inOrder) properties
          finish (.modelOf name fields)) := by
  rw [inOrder, inOrderAll_map, Traced.after_bind]

/-- The plan of a type, run in order, is the plain recursion. -/
theorem inOrder_ofType (depth : Nat) (name t : Text) :
    (ofType read r depth name t).inOrder = Sequential.ofType read r depth name t := by
  induction depth generalizing name t with
  | zero => rfl
  | succ depth ih =>
      unfold ofType Sequential.ofType
      dsimp only
      cases hobject : inlineObject? (Text.trim t) with
      | none => rfl
      | some found =>
          obtain ⟨object, modifiers⟩ := found
          dsimp only
          obtain ⟨lists, literal⟩ := unwrapLists object.length object
          dsimp only
          cases hread : read name literal with
          | error e => rw [inOrder, Traced.bind_of_error _ rfl]; rfl
          | ok d =>
              rw [Traced.bind_of_ok (a := d) _ rfl]
              obtain ⟨dname, kind, properties, line⟩ := d
              cases properties with
              | nil =>
                  rw [Sequential.fieldsBy, Traced.pure_bind]
                  rfl
              | cons p rest =>
                  refine (inOrder_waiting_map _ _ _ (p :: rest) _).trans ?_
                  simp only [ih]
                  rfl

/-- The plan of a declaration, run in order, is the plain recursion. -/
theorem inOrder_ofDeclaration (d : Declaration) :
    (ofDeclaration read r d).inOrder = Sequential.ofDeclaration read r d := by
  obtain ⟨name, kind, properties, line⟩ := d
  cases properties with
  | nil => rfl
  | cons p rest =>
      refine (inOrder_waiting_map _ _ _ (p :: rest) _).trans ?_
      simp only [ofPropertyType, inOrder_ofType]
      rfl

end Plan

end TypeShape
