/-
Schemas without the names of their models.

Two schemas that differ only in the names of models have one shape. What builds schemas keeps
shapes apart from names: models of fields of one shape, and lists of them, have one shape
(`unnamed_modelOf`, `unnamed_nested`), and so has what a modifier makes of schemas of one shape
as long as it does not look at the names (`Modifier.Blind`). Behind a reference the names stay:
what an earlier declaration was resolved to is none of the concern of those who refer to it.
-/
import TypeShape.Proofs.Lookup
import TypeShape.Proofs.Resolve.Traced
import TypeShape.Proofs.Schema.Model
import TypeShape.Registry.Stock
import TypeShape.Resolve.Base

namespace TypeShape

namespace Schema

-- ============================================================== shapes

mutual

/-- The schema without the names of its models. -/
def unnamed : Schema → Schema
  | .list item limits => .list (unnamed item) limits
  | .model _ fields => .model [] (unnamedFields fields)
  | s => s
termination_by structural s => s

/-- The fields of a model without the names of models in them. -/
def unnamedFields : List (Field Schema) → List (Field Schema)
  | [] => []
  | ⟨key, required, schema⟩ :: rest => ⟨key, required, unnamed schema⟩ :: unnamedFields rest
termination_by structural fields => fields

end

/-- A field without the names of models in it. -/
def unnamedField (f : Field Schema) : Field Schema :=
  { f with schema := f.schema.unnamed }

theorem unnamedFields_eq_map (fields : List (Field Schema)) :
    unnamedFields fields = fields.map unnamedField := by
  induction fields with
  | nil => rfl
  | cons f rest ih =>
      rw [unnamedFields, ih]
      rfl

theorem unnamed_nested (n : Nat) (s : Schema) : (s.nested n).unnamed = s.unnamed.nested n := by
  induction n with
  | zero => rfl
  | succ n ih =>
      rw [nested, nested, arrayOf, arrayOf, unnamed, ih]

/-- Where a field goes is told by its key. -/
theorem map_unnamedField_insertField (f : Field Schema) (fields : List (Field Schema)) :
    (insertField f fields).map unnamedField
      = insertField (unnamedField f) (fields.map unnamedField) := by
  induction fields with
  | nil => rfl
  | cons g rest ih =>
      rw [insertField, List.map_cons, insertField]
      show _ = if g.key == f.key then _ else _
      split
      · rfl
      · rw [List.map_cons, ih]

theorem map_unnamedField_fieldsOf (fields : List (Field Schema)) :
    (fieldsOf fields).map unnamedField = fieldsOf (fields.map unnamedField) := by
  induction fields using List.reverseRecOn with
  | nil => rfl
  | append_singleton fields f ih =>
      rw [List.map_append, List.map_singleton, fieldsOf_concat, fieldsOf_concat,
        map_unnamedField_insertField, ih]

theorem unnamed_modelOf (name : Text) (fields : List (Field Schema)) :
    (modelOf name fields).unnamed = modelOf [] (fields.map unnamedField) := by
  rw [modelOf_eq, modelOf_eq, unnamed, unnamedFields_eq_map, map_unnamedField_fieldsOf]

/-- A limit is put on a schema without a look at its names. -/
theorem unnamed_constrain (s : Schema) (c : Constraint) :
    (s.constrain c).unnamed = s.unnamed.constrain c := by
  cases s <;> cases c <;> rfl

end Schema

-- =========================================================== modifiers

/-- A modifier that makes schemas of one shape of schemas of one shape. -/
def Modifier.Blind (modifier : Modifier) : Prop :=
  ∀ (s s' : Schema) (parameters : List Text), s.unnamed = s'.unnamed →
    (modifier s parameters).map (Option.map Schema.unnamed)
      = (modifier s' parameters).map (Option.map Schema.unnamed)

namespace Modifier.Blind

/-- A limit is put on schemas whatever the names of their models are. -/
theorem limit {α : Type} (read? : Text → Option α) (constraint : α → Schema.Constraint) :
    (Modifier.limit read? constraint).Blind := by
  intro s s' parameters hs
  match parameters with
  | [p] =>
      cases h : numberParameter read? p with
      | error e => simp [Modifier.limit, h, Bind.bind, Except.bind, Except.map]
      | ok n =>
          simp [Modifier.limit, h, Bind.bind, Except.bind, Except.map, Pure.pure, Except.pure,
            Schema.unnamed_constrain, hs]
  | [] => rfl
  | _ :: _ :: _ => rfl

theorem array : Modifier.array.Blind := by
  intro s s' parameters hs
  cases parameters with
  | nil => simp [Modifier.array, Except.map, Schema.arrayOf, Schema.unnamed, hs]
  | cons => rfl

theorem same : Modifier.same.Blind := by
  intro s s' parameters hs
  simp [Modifier.same, Except.map, hs]

/-- A modifier that does not look at the schema is blind. -/
theorem of_const {modifier : Modifier}
    (h : ∀ s s' parameters, modifier s parameters = modifier s' parameters) : modifier.Blind := by
  intro s s' parameters _
  rw [h s s']

/-- All modifiers that are ready-made are blind. -/
theorem stock (name : Text) : ∀ m ∈ [mostLength, leastLength, least, most, Modifier.array,
    replace name, Modifier.same, Modifier.none, failing], m.Blind := by
  simp only [List.forall_mem_cons]
  exact ⟨limit _ _, limit _ _, limit _ _, limit _ _, array,
    of_const fun _ _ parameters => by cases parameters <;> rfl, same,
    of_const fun _ _ _ => rfl, of_const fun _ _ _ => rfl, List.forall_mem_nil _⟩

end Modifier.Blind

namespace Registry

/-- A registry of modifiers that look at no names of models. -/
def Blind (r : Registry) : Prop :=
  ∀ e ∈ r.modifiers, e.2.Blind

/-- The modifiers of a type come to one shape with schemas of one shape, by the same calls. -/
theorem Blind.applyModifiers {r : Registry} (h : r.Blind) (modifiers : List Text) {s s' : Schema}
    (hs : s.unnamed = s'.unnamed) :
    Schema.unnamed <$> r.applyModifiers modifiers s
      = Schema.unnamed <$> r.applyModifiers modifiers s' := by
  induction modifiers generalizing s s' with
  | nil =>
      unfold Registry.applyModifiers
      rw [map_pure, map_pure, hs]
  | cons m rest ih =>
      unfold Registry.applyModifiers
      dsimp only
      cases hfind : r.modifiers.find? (TypeText.Applied.read m).name with
      | none => exact ih hs
      | some modifier =>
          have hblind := h _ (Table.mem_of_find? hfind)
          refine Traced.map_bind_congr (f := Option.map Schema.unnamed) ?_
            fun changed changed' heq => ?_
          · rw [Traced.map_event, Traced.map_event, hblind s s' _ hs]
          · refine ih ?_
            cases changed with
            | none =>
                cases changed' with
                | none => exact hs
                | some => cases heq
            | some =>
                cases changed' with
                | none => cases heq
                | some => exact Option.some.inj heq

end Registry

end TypeShape
