/-
Registries after any number of operations.

The operations on one table are one rule for all of its entries: the first entry of the name of a
declaration stands, and of a type or a modifier the last one does. A step takes each table on by
the entries that the operation has for it (`perform_eq`), and so does a run, by the entries of all
of its operations (`run_eq`). So the operations on one table make no difference to the others.
-/
import TypeShape.Proofs.Registry.Filling

namespace TypeShape

namespace Table

variable {α : Type}

/-- Set entries one after another. -/
def setAll (t entries : Table α) : Table α :=
  entries.foldl (fun t e => t.set e.1 e.2) t

theorem setAll_append (t entries others : Table α) :
    t.setAll (entries ++ others) = (t.setAll entries).setAll others :=
  List.foldl_append

/-- The name that is set leads to the new entry, and every other one to what it led to. -/
theorem find?_set (t : Table α) (name other : Text) (entry : α) :
    (t.set name entry).find? other = if name = other then some entry else t.find? other := by
  induction t with
  | nil =>
      by_cases same : name = other
      · simp [set, find?, same]
      · simp [set, find?, same]
  | cons e t ih =>
      obtain ⟨n, e⟩ := e
      unfold set
      split
      case isTrue here =>
        obtain rfl : n = name := eq_of_beq here
        by_cases same : n = other
        · simp [find?, same]
        · simp [find?, same]
      case isFalse away =>
        by_cases same : n = other
        · have different : name ≠ other := fun h => away (beq_iff_eq.2 (same.trans h.symm))
          simp [find?, same, different]
        · simpa [find?, same] using ih

/-- After a run of entries a name leads to the last one of them that it has, or else to what it led
to before. -/
theorem find?_setAll (t entries : Table α) (name : Text) :
    (t.setAll entries).find? name = (find? entries.reverse name).or (t.find? name) := by
  induction entries using List.reverseRecOn with
  | nil => rfl
  | append_singleton entries e ih =>
      have hlast : t.setAll (entries ++ [e]) = (t.setAll entries).set e.1 e.2 :=
        t.setAll_append entries [e]
      rw [hlast, find?_set, ih, List.reverse_concat]
      by_cases same : e.1 = name
      · simp [find?, same]
      · simp [find?, same]

/-- The names of a filled table are those that it had, and behind them the new ones in the order in
which they first come. -/
theorem names_addAll (t entries : Table α) :
    (t.addAll entries).names = t.names ++ entries.names.eraseDups.filter (· ∉ t.names) := by
  rw [addAll_eq_append, names_append, ← names_addAll_nil]
  unfold names
  rw [List.filter_map]
  rfl

end Table

-- ============================================================ operations

/-- The tables of a registry. -/
inductive TableKind
  | interfaces
  | types
  | modifiers
deriving DecidableEq

/-- The operations on registries. -/
inductive Operation
  | withInterface (name : Text) (schema : Schema)
  | withTypes (entries : Table Factory)
  | withModifiers (entries : Table Modifier)

namespace Operation

/-- The table that an operation is on. -/
def kind : Operation → TableKind
  | withInterface .. => .interfaces
  | withTypes _ => .types
  | withModifiers _ => .modifiers

/-- The declarations that an operation registers. -/
def interfaces : Operation → Table Schema
  | withInterface name schema => [(name, schema)]
  | _ => []

/-- The types that an operation writes. -/
def types : Operation → Table Factory
  | withTypes entries => entries
  | _ => []

/-- The modifiers that an operation writes. -/
def modifiers : Operation → Table Modifier
  | withModifiers entries => entries
  | _ => []

variable {operation : Operation}

theorem interfaces_eq_nil (h : operation.kind ≠ .interfaces) : operation.interfaces = [] := by
  cases operation with
  | withInterface => exact absurd rfl h
  | _ => rfl

theorem types_eq_nil (h : operation.kind ≠ .types) : operation.types = [] := by
  cases operation with
  | withTypes => exact absurd rfl h
  | _ => rfl

theorem modifiers_eq_nil (h : operation.kind ≠ .modifiers) : operation.modifiers = [] := by
  cases operation with
  | withModifiers => exact absurd rfl h
  | _ => rfl

/-- Operations that have no entries can be left out. -/
theorem flatMap_filter {α : Type} {entries : Operation → Table α} {kind : TableKind}
    (h : ∀ {operation : Operation}, operation.kind ≠ kind → entries operation = [])
    (operations : List Operation) :
    (operations.filter fun o => o.kind = kind).flatMap entries = operations.flatMap entries := by
  induction operations with
  | nil => rfl
  | cons operation operations ih =>
      rw [List.flatMap_cons, ← ih]
      by_cases same : operation.kind = kind
      · rw [List.filter_cons_of_pos (by simpa using same), List.flatMap_cons]
      · rw [List.filter_cons_of_neg (by simpa using same), h same, List.nil_append]

end Operation

namespace Registry

/-- The registry after an operation. -/
def perform (r : Registry) : Operation → Registry
  | .withInterface name schema => r.withInterface name schema
  | .withTypes entries => r.withTypes entries
  | .withModifiers entries => r.withModifiers entries

/-- The registry after operations, one after another. -/
def run (r : Registry) (operations : List Operation) : Registry :=
  operations.foldl perform r

-- ================================================================ tables

/-- Every table goes on by the entries that the operation has for it. -/
theorem perform_eq (r : Registry) (operation : Operation) :
    r.perform operation =
      { types := r.types.setAll operation.types
        modifiers := r.modifiers.setAll operation.modifiers
        interfaces := r.interfaces.addAll operation.interfaces } := by
  cases operation <;> rfl

/-- And so it does through a run. -/
theorem run_eq (r : Registry) (operations : List Operation) :
    r.run operations =
      { types := r.types.setAll (operations.flatMap Operation.types)
        modifiers := r.modifiers.setAll (operations.flatMap Operation.modifiers)
        interfaces := r.interfaces.addAll (operations.flatMap Operation.interfaces) } := by
  induction operations generalizing r with
  | nil => rfl
  | cons operation operations ih =>
      show (r.perform operation).run operations = _
      rw [ih, perform_eq, List.flatMap_cons, List.flatMap_cons, List.flatMap_cons,
        Table.setAll_append, Table.setAll_append, Table.addAll_append]

/-- After any operations a name leads to the declaration that it led to before, or else to the
first one that was registered under it, and to the last type and to the last modifier that was
written under it, or else to those before. The names of declarations stand in the order in which
they were first registered. And the operations on one table by themselves make of it what they
make of it among the others. -/
theorem tables_run (r : Registry) (operations : List Operation) :
    let after := r.run operations
    let only (kind : TableKind) := r.run (operations.filter fun o => o.kind = kind)
    let registered := operations.flatMap Operation.interfaces
    (∀ name, after.interfaces.find? name
        = (r.interfaces.find? name).or (Table.find? registered name)
      ∧ after.types.find? name
        = (Table.find? (operations.flatMap Operation.types).reverse name).or (r.types.find? name)
      ∧ after.modifiers.find? name
        = (Table.find? (operations.flatMap Operation.modifiers).reverse name).or
          (r.modifiers.find? name))
    ∧ after.interfaces.names
      = r.interfaces.names ++ (Table.names registered).eraseDups.filter (· ∉ r.interfaces.names)
    ∧ after.interfaces = (only .interfaces).interfaces
    ∧ after.types = (only .types).types
    ∧ after.modifiers = (only .modifiers).modifiers := by
  intro after only registered
  simp only [after, only, run_eq]
  rw [Operation.flatMap_filter Operation.interfaces_eq_nil,
    Operation.flatMap_filter Operation.types_eq_nil,
    Operation.flatMap_filter Operation.modifiers_eq_nil]
  refine ⟨fun name => ⟨?_, ?_, ?_⟩, ?_, rfl, rfl, rfl⟩
  · exact Table.find?_addAll ..
  · exact Table.find?_setAll ..
  · exact Table.find?_setAll ..
  · exact Table.names_addAll ..

end Registry

end TypeShape
