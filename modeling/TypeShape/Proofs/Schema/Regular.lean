/-
The schemas that a batch makes when no types and modifiers are registered.

Nothing puts a limit on them, no model has a key twice, and what stands behind a
reference is what the table of declarations has under its name. The last is what makes
references to one name references to one model; it also survives when the table grows,
since a name that is there keeps its schema.
-/
import TypeShape.Proofs.Lookup
import TypeShape.Proofs.Schema.Model

namespace TypeShape

-- =============================================================== schemas

namespace Schema

variable {table : Table Schema}

/-- A schema without limits, in which every model has its keys once and a reference
stands for what the table has under its name. -/
inductive Regular (table : Table Schema) : Schema → Prop
  | any : Regular table .any
  | string : Regular table (.string {})
  | number : Regular table (.number {})
  | boolean : Regular table .boolean
  | object : Regular table .object
  | date : Regular table .date
  | list {item : Schema} (h : Regular table item) : Regular table (.list item {})
  | model {name : Text} {fields : List (Field Schema)} (keys : (fields.map (·.key)).Nodup)
      (each : ∀ f ∈ fields, Regular table f.schema) : Regular table (.model name fields)
  | reference {name : Text} {target : Schema} (known : table.find? name = some target)
      (h : Regular table target) : Regular table (.reference name target)

namespace Regular

/-- A schema stays regular when the table grows. -/
theorem mono {larger : Table Schema} (grown : Table.Extends table larger) {s : Schema}
    (h : Regular table s) : Regular larger s := by
  induction h with
  | any => exact .any
  | string => exact .string
  | number => exact .number
  | boolean => exact .boolean
  | object => exact .object
  | date => exact .date
  | list _ ih => exact .list ih
  | model keys _ ih => exact .model keys ih
  | reference known _ ih => exact .reference (grown _ _ known) ih

theorem nested {s : Schema} (h : Regular table s) (n : Nat) : Regular table (s.nested n) := by
  induction n with
  | zero => exact h
  | succ n ih => exact .list ih

/-- A model is regular when its fields are, also when keys came twice. -/
theorem modelOf (name : Text) {fields : List (Field Schema)}
    (each : ∀ f ∈ fields, Regular table f.schema) : Regular table (.modelOf name fields) := by
  rw [modelOf_eq]
  exact .model (fieldsOf_nodup fields) fun f mem => each f (mem_fieldsOf.1 mem).mem

/-- The built-in types are regular. -/
theorem builtIn {name : Text} {s : Schema} (h : Schema.builtIn? name = some s) :
    Regular table s := by
  have all : ∀ entry ∈ Schema.builtIns, Regular table entry.2 := by
    simp only [Schema.builtIns, List.forall_mem_cons]
    exact ⟨.any, .string, .number, .boolean, .object, .boolean, .boolean, .date,
      fun _ h => (nomatch h)⟩
  obtain ⟨entry, found, rfl⟩ := Option.map_eq_some_iff.1 h
  exact all entry (List.mem_of_find?_eq_some found)

end Regular

-- ================================================================= dates

/-- A date stands somewhere in the schema or behind a reference in it. -/
inductive UsesDate : Schema → Prop
  | date : UsesDate .date
  | list {item : Schema} {limits : LengthLimits} (h : UsesDate item) : UsesDate (.list item limits)
  | model {name : Text} {fields : List (Field Schema)} {f : Field Schema} (mem : f ∈ fields)
      (h : UsesDate f.schema) : UsesDate (.model name fields)
  | reference {name : Text} {target : Schema} (h : UsesDate target) :
      UsesDate (.reference name target)

theorem usesDate_model {name : Text} {fields : List (Field Schema)} :
    UsesDate (.model name fields) ↔ ∃ f ∈ fields, UsesDate f.schema := by
  constructor
  · rintro ⟨⟩
    exact ⟨_, ‹_›, ‹_›⟩
  · rintro ⟨f, mem, h⟩
    exact .model mem h

end Schema

end TypeShape
