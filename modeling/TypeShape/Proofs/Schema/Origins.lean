/-
The models of a regular schema, told apart by their places.

A place is a path: from the outermost model or from a referenced declaration, along the
keys of fields, and through lists without a mark. In a regular schema the keys of a model
are distinct and a name stands for one declaration, so there is one model at most at the
end of a path (`eq_of_origin_eq`), and the models that a document has to define are those
in the fields of the outermost one (`mem_innerModels`).
-/
import TypeShape.Proofs.Schema.Regular
import TypeShape.Schema.Document

namespace TypeShape.Schema

variable {table : Table Schema}

-- ============================================================ definitions

/-- The models in the fields of a model are those of the fields' schemas. -/
theorem mem_definitionsOfFields {o : Origin} {fields : List (Field Schema)} {d : Definition} :
    d ∈ definitionsOfFields o fields
      ↔ ∃ f ∈ fields, d ∈ definitionsAt (o.field f.key) f.schema := by
  induction fields with
  | nil => exact ⟨fun h => (nomatch h), fun ⟨_, h, _⟩ => (nomatch h)⟩
  | cons f rest ih =>
      rw [definitionsOfFields, List.mem_append, ih]
      simp only [List.mem_cons, exists_eq_or_imp]

/-- What a schema shares with its items, its fields and what it refers to, it shares with
all models in it. -/
theorem of_mem_definitionsAt {p : Schema → Prop}
    (list : ∀ item limits, p (.list item limits) → p item)
    (field : ∀ name fields, p (.model name fields) → ∀ f ∈ fields, p f.schema)
    (reference : ∀ name target, p (.reference name target) → p target) {s : Schema}
    (regular : Regular table s) (h : p s) {o : Origin} {d : Definition}
    (mem : d ∈ definitionsAt o s) : p (.model d.name d.fields) := by
  induction regular generalizing o with
  | list _ ih => exact ih (list _ _ h) mem
  | reference _ _ ih => exact ih (reference _ _ h) mem
  | model _ _ ih =>
      rw [definitionsAt, List.mem_append, mem_definitionsOfFields] at mem
      rcases mem with ⟨f, here, mem⟩ | last
      · exact ih f here (field _ _ h f here) mem
      · cases List.mem_singleton.1 last
        exact h
  | _ => exact nomatch mem

/-- A model in a regular schema is regular. -/
theorem Regular.of_mem {s : Schema} (h : Regular table s) {o : Origin} {d : Definition}
    (mem : d ∈ definitionsAt o s) : Regular table (.model d.name d.fields) := by
  refine of_mem_definitionsAt ?_ ?_ ?_ h h mem
  · rintro item limits ⟨⟩
    assumption
  · rintro name fields ⟨⟩ f here
    rename_i each
    exact each f here
  · rintro name target ⟨⟩
    assumption

/-- A model in a schema without dates uses none. -/
theorem not_usesDate_of_mem {s : Schema} (regular : Regular table s) (h : ¬ s.UsesDate) {o : Origin}
    {d : Definition} (mem : d ∈ definitionsAt o s) : ¬ (Schema.model d.name d.fields).UsesDate :=
  of_mem_definitionsAt (p := fun s => ¬ s.UsesDate) (fun _ _ h used => h (.list used))
    (fun _ _ h _ here used => h (.model here used)) (fun _ _ h used => h (.reference used))
    regular h mem

/-- The models in a model of a schema are models of that schema. -/
theorem definitionsOfFields_subset {s : Schema} (regular : Regular table s) {o : Origin}
    {d : Definition} (mem : d ∈ definitionsAt o s) :
    definitionsOfFields d.origin d.fields ⊆ definitionsAt o s := by
  induction regular generalizing o with
  | list _ ih => exact ih mem
  | reference _ _ ih => exact ih mem
  | model _ _ ih =>
      rw [definitionsAt] at mem ⊢
      rcases List.mem_append.1 mem with mem | last
      · obtain ⟨f, here, mem⟩ := mem_definitionsOfFields.1 mem
        intro e inner
        exact List.mem_append_left _ (mem_definitionsOfFields.2 ⟨f, here, ih f here mem inner⟩)
      · cases List.mem_singleton.1 last
        exact List.subset_append_left _ _
  | _ => exact nomatch mem

-- ================================================================= places

/-- The schema inside lists. -/
def core : Schema → Schema
  | .list item _ => core item
  | s => s

/-- The model at the end of a path of keys. -/
def modelAt (s : Schema) : List Text → Option (Text × List (Field Schema))
  | [] => match core s with
    | .model name fields => some (name, fields)
    | _ => none
  | key :: keys => match core s with
    | .model _ fields => (fields.find? (·.key == key)).bind fun f => modelAt f.schema keys
    | _ => none

/-- The definition is the model at its place: along the keys from here, or from a
declaration in the table. -/
def Located (table : Table Schema) (o : Origin) (s : Schema) (d : Definition) : Prop :=
  (∃ keys, d.origin = ⟨o.anchor, o.keys ++ keys⟩ ∧ modelAt s keys = some (d.name, d.fields))
  ∨ ∃ name target keys, table.find? name = some target ∧ d.origin = ⟨some name, keys⟩
      ∧ modelAt target keys = some (d.name, d.fields)

theorem modelAt_list (item : Schema) (limits : LengthLimits) (keys : List Text) :
    modelAt (.list item limits) keys = modelAt item keys := by
  cases keys <;> rfl

/-- Every model of a regular schema is where its place says. -/
theorem located {s : Schema} (regular : Regular table s) {o : Origin} {d : Definition}
    (mem : d ∈ definitionsAt o s) : Located table o s d := by
  induction regular generalizing o with
  | list _ ih =>
      rcases ih mem with ⟨keys, origin, found⟩ | away
      · exact .inl ⟨keys, origin, (modelAt_list _ _ keys).trans found⟩
      · exact .inr away
  | @reference name target known _ ih =>
      rcases ih mem with ⟨keys, origin, found⟩ | away
      · exact .inr ⟨name, target, keys, known, origin, found⟩
      · exact .inr away
  | @model name fields keys _ ih =>
      rw [definitionsAt, List.mem_append, mem_definitionsOfFields] at mem
      rcases mem with ⟨f, here, mem⟩ | last
      · rcases ih f here mem with ⟨path, origin, found⟩ | away
        · refine .inl ⟨f.key :: path, ?_, ?_⟩
          · rw [origin]
            show (⟨o.anchor, (o.keys ++ [f.key]) ++ path⟩ : Origin) = _
            rw [List.append_assoc]
            rfl
          · show ((fields.find? (·.key == f.key)).bind fun f => modelAt f.schema path) = _
            rw [find?_key (·.key) keys here]
            exact found
        · exact .inr away
      · cases List.mem_singleton.1 last
        exact .inl ⟨[], by rw [List.append_nil], rfl⟩
  | _ => exact nomatch mem

/-- The model at a place, from the outermost schema or from the table. -/
def placed (table : Table Schema) (s : Schema) (o : Origin) :
    Option (Text × List (Field Schema)) :=
  match o.anchor with
  | none => modelAt s o.keys
  | some name => (table.find? name).bind (modelAt · o.keys)

theorem placed_of_mem {s : Schema} (regular : Regular table s) {d : Definition}
    (mem : d ∈ definitionsAt .root s) : placed table s d.origin = some (d.name, d.fields) := by
  rcases located regular mem with ⟨keys, origin, found⟩ | ⟨name, target, keys, known, origin, found⟩
  · rw [origin]
    exact found
  · rw [origin]
    show (table.find? name).bind _ = _
    rw [known]
    exact found

/-- There is one model at a place. -/
theorem eq_of_origin_eq {s : Schema} (regular : Regular table s) {d e : Definition}
    (hd : d ∈ definitionsAt .root s) (he : e ∈ definitionsAt .root s) (same : d.origin = e.origin) :
    d = e := by
  have content : some (d.name, d.fields) = some (e.name, e.fields) := by
    rw [← placed_of_mem regular hd, ← placed_of_mem regular he, same]
  obtain ⟨origin, name, fields⟩ := d
  obtain ⟨origin', name', fields'⟩ := e
  cases content
  cases same
  rfl

-- ========================================================== inner models

theorem distinct_concat (definitions : List Definition) (d : Definition) :
    distinct (definitions ++ [d]) = if (distinct definitions).any (·.origin == d.origin) then
      distinct definitions else distinct definitions ++ [d] := by
  unfold distinct
  rw [List.foldl_append]
  rfl

theorem mem_of_mem_distinct {definitions : List Definition} {d : Definition}
    (h : d ∈ distinct definitions) : d ∈ definitions := by
  induction definitions using List.reverseRecOn with
  | nil => exact h
  | append_singleton front last ih =>
      rw [distinct_concat] at h
      rw [List.mem_append]
      split at h
      · exact .inl (ih h)
      · exact (List.mem_append.1 h).imp_left ih

/-- Each place is kept. -/
theorem exists_mem_distinct {definitions : List Definition} {d : Definition}
    (h : d ∈ definitions) : ∃ e ∈ distinct definitions, e.origin = d.origin := by
  induction definitions using List.reverseRecOn with
  | nil => exact nomatch h
  | append_singleton front last ih =>
      rw [distinct_concat]
      rcases List.mem_append.1 h with front | here
      · obtain ⟨e, mem, same⟩ := ih front
        refine ⟨e, ?_, same⟩
        split
        · exact mem
        · exact List.mem_append_left _ mem
      · cases List.mem_singleton.1 here
        split
        case isTrue taken =>
          obtain ⟨e, mem, same⟩ := List.any_eq_true.1 taken
          exact ⟨e, mem, eq_of_beq same⟩
        case isFalse => exact ⟨d, List.mem_append_right _ (List.mem_singleton_self d), rfl⟩

/-- No model in the fields of the outermost one is at its place. -/
theorem origin_ne_root {name : Text} {fields : List (Field Schema)}
    (regular : Regular table (.model name fields)) {d : Definition}
    (mem : d ∈ definitionsOfFields .root fields) : d.origin ≠ .root := by
  obtain ⟨f, here, mem⟩ := mem_definitionsOfFields.1 mem
  cases regular with
  | model _ each =>
      rcases located (each f here) mem with ⟨keys, origin, -⟩ | ⟨n, target, keys, -, origin, -⟩
      · rw [origin]
        intro same
        exact nomatch congrArg Origin.keys same
      · rw [origin]
        intro same
        exact nomatch congrArg Origin.anchor same

/-- The models that a document has to define are those in the fields of the outermost
one. -/
theorem mem_innerModels {name : Text} {fields : List (Field Schema)}
    (regular : Regular table (.model name fields)) {d : Definition} :
    d ∈ (Schema.model name fields).innerModels ↔ d ∈ definitionsOfFields .root fields := by
  have all : definitionsAt .root (.model name fields)
      = definitionsOfFields .root fields ++ [⟨.root, name, fields⟩] := by
    rw [definitionsAt]
  unfold innerModels
  rw [List.mem_filter, outermost]
  constructor
  · rintro ⟨mem, other⟩
    have mem := mem_of_mem_distinct mem
    rw [all] at mem
    rcases List.mem_append.1 mem with mem | root
    · exact mem
    · cases List.mem_singleton.1 root
      exact absurd other (by simp)
  · intro mem
    have there : d ∈ definitionsAt .root (.model name fields) := by
      rw [all]
      exact List.mem_append_left _ mem
    obtain ⟨e, kept, same⟩ := exists_mem_distinct there
    obtain rfl := eq_of_origin_eq regular (mem_of_mem_distinct kept) there same
    refine ⟨kept, ?_⟩
    simpa using (origin_ne_root regular mem).symm

end TypeShape.Schema
