/-
What the documents of regular schemas say about values.

A document refers to models by name, so what it says depends on the naming. A naming is
sound when models that share a name accept the same values. Under a sound naming a value
is valid under the document of a schema exactly when the schema accepts it (`agrees`). The proof
goes down the value and, for one value, down the schema: a reference in a document takes no part of
the value away, but it leads to the document of a model, and what that asks of the value it asks of
its parts.

The values are those that fit into doubles. A document takes any number; the check wants
one that is finite as a double.
-/
import TypeShape.Proofs.Json.Validity
import TypeShape.Proofs.Number.Whole
import TypeShape.Proofs.Schema.Origins

namespace TypeShape

/-- Every float in the value is finite, and every whole number has 53 bits at most. -/
inductive Json.Moderate : Json → Prop
  | null : Moderate .null
  | bool (b : Bool) : Moderate (.bool b)
  | int {i : Int} (h : i.natAbs ≤ 2 ^ 53) : Moderate (.int i)
  | float {x : Binary64} (h : x.isFinite = true) : Moderate (.float x)
  | str (s : Text) : Moderate (.str s)
  | arr {items : List Json} (each : ∀ item ∈ items, Moderate item) : Moderate (.arr items)
  | obj {entries : List (Text × Json)} (each : ∀ entry ∈ entries, Moderate entry.2) :
      Moderate (.obj entries)

namespace Schema

open Json (Valid lookup? schemaWords)

variable {table : Table Schema}

-- ============================================================= definitions

/-- Definitions of regular models without dates, one at each place, with all the models in
their fields. -/
structure Complete (table : Table Schema) (definitions : List Definition) : Prop where
  regular : ∀ d ∈ definitions, Regular table (.model d.name d.fields)
  dateless : ∀ d ∈ definitions, ¬ (Schema.model d.name d.fields).UsesDate
  unique : ∀ d ∈ definitions, ∀ e ∈ definitions, d.origin = e.origin → d = e
  closed : ∀ d ∈ definitions, definitionsOfFields d.origin d.fields ⊆ definitions

/-- The models that the document of a regular model defines are complete. -/
theorem complete_innerModels {name : Text} {fields : List (Field Schema)}
    (regular : Regular table (.model name fields))
    (dateless : ¬ (Schema.model name fields).UsesDate) :
    Complete table (Schema.model name fields).innerModels := by
  have there : ∀ d ∈ (Schema.model name fields).innerModels,
      d ∈ definitionsAt .root (.model name fields) := by
    intro d mem
    rw [definitionsAt]
    exact List.mem_append_left _ ((mem_innerModels regular).1 mem)
  refine ⟨fun d mem => regular.of_mem (there d mem),
    fun d mem => not_usesDate_of_mem regular dateless (there d mem),
    fun d hd e he same => eq_of_origin_eq regular (there d hd) (there e he) same,
    fun d mem e inner => ?_⟩
  rw [mem_innerModels regular, mem_definitionsOfFields] at mem ⊢
  obtain ⟨f, here, mem⟩ := mem
  cases regular with
  | model _ each => exact ⟨f, here, definitionsOfFields_subset (each f here) mem inner⟩

/-- Models that share a name accept the same values. -/
def Sound (definitions : List Definition) (naming : Naming) : Prop :=
  ∀ d ∈ definitions, ∀ e ∈ definitions, naming d.origin = naming e.origin →
    ∀ v, v.Moderate →
      ((Schema.model d.name d.fields).Accepts v ↔ (Schema.model e.name e.fields).Accepts v)

/-- A reference leads to the document of a model that has its name. -/
def Resolves (definitions : List Definition) (naming : Naming)
    (resolve : Text → Option Json) : Prop :=
  ∀ d ∈ definitions, ∃ e ∈ definitions, naming e.origin = naming d.origin
    ∧ resolve (Json.definitionsPath ++ naming d.origin) = some (e.document naming)

-- ======================================================== small documents

section

variable {resolve : Text → Option Json} {v : Json}

/-- The document that says nothing. -/
theorem valid_nothing : Valid resolve (.obj []) v :=
  .obj (fun _ h => (nomatch h)) (fun _ h => (nomatch h)) (fun _ h => (nomatch h))
    (fun _ h => (nomatch h)) (fun _ _ _ _ h => (nomatch h)) (fun _ h => (nomatch h))
    (fun _ h => (nomatch h))

/-- A document that only names a type. -/
theorem valid_type {name : Text} :
    Valid resolve (.obj [("type", .str name)]) v ↔ Json.hasType name v = true := by
  rw [Json.valid_obj]
  constructor
  · exact fun h => h.1 name rfl
  · intro h
    refine ⟨?_, fun _ h => (nomatch h), fun _ h => (nomatch h), fun _ h => (nomatch h),
      fun _ _ _ _ h => (nomatch h), fun _ h => (nomatch h), fun _ h => (nomatch h)⟩
    rintro _ ⟨⟩
    exact h

/-- The document of any object. -/
theorem valid_object :
    Valid resolve (.obj [("type", .str "object"), ("additionalProperties", .bool true)]) v
      ↔ Json.hasType "object" v = true := by
  rw [Json.valid_obj]
  constructor
  · exact fun h => h.1 _ rfl
  · intro h
    refine ⟨?_, fun _ h => (nomatch h), fun _ h => (nomatch h), fun _ h => (nomatch h),
      fun _ _ _ _ h => (nomatch h), fun _ h => (nomatch h), ?_⟩
    · rintro _ ⟨⟩
      exact h
    · rintro _ ⟨⟩ members - member - -
      exact .anything member.2

/-- The document of a list. -/
theorem valid_array {item : Json} :
    Valid resolve (.obj [("type", .str "array"), ("items", item)]) v
      ↔ ∃ vs, v = .arr vs ∧ ∀ w ∈ vs, Valid resolve item w := by
  rw [Json.valid_obj]
  constructor
  · rintro ⟨type, -, -, items, -, -, -⟩
    obtain ⟨vs, rfl⟩ := Json.hasType_array.1 (type _ rfl)
    exact ⟨vs, rfl, items item rfl vs rfl⟩
  · rintro ⟨vs, rfl, each⟩
    refine ⟨?_, fun _ h => (nomatch h), fun _ h => (nomatch h), ?_,
      fun _ _ _ _ h => (nomatch h), fun _ h => (nomatch h), fun _ h => (nomatch h)⟩
    · rintro _ ⟨⟩
      rfl
    · rintro _ ⟨⟩ _ ⟨⟩
      exact each

/-- The document of a reference. -/
theorem valid_ref {ref : Text} :
    Valid resolve (.obj [("$ref", .str ref)]) v
      ↔ ∃ target, resolve ref = some target ∧ Valid resolve target v := by
  rw [Json.valid_obj]
  constructor
  · rintro ⟨-, resolved, valid, -⟩
    obtain ⟨target, found⟩ := Option.isSome_iff_exists.1 (resolved ref rfl)
    exact ⟨target, found, valid ref rfl target found⟩
  · rintro ⟨target, found, valid⟩
    refine ⟨fun _ h => (nomatch h), ?_, ?_, fun _ h => (nomatch h),
      fun _ _ _ _ h => (nomatch h), fun _ h => (nomatch h), fun _ h => (nomatch h)⟩
    · rintro _ ⟨⟩
      rw [found]
      rfl
    · rintro _ ⟨⟩ _ same
      cases found.symm.trans same
      exact valid

end

-- ================================================================ models

/-- An entry under another key is not found. -/
theorem lookup?_entryIf {key other : Text} (h : key ≠ other) (condition : Bool) (v : Json) :
    lookup? (entryIf condition key v) other = none := by
  rw [Json.lookup?_eq_none]
  unfold entryIf
  cases condition with
  | false => exact List.not_mem_nil
  | true => exact fun mem => h (List.mem_singleton.1 mem).symm

variable {definitions : List Definition} {naming : Naming} {resolve : Text → Option Json}

/-- The title and the default of a field say nothing about its values. -/
theorem valid_fieldDocument {o : Origin} {f : Field Schema} {v : Json} :
    Valid resolve (fieldDocument naming o f) v
      ↔ Valid resolve (.obj (entriesAt naming (o.field f.key) f.schema)) v := by
  have remarks : ∀ word ∈ schemaWords, "title".toList ≠ word ∧ "default".toList ≠ word := by
    decide +kernel
  refine Json.valid_iff_of_words fun word mem => ?_
  obtain ⟨title, default⟩ := remarks word mem
  rw [Json.lookup?_append, Json.lookup?_append, lookup?_entryIf title, lookup?_entryIf default,
    Option.or_none, Option.or_none]

/-- The documents of the fields of a model by their keys. -/
def fieldDocuments (naming : Naming) (o : Origin) (fields : List (Field Schema)) :
    List (Text × Json) :=
  fields.map fun f => (f.key, fieldDocument naming o f)

theorem fieldDocuments_keys (naming : Naming) (o : Origin) (fields : List (Field Schema)) :
    (fieldDocuments naming o fields).map (·.1) = fields.map (·.key) := by
  unfold fieldDocuments
  rw [List.map_map]
  rfl

/-- The keys that a model requires. -/
def requiredKeys (fields : List (Field Schema)) : List Json :=
  (fields.filter (·.required)).map fun f => .str f.key

theorem str_mem_requiredKeys {fields : List (Field Schema)} {key : Text} :
    .str key ∈ requiredKeys fields ↔ ∃ f ∈ fields, f.required = true ∧ f.key = key := by
  unfold requiredKeys
  rw [List.mem_map]
  simp only [List.mem_filter, Json.str.injEq, and_assoc]

section

variable {o : Origin} {name : Text} {fields : List (Field Schema)}

theorem propertiesOf_modelEntries :
    Json.propertiesOf (modelEntries naming o name fields) = fieldDocuments naming o fields :=
  rfl

/-- The words in the document of a model. -/
def modelWords : List Text := List.map String.toList
  ["type", "title", "additionalProperties", "properties", "required"]

/-- Nothing else stands in the document of a model. -/
theorem lookup?_modelEntries {key : Text} (h : key ∉ modelWords) :
    lookup? (modelEntries naming o name fields) key = none := by
  have parts : modelWords = List.map String.toList ["type", "title", "additionalProperties",
      "properties"] ++ ["required".toList] := rfl
  rw [parts, List.mem_append, not_or] at h
  unfold modelEntries
  rw [Json.lookup?_append, Option.or_eq_none_iff, Json.lookup?_eq_none]
  exact ⟨h.1, lookup?_entryIf (fun same => h.2 (List.mem_singleton.2 same.symm)) _ _⟩

/-- What is asked of the keys that a document requires is asked of those of the required
fields. -/
theorem required_modelEntries {p : Text → Prop} :
    (∀ list, lookup? (modelEntries naming o name fields) "required" = some list →
        ∀ keys, list = .arr keys → ∀ key, .str key ∈ keys → p key)
      ↔ ∀ f ∈ fields, f.required = true → p f.key := by
  have found : lookup? (modelEntries naming o name fields) "required"
      = if (requiredKeys fields).isEmpty then none else some (.arr (requiredKeys fields)) := by
    unfold modelEntries
    rw [Json.lookup?_append]
    show lookup? (entryIf (!(requiredKeys fields).isEmpty) "required" (.arr (requiredKeys fields)))
      "required" = _
    cases (requiredKeys fields).isEmpty <;> rfl
  rw [found]
  constructor
  · intro h f here required
    have mem : .str f.key ∈ requiredKeys fields := str_mem_requiredKeys.2 ⟨f, here, required, rfl⟩
    have some_there : ¬ (requiredKeys fields).isEmpty = true := by
      rw [List.isEmpty_iff]
      exact List.ne_nil_of_mem mem
    exact h _ (if_neg some_there) _ rfl f.key mem
  · intro h list same keys listed key mem
    split at same
    case isTrue => exact nomatch same
    case isFalse =>
      cases same
      cases listed
      obtain ⟨f, here, required, rfl⟩ := str_mem_requiredKeys.1 mem
      exact h f here required

end

/-- What the document of a model asks for: an object with no other keys than those of the fields,
with the keys of the required ones, and with a valid value under every key that is there. -/
theorem valid_modelEntries_iff {o : Origin} {name : Text} {fields : List (Field Schema)}
    (keys : (fields.map (·.key)).Nodup) {v : Json} :
    Valid resolve (.obj (modelEntries naming o name fields)) v ↔ ∃ members, v = .obj members
      ∧ (∀ member ∈ members, member.1 ∈ fields.map (·.key))
      ∧ ∀ f ∈ fields, (f.required = true → (lookup? members f.key).isSome = true)
        ∧ ∀ w, lookup? members f.key = some w → Valid resolve (fieldDocument naming o f) w := by
  rw [← fieldDocuments_keys naming o] at keys
  have no_ref : "$ref".toList ∉ modelWords := by decide +kernel
  have no_items : "items".toList ∉ modelWords := by decide +kernel
  -- three words of the document count: the properties, the required keys and that there are no
  -- others
  rw [Json.valid_obj, propertiesOf_modelEntries, lookup?_modelEntries no_ref,
    lookup?_modelEntries no_items]
  constructor
  · rintro ⟨type, -, -, -, properties, required, additional⟩
    obtain ⟨members, rfl⟩ := Json.hasType_object.1 (type _ rfl)
    have required := required_modelEntries.1 fun list found keys same key mem =>
      required list found keys same members rfl key mem
    refine ⟨members, rfl, fun member mem => ?_, fun f here => ⟨required f here, fun w found => ?_⟩⟩
    · by_contra unknown
      rw [← fieldDocuments_keys naming o, ← Json.lookup?_eq_none] at unknown
      exact nomatch additional _ rfl members rfl member mem unknown
    · have document := Json.lookup?_of_mem keys (List.mem_map.2 ⟨f, here, rfl⟩)
      exact properties members rfl _ _ document w found
  · rintro ⟨members, rfl, known, each⟩
    refine ⟨?_, fun _ h => (nomatch h), fun _ h => (nomatch h), fun _ h => (nomatch h), ?_, ?_, ?_⟩
    · rintro _ ⟨⟩
      rfl
    · rintro _ ⟨⟩ key document listed w found
      obtain ⟨f, here, same⟩ := List.mem_map.1 (Json.mem_of_lookup? listed)
      cases same
      exact (each f here).2 w found
    · intro list found keys same _ object key mem
      cases object
      exact (required_modelEntries (p := fun key => (lookup? members key).isSome = true)).2
        (fun f here => (each f here).1) list found keys same key mem
    · rintro _ ⟨⟩ _ ⟨⟩ member mem unknown
      rw [Json.lookup?_eq_none, fieldDocuments_keys] at unknown
      exact absurd (known member mem) unknown

/-- For every schema whose models are defined, the value is valid under the schema's
document exactly when the schema accepts it. -/
def Agrees (table : Table Schema) (definitions : List Definition) (naming : Naming)
    (resolve : Text → Option Json) (v : Json) : Prop :=
  ∀ o s, Regular table s → ¬ s.UsesDate → definitionsAt o s ⊆ definitions →
    (Valid resolve (.obj (entriesAt naming o s)) v ↔ s.Accepts v)

/-- The document of a model says what the model accepts, if the documents of its fields say
so of the parts of the value. -/
theorem valid_modelEntries {v : Json}
    (below : ∀ members, v = .obj members → ∀ member ∈ members,
      Agrees table definitions naming resolve member.2)
    {o : Origin} {name : Text} {fields : List (Field Schema)}
    (regular : Regular table (.model name fields))
    (dateless : ¬ (Schema.model name fields).UsesDate)
    (inside : definitionsOfFields o fields ⊆ definitions) :
    Valid resolve (.obj (modelEntries naming o name fields)) v
      ↔ (Schema.model name fields).Accepts v := by
  obtain ⟨keys, each⟩ : (fields.map (·.key)).Nodup ∧ ∀ f ∈ fields, Regular table f.schema := by
    cases regular with
    | model keys each => exact ⟨keys, each⟩
  rw [valid_modelEntries_iff keys, accepts_model]
  refine exists_congr fun members => and_congr_right fun object => and_congr_right fun _ =>
    forall₂_congr fun f here => ?_
  rw [fieldAccepts_iff]
  refine and_congr_right fun _ => forall₂_congr fun w found => ?_
  rw [valid_fieldDocument]
  refine below members object _ (Json.mem_of_lookup? found) _ _ (each f here)
    (fun used => dateless (.model here used)) fun d mem => inside ?_
  exact mem_definitionsOfFields.2 ⟨f, here, mem⟩

/-- Of values that fit into doubles, the type of numbers is what the check of numbers accepts. -/
theorem hasType_number_iff {v : Json} (moderate : v.Moderate) :
    Json.hasType "number" v = true ↔ (number {}).Accepts v := by
  refine Json.hasType_number.trans (Iff.trans ?_ accepts_number.symm)
  refine or_congr (exists_congr fun i => ?_) (exists_congr fun x => ?_)
  · refine ⟨fun same => ⟨same, ?_⟩, And.left⟩
    subst same
    cases moderate with
    | int h => exact Binary64.isFinite_ofInt h
  · refine ⟨fun same => ⟨same, ?_⟩, And.left⟩
    subst same
    cases moderate with
    | float h => exact h

/-- A reference to a model says what the model accepts: it leads to the document of a model that
has its name. -/
theorem valid_ref_model {v : Json} (complete : Complete table definitions)
    (sound : Sound definitions naming) (resolves : Resolves definitions naming resolve)
    (moderate : v.Moderate)
    (members : ∀ entries, v = .obj entries → ∀ member ∈ entries,
      Agrees table definitions naming resolve member.2)
    {d : Definition} (here : d ∈ definitions) :
    Valid resolve (.obj [("$ref", .str (Json.definitionsPath ++ naming d.origin))]) v
      ↔ (Schema.model d.name d.fields).Accepts v := by
  obtain ⟨e, there, same, found⟩ := resolves d here
  have document : Valid resolve (e.document naming) v ↔ (Schema.model e.name e.fields).Accepts v :=
    valid_modelEntries members (complete.regular e there) (complete.dateless e there)
      (complete.closed e there)
  refine valid_ref.trans (Iff.trans ?_ (sound d here e there same.symm v moderate).symm)
  rw [← document]
  constructor
  · rintro ⟨target, led, valid⟩
    cases found.symm.trans led
    exact valid
  · exact fun valid => ⟨_, found, valid⟩

/-- If the documents say of the parts of a value what the schemas accept, they say so of
the value. -/
theorem agrees_of_parts {v : Json} (complete : Complete table definitions)
    (sound : Sound definitions naming) (resolves : Resolves definitions naming resolve)
    (moderate : v.Moderate)
    (items : ∀ vs, v = .arr vs → ∀ w ∈ vs, Agrees table definitions naming resolve w)
    (members : ∀ entries, v = .obj entries → ∀ member ∈ entries,
      Agrees table definitions naming resolve member.2) :
    Agrees table definitions naming resolve v := by
  intro o s regular dateless inside
  induction regular generalizing o with
  | any => exact ⟨fun _ => accepts_any v, fun _ => valid_nothing⟩
  | string => exact valid_type.trans (Json.hasType_string.trans accepts_string.symm)
  | number => exact valid_type.trans (hasType_number_iff moderate)
  | boolean => exact valid_type.trans (Json.hasType_boolean.trans accepts_boolean.symm)
  | object => exact valid_object.trans (Json.hasType_object.trans accepts_object.symm)
  | date => exact absurd .date dateless
  | @list item regular _ =>
      rw [accepts_list]
      refine valid_array.trans (exists_congr fun vs => and_congr_right fun same => ?_)
      have free : Admits {} vs.length := ⟨fun _ h => (nomatch h), fun _ h => (nomatch h)⟩
      rw [and_iff_right free]
      refine forall₂_congr fun w mem => ?_
      exact items vs same w mem o item regular (fun used => dateless (.list used)) inside
  | reference _ _ ih => exact ih _ (fun used => dateless (.reference used)) inside
  | @model name fields keys each _ =>
      have here : (⟨o, name, fields⟩ : Definition) ∈ definitions :=
        inside (List.mem_append_right _ (List.mem_singleton_self _))
      exact valid_ref_model complete sound resolves moderate members here

/-- Under a sound naming, documents say what schemas accept. -/
theorem agrees (complete : Complete table definitions) (sound : Sound definitions naming)
    (resolves : Resolves definitions naming resolve) {v : Json} (moderate : v.Moderate) :
    Agrees table definitions naming resolve v := by
  have parts := fun (v : Json) (h : v.Moderate) => agrees_of_parts complete sound resolves h
  induction moderate with
  | null => exact parts _ .null (fun _ h => (nomatch h)) fun _ h => (nomatch h)
  | bool b => exact parts _ (.bool b) (fun _ h => (nomatch h)) fun _ h => (nomatch h)
  | int h => exact parts _ (.int h) (fun _ h => (nomatch h)) fun _ h => (nomatch h)
  | float h => exact parts _ (.float h) (fun _ h => (nomatch h)) fun _ h => (nomatch h)
  | str s => exact parts _ (.str s) (fun _ h => (nomatch h)) fun _ h => (nomatch h)
  | arr each ih =>
      refine parts _ (.arr each) ?_ fun _ h => (nomatch h)
      rintro _ ⟨⟩
      exact ih
  | obj each ih =>
      refine parts _ (.obj each) (fun _ h => (nomatch h)) ?_
      rintro _ ⟨⟩
      exact ih

/-- Under a sound naming, the document of a model whose inner models are defined says what
the model accepts. -/
theorem valid_model (complete : Complete table definitions) (sound : Sound definitions naming)
    (resolves : Resolves definitions naming resolve) {o : Origin} {name : Text}
    {fields : List (Field Schema)} (regular : Regular table (.model name fields))
    (dateless : ¬ (Schema.model name fields).UsesDate)
    (inside : definitionsOfFields o fields ⊆ definitions) {v : Json} (moderate : v.Moderate) :
    Valid resolve (.obj (modelEntries naming o name fields)) v
      ↔ (Schema.model name fields).Accepts v := by
  refine valid_modelEntries (fun members same member mem => ?_) regular dateless inside
  subst same
  cases moderate with
  | obj each => exact agrees complete sound resolves (each member mem)

end Schema

end TypeShape
