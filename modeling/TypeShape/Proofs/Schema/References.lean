/-
The references in the document of a model.

Each of them is the name of a model inside (`refers_of_mentions_document`), and under each of
these names the document has a definition: that of a model with the name (`resolves_document`).
Definitions are collected one after another, so when models share a name the last one's
document stands there.
-/
import TypeShape.Proofs.Schema.Meaning

namespace TypeShape

-- ============================================================== mentions

/-- The text stands somewhere in the value as the text under a `$ref`. -/
inductive Json.Mentions (ref : Text) : Json → Prop
  | here {entries : List (Text × Json)} (h : ("$ref".toList, .str ref) ∈ entries) :
      Mentions ref (.obj entries)
  | entry {entries : List (Text × Json)} {entry : Text × Json} (mem : entry ∈ entries)
      (h : Mentions ref entry.2) : Mentions ref (.obj entries)
  | item {items : List Json} {item : Json} (mem : item ∈ items) (h : Mentions ref item) :
      Mentions ref (.arr items)

namespace Json

variable {ref : Text}

/-- An entry that mentions a text, itself or inside. -/
def EntryMentions (ref : Text) (entry : Text × Json) : Prop :=
  entry = ("$ref".toList, .str ref) ∨ Mentions ref entry.2

theorem mentions_obj {entries : List (Text × Json)} :
    Mentions ref (.obj entries) ↔ ∃ entry ∈ entries, EntryMentions ref entry := by
  constructor
  · rintro (h | ⟨mem, h⟩)
    · exact ⟨_, h, .inl rfl⟩
    · exact ⟨_, mem, .inr h⟩
  · rintro ⟨entry, mem, rfl | h⟩
    · exact .here mem
    · exact .entry mem h

/-- A text mentions nothing, unless it stands under `$ref`. -/
theorem not_entryMentions_str {key s : Text} (h : key ≠ "$ref".toList) :
    ¬ EntryMentions ref (key, .str s) := by
  rintro (same | inside)
  · exact h (congrArg Prod.fst same)
  · exact nomatch inside

theorem not_entryMentions_bool {key : Text} {b : Bool} : ¬ EntryMentions ref (key, .bool b) := by
  rintro (same | inside)
  · exact nomatch congrArg Prod.snd same
  · exact nomatch inside

theorem entryMentions_obj {key : Text} {entries : List (Text × Json)} :
    EntryMentions ref (key, .obj entries) ↔ Mentions ref (.obj entries) := by
  constructor
  · rintro (same | inside)
    · exact nomatch congrArg Prod.snd same
    · exact inside
  · exact .inr

end Json

namespace Schema

open Json (Mentions EntryMentions lookup?)

variable {table : Table Schema} {naming : Naming} {ref : Text} {definitions : List Definition}

/-- The text is the reference to one of the definitions. -/
def Refers (definitions : List Definition) (naming : Naming) (ref : Text) : Prop :=
  ∃ d ∈ definitions, ref = Json.definitionsPath ++ naming d.origin

theorem not_entryMentions_type {name : String} : ¬ EntryMentions ref (typeEntry name) :=
  Json.not_entryMentions_str (show "type".toList ≠ "$ref".toList by decide)

/-- A document with a type and one more entry mentions what that entry mentions. -/
theorem entryMentions_of_typed {name : String} {entry : Text × Json}
    (h : Mentions ref (.obj [typeEntry name, entry])) : EntryMentions ref entry := by
  obtain ⟨found, mem, h⟩ := Json.mentions_obj.1 h
  rcases List.mem_cons.1 mem with rfl | mem
  · exact absurd h not_entryMentions_type
  · rwa [← List.mem_singleton.1 mem]

/-- The document of a schema mentions the models in the schema. -/
theorem refers_of_mentions_entriesAt {s : Schema} (regular : Regular table s) {o : Origin}
    (inside : definitionsAt o s ⊆ definitions)
    (h : Mentions ref (.obj (entriesAt naming o s))) : Refers definitions naming ref := by
  induction regular generalizing o with
  | reference _ _ ih => exact ih inside h
  | @list item _ ih => exact ih inside (Json.entryMentions_obj.1 (entryMentions_of_typed h))
  | @model name fields _ _ _ =>
      refine ⟨⟨o, name, fields⟩, inside (List.mem_append_right _ (List.mem_singleton_self _)), ?_⟩
      obtain ⟨entry, mem, h⟩ := Json.mentions_obj.1 h
      obtain rfl := List.mem_singleton.1 mem
      rcases h with same | h
      · exact (Json.str.inj (congrArg Prod.snd same)).symm
      · exact nomatch h
  | any =>
      obtain ⟨entry, mem, h⟩ := Json.mentions_obj.1 h
      exact nomatch mem
  | object => exact absurd (entryMentions_of_typed h) Json.not_entryMentions_bool
  | date =>
      have other : "format".toList ≠ "$ref".toList := by decide
      exact absurd (entryMentions_of_typed h) (Json.not_entryMentions_str other)
  | _ =>
      obtain ⟨entry, mem, h⟩ := Json.mentions_obj.1 h
      obtain rfl := List.mem_singleton.1 mem
      exact absurd h not_entryMentions_type

/-- A remark that is there under a condition is one of the entries only then. -/
theorem mem_entryIf {condition : Bool} {key : Text} {v : Json} {entry : Text × Json} :
    entry ∈ entryIf condition key v ↔ condition = true ∧ entry = (key, v) := by
  unfold entryIf
  cases condition <;> simp

/-- The document of a field mentions what that of its schema does. -/
theorem refers_of_mentions_fieldDocument {f : Field Schema} (regular : Regular table f.schema)
    {o : Origin} (inside : definitionsAt (o.field f.key) f.schema ⊆ definitions)
    (h : Mentions ref (fieldDocument naming o f)) : Refers definitions naming ref := by
  have title : "title".toList ≠ "$ref".toList := by decide
  obtain ⟨entry, mem, h⟩ := Json.mentions_obj.1 h
  rw [List.mem_append, List.mem_append, mem_entryIf, mem_entryIf] at mem
  rcases mem with (mem | ⟨-, rfl⟩) | ⟨-, rfl⟩
  · exact refers_of_mentions_entriesAt regular inside (Json.mentions_obj.2 ⟨entry, mem, h⟩)
  · exact absurd h (Json.not_entryMentions_str title)
  · rcases h with same | h
    · exact nomatch congrArg Prod.snd same
    · exact nomatch h

/-- The document of a model mentions the models in its fields. -/
theorem refers_of_mentions_modelEntries {o : Origin} {name : Text} {fields : List (Field Schema)}
    (regular : Regular table (.model name fields))
    (inside : definitionsOfFields o fields ⊆ definitions)
    (h : Mentions ref (.obj (modelEntries naming o name fields))) :
    Refers definitions naming ref := by
  have title : "title".toList ≠ "$ref".toList := by decide
  obtain ⟨entry, mem, h⟩ := Json.mentions_obj.1 h
  unfold modelEntries at mem
  simp only [List.mem_append, List.mem_cons, List.not_mem_nil, or_false, mem_entryIf] at mem
  rcases mem with (rfl | rfl | rfl | rfl) | ⟨-, rfl⟩
  · exact absurd h not_entryMentions_type
  · exact absurd h (Json.not_entryMentions_str title)
  · exact absurd h Json.not_entryMentions_bool
  · obtain ⟨property, mem, h⟩ := Json.mentions_obj.1 (Json.entryMentions_obj.1 h)
    obtain ⟨f, here, rfl⟩ := List.mem_map.1 mem
    have each : Regular table f.schema := by
      cases regular with
      | model _ each => exact each f here
    refine refers_of_mentions_fieldDocument each (fun d mem => ?_) (Json.entryMentions_obj.1 h)
    exact inside (mem_definitionsOfFields.2 ⟨f, here, mem⟩)
  · rcases h with same | h
    · exact nomatch congrArg Prod.snd same
    · -- the required keys are texts
      cases h with
      | item mem h =>
          obtain ⟨f, -, rfl⟩ := List.mem_map.1 mem
          exact nomatch h

-- =========================================================== definitions

theorem documentsBy_concat (definitions : List Definition) (naming : Naming) (d : Definition) :
    documentsBy (definitions ++ [d]) naming
      = Json.insert (naming d.origin) (d.document naming) (documentsBy definitions naming) := by
  unfold documentsBy
  rw [List.foldl_append]
  rfl

/-- The document under a name is that of a model with the name. -/
theorem lookup?_documentsBy (naming : Naming) {d : Definition} (h : d ∈ definitions) :
    ∃ e ∈ definitions, naming e.origin = naming d.origin
      ∧ lookup? (documentsBy definitions naming) (naming d.origin) = some (e.document naming) := by
  induction definitions using List.reverseRecOn with
  | nil => exact nomatch h
  | append_singleton front last ih =>
      rw [documentsBy_concat, Json.lookup?_insert]
      split
      case isTrue same =>
        exact ⟨last, List.mem_append_right _ (List.mem_singleton_self last), same, rfl⟩
      case isFalse other =>
        rcases List.mem_append.1 h with mem | here
        · obtain ⟨e, there, same, found⟩ := ih mem
          exact ⟨e, List.mem_append_left _ there, same, found⟩
        · cases List.mem_singleton.1 here
          exact absurd rfl other

/-- After an insertion there is nothing else than before, but for the entry. -/
theorem mem_insert {key : Text} {v : Json} {entries : List (Text × Json)} {entry : Text × Json}
    (h : entry ∈ Json.insert key v entries) : entry = (key, v) ∨ entry ∈ entries := by
  induction entries with
  | nil => exact .inl (List.mem_singleton.1 h)
  | cons first rest ih =>
      obtain ⟨k, w⟩ := first
      rw [Json.insert] at h
      split at h
      case isTrue here =>
        obtain rfl : k = key := eq_of_beq here
        exact (List.mem_cons.1 h).imp_right (List.mem_cons_of_mem _)
      case isFalse =>
        rcases List.mem_cons.1 h with rfl | mem
        · exact .inr (List.mem_cons_self ..)
        · exact (ih mem).imp_right (List.mem_cons_of_mem _)

/-- Every document that is collected is that of a model. -/
theorem document_of_mem_documentsBy {entry : Text × Json}
    (h : entry ∈ documentsBy definitions naming) :
    ∃ d ∈ definitions, entry.2 = d.document naming := by
  induction definitions using List.reverseRecOn with
  | nil => exact nomatch h
  | append_singleton front last ih =>
      rw [documentsBy_concat] at h
      rcases mem_insert h with rfl | mem
      · exact ⟨last, List.mem_append_right _ (List.mem_singleton_self last), rfl⟩
      · obtain ⟨d, there, same⟩ := ih mem
        exact ⟨d, List.mem_append_left _ there, same⟩

-- ============================================================= documents

section

variable (name : Text) (fields : List (Field Schema))

/-- The document of a model: its own entries and the definitions. -/
theorem document_model :
    (Schema.model name fields).document =
      let definitions := (Schema.model name fields).innerModels
      let defs := documentsBy definitions (finalNaming definitions)
      .obj (modelEntries (finalNaming definitions) .root name fields
        ++ entryIf (!defs.isEmpty) "$defs" (.obj defs)) :=
  rfl

/-- The definitions that a document adds say nothing by themselves. -/
theorem valid_document {resolve : Text → Option Json} {v : Json} :
    Json.Valid resolve (Schema.model name fields).document v
      ↔ Json.Valid resolve (.obj (modelEntries (finalNaming (Schema.model name fields).innerModels)
          .root name fields)) v := by
  have remark : ∀ word ∈ Json.schemaWords, "$defs".toList ≠ word := by decide +kernel
  rw [document_model]
  refine Json.valid_iff_of_words fun word mem => ?_
  rw [Json.lookup?_append, lookup?_entryIf (remark word mem), Option.or_none]

/-- Every reference to a model inside leads to the document of a model with its name. -/
theorem resolves_document :
    Resolves (Schema.model name fields).innerModels
      (finalNaming (Schema.model name fields).innerModels)
      (Schema.model name fields).document.definition? := by
  intro d mem
  obtain ⟨e, there, same, found⟩ :=
    lookup?_documentsBy (finalNaming (Schema.model name fields).innerModels) mem
  refine ⟨e, there, same, ?_⟩
  have no_defs : "$defs".toList ∉ modelWords := by decide +kernel
  have some_there : (documentsBy (Schema.model name fields).innerModels
      (finalNaming (Schema.model name fields).innerModels)).isEmpty = false := by
    rw [List.isEmpty_eq_false_iff]
    exact List.ne_nil_of_mem (Json.mem_of_lookup? found)
  rw [document_model]
  refine (Json.definition?_of_defs ?_ _).trans found
  rw [Json.lookup?_append, lookup?_modelEntries no_defs, some_there]
  rfl

end

/-- What the document of a model mentions are references to the models inside. -/
theorem refers_of_mentions_document {name : Text} {fields : List (Field Schema)}
    (regular : Regular table (.model name fields))
    (complete : Complete table (Schema.model name fields).innerModels)
    (h : Mentions ref (Schema.model name fields).document) :
    Refers (Schema.model name fields).innerModels
      (finalNaming (Schema.model name fields).innerModels) ref := by
  have inside : definitionsOfFields .root fields ⊆ (Schema.model name fields).innerModels :=
    fun d mem => (mem_innerModels regular).2 mem
  rw [document_model] at h
  obtain ⟨entry, mem, h⟩ := Json.mentions_obj.1 h
  rw [List.mem_append, mem_entryIf] at mem
  rcases mem with mem | ⟨-, rfl⟩
  · exact refers_of_mentions_modelEntries regular inside (Json.mentions_obj.2 ⟨entry, mem, h⟩)
  · obtain ⟨definition, mem, h⟩ := Json.mentions_obj.1 (Json.entryMentions_obj.1 h)
    obtain ⟨d, there, same⟩ := document_of_mem_documentsBy mem
    refine refers_of_mentions_modelEntries (complete.regular d there) (complete.closed d there) ?_
    rcases h with here | h
    · exact nomatch same.symm.trans (congrArg Prod.snd here)
    · rw [same] at h
      exact h

end Schema

end TypeShape
