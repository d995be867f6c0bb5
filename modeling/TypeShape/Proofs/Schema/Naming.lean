/-
The names of definitions never mix up models that accept different values.

A definition takes the first of its names that is free: all definitions that may take it
have the same document under the naming before. Where nothing is free it takes its own
name, which nobody else has since the other names have no colon (`ownName_injective`).

So naming starts from a sound one, by own names, and each comparison makes a sound naming
of a sound one (`Sound.nameAmong`): like documents say the same, and under a sound naming
the document of a model says what the model accepts.
-/
import TypeShape.Proofs.Json.Numbers
import TypeShape.Proofs.Schema.Meaning

namespace TypeShape.Schema

open Json (Exact Valid)

variable {table : Table Schema} {definitions : List Definition} {d e : Definition}

-- =============================================================== numbers

/-- The place after all that do not have an origin is that of the first that has it. -/
theorem getElem?_takeWhile_origin {l : List Definition} {o : Origin} (h : ∃ x ∈ l, x.origin = o) :
    (l[(l.takeWhile (·.origin != o)).length]?).map (·.origin) = some o := by
  induction l with
  | nil =>
      obtain ⟨x, mem, -⟩ := h
      exact nomatch mem
  | cons first rest ih =>
      rw [List.takeWhile_cons]
      cases Decidable.em (first.origin = o) with
      | inl same =>
          have stop : (first.origin != o) = false := by simpa using same
          rw [stop]
          exact congrArg some same
      | inr other =>
          have pass : (first.origin != o) = true := by simpa using other
          rw [pass]
          refine ih ?_
          obtain ⟨x, mem, same⟩ := h
          rcases List.mem_cons.1 mem with rfl | mem
          · exact absurd same other
          · exact ⟨x, mem, same⟩

/-- Definitions of one reference name have different numbers. -/
theorem origin_eq_of_numberOf (hd : d ∈ definitions) (he : e ∈ definitions)
    (name : referenceName d.name = referenceName e.name)
    (number : numberOf definitions d = numberOf definitions e) : d.origin = e.origin := by
  unfold numberOf at number
  dsimp only at number
  rw [name] at number
  have same := Nat.succ.inj number
  have listed : ∀ x ∈ definitions, referenceName x.name = referenceName e.name →
      x ∈ definitions.filter fun x => referenceName x.name == referenceName e.name :=
    fun x here same => List.mem_filter.2 ⟨here, beq_iff_eq.2 same⟩
  have left := getElem?_takeWhile_origin ⟨d, listed d hd name, rfl⟩
  have right := getElem?_takeWhile_origin ⟨e, listed e he rfl, rfl⟩
  rw [same] at left
  exact Option.some.inj (left.symm.trans right)

theorem toDigits_injective {m n : Nat} (h : Nat.toDigits 10 m = Nat.toDigits 10 n) : m = n := by
  rw [← Json.digitsValue_toDigits m, h, Json.digitsValue_toDigits]

-- ================================================================= colons

theorem colon_notMem_referenceName (name : Text) : ':' ∉ referenceName name := by
  unfold referenceName
  intro mem
  obtain ⟨c, -, same⟩ := List.mem_map.1 mem
  split at same
  case isTrue kept =>
    subst same
    exact absurd kept (by decide)
  case isFalse => exact absurd same (by decide)

theorem colon_notMem_toDigits (n : Nat) : ':' ∉ Nat.toDigits 10 n := by
  intro mem
  have digit := Nat.isDigit_of_mem_toDigits (b := 10) (by omega) (by omega) mem
  exact absurd digit (by decide)

theorem colon_notMem_qualifier : ':' ∉ qualifier := by
  decide +kernel

/-- No name to choose from has a colon. -/
theorem colon_notMem_choices {name : Text} (h : name ∈ choices definitions d) : ':' ∉ name := by
  have short := colon_notMem_referenceName d.name
  have number := colon_notMem_toDigits (numberOf definitions d)
  have long := colon_notMem_qualifier
  have input : ':' ∉ "-Input".toList := by decide
  have mark : ':' ∉ "__".toList := by decide
  unfold choices at h
  simp only [List.mem_cons, List.not_mem_nil, or_false] at h
  have append : ∀ {t u : Text}, ':' ∉ t → ':' ∉ u → ':' ∉ t ++ u :=
    fun ht hu mem => (List.mem_append.1 mem).elim ht hu
  rcases h with rfl | rfl | rfl | rfl | rfl | rfl
  · exact short
  · exact append short input
  · exact append long short
  · exact append (append long short) input
  · exact append (append (append long short) mark) number
  · exact append (append (append (append long short) input) mark) number

theorem ownName_notMem_choices : ownName definitions d ∉ choices definitions e := by
  intro mem
  refine colon_notMem_choices mem ?_
  unfold ownName
  exact List.mem_append_right _ (List.mem_cons_self ..)

/-- Nobody else has the own name of a definition. -/
theorem ownName_injective (hd : d ∈ definitions) (he : e ∈ definitions)
    (h : ownName definitions d = ownName definitions e) : d.origin = e.origin := by
  unfold ownName at h
  rw [List.append_cons_inj_of_notMem] at h
  · obtain ⟨front, -, number⟩ := h
    exact origin_eq_of_numberOf hd he (List.append_cancel_left front) (toDigits_injective number)
  · rw [List.mem_append, not_or]
    exact ⟨colon_notMem_qualifier, colon_notMem_referenceName _⟩
  · exact colon_notMem_toDigits _

-- ======================================================= exact documents

/-- The words of the document of a schema come once each, are no remarks, and stand for
values without floating-point numbers. -/
theorem exact_entriesAt {naming : Naming} {o : Origin} {s : Schema} (h : Regular table s) :
    ((entriesAt naming o s).map (·.1)).Nodup
      ∧ ∀ entry ∈ entriesAt naming o s,
        entry.1 ≠ "title".toList ∧ entry.1 ≠ "default".toList ∧ Exact entry.2 := by
  have type : ∀ name : String, (typeEntry name).1 ≠ "title".toList
      ∧ (typeEntry name).1 ≠ "default".toList ∧ Exact (typeEntry name).2 :=
    fun name => ⟨by show "type".toList ≠ _; decide, by show "type".toList ≠ _; decide, .str _⟩
  have alone : ∀ key : Text, [key].Nodup := List.nodup_singleton
  -- the document of a model is elsewhere, and what stands for it here is the reference alone
  induction h generalizing o with
  | any => exact ⟨.nil, fun _ h => (nomatch h)⟩
  | string => exact ⟨alone _, List.forall_mem_singleton.2 (type _)⟩
  | number => exact ⟨alone _, List.forall_mem_singleton.2 (type _)⟩
  | boolean => exact ⟨alone _, List.forall_mem_singleton.2 (type _)⟩
  | object =>
      have keys : (["type", "additionalProperties"] : List Text).Nodup := by decide
      refine ⟨keys, ?_⟩
      rw [entriesAt, List.forall_mem_cons, List.forall_mem_singleton]
      exact ⟨type _, by decide, by decide, .bool true⟩
  | date =>
      have keys : (["type", "format"] : List Text).Nodup := by decide
      refine ⟨keys, ?_⟩
      rw [entriesAt, List.forall_mem_cons, List.forall_mem_singleton]
      exact ⟨type _, by decide, by decide, .str _⟩
  | @list item _ ih =>
      have keys : (["type", "items"] : List Text).Nodup := by decide
      refine ⟨keys, ?_⟩
      show ∀ entry ∈ [typeEntry "array", ("items".toList, .obj (entriesAt naming o item))],
        entry.1 ≠ "title".toList ∧ entry.1 ≠ "default".toList ∧ Exact entry.2
      rw [List.forall_mem_cons, List.forall_mem_singleton]
      refine ⟨type _, by show "items".toList ≠ _; decide, by show "items".toList ≠ _; decide, ?_⟩
      exact .obj ih.1 fun entry mem => (ih.2 entry mem).2.2
  | model _ _ _ =>
      refine ⟨alone _, List.forall_mem_singleton.2 ?_⟩
      exact ⟨by show "$ref".toList ≠ _; decide, by show "$ref".toList ≠ _; decide, .str _⟩
  | reference _ _ ih => exact ih

/-- Another remark leaves the words distinct and the values exact. -/
theorem exact_append_entryIf {entries : List (Text × Json)} {key : Text} {v : Json}
    (keys : (entries.map (·.1)).Nodup) (each : ∀ entry ∈ entries, Exact entry.2)
    (new : key ∉ entries.map (·.1)) (condition : Bool) (exact_v : Exact v) :
    ((entries ++ entryIf condition key v).map (·.1)).Nodup
      ∧ ∀ entry ∈ entries ++ entryIf condition key v, Exact entry.2 := by
  cases condition with
  | false =>
      have nothing : entries ++ entryIf false key v = entries := List.append_nil entries
      rw [nothing]
      exact ⟨keys, each⟩
  | true =>
      have distinct : ((entries ++ [(key, v)] : List (Text × Json)).map (·.1)).Nodup := by
        rw [List.map_append, List.nodup_append]
        refine ⟨keys, List.nodup_singleton key, ?_⟩
        rintro k mem last there rfl
        obtain rfl : k = key := List.mem_singleton.1 there
        exact new mem
      refine ⟨distinct, ?_⟩
      show ∀ entry ∈ (entries ++ [(key, v)] : List (Text × Json)), Exact entry.2
      rw [List.forall_mem_append, List.forall_mem_singleton]
      exact ⟨each, exact_v⟩

/-- The document of a field has no floating-point numbers. -/
theorem exact_fieldDocument {naming : Naming} {o : Origin} {f : Field Schema}
    (h : Regular table f.schema) : Exact (fieldDocument naming o f) := by
  have document : ((entriesAt naming (o.field f.key) f.schema).map (·.1)).Nodup ∧ _ :=
    exact_entriesAt h
  obtain ⟨keys, each⟩ := document
  have remark : ∀ key : Text, (∀ entry ∈ entriesAt naming (o.field f.key) f.schema, entry.1 ≠ key) →
      key ∉ (entriesAt naming (o.field f.key) f.schema).map (·.1) := by
    intro key other mem
    obtain ⟨entry, here, same⟩ := List.mem_map.1 mem
    exact other entry here same
  obtain ⟨keys', each'⟩ := exact_append_entryIf keys (fun entry mem => (each entry mem).2.2)
    (remark "title" fun entry mem => (each entry mem).1) (!f.schema.isModel)
    (.str (titleOfKey f.key))
  have new : "default".toList ∉ ((entriesAt naming (o.field f.key) f.schema
      ++ entryIf (!f.schema.isModel) "title" (.str (titleOfKey f.key))).map (·.1)) := by
    rw [List.map_append, List.mem_append, not_or]
    refine ⟨remark "default" fun entry mem => (each entry mem).2.1, ?_⟩
    cases !f.schema.isModel with
    | false => exact List.not_mem_nil
    | true =>
        have other : "default".toList ≠ "title".toList := by decide
        exact fun mem => other (List.mem_singleton.1 mem)
  obtain ⟨keys'', each''⟩ := exact_append_entryIf keys' each' new (!f.required) .null
  exact .obj keys'' each''

/-- The entries that every document of a model has. -/
def front (naming : Naming) (o : Origin) (name : Text) (fields : List (Field Schema)) :
    List (Text × Json) :=
  [typeEntry "object", ("title", .str name), ("additionalProperties", .bool false),
    ("properties", .obj (fieldDocuments naming o fields))]

/-- The document of a model is exact. -/
theorem exact_document {naming : Naming} (h : Regular table (.model d.name d.fields)) :
    Exact (d.document naming) := by
  obtain ⟨distinct, each⟩ : (d.fields.map (·.key)).Nodup ∧ ∀ f ∈ d.fields, Regular table f.schema := by
    cases h with
    | model keys each => exact ⟨keys, each⟩
  have properties : Exact (.obj (fieldDocuments naming d.origin d.fields)) := by
    refine .obj (by rwa [fieldDocuments_keys]) fun entry mem => ?_
    obtain ⟨f, here, rfl⟩ := List.mem_map.1 mem
    exact exact_fieldDocument (each f here)
  have words : ((front naming d.origin d.name d.fields).map (·.1)).Nodup := by
    show (["type", "title", "additionalProperties", "properties"] : List Text).Nodup
    decide +kernel
  have new : "required".toList ∉ (front naming d.origin d.name d.fields).map (·.1) := by
    show "required".toList ∉ (["type", "title", "additionalProperties", "properties"] : List Text)
    decide +kernel
  have required : Exact (.arr (requiredKeys d.fields)) := by
    refine .arr fun item mem => ?_
    obtain ⟨f, -, rfl⟩ := List.mem_map.1 mem
    exact .str _
  have values : ∀ entry ∈ front naming d.origin d.name d.fields, Exact entry.2 := by
    unfold front
    simp only [List.forall_mem_cons]
    exact ⟨.str _, .str _, .bool _, properties, fun _ h => (nomatch h)⟩
  obtain ⟨keys, all⟩ :=
    exact_append_entryIf words values new (!(requiredKeys d.fields).isEmpty) required
  exact .obj keys all

-- =============================================================== soundness

/-- The naming by places gives a definition its name. -/
theorem namingBy_of_mem (unique : ∀ d ∈ definitions, ∀ e ∈ definitions, d.origin = e.origin → d = e)
    (nameOf : Definition → Text) (hd : d ∈ definitions) :
    namingBy definitions nameOf d.origin = nameOf d := by
  unfold namingBy
  cases found : definitions.find? (·.origin == d.origin) with
  | none =>
      rw [List.find?_eq_none] at found
      exact absurd (beq_self_eq_true d.origin) (found d hd)
  | some e =>
      have same := List.find?_some found
      rw [unique e (List.mem_of_find?_eq_some found) d hd (eq_of_beq same)]
      rfl

/-- References by a naming lead to the first definition that has the name. -/
def resolveBy (definitions : List Definition) (naming : Naming) (ref : Text) : Option Json :=
  (definitions.find? fun d => Json.definitionsPath ++ naming d.origin == ref).map
    (·.document naming)

/-- Looking a reference up finds the definition of its name. -/
theorem resolves_resolveBy (definitions : List Definition) (naming : Naming) :
    Resolves definitions naming (resolveBy definitions naming) := by
  intro d hd
  unfold resolveBy
  cases found : definitions.find? fun e =>
      Json.definitionsPath ++ naming e.origin == Json.definitionsPath ++ naming d.origin with
  | none =>
      rw [List.find?_eq_none] at found
      exact absurd (beq_self_eq_true _) (found d hd)
  | some e =>
      have same := List.find?_some found
      have name := List.append_cancel_left (eq_of_beq same)
      exact ⟨e, List.mem_of_find?_eq_some found, name, rfl⟩

/-- Models with like documents under a sound naming accept the same values. -/
theorem accepts_iff_of_alike (complete : Complete table definitions) {naming : Naming}
    (sound : Sound definitions naming) (hd : d ∈ definitions) (he : e ∈ definitions)
    (like : Json.alike (d.document naming) (e.document naming) = true) {v : Json}
    (moderate : v.Moderate) :
    (Schema.model d.name d.fields).Accepts v ↔ (Schema.model e.name e.fields).Accepts v := by
  have resolves := resolves_resolveBy definitions naming
  have means : ∀ f ∈ definitions, (Valid (resolveBy definitions naming) (f.document naming) v
      ↔ (Schema.model f.name f.fields).Accepts v) :=
    fun f hf => valid_model complete sound resolves (complete.regular f hf)
      (complete.dateless f hf) (complete.closed f hf) moderate
  rw [← means d hd, ← means e he]
  exact Json.settled_of_exact (exact_document (complete.regular d hd)) _ like v

/-- Own names are sound. -/
theorem sound_ownName (complete : Complete table definitions) :
    Sound definitions (namingBy definitions (ownName definitions)) := by
  intro d hd e he same v _
  rw [namingBy_of_mem complete.unique _ hd, namingBy_of_mem complete.unique _ he] at same
  rw [complete.unique d hd e he (ownName_injective hd he same)]

/-- Comparing documents under a sound naming gives a sound naming. -/
theorem Sound.nameAmong (complete : Complete table definitions) {naming : Naming}
    (sound : Sound definitions naming) :
    Sound definitions (namingBy definitions (nameAmong definitions naming)) := by
  intro d hd e he same v moderate
  rw [namingBy_of_mem complete.unique _ hd, namingBy_of_mem complete.unique _ he] at same
  unfold Schema.nameAmong at same
  cases chosen : (choices definitions d).find? (isFree definitions naming d) with
  | none =>
      cases chosen' : (choices definitions e).find? (isFree definitions naming e) with
      | none =>
          rw [chosen, chosen'] at same
          rw [complete.unique d hd e he (ownName_injective hd he same)]
      | some name =>
          rw [chosen, chosen'] at same
          obtain rfl : ownName definitions d = name := same
          exact absurd (List.mem_of_find?_eq_some chosen') ownName_notMem_choices
  | some name =>
      cases chosen' : (choices definitions e).find? (isFree definitions naming e) with
      | none =>
          rw [chosen, chosen'] at same
          obtain rfl : name = ownName definitions e := same
          exact absurd (List.mem_of_find?_eq_some chosen) ownName_notMem_choices
      | some other =>
          rw [chosen, chosen'] at same
          obtain rfl : name = other := same
          -- the other one may take the name too, so it has the same document
          have there := List.mem_of_find?_eq_some chosen'
          have free := List.find?_some chosen
          have like := List.all_eq_true.1 free e he
          rw [List.elem_eq_true_of_mem there] at like
          exact (accepts_iff_of_alike complete sound he hd like moderate).symm

/-- The names of a document are sound. -/
theorem sound_finalNaming (complete : Complete table definitions) :
    Sound definitions (finalNaming definitions) :=
  .nameAmong complete (.nameAmong complete (sound_ownName complete))

end TypeShape.Schema
