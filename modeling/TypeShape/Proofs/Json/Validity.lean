/-
What a JSON Schema document says about a value.

Read are the words that decide over values here: `type`, `properties`, `required`,
`additionalProperties`, `items` and `$ref`. Every other word is a remark. What a reference
leads to is left open at first, so that documents can be compared before the definitions
they refer to have their final names; a document that stands for itself looks for them
under its own `$defs` (`Satisfies`).

Two documents that differ only in the order of entries say the same (`settled_of_exact`). That
rests on the keys of the first: when they are distinct, as many entries and a like one for
each of them leave no room for others.
-/
import Mathlib.Algebra.Group.Nat.Defs
import Mathlib.Data.List.Perm.Subperm
import TypeShape.Proofs.Json.RoundTrip
import TypeShape.Proofs.Lookup

namespace TypeShape

/-- Whether a floating-point number is a whole one. -/
def Binary64.isWhole : Binary64 → Bool
  | .finite _ mantissa exponent => mantissa % 2 ^ (-exponent).toNat == 0
  | _ => false

namespace Json

-- ================================================================ meaning

/-- Whether a value is of a type by its name. -/
def hasType (name : Text) : Json → Bool
  | .null => name = "null"
  | .bool _ => name = "boolean"
  | .int _ => name = "integer" ∨ name = "number"
  | .float x => name = "number" ∨ name = "integer" ∧ x.isWhole
  | .str _ => name = "string"
  | .arr _ => name = "array"
  | .obj _ => name = "object"

theorem hasType_string {v : Json} : hasType "string" v = true ↔ ∃ s, v = .str s := by
  cases v <;> simp [hasType]

theorem hasType_number {v : Json} :
    hasType "number" v = true ↔ (∃ i, v = .int i) ∨ ∃ x, v = .float x := by
  cases v <;> simp [hasType]

theorem hasType_boolean {v : Json} : hasType "boolean" v = true ↔ ∃ b, v = .bool b := by
  cases v <;> simp [hasType]

theorem hasType_array {v : Json} : hasType "array" v = true ↔ ∃ vs, v = .arr vs := by
  cases v <;> simp [hasType]

theorem hasType_object {v : Json} : hasType "object" v = true ↔ ∃ es, v = .obj es := by
  cases v <;> simp [hasType]

/-- The documents of the properties that a document tells of. -/
def propertiesOf (entries : List (Text × Json)) : List (Text × Json) :=
  match lookup? entries "properties" with
  | some (.obj properties) => properties
  | _ => []

/-- The value is valid under a document whose references are resolved in the given way. -/
inductive Valid (resolve : Text → Option Json) : Json → Json → Prop
  | anything (v : Json) : Valid resolve (.bool true) v
  | obj {entries : List (Text × Json)} {v : Json}
      (type : ∀ name, lookup? entries "type" = some (.str name) → hasType name v = true)
      (resolved : ∀ ref, lookup? entries "$ref" = some (.str ref) → (resolve ref).isSome = true)
      (ref : ∀ ref, lookup? entries "$ref" = some (.str ref) →
        ∀ target, resolve ref = some target → Valid resolve target v)
      (items : ∀ item, lookup? entries "items" = some item →
        ∀ vs, v = .arr vs → ∀ w ∈ vs, Valid resolve item w)
      (properties : ∀ members, v = .obj members → ∀ key document,
        lookup? (propertiesOf entries) key = some document →
          ∀ w, lookup? members key = some w → Valid resolve document w)
      (required : ∀ list, lookup? entries "required" = some list → ∀ keys, list = .arr keys →
        ∀ members, v = .obj members → ∀ key, .str key ∈ keys →
          (lookup? members key).isSome = true)
      (additional : ∀ rest, lookup? entries "additionalProperties" = some rest →
        ∀ members, v = .obj members → ∀ member ∈ members,
          lookup? (propertiesOf entries) member.1 = none → Valid resolve rest member.2) :
      Valid resolve (.obj entries) v

/-- The place of definitions in a document. -/
def definitionsPath : Text := "#/$defs/"

/-- The definition of a document that a reference leads to. -/
def definition? (document : Json) (ref : Text) : Option Json :=
  match document with
  | .obj entries =>
    match lookup? entries "$defs", definitionsPath.isPrefixOf ref with
    | some (.obj definitions), true => lookup? definitions (ref.drop definitionsPath.length)
    | _, _ => none
  | _ => none

/-- A reference leads to what stands under its name. -/
theorem definition?_of_defs {entries definitions : List (Text × Json)}
    (h : lookup? entries "$defs" = some (.obj definitions)) (name : Text) :
    definition? (.obj entries) (definitionsPath ++ name) = lookup? definitions name := by
  have path : definitionsPath.isPrefixOf (definitionsPath ++ name) = true :=
    List.isPrefixOf_iff_prefix.2 (List.prefix_append ..)
  unfold definition?
  dsimp only
  rw [h, path, List.drop_left]

/-- The value satisfies the document. -/
def Satisfies (document v : Json) : Prop :=
  Valid document.definition? document v

/-- The words are all that a document says. -/
theorem valid_obj {resolve : Text → Option Json} {entries : List (Text × Json)} {v : Json} :
    Valid resolve (.obj entries) v ↔
      (∀ name, lookup? entries "type" = some (.str name) → hasType name v = true)
      ∧ (∀ ref, lookup? entries "$ref" = some (.str ref) → (resolve ref).isSome = true)
      ∧ (∀ ref, lookup? entries "$ref" = some (.str ref) →
        ∀ target, resolve ref = some target → Valid resolve target v)
      ∧ (∀ item, lookup? entries "items" = some item →
        ∀ vs, v = .arr vs → ∀ w ∈ vs, Valid resolve item w)
      ∧ (∀ members, v = .obj members → ∀ key document,
        lookup? (propertiesOf entries) key = some document →
          ∀ w, lookup? members key = some w → Valid resolve document w)
      ∧ (∀ list, lookup? entries "required" = some list → ∀ keys, list = .arr keys →
        ∀ members, v = .obj members → ∀ key, .str key ∈ keys →
          (lookup? members key).isSome = true)
      ∧ ∀ rest, lookup? entries "additionalProperties" = some rest →
        ∀ members, v = .obj members → ∀ member ∈ members,
          lookup? (propertiesOf entries) member.1 = none → Valid resolve rest member.2 := by
  constructor
  · rintro (_ | ⟨type, resolved, ref, items, properties, required, additional⟩)
    exact ⟨type, resolved, ref, items, properties, required, additional⟩
  · rintro ⟨type, resolved, ref, items, properties, required, additional⟩
    exact .obj type resolved ref items properties required additional

/-- The words that are read. -/
def schemaWords : List Text := List.map String.toList
  ["type", "$ref", "items", "properties", "required", "additionalProperties"]

/-- Entries under other words change nothing. -/
theorem valid_iff_of_words {resolve : Text → Option Json} {entries others : List (Text × Json)}
    {v : Json} (h : ∀ word ∈ schemaWords, lookup? entries word = lookup? others word) :
    Valid resolve (.obj entries) v ↔ Valid resolve (.obj others) v := by
  simp only [schemaWords, List.map_cons, List.map_nil, List.forall_mem_cons] at h
  obtain ⟨type, ref, items, properties, required, additional, -⟩ := h
  rw [valid_obj, valid_obj]
  unfold propertiesOf
  rw [type, ref, items, properties, required, additional]

-- ============================================================== alikeness

/-- Like entries stand under the keys. -/
theorem alikeEntries_mem {entries others : List (Text × Json)}
    (h : alikeEntries entries others = true) {key : Text} {v : Json} (mem : (key, v) ∈ entries) :
    ∃ w, lookup? others key = some w ∧ alike v w = true := by
  induction entries with
  | nil => exact nomatch mem
  | cons entry entries ih =>
      obtain ⟨k, u⟩ := entry
      rw [alikeEntries, Bool.and_eq_true] at h
      rcases List.mem_cons.1 mem with same | mem
      · obtain ⟨rfl, rfl⟩ := Prod.mk.inj same
        cases found : lookup? others key with
        | none =>
            rw [found] at h
            exact nomatch h.1
        | some w =>
            rw [found] at h
            exact ⟨w, rfl, h.1⟩
      · exact ih h.2 mem

/-- Objects that are alike have the same keys, with like values under them. -/
theorem lookup?_alike {entries others : List (Text × Json)} (keys : (entries.map (·.1)).Nodup)
    (h : alike (.obj entries) (.obj others) = true) (key : Text) :
    (lookup? entries key = none ∧ lookup? others key = none)
      ∨ ∃ v w, lookup? entries key = some v ∧ lookup? others key = some w
        ∧ (key, v) ∈ entries ∧ alike v w = true := by
  rw [alike, Bool.and_eq_true] at h
  obtain ⟨length, each⟩ := h
  cases found : lookup? entries key with
  | some v =>
      have mem := mem_of_lookup? found
      obtain ⟨w, other, like⟩ := alikeEntries_mem each mem
      exact .inr ⟨v, w, rfl, other, mem, like⟩
  | none =>
      -- the other side has no more entries, so it has no key of its own
      have covered : entries.map (·.1) ⊆ others.map (·.1) := by
        intro k mem
        obtain ⟨entry, here, rfl⟩ := List.mem_map.1 mem
        obtain ⟨w, other, -⟩ := alikeEntries_mem each (show (entry.1, entry.2) ∈ entries from here)
        exact List.mem_map.2 ⟨_, mem_of_lookup? other, rfl⟩
      have perm : (entries.map (·.1)).Perm (others.map (·.1)) := by
        refine (List.subperm_of_subset keys covered).perm_of_length_le ?_
        rw [List.length_map, List.length_map]
        exact Nat.le_of_eq (eq_of_beq length).symm
      refine .inl ⟨rfl, ?_⟩
      rw [lookup?_eq_none] at found ⊢
      exact fun mem => found (perm.mem_iff.2 mem)

/-- What is like a text is that text. -/
theorem alike_str {v w : Json} (h : alike v w = true) (s : Text) : v = .str s ↔ w = .str s := by
  cases v <;> cases w <;> simp_all [alike]

/-- The same texts stand under the keys of objects that are alike. -/
theorem lookup?_alike_str {entries others : List (Text × Json)} (keys : (entries.map (·.1)).Nodup)
    (h : alike (.obj entries) (.obj others) = true) (key s : Text) :
    lookup? entries key = some (.str s) ↔ lookup? others key = some (.str s) := by
  rcases lookup?_alike keys h key with ⟨left, right⟩ | ⟨a, b, left, right, -, like⟩
  · rw [left, right]
  · rw [left, right, Option.some.injEq, Option.some.injEq]
    exact alike_str like s

/-- Lists that are alike hold the same texts. -/
theorem alikeItems_str {vs ws : List Json} (h : alikeItems vs ws = true) (s : Text) :
    .str s ∈ vs ↔ .str s ∈ ws := by
  induction vs generalizing ws with
  | nil =>
      cases ws with
      | nil => rfl
      | cons w ws => exact nomatch h
  | cons v vs ih =>
      cases ws with
      | nil => exact nomatch h
      | cons w ws =>
          rw [alikeItems, Bool.and_eq_true] at h
          rw [List.mem_cons, List.mem_cons, ih h.2, eq_comm, alike_str h.1 s, eq_comm]

/-- What depends on the texts in a list alone carries over to a like list. -/
theorem forall_arr_alike {a b : Json} (h : alike a b = true) {p : List Json → Prop}
    (congr : ∀ vs ws, (∀ s, .str s ∈ vs ↔ .str s ∈ ws) → (p vs ↔ p ws)) :
    (∀ vs, a = .arr vs → p vs) ↔ ∀ ws, b = .arr ws → p ws := by
  cases a with
  | arr vs =>
      cases b with
      | arr ws =>
          have same := congr vs ws (alikeItems_str h)
          constructor
          · rintro all _ ⟨⟩
            exact same.1 (all vs rfl)
          · rintro all _ ⟨⟩
            exact same.2 (all ws rfl)
      | _ => exact nomatch h
  | _ =>
      cases b with
      | arr ws => exact nomatch h
      | _ => exact ⟨fun _ _ h => (nomatch h), fun _ _ h => (nomatch h)⟩

/-- Objects that are alike tell of the same properties, by documents that are alike. -/
theorem propertiesOf_alike {entries others : List (Text × Json)}
    (keys : (entries.map (·.1)).Nodup) (each : ∀ entry ∈ entries, Exact entry.2)
    (h : alike (.obj entries) (.obj others) = true) (key : Text) :
    (lookup? (propertiesOf entries) key = none ∧ lookup? (propertiesOf others) key = none)
      ∨ ∃ a b, lookup? (propertiesOf entries) key = some a
        ∧ lookup? (propertiesOf others) key = some b ∧ alike a b = true
        ∧ ∃ entry ∈ entries, ∃ properties, entry.2 = .obj properties ∧ (key, a) ∈ properties := by
  unfold propertiesOf
  rcases lookup?_alike keys h "properties" with ⟨left, right⟩ | ⟨a, b, left, right, mem, like⟩
  · rw [left, right]
    exact .inl ⟨rfl, rfl⟩
  · rw [left, right]
    cases a with
    | obj ps =>
        cases b with
        | obj qs =>
            have distinct : (ps.map (·.1)).Nodup := by
              cases each _ mem with
              | obj keys _ => exact keys
            rcases lookup?_alike distinct like key with none | ⟨a, b, left, right, here, same⟩
            · exact .inl none
            · exact .inr ⟨a, b, left, right, same, _, mem, ps, rfl, here⟩
        | _ => exact nomatch like
    | _ =>
        cases b with
        | obj qs => exact nomatch like
        | _ => exact .inl ⟨rfl, rfl⟩

/-- A document that is not an object says yes or no to everything. -/
theorem valid_iff_of_alike_scalar {resolve : Text → Option Json} {d e : Json}
    (scalar : ∀ entries, d ≠ .obj entries) (h : alike d e = true) (v : Json) :
    Valid resolve d v ↔ Valid resolve e v := by
  cases d with
  | obj entries => exact absurd rfl (scalar entries)
  | bool b =>
      cases e with
      | bool c =>
          obtain rfl : b = c := eq_of_beq h
          rfl
      | _ => exact nomatch h
  | _ =>
      cases e with
      | bool c => exact nomatch h
      | obj entries => exact nomatch h
      | _ => exact ⟨fun valid => (nomatch valid), fun valid => (nomatch valid)⟩

/-- What holds of the value under a word, if there is one, carries over to a like value. -/
theorem forall_some_congr {o o' : Option Json} {p q : Json → Prop}
    (h : (o = none ∧ o' = none) ∨ ∃ a b, o = some a ∧ o' = some b ∧ (p a ↔ q b)) :
    (∀ a, o = some a → p a) ↔ ∀ b, o' = some b → q b := by
  rcases h with ⟨rfl, rfl⟩ | ⟨a, b, rfl, rfl, same⟩
  · exact ⟨fun _ _ h => (nomatch h), fun _ _ h => (nomatch h)⟩
  · constructor
    · rintro h _ ⟨⟩
      exact same.1 (h a rfl)
    · rintro h _ ⟨⟩
      exact same.2 (h b rfl)

/-- Whatever is like the document says the same. -/
def Settled (resolve : Text → Option Json) (d : Json) : Prop :=
  ∀ e, alike d e = true → ∀ v, Valid resolve d v ↔ Valid resolve e v

/-- An object is settled when its values are, and the documents of its properties. -/
theorem settled_obj {resolve : Text → Option Json} {entries : List (Text × Json)}
    (keys : (entries.map (·.1)).Nodup) (each : ∀ entry ∈ entries, Exact entry.2)
    (direct : ∀ entry ∈ entries, Settled resolve entry.2)
    (inner : ∀ entry ∈ entries, ∀ properties, entry.2 = .obj properties →
      ∀ property ∈ properties, Settled resolve property.2) :
    Settled resolve (.obj entries) := by
  intro e h v
  cases e with
  | obj others =>
      have text := lookup?_alike_str keys h
      have property := propertiesOf_alike keys each h
      have under : ∀ key, ∀ p q : Json → Prop,
          (∀ a b, Settled resolve a → alike a b = true → (p a ↔ q b)) →
            ((∀ a, lookup? entries key = some a → p a) ↔ ∀ b, lookup? others key = some b → q b) := by
        intro key p q congr
        refine forall_some_congr ?_
        rcases lookup?_alike keys h key with none | ⟨a, b, left, right, mem, like⟩
        · exact .inl none
        · exact .inr ⟨a, b, left, right, congr a b (direct _ mem) like⟩
      rw [valid_obj, valid_obj]
      -- a type and a reference are texts, and every other word has a like value
      refine and_congr (forall_congr' fun name => imp_congr_left (text _ _)) <|
        and_congr (forall_congr' fun name => imp_congr_left (text _ _)) <|
        and_congr (forall_congr' fun name => imp_congr_left (text _ _)) <|
        and_congr ?items <| and_congr ?properties <| and_congr ?required ?additional
      case items =>
        refine under _ _ _ fun a b settled like => ?_
        exact forall₄_congr fun vs _ w _ => settled b like w
      case properties =>
        refine forall₂_congr fun members _ => forall_congr' fun key => ?_
        refine forall_some_congr ?_
        rcases property key with none | ⟨a, b, left, right, like, entry, mem, properties, object, here⟩
        · exact .inl none
        · have settled := inner entry mem properties object _ here
          exact .inr ⟨a, b, left, right, forall₂_congr fun w _ => settled b like w⟩
      case required =>
        refine under _ _ _ fun a b _ like => ?_
        refine forall_arr_alike like fun vs ws same => ?_
        exact forall₃_congr fun members _ key => imp_congr_left (same key)
      case additional =>
        refine under _ _ _ fun a b settled like => ?_
        refine forall₄_congr fun members _ member _ => ?_
        refine imp_congr ?_ (settled b like _)
        rcases property member.1 with ⟨left, right⟩ | ⟨a, b, left, right, -⟩
        · rw [left, right]
        · rw [left, right]
          exact ⟨fun h => (nomatch h), fun h => (nomatch h)⟩
  | _ => exact nomatch h

/-- Documents that are alike say the same. -/
theorem settled_of_exact {resolve : Text → Option Json} {d : Json} (h : Exact d) :
    Settled resolve d := by
  have scalar : ∀ {d : Json}, (∀ entries, d ≠ .obj entries) →
      Settled resolve d ∧ ∀ properties, d = .obj properties →
        ∀ property ∈ properties, Settled resolve property.2 :=
    fun other => ⟨fun _ h v => valid_iff_of_alike_scalar other h v,
      fun entries same => absurd same (other entries)⟩
  -- the documents of properties stand one level below the values of the entries
  have both : Settled resolve d ∧ ∀ properties, d = .obj properties →
      ∀ property ∈ properties, Settled resolve property.2 := by
    induction h with
    | null => exact scalar fun _ h => nomatch h
    | bool b => exact scalar fun _ h => nomatch h
    | int i => exact scalar fun _ h => nomatch h
    | str s => exact scalar fun _ h => nomatch h
    | arr each => exact scalar fun _ h => nomatch h
    | obj keys each ih =>
        refine ⟨settled_obj keys each (fun entry mem => (ih entry mem).1)
          fun entry mem => (ih entry mem).2, ?_⟩
        rintro _ ⟨⟩ property mem
        exact (ih property mem).1
  exact both.1

end Json

end TypeShape
