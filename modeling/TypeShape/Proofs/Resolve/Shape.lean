/-
What declarations accept, told from their texts.

Types that are put together from built-in names, names of earlier declarations, list
suffixes and inline objects have a shape, and the shape says which data it stands for:
an object with known keys only, every required key, and for each key that is there a
value of the shape that was last declared for it. The model that a declaration resolves
to accepts just these objects.
-/
import TypeShape.Batch.Basic
import TypeShape.Proofs.Queue.Together
import TypeShape.Proofs.Resolve.Depth
import TypeShape.Proofs.Schema.Attribute
import TypeShape.Proofs.Schema.Model
import TypeShape.Proofs.TypeText.Split

namespace TypeShape

-- =============================================================== shapes

/-- The shape of a type. -/
inductive Shape
  /-- A built-in type or an earlier declaration. -/
  | named (name : Text)
  | list (item : Shape)
  | object (members : List (Field Shape))

/-- Lists of lists of … of a shape. -/
def Shape.nested : Nat → Shape → Shape
  | 0, shape => shape
  | n + 1, shape => .list (nested n shape)

/-- The kinds of data that have a name of their own. -/
inductive BuiltIn
  | any | string | number | boolean | object | date

/-- The built-in names. -/
def BuiltIn.named : List (Text × BuiltIn) :=
  [("any", .any), ("string", .string), ("number", .number), ("boolean", .boolean),
    ("Object", .object), ("false", .boolean), ("true", .boolean), ("Date", .date)]

/-- The data of a kind. A whole number is one only if it is in the range of numbers. -/
def BuiltIn.Accepts : BuiltIn → Json → Prop
  | .any, _ => True
  | .string, v => ∃ t, v = .str t
  | .number, v => (∃ n, v = .int n ∧ (Binary64.ofInt n).isFinite = true)
      ∨ ∃ x, v = .float x ∧ x.isFinite = true
  | .boolean, v => ∃ b, v = .bool b
  | .object, v => ∃ es, v = .obj es
  | .date, v => ∃ c, Schema.checkDate v = .ok c

/-- What a name stands for: a kind of data, or what the schema of an earlier declaration
accepts. A built-in name is never that of a declaration. -/
inductive NameAccepts (table : Table Schema) (name : Text) (v : Json) : Prop
  | builtIn (kind : BuiltIn) (hname : (name, kind) ∈ BuiltIn.named) (h : kind.Accepts v)
  | earlier (s : Schema) (hname : ∀ kind, (name, kind) ∉ BuiltIn.named)
      (hs : table.find? name = some s) (h : s.Accepts v)

/-- The data that a shape stands for. -/
inductive Shape.Accepts (table : Table Schema) : Shape → Json → Prop
  | named {name : Text} {v : Json} (h : NameAccepts table name v) : Accepts table (.named name) v
  | list {item : Shape} {vs : List Json} (h : ∀ v ∈ vs, Accepts table item v) :
      Accepts table (.list item) (.arr vs)
  | object {members : List (Field Shape)} {entries : List (Text × Json)}
      (known : ∀ e ∈ entries, e.1 ∈ members.map (·.key))
      (present : ∀ m, Latest members m → m.required = true →
        (Json.lookup? entries m.key).isSome = true)
      (accepted : ∀ m, Latest members m → ∀ v, Json.lookup? entries m.key = some v →
        Accepts table m.schema v) :
      Accepts table (.object members) (.obj entries)

/-- The member that a property declares. -/
def Property.member (p : Property) (shape : Shape) : Field Shape :=
  { key := p.name, required := !p.isOptional, schema := shape }

/-- A text spells a shape; an inline object in it is read under the name `model`. -/
inductive Spelled (read : LiteralReader) (table : Table Schema) : Text → Text → Shape → Prop
  | named {model l s r : Text} (n : Nat) (hl : Blanks l) (hs : PlainName s) (hr : Blanks r)
      (known : (∃ kind, (s, kind) ∈ BuiltIn.named) ∨ (table.find? s).isSome = true) :
      Spelled read table model (l ++ (s ++ TypeText.suffixes n) ++ r) (.nested n (.named s))
  | object {model l literal r : Text} {d : Declaration} {shapeOf : Property → Shape} (n : Nat)
      (hl : Blanks l) (hliteral : ObjectText literal) (hr : Blanks r)
      (hread : read model literal = .ok d)
      (hshapes : ∀ p ∈ d.properties,
        Spelled read table (inlineName d.name p.name) p.type (shapeOf p)) :
      Spelled read table model (l ++ (literal ++ TypeText.suffixes n) ++ r)
        (.nested n (.object (d.properties.map fun p => p.member (shapeOf p))))

-- ==================================================== shapes and schemas

/-- A schema accepts what a shape stands for. -/
def Shape.Fits (table : Table Schema) (shape : Shape) (s : Schema) : Prop :=
  ∀ v, s.Accepts v ↔ shape.Accepts table v

namespace Shape

variable {table : Table Schema} {shape : Shape} {s : Schema}

theorem Fits.arrayOf (h : shape.Fits table s) : (list shape).Fits table s.arrayOf := by
  intro v
  rw [Schema.arrayOf, Schema.accepts_list]
  constructor
  · rintro ⟨vs, rfl, -, hvs⟩
    exact .list fun w hw => (h w).1 (hvs w hw)
  · rintro (_ | hvs)
    case list vs =>
      refine ⟨vs, rfl, Schema.admits_iff.2 ⟨rfl, rfl⟩, fun w hw => (h w).2 (hvs w hw)⟩

theorem Fits.nested (h : shape.Fits table s) (n : Nat) :
    (shape.nested n).Fits table (s.nested n) := by
  induction n with
  | zero => exact h
  | succ n ih => exact ih.arrayOf

end Shape

namespace BuiltIn

/-- The schema of a kind of data. -/
def schema : BuiltIn → Schema
  | .any => .any
  | .string => .string {}
  | .number => .number {}
  | .boolean => .boolean
  | .object => .object
  | .date => .date

/-- The schemas of the built-in types are those of their kinds. -/
theorem builtIns_eq : Schema.builtIns = named.map fun (n, kind) => (n, kind.schema) := rfl

/-- Each built-in name is found. -/
theorem builtIn?_of_mem {name : Text} {kind : BuiltIn} (h : (name, kind) ∈ named) :
    Schema.builtIn? name = some kind.schema := by
  have hall : ∀ e ∈ named, Schema.builtIn? e.1 = some e.2.schema := by
    simp only [named, List.forall_mem_cons]
    exact ⟨rfl, rfl, rfl, rfl, rfl, rfl, rfl, rfl, fun _ h => (nomatch h)⟩
  exact hall _ h

/-- No other name is found. -/
theorem builtIn?_eq_none {name : Text} (h : ∀ kind, (name, kind) ∉ named) :
    Schema.builtIn? name = none := by
  unfold Schema.builtIn?
  rw [builtIns_eq, Option.map_eq_none_iff, List.find?_eq_none]
  rintro ⟨n, s⟩ hmem hn
  obtain ⟨⟨n', kind⟩, hkind, heq⟩ := List.mem_map.1 hmem
  cases heq
  exact h kind ((show n = name by simpa using hn) ▸ hkind)

/-- A kind of data is what its schema accepts. -/
theorem accepts_schema (kind : BuiltIn) (v : Json) : kind.schema.Accepts v ↔ kind.Accepts v := by
  cases kind with
  | any => exact ⟨fun _ => trivial, fun _ => Schema.accepts_any v⟩
  | string => exact Schema.accepts_string
  | number => exact Schema.accepts_number
  | boolean => exact Schema.accepts_boolean
  | object => exact Schema.accepts_object
  | date => rfl

end BuiltIn

namespace Shape

variable {table : Table Schema}

/-- A name that is known stands for what its schema accepts. -/
theorem fits_named {r : Registry} {name : Text} (hname : PlainName name)
    (htypes : r.types.find? name = none)
    (hknown : (∃ kind, (name, kind) ∈ BuiltIn.named)
      ∨ (r.interfaces.find? name).isSome = true) :
    ∃ s, r.resolveSingle name = pure s ∧ (named name).Fits r.interfaces s := by
  have hresolve := Registry.resolveSingle_name hname htypes
  -- a built-in type counts before an earlier declaration, for the schema and for the shape
  by_cases hbuiltIn : ∃ kind, (name, kind) ∈ BuiltIn.named
  · obtain ⟨kind, hkind⟩ := hbuiltIn
    have hfound := BuiltIn.builtIn?_of_mem hkind
    rw [hfound] at hresolve
    refine ⟨kind.schema, hresolve, fun v => (kind.accepts_schema v).trans ?_⟩
    constructor
    · exact fun hv => .named (.builtIn kind hkind hv)
    · rintro (hv | _)
      cases hv with
      | builtIn kind' hkind' hv =>
          have hsame := (BuiltIn.builtIn?_of_mem hkind').symm.trans hfound
          rwa [← kind'.accepts_schema, Option.some.inj hsame, kind.accepts_schema] at hv
      | earlier s hnone => exact absurd hkind (hnone kind)
  · have hnone : ∀ kind, (name, kind) ∉ BuiltIn.named := fun kind h => hbuiltIn ⟨kind, h⟩
    obtain ⟨s, hs⟩ := Option.isSome_iff_exists.1 (hknown.resolve_left hbuiltIn)
    rw [BuiltIn.builtIn?_eq_none hnone, hs] at hresolve
    refine ⟨.reference name s, hresolve, fun v => ?_⟩
    constructor
    · exact fun hv => .named (.earlier s hnone hs hv)
    · rintro (hv | _)
      cases hv with
      | builtIn kind hkind => exact absurd hkind (hnone kind)
      | earlier s' _ hs' hv =>
          rw [hs] at hs'
          cases hs'
          exact hv

-- ============================================================== members

/-- A field does what a member asks for. -/
structure Matches (table : Table Schema) (m : Field Shape) (f : Field Schema) : Prop where
  key : f.key = m.key
  required : f.required = m.required
  fits : m.schema.Fits table f.schema

/-- The last field of a key matches the last member of that key. -/
theorem latest_of_matches {members : List (Field Shape)} {fields : List (Field Schema)}
    (h : List.Forall₂ (Matches table) members fields) :
    (∀ f, Latest fields f → ∃ m, Latest members m ∧ Matches table m f)
      ∧ ∀ m, Latest members m → ∃ f, Latest fields f ∧ Matches table m f :=
  ⟨fun _ hf => Latest.of_forall₂ (fun _ _ hmatch => hmatch.key) h hf,
    fun _ hm => Latest.of_forall₂ (fun _ _ hmatch => hmatch.key.symm) h.flip hm⟩

/-- A model of matching fields accepts what its members stand for. -/
theorem fits_modelOf {members : List (Field Shape)} {fields : List (Field Schema)} {name : Text}
    (h : List.Forall₂ (Matches table) members fields) :
    (object members).Fits table (.modelOf name fields) := by
  have hkeys := keys_of_forall₂ (fun _ _ hmatch => hmatch.key) h
  obtain ⟨hmember, hfield⟩ := latest_of_matches h
  intro v
  rw [Schema.accepts_modelOf, hkeys]
  constructor
  · rintro ⟨entries, rfl, hknown, hfields⟩
    refine .object hknown (fun m hm hrequired => ?_) fun m hm v hv => ?_
    · obtain ⟨f, hf, hmatch⟩ := hfield m hm
      have hpresent := (Schema.fieldAccepts_iff.1 (hfields f hf)).1
      rw [hmatch.key, hmatch.required] at hpresent
      exact hpresent hrequired
    · obtain ⟨f, hf, hmatch⟩ := hfield m hm
      have haccepted := (Schema.fieldAccepts_iff.1 (hfields f hf)).2
      rw [hmatch.key] at haccepted
      exact (hmatch.fits v).1 (haccepted v hv)
  · rintro (_ | _ | ⟨hknown, hpresent, haccepted⟩)
    case object entries =>
      refine ⟨entries, rfl, hknown, fun f hf => ?_⟩
      obtain ⟨m, hm, hmatch⟩ := hmember f hf
      rw [Schema.fieldAccepts_iff, hmatch.key, hmatch.required]
      exact ⟨hpresent m hm, fun v hv => (hmatch.fits v).2 (haccepted m hm v hv)⟩

-- =========================================================== resolution

/-- Properties that resolve to what their shapes stand for make matching fields. -/
theorem fieldsBy_matches {resolve : Property → Traced Schema} {shapeOf : Property → Shape}
    {properties : List Property}
    (h : ∀ p ∈ properties, ∃ s, (resolve p).result = .ok s ∧ (shapeOf p).Fits table s) :
    ∃ fields, (Sequential.fieldsBy resolve properties).result = .ok fields
      ∧ List.Forall₂ (Matches table) (properties.map fun p => p.member (shapeOf p)) fields := by
  induction properties with
  | nil => exact ⟨[], rfl, .nil⟩
  | cons p rest ih =>
      obtain ⟨⟨s, hs, hfits⟩, hrest⟩ := List.forall_mem_cons.1 h
      obtain ⟨fields, hfields, hmatches⟩ := ih hrest
      refine ⟨{ key := p.name, required := !p.isOptional, schema := s } :: fields, ?_,
        .cons ⟨rfl, rfl, hfits⟩ hmatches⟩
      unfold Sequential.fieldsBy
      exact Traced.result_bind_eq_ok_iff.2
        ⟨s, hs, Traced.result_bind_eq_ok_iff.2 ⟨fields, hfields, rfl⟩⟩

/-- A type that spells a shape resolves to a schema that accepts what the shape stands
for. -/
theorem typeOf_fits {read : LiteralReader} {r : Registry} (hread : read.Shrinks)
    (htypes : r.types = []) {model t : Text} {shape : Shape}
    (h : Spelled read r.interfaces model t shape) :
    ∃ s, (Sequential.typeOf r read model t).result = .ok s ∧ shape.Fits r.interfaces s := by
  induction h with
  | named n hl hs hr known =>
      have htrim := trim_between hl (TypeText.solid_append_suffixes hs.toSolid hs.nonempty n) hr
      obtain ⟨s, hsingle, hfits⟩ := fits_named hs (by rw [htypes]; rfl) known
      refine ⟨s.nested n, ?_, hfits.nested n⟩
      rw [Sequential.typeOf_eq r hread, htrim, inlineObject?_name hs]
      dsimp only
      rw [Registry.resolveExpression_name hs n hsingle]
      rfl
  | @object model l literal r' d shapeOf n hl hliteral hr hd hshapes ih =>
      have htrim := trim_between hl (TypeText.solid_append_suffixes hliteral.solid hliteral.ne_nil n) hr
      obtain ⟨fields, hfields, hmatches⟩ := fieldsBy_matches ih
      refine ⟨(Schema.modelOf d.name fields).nested n, ?_, (fits_modelOf hmatches).nested n⟩
      rw [Sequential.typeOf_eq r hread, htrim, hliteral.inlineObject? n]
      dsimp only
      rw [hliteral.unwrapLists (hliteral.lt_length n)]
      dsimp only
      rw [hd, Traced.bind_of_ok (a := d) _ rfl, Traced.bind_of_ok _ hfields]
      rfl

end Shape

-- ========================================================= declarations

namespace Batch

end Batch

end TypeShape
