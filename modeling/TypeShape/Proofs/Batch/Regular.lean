/-
Whatever a batch resolves without registered types and modifiers is regular.

The invariant goes through the batch as the registry does: the schemas in the table are
regular in the table itself, a declaration that is resolved next is so, and adding it to
the table keeps both. The validators of the batch are among the schemas it goes through.
-/
import TypeShape.Proofs.Batch.Pass
import TypeShape.Proofs.Queue.Together
import TypeShape.Proofs.Resolve.Known
import TypeShape.Proofs.Resolve.Sequential
import TypeShape.Proofs.Schema.Regular

namespace TypeShape

open Schema (Regular)

/-- A registry of declarations only, each of which is regular. -/
structure Registry.Plain (r : Registry) : Prop where
  types : r.types = []
  modifiers : r.modifiers = []
  regular : ∀ name s, r.interfaces.find? name = some s → Regular r.interfaces s

namespace Registry.Plain

variable {r : Registry}

theorem empty : Registry.empty.Plain :=
  ⟨rfl, rfl, fun _ _ h => nomatch h⟩

/-- Adding a declaration keeps the registry plain. -/
theorem withInterface (h : r.Plain) (name : Text) {s : Schema}
    (regular : Regular r.interfaces s) : (r.withInterface name s).Plain := by
  have grown : Table.Extends r.interfaces (r.interfaces.add name s) :=
    Table.extends_add r.interfaces name s
  refine ⟨h.types, h.modifiers, fun other t found => ?_⟩
  show Regular (r.interfaces.add name s) t
  rcases Table.find?_add found with old | rfl
  · exact (h.regular other t old).mono grown
  · exact regular.mono grown

-- ============================================================== types

/-- What a plain registry resolves is regular. -/
theorem resolveSingle (h : r.Plain) {t : Text} {s : Schema}
    (ok : (r.resolveSingle t).result = .ok s) : Regular r.interfaces s := by
  unfold Registry.resolveSingle at ok
  split at ok
  case isTrue =>
    cases ok
    exact .any
  case isFalse =>
    cases builtIn : Schema.builtIn? t with
    | some b =>
        rw [builtIn] at ok
        cases ok
        exact .builtIn builtIn
    | none =>
        rw [builtIn] at ok
        dsimp only at ok
        obtain ⟨found, named, ok⟩ := Traced.result_bind_eq_ok_iff.1 ok
        rw [Registry.resolveNamed_of_notRegistered (by rw [h.types]; rfl)] at named
        cases found with
        | none => exact nomatch ok
        | some s' =>
            cases ok
            have known := Except.ok.inj named
            obtain ⟨target, here, rfl⟩ := Option.map_eq_some_iff.1 known
            exact .reference here (h.regular _ _ here)

theorem resolveExpression (h : r.Plain) {t : Text} {s : Schema}
    (ok : (r.resolveExpression t).result = .ok s) : Regular r.interfaces s := by
  unfold Registry.resolveExpression at ok
  obtain ⟨base, resolved, ok⟩ := Traced.result_bind_eq_ok_iff.1 ok
  rw [Registry.applyModifiers_eq_pure h.modifiers] at ok
  cases ok
  unfold Registry.resolveBase at resolved
  obtain ⟨single, found, same⟩ := Traced.result_bind_eq_ok_iff.1 resolved
  cases same
  exact (h.resolveSingle found).nested _

end Registry.Plain

namespace Sequential

variable {read : LiteralReader} {r : Registry}

/-- Fields are regular when the types of their properties are. -/
theorem regular_fieldsBy {resolve : Property → Traced Schema}
    (h : ∀ p s, (resolve p).result = .ok s → Regular r.interfaces s) {properties : List Property}
    {fields : List (Field Schema)} (ok : (fieldsBy resolve properties).result = .ok fields) :
    ∀ f ∈ fields, Regular r.interfaces f.schema := by
  induction properties generalizing fields with
  | nil =>
      cases ok
      exact fun _ h => nomatch h
  | cons p rest ih =>
      rw [fieldsBy] at ok
      obtain ⟨s, resolved, ok⟩ := Traced.result_bind_eq_ok_iff.1 ok
      obtain ⟨others, later, ok⟩ := Traced.result_bind_eq_ok_iff.1 ok
      cases ok
      rw [List.forall_mem_cons]
      exact ⟨h p s resolved, ih later⟩

/-- A type is resolved to a regular schema, whatever nesting is allowed. -/
theorem regular_ofType (h : r.Plain) {depth : Nat} {name t : Text} {s : Schema}
    (ok : (ofType read r depth name t).result = .ok s) : Regular r.interfaces s := by
  induction depth generalizing name t s with
  | zero => exact nomatch ok
  | succ depth ih =>
      rw [ofType] at ok
      dsimp only at ok
      cases object : Plan.inlineObject? (Text.trim t) with
      | none =>
          rw [object] at ok
          exact h.resolveExpression ok
      | some found =>
          obtain ⟨inline, modifiers⟩ := found
          rw [object] at ok
          dsimp only at ok
          obtain ⟨d, -, ok⟩ := Traced.result_bind_eq_ok_iff.1 ok
          obtain ⟨fields, resolved, ok⟩ := Traced.result_bind_eq_ok_iff.1 ok
          rw [Registry.applyModifiers_eq_pure h.modifiers] at ok
          cases ok
          exact (Regular.modelOf d.name (regular_fieldsBy (fun p s => ih) resolved)).nested _

end Sequential

-- =============================================================== batches

namespace Batch

variable {read : LiteralReader} {suffix : Text} {r : Registry}

/-- A model that is regular in the table. -/
structure Settled (table : Table Schema) (s : Schema) : Prop where
  model : ∃ name fields, s = .model name fields
  regular : Regular table s

theorem Settled.mono {table larger : Table Schema} (grown : Table.Extends table larger)
    {s : Schema} (h : Settled table s) : Settled larger s :=
  ⟨h.model, h.regular.mono grown⟩

/-- A declaration is resolved to a regular model. -/
theorem settled_resolve (h : r.Plain) {d : Declaration} {s : Schema}
    (ok : (resolve read r d).result = .ok s) : Settled r.interfaces s := by
  have ok := (Plan.result_run (Plan.waits_ofDeclaration read r d)).1 ok
  rw [Plan.inOrder_ofDeclaration, Sequential.ofDeclaration] at ok
  obtain ⟨fields, resolved, ok⟩ := Traced.result_bind_eq_ok_iff.1 ok
  cases ok
  exact ⟨⟨_, _, rfl⟩, .modelOf d.name
    (Sequential.regular_fieldsBy (fun p s => Sequential.regular_ofType h) resolved)⟩

/-- An outcome whose registry is plain and whose validators are settled in it. -/
structure Good (o : Outcome) : Prop where
  plain : o.registry.Plain
  settled : ∀ entry ∈ o.validators, Settled o.registry.interfaces entry.2

/-- Collecting a settled schema keeps the outcome good, and the table only grows. -/
theorem Good.collect {o : Outcome} (h : Good o) (path name : Text) {s : Schema}
    (settled : Settled o.registry.interfaces s) :
    Good (collect suffix path name s o)
      ∧ Table.Extends o.registry.interfaces (Batch.collect suffix path name s o).registry.interfaces := by
  have grown : Table.Extends o.registry.interfaces (o.registry.interfaces.add name s) :=
    Table.extends_add o.registry.interfaces name s
  have plain := h.plain.withInterface name settled.regular
  have old : ∀ entry ∈ o.validators, Settled (o.registry.interfaces.add name s) entry.2 :=
    fun entry mem => (h.settled entry mem).mono grown
  unfold Batch.collect
  dsimp only
  split
  case isTrue => exact ⟨⟨plain, old⟩, grown⟩
  case isFalse =>
    refine ⟨⟨plain, fun entry mem => ?_⟩, grown⟩
    rcases List.mem_append.1 mem with mem | last
    · exact old entry mem
    · cases List.mem_singleton.1 last
      exact settled.mono grown

/-- Declarations resolved one after another keep the outcome good. -/
theorem Good.resolveAll {path : Text} {items : List (Except Malformed Declaration)}
    {o o' : Outcome} (h : Good o) (ok : (resolveAll read suffix path items o).result = .ok o') :
    Good o' ∧ Table.Extends o.registry.interfaces o'.registry.interfaces := by
  induction items generalizing o with
  | nil =>
      cases ok
      exact ⟨h, .refl _⟩
  | cons item rest ih =>
      rw [Batch.resolveAll] at ok
      obtain ⟨d, -, ok⟩ := Traced.result_bind_eq_ok_iff.1 ok
      obtain ⟨s, resolved, ok⟩ := Traced.result_bind_eq_ok_iff.1 ok
      obtain ⟨good, grown⟩ := h.collect path d.name (settled_resolve h.plain resolved)
      obtain ⟨good, later⟩ := ih good ok
      exact ⟨good, grown.trans later⟩

/-- Files resolved one after another leave a plain registry, and all their validators are
settled in it. -/
theorem settled_resolveFiles (h : r.Plain) {files : List BatchFile} {r' : Registry}
    {outcomes : List Outcome} (ok : (resolveFiles read suffix r files).result = .ok (r', outcomes)) :
    r'.Plain ∧ Table.Extends r.interfaces r'.interfaces
      ∧ ∀ o ∈ outcomes, ∀ entry ∈ o.validators, Settled r'.interfaces entry.2 := by
  induction files generalizing r outcomes with
  | nil =>
      cases ok
      exact ⟨h, .refl _, List.forall_mem_nil _⟩
  | cons file rest ih =>
      rw [resolveFiles] at ok
      obtain ⟨o, resolved, ok⟩ := Traced.result_bind_eq_ok_iff.1 ok
      obtain ⟨⟨_, others⟩, later, ok⟩ := Traced.result_bind_eq_ok_iff.1 ok
      cases ok
      unfold resolveFile at resolved
      obtain ⟨⟨path, items⟩, -, resolved⟩ := Traced.result_bind_eq_ok_iff.1 resolved
      have start : Good { validators := [], registry := r, warnings := [] } :=
        ⟨h, List.forall_mem_nil _⟩
      obtain ⟨good, grown⟩ := start.resolveAll resolved
      obtain ⟨plain, grown', settled⟩ := ih good.plain later
      refine ⟨plain, grown.trans grown', ?_⟩
      rw [List.forall_mem_cons]
      exact ⟨fun entry mem => (good.settled entry mem).mono grown', settled⟩

/-- The validators of a batch are models that are regular in its final table. -/
theorem settled_convert (h : r.Plain) {files : List BatchFile} {o : Outcome}
    (ok : (convert read suffix r files).result = .ok o) :
    ∀ entry ∈ o.validators, Settled o.registry.interfaces entry.2 := by
  unfold convert at ok
  obtain ⟨⟨r', outcomes⟩, resolved, ok⟩ := Traced.result_bind_eq_ok_iff.1 ok
  cases ok
  obtain ⟨-, -, settled⟩ := settled_resolveFiles h resolved
  intro entry mem
  dsimp only at mem
  rw [merge_eq] at mem
  rcases Table.mem_addAll mem with none | mem
  · exact nomatch none
  · obtain ⟨file, here, mem⟩ := List.mem_flatten.1 mem
    obtain ⟨outcome, there, rfl⟩ := List.mem_map.1 here
    exact settled outcome there entry mem

end Batch

end TypeShape
