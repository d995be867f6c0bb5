/-
Which names a declaration needs.

In a registry without registered types and modifiers the texts alone say what a declaration
refers to: the base types that it reaches through list suffixes and through inline objects at
any depth. It is resolved exactly when all of them are known, and otherwise the fault names
one that is not (`Batch.resolve_known`, `Batch.resolve_fault`).
-/
import TypeShape.Batch.Basic
import TypeShape.Proofs.Queue.Faults
import TypeShape.Proofs.Resolve.Depth
import TypeShape.Proofs.Resolve.Known

namespace TypeShape

-- ========================================================= what is reached

/-- The literal of an inline object type. -/
def literalOf? (t : Text) : Option Text :=
  (Plan.inlineObject? (Text.trim t)).map fun found => (unwrapLists found.1.length found.1).2

/-- A type reaches its base type, and an inline object the base types of its properties. The
model of an inline object would get the name that is given. -/
inductive Reaches (read : LiteralReader) : Text → Text → Text → Prop
  | base {name t : Text} (plain : literalOf? t = none) : Reaches read name t (baseOf (Text.trim t))
  | inside {name t literal b : Text} {d : Declaration} {p : Property}
      (object : literalOf? t = some literal) (parsed : read name literal = .ok d)
      (mem : p ∈ d.properties) (reached : Reaches read (inlineName d.name p.name) p.type b) :
      Reaches read name t b

/-- All inline objects of a type can be read, at any depth. -/
inductive Parses (read : LiteralReader) : Text → Text → Prop
  | base {name t : Text} (plain : literalOf? t = none) : Parses read name t
  | inside {name t literal : Text} {d : Declaration}
      (object : literalOf? t = some literal) (parsed : read name literal = .ok d)
      (parts : ∀ p ∈ d.properties, Parses read (inlineName d.name p.name) p.type) :
      Parses read name t

/-- A declaration reaches the base types of its properties. -/
def Declaration.Reaches (read : LiteralReader) (d : Declaration) (b : Text) : Prop :=
  ∃ p ∈ d.properties, TypeShape.Reaches read (inlineName d.name p.name) p.type b

/-- All inline objects in a declaration can be read. -/
def Declaration.Parses (read : LiteralReader) (d : Declaration) : Prop :=
  ∀ p ∈ d.properties, TypeShape.Parses read (inlineName d.name p.name) p.type

section

variable {read : LiteralReader} {name t literal b : Text} {d : Declaration}

/-- A type without an inline object reaches nothing but its base type. -/
theorem reaches_base (plain : literalOf? t = none) :
    Reaches read name t b ↔ b = baseOf (Text.trim t) := by
  constructor
  · intro reached
    cases reached with
    | base => rfl
    | inside object => cases plain.symm.trans object
  · intro same
    rw [same]
    exact .base plain

/-- An inline object reaches what its declaration reaches. -/
theorem reaches_inside (object : literalOf? t = some literal) (parsed : read name literal = .ok d) :
    Reaches read name t b ↔ d.Reaches read b := by
  constructor
  · intro reached
    cases reached with
    | base plain => cases plain.symm.trans object
    | inside object' parsed' mem reached =>
        cases object.symm.trans object'
        cases parsed.symm.trans parsed'
        exact ⟨_, mem, reached⟩
  · intro reached
    obtain ⟨p, mem, reached⟩ := reached
    exact .inside object parsed mem reached

namespace Declaration

variable {p : Property}

/-- A declaration with one property reaches what its type reaches. -/
theorem reaches_of_single (single : d.properties = [p]) :
    d.Reaches read b ↔ TypeShape.Reaches read (inlineName d.name p.name) p.type b := by
  simp only [Declaration.Reaches, single, List.mem_singleton, exists_eq_left]

theorem parses_of_single (single : d.properties = [p]) :
    d.Parses read ↔ TypeShape.Parses read (inlineName d.name p.name) p.type := by
  simp only [Declaration.Parses, single, List.mem_singleton, forall_eq]

end Declaration

end

/-- The fault names a base type that is reached and not known. -/
def Blames (reached : Text → Prop) (names : List Text) (e : Fault) : Prop :=
  ∃ b, reached b ∧ ¬Known names b ∧ e = .unresolvable b

theorem Blames.mono {reached reached' : Text → Prop} {names : List Text} {e : Fault}
    (h : Blames reached names e) (more : ∀ b, reached b → reached' b) :
    Blames reached' names e := by
  obtain ⟨b, hb, unknown, named⟩ := h
  exact ⟨b, more b hb, unknown, named⟩

-- ================================================================= types

section Types

variable {read : LiteralReader} {r : Registry}

/-- Whatever is resolved knows all the base types that it reaches. -/
theorem Reaches.known (hread : read.Shrinks) (types : r.types = []) (modifiers : r.modifiers = [])
    {name t b : Text} (h : Reaches read name t b) {s : Schema}
    (ok : (Sequential.typeOf r read name t).result = .ok s) : Known r.interfaces.names b := by
  induction h generalizing s with
  | base plain =>
      rw [Sequential.typeOf_eq r hread, Option.map_eq_none_iff.1 plain] at ok
      by_contra unknown
      have failed := (Registry.resolveExpression_eq_error_iff types modifiers).2 ⟨unknown, rfl⟩
      rw [failed] at ok
      cases ok
  | @inside name t literal b d p object parsed mem reached ih =>
      obtain ⟨⟨text, ms⟩, hobject, rfl⟩ := Option.map_eq_some_iff.1 object
      rw [Sequential.typeOf_eq r hread, hobject] at ok
      obtain ⟨d', hd', ok⟩ := Traced.result_bind_eq_ok_iff.1 ok
      cases parsed.symm.trans hd'
      obtain ⟨fields, hfields, -⟩ := Traced.result_bind_eq_ok_iff.1 ok
      obtain ⟨s', hs'⟩ := Sequential.result_of_fieldsBy hfields mem
      exact ih hs'

/-- The parts of a type whose inline objects can be read fail only with base types that it
reaches and that are not known. -/
theorem Plan.failsOnly_ofType (hread : read.Shrinks) (types : r.types = [])
    (modifiers : r.modifiers = []) {depth : Nat} {name t : Text} (parses : Parses read name t)
    (deep : Source.braces name + Source.braces t < depth) :
    (Plan.ofType read r depth name t).FailsOnly
      (Blames (Reaches read name t) r.interfaces.names) := by
  induction parses generalizing depth with
  | @base name t plain =>
      have none := Option.map_eq_none_iff.1 plain
      obtain ⟨depth, rfl⟩ : ∃ n, depth = n + 1 := ⟨depth - 1, by omega⟩
      apply FailsOnly.ofType_succ
      case expression =>
        intro _ e failed
        obtain ⟨unknown, rfl⟩ :=
          (Registry.resolveExpression_eq_error_iff types modifiers).1 failed
        exact ⟨_, .base plain, unknown, rfl⟩
      all_goals exact fun _ _ found => nomatch none.symm.trans found
  | @inside name t literal d object parsed parts ih =>
      obtain ⟨⟨text, ms⟩, found, rfl⟩ := Option.map_eq_some_iff.1 object
      obtain ⟨depth, rfl⟩ : ∃ n, depth = n + 1 := ⟨depth - 1, by omega⟩
      apply FailsOnly.ofType_succ
      case expression => exact fun none => nomatch none.symm.trans found
      case unread =>
        intro text' ms' found' e failed
        cases found.symm.trans found'
        cases parsed.symm.trans failed
      case finishing =>
        intro _ _ _ m e failed
        rw [Registry.applyModifiers_eq_pure modifiers] at failed
        cases failed
      case parts =>
        intro text' ms' found' d' parsed' p hp
        cases found.symm.trans found'
        cases parsed.symm.trans parsed'
        have less := hread.property_lt found rfl parsed hp
        apply (ih p hp (by omega)).mono
        intro e failed
        exact failed.mono fun b reached => .inside object parsed hp reached

-- ========================================================== declarations

/-- A declaration that is resolved knows all the base types that it reaches. -/
theorem Batch.resolve_known (hread : read.Shrinks) (types : r.types = [])
    (modifiers : r.modifiers = []) {d : Declaration} {s : Schema}
    (ok : (resolve read r d).result = .ok s) :
    ∀ b, d.Reaches read b → Known r.interfaces.names b := by
  intro b reached
  obtain ⟨p, hp, reached⟩ := reached
  have inOrder := (Plan.result_run (Plan.waits_ofDeclaration read r d)).1 ok
  rw [Plan.inOrder_ofDeclaration] at inOrder
  obtain ⟨fields, hfields, -⟩ := Traced.result_bind_eq_ok_iff.1 inOrder
  obtain ⟨s', hs'⟩ := Sequential.result_of_fieldsBy hfields hp
  exact reached.known hread types modifiers hs'

/-- A declaration whose inline objects can be read and that is not resolved reaches a base
type that is not known, and the fault names it. -/
theorem Batch.resolve_fault (hread : read.Shrinks) (types : r.types = [])
    (modifiers : r.modifiers = []) {d : Declaration} (parses : d.Parses read) {e : Fault}
    (failed : (resolve read r d).result = .error e) :
    Blames (d.Reaches read) r.interfaces.names e := by
  apply Plan.fault_run (Plan.waits_ofDeclaration read r d) ?_ failed
  apply Plan.FailsOnly.ofDeclaration
  intro p hp
  have deep := Sequential.braces_lt_depthFor (inlineName d.name p.name) p.type
  apply (Plan.failsOnly_ofType hread types modifiers (parses p hp) deep).mono
  intro e failed
  exact failed.mono fun b reached => ⟨p, hp, reached⟩

end Types

end TypeShape
