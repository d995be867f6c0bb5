/-
Which fault a declaration comes to, told from the texts.

All properties are at work at once, so more than one of them may fail. What is told apart is
when each of them is through: a property without an inline object at once, and one with an
inline object two rounds after what decides about that (`Completes`). The fault of the
declaration is the one that comes first by rounds, and in one round by the order of the
properties (`Batch.resolve_firstFault`); so a fault that nobody had to wait for hides all
faults inside of inline objects.
-/
import TypeShape.Batch.Basic
import TypeShape.Proofs.Queue.Rounds
import TypeShape.Proofs.Resolve.Depth

namespace TypeShape

open Source (braces)

-- ======================================================== inline objects

/-- What an inline object in a type reads as, the list layers around it, and the modifiers
after it. -/
def inlineAnswer? (read : LiteralReader) (name t : Text) :
    Option (Except Fault Declaration × Nat × List Text) := do
  let (object, modifiers) ← Plan.inlineObject? (Text.trim t)
  let (lists, literal) := unwrapLists object.length object
  return (read name literal, lists, modifiers)

/-- When a type that starts in a round is through, and with what. The name is the one that an
inline object in it gets. -/
inductive Completes (read : LiteralReader) (r : Registry) : Nat → Text → Text → Completion → Prop
  /-- Anything but an inline object is through at once. -/
  | expression {start : Nat} {name t : Text} (answer : inlineAnswer? read name t = none) :
      Completes read r start name t ⟨start, (r.resolveExpression (Text.trim t)).result⟩
  /-- So is an inline object that cannot be read. -/
  | unread {start lists : Nat} {name t : Text} {modifiers : List Text} {e : Fault}
      (answer : inlineAnswer? read name t = some (.error e, lists, modifiers)) :
      Completes read r start name t ⟨start, .error e⟩
  /-- So is one without properties. -/
  | empty {start lists : Nat} {name t : Text} {modifiers : List Text} {d : Declaration}
      (answer : inlineAnswer? read name t = some (.ok d, lists, modifiers))
      (none : d.properties = []) :
      Completes read r start name t
        ⟨start, (r.applyModifiers modifiers ((Schema.modelOf d.name []).nested lists)).result⟩
  /-- The properties of an object start in the next round, and two rounds after the first fault
  among them the object is through with it. -/
  | fault {start lists i round : Nat} {name t : Text} {modifiers : List Text} {d : Declaration}
      {cs : List Completion} {e : Fault}
      (answer : inlineAnswer? read name t = some (.ok d, lists, modifiers))
      (length : cs.length = d.properties.length)
      (each : ∀ (i : Nat) (p : Property) (c : Completion),
        d.properties[i]? = some p → cs[i]? = some c →
        Completes read r (start + 1) (inlineName d.name p.name) p.type c)
      (first : FirstFault cs i round e) :
      Completes read r start name t ⟨round + 2, .error e⟩
  /-- Without a fault it goes on two rounds after the last of them is through. -/
  | all {start lists round : Nat} {name t : Text} {modifiers : List Text} {d : Declaration}
      {cs : List Completion} {schemas : List Schema}
      (answer : inlineAnswer? read name t = some (.ok d, lists, modifiers))
      (length : cs.length = d.properties.length)
      (each : ∀ (i : Nat) (p : Property) (c : Completion),
        d.properties[i]? = some p → cs[i]? = some c →
        Completes read r (start + 1) (inlineName d.name p.name) p.type c)
      (all : AllThrough cs round schemas) :
      Completes read r start name t ⟨round + 2, (r.applyModifiers modifiers
        ((Schema.modelOf d.name (Plan.fields d.properties schemas)).nested lists)).result⟩

-- ================================================================= plans

namespace Plan

variable {read : LiteralReader} {r : Registry}

/-- The plan of a type by what its inline object reads as. -/
theorem ofType_succ (depth : Nat) (name t : Text) :
    ofType read r (depth + 1) name t = match inlineAnswer? read name t with
      | none => .settled (r.resolveExpression (Text.trim t))
      | some (.error e, _, _) => .settled (.event .literal (.error e))
      | some (.ok d, lists, modifiers) =>
        let finish (s : Schema) := r.applyModifiers modifiers (s.nested lists)
        match d.properties with
        | [] => .settled ((finish (.modelOf d.name [])).after [.literal])
        | properties =>
          .waiting [.literal] d.name
            (properties.map fun p => (p, ofType read r depth (inlineName d.name p.name) p.type))
            finish := by
  rw [ofType]
  unfold inlineAnswer?
  cases inlineObject? (Text.trim t) with
  | none => rfl
  | some found =>
      obtain ⟨object, modifiers⟩ := found
      simp only [Option.bind_eq_bind, Option.bind_some, Option.pure_def]
      cases read name (unwrapLists object.length object).2 with
      | error e => rfl
      | ok d => rfl

/-- In an object the properties have fewer braces than the type. -/
theorem property_lt (hread : read.Shrinks) {name t : Text} {lists : Nat} {modifiers : List Text}
    {d : Declaration} (answer : inlineAnswer? read name t = some (.ok d, lists, modifiers))
    {p : Property} (hp : p ∈ d.properties) :
    braces (inlineName d.name p.name) + braces p.type < braces name + braces t := by
  obtain ⟨⟨object, modifiers'⟩, hobject, h⟩ := Option.bind_eq_some_iff.1 answer
  cases hliteral : unwrapLists object.length object with
  | mk lists' literal =>
      simp only [hliteral, Option.pure_def, Option.some.injEq, Prod.mk.injEq] at h
      exact hread.property_lt hobject hliteral h.1 hp

/-- Plans of properties are plans of these properties. -/
theorem map_fst_plans (plan : Property → Plan) (properties : List Property) :
    (properties.map fun p => (p, plan p)).map (·.1) = properties := by
  rw [List.map_map]
  exact List.map_id _

/-- The completions of properties are told one by one. -/
theorem completions_eq {plan : Property → Plan} {properties : List Property} {start : Nat}
    {P : Property → Completion → Prop}
    (h : ∀ p ∈ properties, ∀ c, P p c ↔ (plan p).completion start = c) (cs : List Completion) :
    (cs.length = properties.length
        ∧ ∀ (i : Nat) (p : Property) (c : Completion),
          properties[i]? = some p → cs[i]? = some c → P p c)
      ↔ cs = completions (properties.map fun p => (p, plan p)) start := by
  rw [completions_eq_map, List.map_map]
  constructor
  · rintro ⟨length, each⟩
    apply List.ext_getElem (by simpa using length)
    intro i hi hi'
    have hp : i < properties.length := length ▸ hi
    have here := each i properties[i] cs[i] (List.getElem?_eq_getElem hp)
      (List.getElem?_eq_getElem hi)
    rw [List.getElem_map]
    exact ((h _ (List.getElem_mem hp) _).1 here).symm
  · rintro rfl
    refine ⟨List.length_map .., ?_⟩
    intro i p c hp hc
    rw [List.getElem?_map, hp] at hc
    exact (h p (List.mem_of_getElem? hp) c).2 (Option.some.inj hc)

section Step

-- one layer of inline objects, with the answer for the properties of the object at hand
variable {depth start : Nat} {name t : Text}
  (below : ∀ {lists : Nat} {modifiers : List Text} {d : Declaration},
    inlineAnswer? read name t = some (.ok d, lists, modifiers) → ∀ cs : List Completion,
    (cs.length = d.properties.length
        ∧ ∀ (i : Nat) (p : Property) (c : Completion), d.properties[i]? = some p → cs[i]? = some c →
          Completes read r (start + 1) (inlineName d.name p.name) p.type c)
      ↔ cs = completions
          (d.properties.map fun p => (p, ofType read r depth (inlineName d.name p.name) p.type))
          (start + 1))

include below

/-- Whatever is said about when a type is through is what the plan of the type counts. -/
theorem completion_of_completes {c : Completion} (h : Completes read r start name t c) :
    (ofType read r (depth + 1) name t).completion start = c := by
  rw [ofType_succ]
  -- where the object has properties, their completions are counted one level below, and the cases
  -- differ in whether one of these fails
  cases h with
  | expression answer =>
      rw [answer]
      rfl
  | unread answer =>
      rw [answer]
      rfl
  | @empty _ lists _ _ modifiers d answer none =>
      obtain ⟨dname, kind, properties, line⟩ := d
      cases none
      rw [answer]
      rfl
  | @fault _ lists i round _ _ modifiers d cs e answer length each first =>
      obtain rfl := (below answer cs).1 ⟨length, each⟩
      obtain ⟨dname, kind, properties, line⟩ := d
      rw [answer]
      cases properties with
      | nil => cases first.here
      | cons p rest => exact completion_of_firstFault first
  | @all _ lists round _ _ modifiers d cs schemas answer length each all =>
      obtain rfl := (below answer cs).1 ⟨length, each⟩
      obtain ⟨dname, kind, properties, line⟩ := d
      rw [answer]
      cases properties with
      | nil =>
          obtain ⟨c, hc, -⟩ := all.last
          cases hc
      | cons p rest =>
          refine (completion_of_allThrough all).trans ?_
          rw [map_fst_plans]

/-- What the plan of a type counts may be said about when the type is through. -/
theorem completes_completion :
    Completes read r start name t ((ofType read r (depth + 1) name t).completion start) := by
  rw [ofType_succ]
  cases answer : inlineAnswer? read name t with
  | none => exact .expression answer
  | some found =>
      obtain ⟨outcome, lists, modifiers⟩ := found
      cases outcome with
      | error e => exact .unread answer
      | ok d =>
          have here := below answer
          obtain ⟨dname, kind, properties, line⟩ := d
          cases properties with
          | nil => exact .empty answer rfl
          | cons p rest =>
              obtain ⟨length, each⟩ := (here _).2 rfl
              have nonempty : (p :: rest).map (fun p =>
                  (p, ofType read r depth (inlineName dname p.name) p.type)) ≠ [] := by
                simp
              dsimp only
              obtain ⟨i, round, e, first⟩ | ⟨round, schemas, all⟩ :=
                firstFault_or_allThrough nonempty (start + 1)
              · rw [completion_of_firstFault first]
                exact .fault answer length each first
              · rw [completion_of_allThrough all, map_fst_plans]
                exact .all answer length each all

end Step

/-- A type is through when the count of rounds in its plan says, at every depth that is enough
for the type. -/
theorem completes_iff (hread : read.Shrinks) {depth start : Nat} {name t : Text}
    (enough : braces name + braces t < depth) {c : Completion} :
    Completes read r start name t c ↔ (ofType read r depth name t).completion start = c := by
  induction depth generalizing start name t c with
  | zero => exact absurd enough (Nat.not_lt_zero _)
  | succ depth ih =>
      have below {lists : Nat} {modifiers : List Text} {d : Declaration}
          (answer : inlineAnswer? read name t = some (.ok d, lists, modifiers))
          (cs : List Completion) := completions_eq
        (P := fun p => Completes read r (start + 1) (inlineName d.name p.name) p.type)
        (fun p hp c => ih (Nat.lt_of_lt_of_le (property_lt hread answer hp)
          (Nat.le_of_lt_succ enough)) (c := c)) cs
      constructor
      · exact completion_of_completes below
      · rintro rfl
        exact completes_completion below

end Plan

-- ========================================================== declarations

namespace Batch

end Batch

end TypeShape
