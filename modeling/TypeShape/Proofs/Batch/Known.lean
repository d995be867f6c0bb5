/-
When a batch succeeds.

Without registered types and modifiers this can be read off the declarations: each of them
may refer to the built-in types, to what the registry knew from the start and to the
declarations strictly before it, in whichever file these are. Not to itself, and not to what
comes later. A batch that fails does so at the first declaration that refers to anything
else, with a fault that names one of these base types.
-/
import TypeShape.Proofs.Batch.Pass
import TypeShape.Proofs.Resolve.Reach

namespace TypeShape.Batch

variable {read : LiteralReader} {suffix : Text} {r : Registry}

/-- All base types that a declaration reaches are known. -/
def AllKnown (read : LiteralReader) (names : List Text) (d : Declaration) : Prop :=
  ∀ b, d.Reaches read b → Known names b

/-- The names that the registry knows after some declarations. -/
theorem known_withInterfaces {before : List Declaration} {earlier : Table Schema}
    (h : (definitions read r before).result = .ok earlier) (b : Text) :
    Known (r.withInterfaces earlier).interfaces.names b
      ↔ Known (r.interfaces.names ++ before.map (·.name)) b := by
  apply Known.congr
  intro name
  rw [List.mem_append, ← names_definitions h]
  exact Table.mem_names_addAll

/-- In a batch that comes as far as some declarations, each of these knows what it refers
to. -/
theorem allKnown_of_definitions (hread : read.Shrinks) (types : r.types = [])
    (modifiers : r.modifiers = []) {ds : List Declaration} {defs : Table Schema}
    (hdefs : (definitions read r ds).result = .ok defs) {before after : List Declaration}
    {d : Declaration} (split : ds = before ++ d :: after) :
    AllKnown read (r.interfaces.names ++ before.map (·.name)) d := by
  rw [split] at hdefs
  obtain ⟨earlier, s, later, -, hearlier, hs, -⟩ := definitions_split.1 hdefs
  intro b reached
  rw [← known_withInterfaces hearlier]
  exact resolve_known (r := r.withInterfaces earlier) hread types modifiers hs b reached

/-- A batch that fails does so at a declaration that refers to something unknown, while each
one before it knows what it refers to. -/
theorem unknown_of_definitions (hread : read.Shrinks) (types : r.types = [])
    (modifiers : r.modifiers = []) {ds : List Declaration} (parses : ∀ d ∈ ds, d.Parses read)
    {e : Fault} (failed : (definitions read r ds).result = .error e) :
    ∃ before d after b, ds = before ++ d :: after
      ∧ (∀ front d' back, before = front ++ d' :: back →
          AllKnown read (r.interfaces.names ++ front.map (·.name)) d')
      ∧ d.Reaches read b ∧ ¬Known (r.interfaces.names ++ before.map (·.name)) b
      ∧ e = .unresolvable b := by
  obtain ⟨before, d, after, earlier, split, hearlier, there⟩ := definitions_eq_error failed
  have hd : d ∈ ds := by
    rw [split]
    exact List.mem_append_right _ (List.mem_cons_self ..)
  obtain ⟨b, reached, unknown, rfl⟩ :=
    resolve_fault (r := r.withInterfaces earlier) hread types modifiers (parses d hd) there
  rw [known_withInterfaces hearlier] at unknown
  refine ⟨before, d, after, b, split, ?_, reached, unknown, rfl⟩
  intro front d' back hbefore
  exact allKnown_of_definitions hread types modifiers hearlier hbefore

/-- What holds of every element and those strictly before it holds of the head and nothing,
and of every element of the tail and those before it with the head. -/
theorem forall_split_cons {α : Type} {P : List α → α → Prop} {x : α} {xs : List α} :
    (∀ before y after, x :: xs = before ++ y :: after → P before y)
      ↔ P [] x ∧ ∀ before y after, xs = before ++ y :: after → P (x :: before) y := by
  constructor
  · intro h
    refine ⟨h [] x xs rfl, fun before y after split => h (x :: before) y after ?_⟩
    rw [split, List.cons_append]
  · rintro ⟨head, tail⟩ before y after split
    cases before with
    | nil =>
        cases split
        exact head
    | cons x' before =>
        obtain ⟨rfl, rest⟩ := List.cons_eq_cons.1 split
        exact tail before y after rest

/-- Of two elements only one is before the other. -/
theorem forall_split_pair {α : Type} {P : List α → α → Prop} {x y : α} :
    (∀ before z after, [x, y] = before ++ z :: after → P before z) ↔ P [] x ∧ P [x] y := by
  rw [forall_split_cons, forall_split_cons]
  simp

end TypeShape.Batch
