/-
The plans inside a plan, by their paths, and what the plans of properties come to
together.
-/
import Mathlib.Data.List.Forall2
import TypeShape.Proofs.Resolve.Stretches
import TypeShape.Resolve.Queue

namespace TypeShape.Plan

open Queue (Path)

-- ========================================================= plans at paths

/-- The plan of a property that a plan waits for. -/
def child? : Plan → Nat → Option Plan
  | .settled _, _ => none
  | .waiting _ _ properties _, i => properties[i]?.map (·.2)

/-- The plan at a path. -/
def at? (plan : Plan) : Path → Option Plan
  | [] => some plan
  | i :: path => (plan.at? path).bind (·.child? i)

/-- A plan below another one is one of the properties that this waits for. -/
theorem at?_cons {plan child : Plan} {i : Nat} {path : Path} :
    plan.at? (i :: path) = some child ↔
      ∃ started name properties finish p,
        plan.at? path = some (.waiting started name properties finish)
          ∧ properties[i]? = some (p, child) := by
  constructor
  · intro h
    obtain ⟨parent, hparent, hchild⟩ := Option.bind_eq_some_iff.1 h
    cases parent with
    | settled outcome => cases hchild
    | waiting started name properties finish =>
        obtain ⟨⟨p, c⟩, hp, rfl⟩ := Option.map_eq_some_iff.1 hchild
        exact ⟨_, _, _, _, p, hparent, hp⟩
  · rintro ⟨started, name, properties, finish, p, hparent, hp⟩
    show (plan.at? path).bind _ = _
    rw [hparent]
    show properties[i]?.map _ = _
    rw [hp]
    rfl

theorem at?_property {plan : Plan} {path : Path} {started : List Event} {name : Text}
    {properties : List (Property × Plan)} {finish : Schema → Traced Schema}
    (hat : plan.at? path = some (.waiting started name properties finish)) {i : Nat}
    (hi : i < properties.length) : plan.at? (i :: path) = some properties[i].2 :=
  at?_cons.2 ⟨_, _, _, _, properties[i].1, hat, List.getElem?_eq_getElem hi⟩

-- ============================================================ well-formed

mutual

/-- Every plan that waits has something to wait for. -/
def Waits : Plan → Prop
  | .settled _ => True
  | .waiting _ _ properties _ => properties ≠ [] ∧ AllWait properties
termination_by structural plan => plan

/-- The plans of all properties have something to wait for. -/
def AllWait : List (Property × Plan) → Prop
  | [] => True
  | (_, plan) :: rest => Waits plan ∧ AllWait rest
termination_by structural properties => properties

end

theorem waits_of_mem {properties : List (Property × Plan)} (h : AllWait properties)
    {entry : Property × Plan} (hentry : entry ∈ properties) : entry.2.Waits := by
  induction properties with
  | nil => cases hentry
  | cons first rest ih =>
      obtain ⟨hfirst, hrest⟩ : first.2.Waits ∧ AllWait rest := h
      cases hentry with
      | head => exact hfirst
      | tail _ hentry => exact ih hrest hentry

theorem allWait_map {plan : Property → Plan} (h : ∀ p, (plan p).Waits)
    (properties : List Property) : AllWait (properties.map fun p => (p, plan p)) := by
  induction properties with
  | nil => trivial
  | cons p rest ih => exact ⟨h p, ih⟩

/-- What waits inside a plan has something to wait for. -/
theorem Waits.at? {plan inner : Plan} (h : plan.Waits) {path : Path}
    (hinner : plan.at? path = some inner) : inner.Waits := by
  induction path generalizing inner with
  | nil =>
      cases hinner
      exact h
  | cons i path ih =>
      obtain ⟨_, _, properties, _, p, hparent, hp⟩ := at?_cons.1 hinner
      have hwaits := ih hparent
      exact waits_of_mem hwaits.2 (List.mem_of_getElem? hp)

section Plans

variable (read : LiteralReader) (r : Registry)

/-- An object without properties is settled, so the plan of a type waits for something. -/
theorem waits_ofType (depth : Nat) (name t : Text) : (ofType read r depth name t).Waits := by
  induction depth generalizing name t with
  | zero => trivial
  | succ depth ih =>
      unfold ofType
      dsimp only
      cases inlineObject? (Text.trim t) with
      | none => trivial
      | some found =>
          dsimp only
          cases read name (unwrapLists found.1.length found.1).2 with
          | error e => trivial
          | ok d =>
              obtain ⟨dname, kind, properties, line⟩ := d
              cases properties with
              | nil => trivial
              | cons p rest =>
                  exact ⟨List.cons_ne_nil _ _, ih _ _, allWait_map (fun q => ih _ _) rest⟩

/-- The plan of a declaration has something to wait for. -/
theorem waits_ofDeclaration (d : Declaration) : (ofDeclaration read r d).Waits := by
  obtain ⟨name, kind, properties, line⟩ := d
  cases properties with
  | nil => trivial
  | cons p rest =>
      exact ⟨List.cons_ne_nil _ _, waits_ofType .., allWait_map (fun q => waits_ofType ..) rest⟩

end Plans

-- ==================================================== properties together

/-- Properties that come to schemas one by one come to fields together. -/
theorem result_inOrderAll {properties : List (Property × Plan)} {schemas : List Schema}
    (h : List.Forall₂ (fun entry s => entry.2.inOrder.result = .ok s) properties schemas) :
    (inOrderAll properties).result = .ok (fields (properties.map (·.1)) schemas) := by
  induction h with
  | nil => rfl
  | @cons entry s properties schemas hentry _ ih =>
      exact Traced.result_bind_eq_ok_iff.2 ⟨s, hentry,
        Traced.result_bind_eq_ok_iff.2 ⟨_, ih, rfl⟩⟩

/-- Where properties come to fields together, each of them comes to a schema. -/
theorem result_of_inOrderAll {properties : List (Property × Plan)}
    {fields : List (Field Schema)} (h : (inOrderAll properties).result = .ok fields)
    {entry : Property × Plan} (hentry : entry ∈ properties) :
    ∃ s, entry.2.inOrder.result = .ok s := by
  induction properties generalizing fields with
  | nil => cases hentry
  | cons first rest ih =>
      obtain ⟨s, hs, hothers⟩ := Traced.result_bind_eq_ok_iff.1 h
      obtain ⟨others, hrest, -⟩ := Traced.result_bind_eq_ok_iff.1 hothers
      cases hentry with
      | head => exact ⟨s, hs⟩
      | tail _ hentry => exact ih hrest hentry

/-- In a plan that succeeds, every plan that waits gets its fields and goes on to a
schema. -/
theorem result_waiting {started : List Event} {name : Text}
    {properties : List (Property × Plan)} {finish : Schema → Traced Schema} {s : Schema} :
    (waiting started name properties finish).inOrder.result = .ok s ↔
      ∃ fields, (inOrderAll properties).result = .ok fields
        ∧ (finish (.modelOf name fields)).result = .ok s := by
  rw [inOrder, Traced.result_bind_eq_ok_iff]
  rfl

/-- A plan that succeeds holds only plans that succeed. -/
theorem result_at? {plan inner : Plan} {s : Schema} (h : plan.inOrder.result = .ok s)
    {path : Path} (hinner : plan.at? path = some inner) :
    ∃ s', inner.inOrder.result = .ok s' := by
  induction path generalizing inner with
  | nil =>
      cases hinner
      exact ⟨s, h⟩
  | cons i path ih =>
      obtain ⟨_, _, _, _, p, hparent, hp⟩ := at?_cons.1 hinner
      obtain ⟨s', hs'⟩ := ih hparent
      obtain ⟨fields, hfields, -⟩ := result_waiting.1 hs'
      exact result_of_inOrderAll hfields (List.mem_of_getElem? hp)

end TypeShape.Plan
