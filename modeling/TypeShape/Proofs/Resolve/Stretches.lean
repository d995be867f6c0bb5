/-
What a resolution does in one go, and the calls it makes there.

A property works without a pause until it has to wait for the properties of an inline
object, and again from there to its end. Each such stretch is a list of events that
nothing can come between. When a resolution succeeds, its stretches are known from the
texts alone: the factory of the base type is called before the registered modifiers,
and these in the order of their chain.
-/
import TypeShape.Proofs.Resolve.Sequential

namespace TypeShape

variable (read : LiteralReader) (r : Registry)

-- ==================================================== calls of one type

namespace Registry

/-- The call for a base type without list suffixes: its factory's, if neither a rule of
the language nor a built-in type comes first. -/
def factoryCalls (t : Text) : List Event :=
  let applied := TypeText.Applied.read t
  if Text.includes t arrow || (Schema.builtIn? t).isSome then []
  else if (r.types.find? applied.name).isSome then [.call applied.name applied.parameters]
  else []

/-- The calls of the registered ones of some modifiers, in their order. -/
def modifierCalls (modifiers : List Text) : List Event :=
  modifiers.filterMap fun m =>
    let applied := TypeText.Applied.read m
    (r.modifiers.find? applied.name).map fun _ => .call applied.name applied.parameters

/-- The calls of a type expression: the factory comes before the modifiers. -/
def expressionCalls (t : Text) : List Event :=
  let chain := TypeText.Chain.read t
  r.factoryCalls (dropListSuffixes chain.base).2 ++ r.modifierCalls chain.modifiers

/-- Applying modifiers calls the registered ones in their order. -/
theorem events_applyModifiers {modifiers : List Text} {s s' : Schema}
    (h : (r.applyModifiers modifiers s).result = .ok s') :
    (r.applyModifiers modifiers s).events = r.modifierCalls modifiers := by
  induction modifiers generalizing s with
  | nil => rfl
  | cons m rest ih =>
      unfold applyModifiers at h ⊢
      unfold modifierCalls
      rw [List.filterMap_cons]
      dsimp only at h ⊢
      cases hfind : r.modifiers.find? (TypeText.Applied.read m).name with
      | none =>
          rw [hfind] at h
          exact ih h
      | some modifier =>
          rw [hfind] at h
          obtain ⟨changed, hchanged, hrest⟩ := Traced.result_bind_eq_ok_iff.1 h
          dsimp only [Option.map_some]
          rw [Traced.events_bind_of_ok _ hchanged, ih hrest]
          rfl

/-- Resolving a base type without list suffixes calls at most its factory. -/
theorem events_resolveSingle {t : Text} {s : Schema}
    (h : (r.resolveSingle t).result = .ok s) :
    (r.resolveSingle t).events = r.factoryCalls t := by
  unfold resolveSingle at h ⊢
  unfold factoryCalls
  cases harrow : Text.includes t arrow with
  | true => rfl
  | false =>
      rw [harrow] at h
      rw [if_neg (by simp)] at h ⊢
      cases hbuiltIn : Schema.builtIn? t with
      | some found => rfl
      | none =>
          rw [hbuiltIn] at h
          obtain ⟨named, hnamed, hfound⟩ := Traced.result_bind_eq_ok_iff.1 h
          dsimp only
          rw [Traced.events_bind_of_ok _ hnamed]
          cases named with
          | none => cases hfound
          | some found =>
              unfold resolveNamed
              dsimp only
              cases r.types.find? (TypeText.Applied.read t).name <;> rfl

/-- List suffixes change no call. -/
theorem events_resolveBase {t : Text} {s : Schema} (h : (r.resolveBase t).result = .ok s) :
    (r.resolveBase t).events = r.factoryCalls (dropListSuffixes t).2 := by
  obtain ⟨single, hsingle, -⟩ := Traced.result_bind_eq_ok_iff.1 h
  refine (Traced.events_bind_of_ok _ hsingle).trans ?_
  rw [Traced.events_pure, List.append_nil, r.events_resolveSingle hsingle]
  rfl

/-- Resolving a type expression calls the factory and then the modifiers. -/
theorem events_resolveExpression {t : Text} {s : Schema}
    (h : (r.resolveExpression t).result = .ok s) :
    (r.resolveExpression t).events = r.expressionCalls t := by
  unfold resolveExpression at h ⊢
  unfold expressionCalls
  dsimp only at h ⊢
  obtain ⟨base, hbase, hmodified⟩ := Traced.result_bind_eq_ok_iff.1 h
  rw [Traced.events_bind_of_ok _ hbase, r.events_resolveBase hbase,
    r.events_applyModifiers hmodified]

end Registry

-- ============================================================ stretches

namespace Sequential

/-- The stretches of a type, told from its text: the calls of an expression, or the
reading of an inline object, the stretches of its properties and the calls of the
modifiers after it. -/
def stretches : Nat → Text → Text → List (List Event)
  | 0, _, _ => []
  | depth + 1, name, t =>
    match Plan.inlineObject? (Text.trim t) with
    | none => [r.expressionCalls (Text.trim t)]
    | some (object, modifiers) =>
      match read name (unwrapLists object.length object).2 with
      | .error _ => []
      | .ok d =>
        match d.properties with
        | [] => [.literal :: r.modifierCalls modifiers]
        | properties =>
          [.literal] ::
            (properties.flatMap fun p => stretches depth (inlineName d.name p.name) p.type)
            ++ [r.modifierCalls modifiers]

/-- The stretches of a declaration with at least one property are those of its
properties, between the two moments at which it hands over and takes back. -/
def stretchesOf (d : Declaration) : List (List Event) :=
  match d.properties with
  | [] => [[]]
  | properties =>
    [] :: (properties.flatMap fun p =>
      let name := inlineName d.name p.name
      stretches read r (Plan.depthFor name p.type) name p.type) ++ [[]]

end Sequential

namespace Plan

mutual

/-- The stretches of a plan that succeeds, from left to right. -/
def stretches : Plan → List (List Event)
  | .settled outcome => [outcome.events]
  | .waiting started name properties finish =>
    started :: allStretches properties ++
      match (inOrderAll properties).result with
      | .ok fields => [(finish (.modelOf name fields)).events]
      | .error _ => []
termination_by structural plan => plan

/-- The stretches of the plans of some properties. -/
def allStretches : List (Property × Plan) → List (List Event)
  | [] => []
  | (_, plan) :: rest => stretches plan ++ allStretches rest
termination_by structural properties => properties

end

mutual

/-- The events of a plan that succeeds are its stretches. -/
theorem events_inOrder {plan : Plan} {s : Schema} (h : plan.inOrder.result = .ok s) :
    plan.inOrder.events = plan.stretches.flatten := by
  match plan, h with
  | .settled outcome, _ => simp [inOrder, stretches]
  | .waiting started name properties finish, h =>
      unfold inOrder at h ⊢
      unfold stretches
      obtain ⟨fields, hfields, hfinish⟩ := Traced.result_bind_eq_ok_iff.1 h
      rw [Traced.result_after] at hfields
      rw [Traced.events_bind_of_ok _ (by simpa using hfields), Traced.events_after,
        events_inOrderAll hfields, hfields]
      simp
termination_by structural plan

/-- The events of properties that succeed are their stretches. -/
theorem events_inOrderAll {properties : List (Property × Plan)}
    {fields : List (Field Schema)} (h : (inOrderAll properties).result = .ok fields) :
    (inOrderAll properties).events = (allStretches properties).flatten := by
  match properties, h with
  | [], _ => rfl
  | (p, plan) :: rest, h =>
      unfold inOrderAll at h ⊢
      unfold allStretches
      obtain ⟨s, hs, hothers⟩ := Traced.result_bind_eq_ok_iff.1 h
      obtain ⟨others, hrest, -⟩ := Traced.result_bind_eq_ok_iff.1 hothers
      rw [Traced.events_bind_of_ok _ hs, Traced.events_bind_of_ok _ hrest,
        events_inOrder hs, events_inOrderAll hrest]
      simp
termination_by structural properties

end

/-- The stretches of plans of properties that succeed, given those of each plan. -/
theorem allStretches_map {plan : Property → Plan} {known : Property → List (List Event)}
    {properties : List Property} {fields : List (Field Schema)}
    (hknown : ∀ p s, (plan p).inOrder.result = .ok s → (plan p).stretches = known p)
    (h : (inOrderAll (properties.map fun p => (p, plan p))).result = .ok fields) :
    allStretches (properties.map fun p => (p, plan p)) = properties.flatMap known := by
  induction properties generalizing fields with
  | nil => rfl
  | cons p rest ih =>
      rw [List.map_cons, inOrderAll] at h
      obtain ⟨s, hs, hothers⟩ := Traced.result_bind_eq_ok_iff.1 h
      obtain ⟨others, hrest, -⟩ := Traced.result_bind_eq_ok_iff.1 hothers
      rw [List.map_cons, allStretches, hknown p s hs, ih hrest, List.flatMap_cons]

/-- The stretches of a plan that waits for properties and succeeds. -/
theorem stretches_waiting_map {started : List Event} {name : Text} {plan : Property → Plan}
    {known : Property → List (List Event)} (properties : List Property)
    {finish : Schema → Traced Schema} {last : List Event} {s : Schema}
    (hknown : ∀ p s, (plan p).inOrder.result = .ok s → (plan p).stretches = known p)
    (hlast : ∀ m s, (finish m).result = .ok s → (finish m).events = last)
    (h : (waiting started name (properties.map fun p => (p, plan p)) finish).inOrder.result
      = .ok s) :
    (waiting started name (properties.map fun p => (p, plan p)) finish).stretches
      = started :: properties.flatMap known ++ [last] := by
  unfold inOrder at h
  obtain ⟨fields, hfields, hfinish⟩ := Traced.result_bind_eq_ok_iff.1 h
  rw [Traced.result_after] at hfields
  rw [stretches, allStretches_map hknown hfields, hfields]
  dsimp only
  rw [hlast _ _ hfinish]

/-- The stretches of the plan of a type that succeeds can be told from its text. -/
theorem stretches_ofType {depth : Nat} {name t : Text} {s : Schema}
    (h : (ofType read r depth name t).inOrder.result = .ok s) :
    (ofType read r depth name t).stretches = Sequential.stretches read r depth name t := by
  induction depth generalizing name t s with
  | zero => cases h
  | succ depth ih =>
      unfold ofType at h ⊢
      unfold Sequential.stretches
      dsimp only at h ⊢
      cases hobject : inlineObject? (Text.trim t) with
      | none =>
          rw [hobject] at h
          dsimp only [stretches]
          rw [r.events_resolveExpression h]
      | some found =>
          obtain ⟨object, modifiers⟩ := found
          rw [hobject] at h
          dsimp only at h ⊢
          cases hread : read name (unwrapLists object.length object).2 with
          | error e =>
              rw [hread] at h
              cases h
          | ok d =>
              rw [hread] at h
              obtain ⟨dname, kind, properties, line⟩ := d
              -- without properties nothing waits, and the reading and the modifiers make one
              -- stretch
              cases properties with
              | nil =>
                  dsimp only [stretches] at h ⊢
                  rw [Traced.events_after, r.events_applyModifiers h]
                  rfl
              | cons p rest =>
                  exact stretches_waiting_map (p :: rest)
                    (fun p s hs => ih hs) (fun m s hs => r.events_applyModifiers hs) h

/-- The stretches of the plan of a declaration that succeeds. -/
theorem stretches_ofDeclaration {d : Declaration} {s : Schema}
    (h : (ofDeclaration read r d).inOrder.result = .ok s) :
    (ofDeclaration read r d).stretches = Sequential.stretchesOf read r d := by
  obtain ⟨name, kind, properties, line⟩ := d
  cases properties with
  | nil => rfl
  | cons p rest =>
      exact stretches_waiting_map (p :: rest)
        (fun p s hs => stretches_ofType read r hs) (fun m s _ => rfl) h

end Plan

end TypeShape
