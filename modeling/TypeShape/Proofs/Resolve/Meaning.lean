/-
The meaning of a type expression by its tree.

A term means a schema by three tables in turn: the built-in types, which take no parameters,
the registered types, and the declarations. An expression means its base in so many lists, and
then what its modifiers make of that, one after the other. None of this looks at text, and it
is what resolution comes to on any print of the expression (`Plan.run_printed`), with the same
calls.
-/
import TypeShape.Proofs.Resolve.Known
import TypeShape.Proofs.TypeText.Printed
import TypeShape.Resolve.Queue

namespace TypeShape

open TypeText (Term Expression)

namespace Registry

variable (r : Registry)

-- ============================================================== meaning

/-- What a base term means. A registered type of its name decides alone, also when it
declines. `written` is what a fault reports. -/
def termMeaning (b : Term) (written : Text) : Traced Schema :=
  match if b.parameters.isEmpty then Schema.builtIn? b.name else none with
  | some s => pure s
  | none =>
    match r.types.find? b.key, r.interfaces.find? b.key with
    | some factory, _ => do
      match ← .event (.call b.key b.parameters) (factory b.parameters) with
      | some s => pure s
      | none => .ofResult (.error (.unresolvable written))
    | none, some s => pure (.reference b.key s)
    | none, none => .ofResult (.error (.unresolvable written))

/-- What a modifier makes of a schema: nothing, unless it is registered and answers. -/
def modified (s : Schema) (m : Term) : Traced Schema :=
  match r.modifiers.find? m.key with
  | some modifier => do
    let answer ← .event (.call m.key m.parameters) (modifier s m.parameters)
    return answer.getD s
  | none => pure s

/-- What an expression means whose base is written in a certain way. -/
def meaning (e : Expression) (written : Text) : Traced Schema := do
  let s ← r.termMeaning e.base written
  e.modifiers.foldlM r.modified (s.nested e.lists)

-- ================================================================ terms

variable {r}

/-- No built-in type takes parameters. -/
theorem builtIn?_of_mem {t : Text} (h : '<' ∈ t) : Schema.builtIn? t = none := by
  rw [Schema.builtIn?_eq_none_iff]
  intro builtIn
  have plain : ∀ name ∈ Schema.builtIns.map (·.1), '<' ∉ name := by decide
  exact plain t builtIn h

/-- A printed term is resolved to its meaning. -/
theorem resolveSingle_printed {b : Term} {t : Text} (h : b.Prints t) (plain : b.Plain) :
    r.resolveSingle t = r.termMeaning b t := by
  have noArrow : Text.includes t arrow = false := by
    rw [Text.includes, show arrow = '=' :: ['>'] from rfl,
      indexOf?_eq_none (h.notMem plain (by decide) (by decide) (by decide))]
    rfl
  have builtIn : Schema.builtIn? t
      = if b.parameters.isEmpty then Schema.builtIn? b.name else none := by
    cases h with
    | alone name => rfl
    | applied group =>
        rw [if_neg (by simpa using group.ne_nil)]
        exact builtIn?_of_mem (by simp)
  unfold resolveSingle resolveNamed termMeaning
  rw [noArrow, if_neg (by simp), b.read_printed h plain, builtIn]
  cases if b.parameters.isEmpty then Schema.builtIn? b.name else none with
  | some s => rfl
  | none =>
      dsimp only
      cases r.types.find? b.key with
      | some factory => rfl
      | none => cases r.interfaces.find? b.key <;> rfl

/-- Its list suffixes become lists. -/
theorem resolveBase_printed {b : Term} {t : Text} (h : b.Prints t) (plain : b.Plain) (n : Nat) :
    r.resolveBase (t ++ TypeText.suffixes n) = (·.nested n) <$> r.termMeaning b t := by
  have last : t.getLast? ≠ some ']' := fun last =>
    h.notMem plain (by decide) (by decide) (by decide) (List.mem_of_getLast? last)
  unfold resolveBase
  rw [dropListSuffixes_append last]
  dsimp only
  rw [resolveSingle_printed h plain, map_eq_pure_bind]

-- ============================================================ modifiers

/-- Printed modifiers are applied from left to right. -/
theorem applyModifiers_printed {ms : List Term} {us : List Text}
    (h : List.Forall₂ Term.Prints ms us) (plain : ∀ m ∈ ms, m.Plain) (s : Schema) :
    r.applyModifiers us s = ms.foldlM r.modified s := by
  induction h generalizing s with
  | nil => rfl
  | @cons m u ms us printed others ih =>
      have step : r.applyModifiers (u :: us) s = r.modified s m >>= r.applyModifiers us := by
        rw [applyModifiers, m.read_printed printed (plain m (List.mem_cons_self ..))]
        dsimp only
        unfold modified
        cases r.modifiers.find? m.key with
        | some modifier => simp only [bind_assoc, pure_bind]
        | none => rw [pure_bind]
      have rest := ih fun q hq => plain q (List.mem_cons_of_mem _ hq)
      rw [step, List.foldlM_cons]
      exact bind_congr rest

end Registry

-- ========================================================== expressions

namespace Plan

variable {r : Registry}

/-- What happens at once happens as it is. -/
theorem run_settled (outcome : Traced Schema) : (settled outcome).run = outcome :=
  rfl

/-- A printed expression is resolved to its meaning, with the calls of its meaning in their
order. A fault about the base reports it without its list suffixes. -/
theorem run_printed (read : LiteralReader) (r : Registry) {e : Expression} {b t : Text}
    (plain : e.Plain) (printed : e.Prints b t) (name : Text) :
    (ofPropertyType read r name t).run = r.meaning e b := by
  obtain ⟨us, hus, chain, noObject⟩ := e.read_printed printed plain
  have settled : ofPropertyType read r name t
      = .settled (r.resolveExpression (Text.trim t)) := by
    unfold ofPropertyType depthFor ofType
    dsimp only
    rw [noObject]
  have base : e.base.Prints b := by
    cases printed with
    | mk before after base modifiers => exact base
  rw [settled, run_settled]
  unfold Registry.resolveExpression Registry.meaning
  rw [chain]
  dsimp only
  rw [Registry.resolveBase_printed base plain.base, bind_map_left]
  simp only [Registry.applyModifiers_printed hus plain.modifiers]

/-- A base with parameters in two lists; after it a modifier that is not registered, one that
is, and blanks wherever they may stand. -/
theorem run_printed_range :
    let e : Expression :=
      ⟨⟨"Range", ["1".toList, "2".toList]⟩, 2, [⟨"Trim", []⟩, ⟨"Max", ["3".toList]⟩]⟩
    let read : LiteralReader := fun _ t => .error (.unresolvable t)
    let r : Registry := {
      types := [("Range<>", fun _ => .ok (some (.number {})))]
      modifiers := [("Max<>", fun s _ => .ok (some (.list s {})))]
      interfaces := [("Range<>", .boolean)] }
    e.Plain ∧ e.Prints "Range< 1,2 >" " Range< 1,2 >[][] & Trim&Max<3>\t"
    ∧ (ofPropertyType read r "Model" " Range< 1,2 >[][] & Trim&Max<3>\t").run
        = ⟨[.call "Range<>" ["1".toList, "2".toList], .call "Max<>" ["3".toList]],
          .ok (.list (.list (.list (.number {}) {}) {}) {})⟩ := by
  intro e read r
  have plain : e.Plain := by decide
  have parameters : TypeText.PrintsParameters ["1".toList, "2".toList] " 1,2 ".toList :=
    .more (l := [' ']) (r := []) (by decide) (by decide)
      (.last (l := []) (r := [' ']) (by decide) (by decide))
  have limit : TypeText.PrintsParameters ["3".toList] "3".toList :=
    .last (l := []) (r := []) (by decide) (by decide)
  have modifiers : TypeText.PrintsModifiers e.modifiers " & Trim&Max<3>".toList :=
    .more (l := [' ']) (r := [' ']) (by decide) (by decide) (.alone _)
      (.more (l := []) (r := []) (by decide) (by decide) (.applied limit) .none)
  have base : e.base.Prints "Range< 1,2 >".toList := .applied parameters
  have printed : e.Prints "Range< 1,2 >" " Range< 1,2 >[][] & Trim&Max<3>\t" :=
    .mk (l := [' ']) (r := ['\t']) (by decide) (by decide) base modifiers
  exact ⟨plain, printed, run_printed read r plain printed "Model"⟩

end Plan

end TypeShape
