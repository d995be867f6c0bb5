/-
Types that are put together of others: unions and function types.

The rules know names, list suffixes and groups of parameters only, so such a type is one
opaque text to them. A union is unresolvable then, since no name holds its bar
(`run_union`), and a function accepts anything, since it holds an arrow (`run_function`).
Each rule is cut short by a part of the text that it does not look at: after the first group
the rest of a name is dropped, so that a union whose first member is a registered name with
parameters is taken for that member (`run_union_group`); and list suffixes are taken off
before the arrow is looked for, so that a function that returns a list is taken for a list
of functions.
-/
import TypeShape.Proofs.Registry.Filling
import TypeShape.Proofs.Resolve.Meaning
import TypeShape.Proofs.Schema.Accepts
import TypeShape.Proofs.TypeText.Applied

namespace TypeShape

open TypeText (Applied)

-- ======================================================== one base alone

namespace Plan

variable {read : LiteralReader} {r : Registry} {model t : Text}

/-- Without braces and separators a type is its base alone, in lists. -/
theorem run_base (hbrace : '{' ∉ t) (hseparator : '&' ∉ t) :
    (ofPropertyType read r model t).run = (·.nested (dropListSuffixes (Text.trim t)).1)
      <$> r.resolveSingle (dropListSuffixes (Text.trim t)).2 := by
  have sub {c : Char} (h : c ∉ t) : c ∉ Text.trim t :=
    fun hc => h ((trim_isInfix t).subset hc)
  have noObject : inlineObject? (Text.trim t) = none := by
    unfold inlineObject? TypeText.splitObject?
    split
    case h_1 rest heq => exact absurd (heq ▸ List.mem_cons_self) (sub hbrace)
    case h_2 rest heq =>
      exact absurd (heq ▸ List.mem_cons_of_mem _ List.mem_cons_self) (sub hbrace)
    case h_3 => rfl
  have settled : ofPropertyType read r model t = .settled (r.resolveExpression (Text.trim t)) := by
    unfold ofPropertyType depthFor ofType
    dsimp only
    rw [noObject]
  rw [settled, run_settled]
  unfold Registry.resolveExpression
  rw [TypeText.Chain.read_of_notMem (solid_trim t) (sub hbrace) (sub hseparator)]
  dsimp only [Registry.applyModifiers]
  rw [bind_pure, map_eq_pure_bind]
  rfl

end Plan

-- =============================================================== unions

/-- What stands between the members of a union. -/
def bar : Text := " | "

namespace Registry

variable {r : Registry}

/-- A base is unresolvable if nothing is known under its name. -/
theorem resolveSingle_unknown {t : Text} (function : Text.includes t arrow = false)
    (builtIn : t ∉ Schema.builtIns.map (·.1))
    (unknown : (Applied.read t).name ∉ r.types.names ++ r.interfaces.names) :
    r.resolveSingle t = .ofResult (.error (.unresolvable t)) := by
  obtain ⟨types, interfaces⟩ := not_or.1 (mt List.mem_append.2 unknown)
  unfold resolveSingle
  rw [function, if_neg Bool.false_ne_true, Schema.builtIn?_eq_none_iff.2 builtIn]
  unfold resolveNamed
  dsimp only
  rw [Table.find?_eq_none.2 types, Table.find?_eq_none.2 interfaces]
  rfl

end Registry

namespace TypeText.Applied

/-- The looked-up name is the text itself, or what stands before its first `<` and the mark. -/
theorem name_read (t : Text) : (Applied.read t).name = t
    ∨ ∃ name after, t = name ++ '<' :: after ∧ name ≠ [] ∧ '<' ∉ name
      ∧ (Applied.read t).name = name ++ "<>" := by
  rcases read_cases t with h | ⟨base, inner, after, group, h⟩
  · exact .inl (by rw [h])
  · exact .inr ⟨base, inner ++ '>' :: after, by simp [← group.append], group.named, group.opens,
      by rw [h]⟩

end TypeText.Applied

namespace Plan

variable {read : LiteralReader} {r : Registry} {model a b : Text}

/-- The parts of a union: its list suffixes are those of the last member, and what they are
taken off from holds the bar. -/
theorem dropListSuffixes_union : dropListSuffixes (Text.trim (a ++ bar ++ b))
    = ((dropListSuffixes (Text.trimRight b)).1,
      Text.trimLeft (a ++ [' ']) ++ '|' :: (dropListSuffixes (Text.trimRight (' ' :: b))).2) := by
  have apart : a ++ bar ++ b = a ++ [' '] ++ '|' :: (' ' :: b) := by simp [bar]
  rw [apart, trim_append_cons (by decide), dropListSuffixes_append_cons (by decide) (by decide),
    suffixes_blank_cons (by decide)]

/-- A name without bars that opens a group in a union opens it in the first member. -/
theorem trimLeft_member {name after rest : Text} (hbar : '|' ∉ name)
    (h : Text.trimLeft (a ++ [' ']) ++ '|' :: rest = name ++ '<' :: after) :
    ∃ after, Text.trimLeft a = name ++ '<' :: after := by
  have opening : name ++ ['<'] <+: Text.trimLeft (a ++ [' ']) := by
    have barred : name ++ ['<'] <+: Text.trimLeft (a ++ [' ']) ++ '|' :: rest := by
      rw [h]
      exact (List.prefix_append_right_inj name).2 (by simp)
    exact prefix_append_cons (by simp [hbar]) barred
  rw [Text.trimLeft, List.dropWhile_append] at opening
  split at opening
  case isTrue => exact absurd (List.prefix_nil.1 opening) (by simp)
  case isFalse =>
    rcases List.prefix_concat_iff.1 opening with h | ⟨after, h⟩
    · have last := congrArg List.getLast? h
      rw [List.getLast?_concat, List.getLast?_concat] at last
      cases last
    · exact ⟨after, by rw [Text.trimLeft, ← h, List.append_assoc]; rfl⟩

/-- A character that is in no member and not around the bar is not in the union. -/
theorem notMem_union {c : Char} (members : c ∉ a ∧ c ∉ b) (hbar : c ∉ bar) :
    c ∉ a ++ bar ++ b := by
  simp only [List.mem_append, not_or]
  exact ⟨⟨members.1, hbar⟩, members.2⟩

/-- Nor does a union hold an arrow if no member does. -/
theorem includes_union (members : Text.includes a arrow = false ∧ Text.includes b arrow = false) :
    Text.includes (dropListSuffixes (Text.trim (a ++ bar ++ b))).2 arrow = false := by
  simp only [Bool.eq_false_iff, Ne, includes_iff] at members ⊢
  intro h
  have h := h.trans ((base_isPrefix _).isInfix.trans (trim_isInfix _))
  have apart : a ++ bar ++ b = a ++ ' ' :: (['|'] ++ ' ' :: b) := List.append_assoc ..
  rw [apart, infix_append_cons (by decide), infix_append_cons (by decide)] at h
  rcases h with h | h | h
  · exact members.1 h
  · exact absurd h (by decide)
  · exact members.2 h

/-- A union is unresolvable, and nothing is called for it, if no registered name holds its
bar and the first member does not begin with a registered name that takes parameters. -/
theorem run_union (read : LiteralReader) (r : Registry) (model : Text)
    (names : ∀ n ∈ r.types.names ++ r.interfaces.names, '|' ∉ n)
    (separators : '&' ∉ a ∧ '&' ∉ b) (braces : '{' ∉ a ∧ '{' ∉ b)
    (arrows : Text.includes a arrow = false ∧ Text.includes b arrow = false)
    (group : ∀ name after, Text.cut? '<' (Text.trimLeft a) = some (name, after) →
      name ++ "<>" ∉ r.types.names ++ r.interfaces.names) :
    (ofPropertyType read r model (a ++ bar ++ b)).run
      = .ofResult (.error (.unresolvable (dropListSuffixes (Text.trim (a ++ bar ++ b))).2)) := by
  have hbase := congrArg Prod.snd (dropListSuffixes_union (a := a) (b := b))
  have noArrow := includes_union arrows
  rw [run_base (notMem_union braces (by decide)) (notMem_union separators (by decide))]
  generalize (dropListSuffixes (Text.trim (a ++ bar ++ b))).2 = base at hbase noArrow ⊢
  have held : '|' ∈ base := by simp [hbase]
  have builtIn : base ∉ Schema.builtIns.map (·.1) := by
    intro h
    have plain : ∀ name ∈ Schema.builtIns.map (·.1), '|' ∉ name := by decide
    exact plain base h held
  have unknown : (Applied.read base).name ∉ r.types.names ++ r.interfaces.names := by
    rcases Applied.name_read base with h | ⟨name, after, append, hne, absent, h⟩
    · rw [h]
      exact fun registered => names _ registered held
    · rw [h]
      by_cases hbar : '|' ∈ name
      · exact fun registered => names _ registered (List.mem_append_left _ hbar)
      · obtain ⟨after', opening⟩ := trimLeft_member hbar (hbase.symm.trans append)
        exact group name after' (by rw [opening, cut?_append absent])
  rw [Registry.resolveSingle_unknown noArrow builtIn unknown]
  rfl

/-- A declaration before a registered name with parameters: the fault reports the union
without the list suffixes of its last member. -/
theorem run_union_declaration :
    let r : Registry := {
      types := [("Box<>", fun _ => .ok (some (.string {})))]
      modifiers := []
      interfaces := [("User", .modelOf "User" [])] }
    (∀ n ∈ r.types.names ++ r.interfaces.names, '|' ∉ n)
    ∧ (ofPropertyType Source.readLiteral r "Model" ("User".toList ++ bar ++ "Box<1>[]".toList)).run
      = .ofResult (.error (.unresolvable "User | Box<1>")) := by
  intro r
  have names : ∀ n ∈ r.types.names ++ r.interfaces.names, '|' ∉ n := by decide
  exact ⟨names, run_union Source.readLiteral r "Model" names ⟨by decide, by decide⟩
    ⟨by decide, by decide⟩ ⟨by decide, by decide⟩ fun name after cut => by cases cut⟩

/-- The case that `run_union` leaves out: a registered name with parameters is taken for any
union that it begins, in as many lists as the last member ends with. -/
theorem run_union_group {name inner : Text} {first : Char} {factory : Factory} {s : Schema}
    (solid : ∀ c ∈ name.head?, isBlank c = false) (hne : name ≠ []) (hname : '<' ∉ name)
    (hinner : '>' ∉ inner) (ha : a = name ++ '<' :: first :: inner ++ ['>'])
    (registered : r.types.find? (name ++ "<>") = some factory)
    (made : factory ((Text.pieces ',' (first :: inner)).map Text.trim) = .ok (some s))
    (separators : '&' ∉ a ∧ '&' ∉ b) (braces : '{' ∉ a ∧ '{' ∉ b)
    (arrows : Text.includes a arrow = false ∧ Text.includes b arrow = false) :
    (ofPropertyType read r model (a ++ bar ++ b)).run
      = ⟨[.call (name ++ "<>") ((Text.pieces ',' (first :: inner)).map Text.trim)],
        .ok (s.nested (dropListSuffixes (Text.trimRight b)).1)⟩ := by
  have noArrow := includes_union arrows
  rw [run_base (notMem_union braces (by decide)) (notMem_union separators (by decide))]
  rw [dropListSuffixes_union] at noArrow ⊢
  dsimp only at noArrow ⊢
  generalize (dropListSuffixes (Text.trimRight (' ' :: b))).2 = last at noArrow ⊢
  -- without its blanks the text opens with the group, and the bar is behind that
  have opening : Text.trimLeft (a ++ [' ']) ++ '|' :: last
      = name ++ '<' :: first :: inner ++ '>' :: (' ' :: '|' :: last) := by
    subst ha
    rw [Text.trimLeft, dropWhile_isBlank_of_first]
    · simp
    · intro c hc
      refine solid c ?_
      rwa [List.append_assoc, List.append_assoc, head?_append_of_ne_nil hne] at hc
  rw [opening] at noArrow ⊢
  have builtIn : Schema.builtIn? (name ++ '<' :: first :: inner ++ '>' :: (' ' :: '|' :: last)) = none :=
    Registry.builtIn?_of_mem (by simp)
  unfold Registry.resolveSingle Registry.resolveNamed
  rw [noArrow, if_neg Bool.false_ne_true, builtIn, Applied.read_group hne hname hinner]
  dsimp only
  rw [registered]
  dsimp only
  rw [made]
  rfl

/-- A registered name with a parameter, a bar and a built-in type: the union is resolved, as
its first member. -/
theorem run_union_box :
    let r : Registry := {
      types := [("Box<>", fun _ => .ok (some (.string {})))]
      modifiers := []
      interfaces := [] }
    let a : Text := "Box<1>"
    let b : Text := "number"
    (∀ mark ∈ ['&', '{', '}'], mark ∉ a ++ b) ∧ Text.includes a arrow = false
    ∧ Text.includes b arrow = false
    ∧ (ofPropertyType Source.readLiteral r "Model" (a ++ bar ++ b)).run
      = ⟨[.call "Box<>" ["1".toList]], .ok (.string {})⟩ := by
  intro r a b
  have marks : (['&', '{', '}'].all fun mark => !(a ++ b).elem mark) = true := by decide
  exact ⟨by simpa using marks, by decide, by decide, rfl⟩

end Plan

-- ============================================================ functions

/-- A function type with parameters and a result. -/
def functionType (parameters returned : Text) : Text :=
  "(" ++ parameters ++ ") => " ++ returned

/-- Everything is accepted exactly by what is in no list. -/
theorem Schema.accepts_nested_any_iff {n : Nat} :
    (∀ v, (any.nested n).Accepts v) ↔ n = 0 := by
  constructor
  · intro h
    cases n with
    | zero => rfl
    | succ n =>
        obtain ⟨vs, hnull, -⟩ := accepts_list.1 (h .null)
        cases hnull
  · rintro rfl
    exact accepts_any

namespace Plan

/-- A function type is resolved at once, to anything in as many lists as its text ends with.
So it accepts everything unless what it returns is written as a list. -/
theorem run_function (read : LiteralReader) (r : Registry) (model parameters returned : Text)
    (separators : '&' ∉ parameters ∧ '&' ∉ returned)
    (braces : '{' ∉ parameters ∧ '{' ∉ returned) :
    let s := Schema.any.nested (dropListSuffixes (Text.trimRight returned)).1
    (ofPropertyType read r model (functionType parameters returned)).run = pure s
      ∧ ((∀ v, s.Accepts v) ↔ ¬ TypeText.listSuffix <:+ Text.trimRight returned) := by
  intro s
  have parts : dropListSuffixes (Text.trim (functionType parameters returned))
      = ((dropListSuffixes (Text.trimRight returned)).1,
        ("(" ++ parameters ++ ") =") ++ '>' ::
          (dropListSuffixes (Text.trimRight (' ' :: returned))).2) := by
    have apart : functionType parameters returned
        = ("(" ++ parameters ++ ") =") ++ '>' :: (' ' :: returned) := by simp [functionType]
    rw [apart, trim_append_cons (by decide), dropListSuffixes_append_cons (by decide) (by decide),
      suffixes_blank_cons (by decide)]
    rfl
  have function : Text.includes (("(" ++ parameters ++ ") =") ++ '>' ::
      (dropListSuffixes (Text.trimRight (' ' :: returned))).2) arrow = true := by
    rw [includes_iff]
    exact ⟨"(" ++ parameters ++ ") ", (dropListSuffixes (Text.trimRight (' ' :: returned))).2,
      by simp [arrow]⟩
  constructor
  · rw [run_base (by simp [functionType, braces]) (by simp [functionType, separators]), parts]
    dsimp only
    unfold Registry.resolveSingle
    rw [if_pos function]
    rfl
  · rw [Schema.accepts_nested_any_iff, dropListSuffixes_eq_zero_iff]

/-- A function that returns a function, whose parameters end with suffixes. -/
theorem run_function_curried :
    ∃ s, (ofPropertyType Source.readLiteral .empty "Model"
        (functionType "a: number[], b: T[]" " (c: Box<T[]>[]) => Promise<void> ")).run = pure s
      ∧ ∀ v, s.Accepts v := by
  obtain ⟨hrun, haccepts⟩ := run_function Source.readLiteral .empty "Model"
    "a: number[], b: T[]" " (c: Box<T[]>[]) => Promise<void> "
    ⟨by decide, by decide⟩ ⟨by decide, by decide⟩
  exact ⟨_, hrun, haccepts.2 (by decide)⟩

/-- A function that returns a list is a list of anything, which accepts no text. -/
theorem run_function_list :
    (ofPropertyType Source.readLiteral .empty "Model" (functionType [] "string[]")).run
      = pure (.list .any {})
    ∧ ¬ (Schema.list .any {}).Accepts (.str "x") := by
  refine ⟨rfl, fun h => ?_⟩
  obtain ⟨vs, hstr, -⟩ := Schema.accepts_list.1 h
  cases hstr

end Plan

end TypeShape
