/-
Expressions go abreast under rules that are alike.
-/
import TypeShape.Proofs.Source.Walk.Types

namespace TypeShape.Source

-- ============================================================ operators

/-- The first of some plain texts that comes next is a lexeme. -/
theorem lexeme_lengthOfFirst {candidates : List Text} (plain : ∀ s ∈ candidates, Plain s)
    (t : Text) : Lexeme t (lengthOfFirst candidates t) := by
  unfold lengthOfFirst
  cases h : candidates.find? fun s => s.isPrefixOf t with
  | none => exact .none
  | some s =>
      have seen : s.isPrefixOf t = true := by simpa using List.find?_some h
      exact .symbol (plain s (List.mem_of_find?_eq_some h)) seen

/-- An assignment operator is a lexeme. -/
theorem lexeme_assignmentLength (t : Text) : Lexeme t (assignmentLength t) := by
  unfold assignmentLength
  split
  · exact .none
  · exact .none
  · exact .symbol (inferInstance : Plain "=") rfl
  · refine lexeme_lengthOfFirst (fun s hs => ⟨?_⟩) t
    have plain : ∀ s ∈ compoundAssignments,
        (!s.isEmpty && s.all (!delimiters.elem ·) && !s.tail.elem '/') = true := by
      decide
    exact plain s hs

/-- A binary operator is a lexeme. -/
theorem lexeme_binaryLength (allowIn : Bool) (t : Text) : Lexeme t (binaryLength allowIn t) := by
  have plain : ∀ s ∈ binarySymbols,
      (!s.isEmpty && s.all (!delimiters.elem ·) && !s.tail.elem '/') = true := by
    decide
  unfold binaryLength
  split
  · exact .none
  · exact .none
  · have first := lexeme_lengthOfFirst (fun s hs => ⟨plain s hs⟩) t
    dsimp only
    repeat' split
    all_goals first | exact .none | exact .name | exact first

/-- An operator before its operand is a lexeme. -/
theorem lexeme_unaryLength (t : Text) : Lexeme t (unaryLength t) := by
  unfold unaryLength
  split
  · exact .symbol (inferInstance : Plain "++") rfl
  · exact .symbol (inferInstance : Plain "--") rfl
  · exact .symbol (inferInstance : Plain "!") rfl
  · exact .symbol (⟨rfl⟩ : Plain "~") rfl
  · exact .symbol (inferInstance : Plain "+") rfl
  · exact .symbol (inferInstance : Plain "-") rfl
  · dsimp only
    split
    · exact .name
    · exact .none

namespace Rules

variable {C : Course} {k j : Nat} {t : Text} {φ : Prop} (rules rules' : Rules)
  [hr : Rules.Alike C rules rules'] [hC : C.Templates]

instance : Measured φ t (assignmentLength t) := ⟨fun _ => lexeme_assignmentLength t⟩

instance : Measured φ t (unaryLength t) := ⟨fun _ => lexeme_unaryLength t⟩

-- ============================================================= functions

instance (allowIn : Bool) :
    Abreast C k (k + 1) t φ (rules.arrowBody allowIn) (rules'.arrowBody allowIn) := by
  unfold arrowBody
  infer_instance

instance (allowIn : Bool) :
    Abreast C k (k + 1) t φ (rules.arrowFunction allowIn) (rules'.arrowFunction allowIn) := by
  unfold arrowFunction
  infer_instance

instance : Abreast C k (k + 1) t φ rules.functionExpression rules'.functionExpression := by
  unfold functionExpression
  infer_instance

-- =============================================================== classes

instance (operand operand' : Parser Unit) [∀ t φ, Abreast C k (k + 1) t φ operand operand'] :
    Abreast C k (k + 1) t φ (rules.heritage operand) (rules'.heritage operand') := by
  unfold heritage
  infer_instance

instance (operand operand' : Parser Unit) [∀ t φ, Abreast C k (k + 1) t φ operand operand'] :
    Abreast C k (k + 1) t φ (rules.classExpression operand) (rules'.classExpression operand') := by
  unfold classExpression
  infer_instance

-- ============================================================== literals

set_option synthInstance.maxSize 256 in
instance : Abreast C k (k + 1) t φ rules.objectEntry rules'.objectEntry := by
  unfold objectEntry
  infer_instance

instance (close : Text) [Plain close] (item item' : Parser Unit)
    [∀ t φ, Abreast C k (k + 1) t φ item item'] :
    Abreast C k (k + 1) t φ (sparseList close item) (sparseList close item') := by
  unfold sparseList
  infer_instance

instance (item item' : Parser Unit) [∀ t φ, Abreast C (k + 1) (k + 2) t φ item item'] :
    Abreast C (k + 1) (k + 1) t φ (sparseList "\x7d" item) (sparseList "\x7d" item') := by
  unfold sparseList
  infer_instance

instance : Abreast C k (k + 1) t φ rules.parenthesized rules'.parenthesized := by
  unfold parenthesized
  infer_instance

-- ============================================================== operands

section Operands

variable (primary primary' : Parser Assignable) [∀ t φ, Abreast C k (k + 1) t φ primary primary']

set_option synthInstance.maxSize 256 in
instance : Abreast C k (k + 1) t φ (rules.newOperand primary) (rules'.newOperand primary') := by
  unfold newOperand
  infer_instance

instance : Abreast C k (k + 1) t φ (rules.newExpression primary) (rules'.newExpression primary') := by
  unfold newExpression
  infer_instance

instance (operand operand' : Parser Unit) [∀ t φ, Abreast C k (k + 1) t φ operand operand'] :
    Abreast C k (k + 1) t φ (rules.wordExpression operand primary (t.take (nameLength t)))
      (rules'.wordExpression operand' primary' (t.take (nameLength t))) := by
  unfold wordExpression
  infer_instance

end Operands

instance (rounds : Nat) :
    Abreast C k (k + 1) t φ (rules.primaryExpression rounds) (rules'.primaryExpression rounds) := by
  induction rounds generalizing t φ with
  | zero => exact .fault _ fun _ _ => rfl
  | succ rounds ih =>
      unfold primaryExpression
      refine @Abreast.upcoming_bind _ _ _ _ _ _ _ _ ?_
      refine @Abreast.ite _ _ _ _ _ _ _ _ _ _ _ _ ?_ (@Abreast.ite _ _ _ _ _ _ _ _ _ _ _ _ ?_
        (@Abreast.ite _ _ _ _ _ _ _ _ _ _ _ _ ?_ ?_))
      · infer_instance
      · infer_instance
      · infer_instance
      · split
        case h_7 rest =>
          cases hpattern : patternLength ('/' :: rest) with
          | none => infer_instance
          | some n =>
              have measured (φ : Prop) : Measured φ ('/' :: rest) n := ⟨fun _ => .pattern hpattern⟩
              infer_instance
        case h_8 rest =>
          refine @Abreast.get_bind _ _ _ _ _ _ _ _ fun c => ?_
          by_cases markup : c.1.markup = true
          · have element {k t φ} : Abreast C k (k + 1) t φ (rules .element) (rules' .element) :=
              hr.element c.2.1 markup
            infer_instance
          · simp only [if_neg markup]
            infer_instance
        all_goals infer_instance

instance : Abreast C k (k + 1) t φ rules.callTypeArguments? rules'.callTypeArguments? := by
  unfold callTypeArguments?
  infer_instance

set_option synthInstance.maxSize 256 in
instance : Abreast C k (k + 1) t φ rules.suffix rules'.suffix := by
  unfold suffix
  infer_instance

instance : Abreast C k (k + 1) t φ rules.postfixExpression rules'.postfixExpression := by
  have hend (assignable : Assignable) (o : Option Assignable) (t : Text) (φ : Prop) :
      Abreast C k (k + 1) t φ (match o with
        | some a => Pure.pure (a, true)
        | none => Pure.pure (assignable, false) : Parser (Assignable × Bool)) (match o with
        | some a => Pure.pure (a, true)
        | none => Pure.pure (assignable, false)) := by
    split <;> infer_instance
  refine ⟨fun {c} hφ hc ht => ?_⟩
  unfold postfixExpression
  exact Abreast.along hφ hc ht

instance : Abreast C k (k + 1) t φ rules.unaryExpression rules'.unaryExpression := by
  unfold unaryExpression
  infer_instance

-- =========================================================== expressions

instance (allowIn : Bool) :
    Abreast C k (k + 1) t φ (rules.binaryExpression allowIn) (rules'.binaryExpression allowIn) := by
  unfold binaryExpression
  refine @Abreast.bind _ _ _ _ _ _ _ _ _ _ _ inferInstance fun first => ?_
  refine ⟨fun t => @Abreast.iterate _ _ _ _ _ _ _ _ fun assignable => ⟨fun t => ?_⟩⟩
  refine @Abreast.upcoming_bind _ _ _ _ _ _ _ _ ?_
  have hoperator (t : Text) (φ : Prop) : Abreast C k (k + 1) t φ
      (match binaryLength allowIn t with
        | 0 => Pure.pure (assignable, false)
        | n => do
          take n
          let _ ← rules.unaryExpression
          Pure.pure (false, true) : Parser (Assignable × Bool))
      (match binaryLength allowIn t with
        | 0 => Pure.pure (assignable, false)
        | n => do
          take n
          let _ ← rules'.unaryExpression
          Pure.pure (false, true)) := by
    have : Measured φ t (binaryLength allowIn t) := ⟨fun _ => lexeme_binaryLength allowIn t⟩
    split <;> infer_instance
  infer_instance

instance (allowIn : Bool) : Abreast C k (k + 1) t φ (rules.conditionalExpression allowIn)
    (rules'.conditionalExpression allowIn) := by
  unfold conditionalExpression
  infer_instance

instance (allowIn : Bool) :
    Abreast C k (k + 1) t φ (rules.yieldExpression allowIn) (rules'.yieldExpression allowIn) := by
  unfold yieldExpression
  infer_instance

instance (allowIn : Bool) :
    Abreast C k (k + 1) t φ (rules.expressionRule allowIn) (rules'.expressionRule allowIn) := by
  unfold expressionRule
  infer_instance

end Rules

end TypeShape.Source
