/-
Expressions and markup keep within their scope, rule by rule as types do.
-/
import TypeShape.Proofs.Source.Types
import TypeShape.Source.ExpressionRule

namespace TypeShape.Source.Rules

variable {σ : Scope} (rules : Rules) [hr : rules.Sound]

-- =============================================================== markup

instance : Keeps σ markupName := by
  unfold markupName
  have hpart (n : Nat) : Keeps σ (match n with | 0 => fail | n => take n) := by
    split <;> infer_instance
  infer_instance

instance : Keeps σ rules.markupExpression := by
  unfold markupExpression
  infer_instance

instance : Keeps σ rules.markupAttribute := by
  unfold markupAttribute
  have hvalue (t : Text) : Keeps σ (match t with
      | '{' :: _ => rules.markupExpression
      | '<' :: _ => rules .element
      | _ => match markupStringLength t with | some n => take n | none => fail) := by
    split
    · infer_instance
    · infer_instance
    · split <;> infer_instance
  infer_instance

instance : Keeps σ seesClosingTag := .ask _

instance : Keeps σ rules.markupChild := by
  have helement : Keeps σ (do
      if ← seesClosingTag then return false
      rules .element
      return true : Parser Bool) := inferInstance
  have hexpression : Keeps σ (do rules.markupExpression; return true : Parser Bool) :=
    inferInstance
  refine ⟨fun {c child c'} hc h => ?_⟩
  have hc := hc.advance (markupTextLength c.rest)
  unfold markupChild at h
  dsimp only at h
  split at h
  · exact helement.keeps hc h
  · exact hexpression.keeps hc h
  · cases h

instance : Keeps σ rules.markupChildren := by
  unfold markupChildren
  infer_instance

instance : Keeps σ rules.elementRule := by
  unfold elementRule
  infer_instance

-- ============================================================= functions

instance (allowIn : Bool) : Keeps σ (rules.arrowBody allowIn) := by
  unfold arrowBody
  infer_instance

instance (allowIn : Bool) : Keeps σ (rules.arrowFunction allowIn) := by
  unfold arrowFunction
  infer_instance

instance : Keeps σ rules.functionExpression := by
  unfold functionExpression
  infer_instance

-- =============================================================== classes

instance (operand : Parser Unit) [Keeps σ operand] : Keeps σ (rules.heritage operand) := by
  unfold heritage
  infer_instance

instance (operand : Parser Unit) [Keeps σ operand] :
    Keeps σ (rules.classExpression operand) := by
  unfold classExpression
  infer_instance

-- ============================================================== literals

instance : Keeps σ rules.objectEntry := by
  unfold objectEntry
  infer_instance

instance (close : Text) (item : Parser Unit) [Keeps σ item] :
    Keeps σ (sparseList close item) := by
  unfold sparseList
  infer_instance

instance : Keeps σ rules.parenthesized := by
  unfold parenthesized
  infer_instance

-- ============================================================== operands

instance (primary : Parser Assignable) [Keeps σ primary] :
    Keeps σ (rules.newOperand primary) := by
  unfold newOperand
  infer_instance

instance (primary : Parser Assignable) [Keeps σ primary] :
    Keeps σ (rules.newExpression primary) := by
  unfold newExpression
  infer_instance

instance (operand : Parser Unit) (primary : Parser Assignable) (w : Text) [Keeps σ operand]
    [Keeps σ primary] : Keeps σ (rules.wordExpression operand primary w) := by
  unfold wordExpression
  infer_instance

instance (rounds : Nat) : Keeps σ (rules.primaryExpression rounds) := by
  have hpattern (n : Option Nat) : Keeps σ (match n with
      | some n => do
        take n
        Pure.pure false
      | none => do
        fail
        Pure.pure false : Parser Assignable) := by
    split <;> infer_instance
  induction rounds with
  | zero => exact .fault _
  | succ rounds ih =>
      unfold primaryExpression
      refine @Keeps.bind _ _ _ _ _ _ fun t => ?_
      split
      · infer_instance
      · split
        · infer_instance
        · split
          · infer_instance
          · split <;> infer_instance

instance : Keeps σ rules.callTypeArguments? := by
  unfold callTypeArguments?
  infer_instance

set_option synthInstance.maxSize 256 in
instance : Keeps σ rules.suffix := by
  unfold suffix
  infer_instance

/-- A round of suffixes ends with what was found. -/
theorem keeps_suffixed (assignable : Assignable) (o : Option Assignable) : Keeps σ (match o with
    | some a => Pure.pure (a, true)
    | none => Pure.pure (assignable, false) : Parser (Assignable × Bool)) := by
  split <;> infer_instance

instance : Keeps σ rules.postfixExpression := by
  have hsuffixed := keeps_suffixed (σ := σ)
  refine ⟨fun {c a c'} hc h => ?_⟩
  unfold postfixExpression at h
  exact Keeps.keeps hc h

instance : Keeps σ rules.unaryExpression := by
  unfold unaryExpression
  infer_instance

-- =========================================================== expressions

/-- A round of operators ends with an operand where one of some length was found. -/
theorem keeps_operated (assignable : Assignable) (n : Nat) : Keeps σ (match n with
    | 0 => Pure.pure (assignable, false)
    | n => do
      take n
      let _ ← rules.unaryExpression
      Pure.pure (false, true) : Parser (Assignable × Bool)) := by
  split <;> infer_instance

instance (allowIn : Bool) : Keeps σ (rules.binaryExpression allowIn) := by
  unfold binaryExpression
  have hoperated := keeps_operated (σ := σ) rules
  infer_instance

instance (allowIn : Bool) : Keeps σ (rules.conditionalExpression allowIn) := by
  unfold conditionalExpression
  infer_instance

instance (allowIn : Bool) : Keeps σ (rules.yieldExpression allowIn) := by
  unfold yieldExpression
  infer_instance

instance (allowIn : Bool) : Keeps σ (rules.expressionRule allowIn) := by
  unfold expressionRule
  infer_instance

end TypeShape.Source.Rules
