/-
Types keep within their scope.

The rules are taken in the order of the grammar, so that each of them finds the instances of those
that it uses; what is left for it is the way it puts them together (`Keeps`). The size of an
instance is raised where a rule asks many questions in a row: what follows a question that was
answered with no is counted for both answers.
-/
import TypeShape.Proofs.Source.Keeps
import TypeShape.Source.TypeRule

namespace TypeShape.Source.Rules

variable {σ : Scope} (rules : Rules) [hr : rules.Sound]

-- ======================================================= type parameters

instance : Keeps σ rules.typeArguments := by
  unfold typeArguments
  infer_instance

instance : Keeps σ rules.typeArguments? := by
  unfold typeArguments?
  infer_instance

set_option synthInstance.maxSize 256 in
instance : Keeps σ rules.typeParameter := by
  unfold typeParameter
  infer_instance

instance : Keeps σ rules.typeParameters := by
  unfold typeParameters
  infer_instance

instance : Keeps σ rules.typeParameters? := by
  unfold typeParameters?
  infer_instance

-- ============================================================ parameters

instance : Keeps σ rules.arguments := by
  unfold arguments
  infer_instance

instance : Keeps σ rules.pattern := by
  unfold pattern
  infer_instance

instance (words : List Text) : Keeps σ (modifier? words) := by
  unfold modifier?
  infer_instance

instance : Keeps σ rules.parameter := by
  unfold parameter
  infer_instance

instance : Keeps σ rules.parameters := by
  unfold parameters
  infer_instance

-- ========================================================== return types

set_option synthInstance.maxSize 256 in
instance : Keeps σ rules.returnType := by
  unfold returnType
  infer_instance

instance : Keeps σ rules.callSignature := by
  unfold callSignature
  infer_instance

-- ================================================================= names

instance : Keeps σ rules.memberName := by
  unfold memberName
  infer_instance

instance : Keeps σ seesCall := by
  unfold seesCall
  infer_instance

instance : Keeps σ leadingComment := .ask _

instance : Keeps σ rules.annotation := by
  unfold annotation
  infer_instance

-- ====================================================== index signatures

instance : Keeps σ rules.indexBracket := by
  unfold indexBracket
  infer_instance

instance : Keeps σ rules.indexSignature := by
  unfold indexSignature
  infer_instance

instance : Keeps σ rules.indexSignature? := by
  unfold indexSignature?
  infer_instance

-- ========================================================= object types

set_option synthInstance.maxSize 1000 in
instance : Keeps σ rules.typeMember := by
  unfold typeMember
  infer_instance

instance : Keeps σ seesClose := by
  unfold seesClose
  infer_instance

instance : Keeps σ close := by
  unfold close
  infer_instance

instance (read : List Property) : Keeps σ (rules.memberRound read) := by
  unfold memberRound
  infer_instance

instance : Keeps σ rules.typeMembers := by
  unfold typeMembers
  infer_instance

-- ============================================================== classes

instance : Keeps σ classModifiers := by
  unfold classModifiers
  infer_instance

set_option synthInstance.maxSize 512 in
instance (isStatic : Bool) (key : Text) : Keeps σ (rules.classMemberAfter isStatic key) := by
  unfold classMemberAfter
  infer_instance

set_option synthInstance.maxSize 1000 in
instance : Keeps σ rules.classMember := by
  unfold classMember
  infer_instance

instance (read : List Property) : Keeps σ (rules.fieldRound read) := by
  unfold fieldRound
  infer_instance

instance : Keeps σ rules.classMembers := by
  unfold classMembers
  infer_instance

-- ============================================================== operands

/-- One round in a template: its text up to the end, or up to a substitution and that too. -/
def templateRound (substitution : Parser Unit) : Parser Bool := fun c =>
  match templateSpan 0 c.rest with
  | none => .error { left := c.left, line := c.line }
  | some n =>
    if "$\x7b".toList.isPrefixOf (c.advance n).rest then
      (do substitution; symbol "\x7d"; return true) ((c.advance n).advance 2)
    else .ok (false, (c.advance n).advance 1)

/-- A template is its opening quote and such rounds. -/
theorem templateWith_eq (substitution : Parser Unit) :
    templateWith substitution = (do symbol "\x60"; repeatWhile (templateRound substitution)) := by
  unfold templateWith
  congr 2
  funext _
  congr 1
  funext c
  unfold templateRound
  cases templateSpan 0 c.rest with
  | none => rfl
  | some n =>
      dsimp only
      split
      case h_1 rest hrest =>
        rw [hrest]
        rfl
      case h_2 other =>
        rw [if_neg]
        intro h
        obtain ⟨rest, hrest⟩ := List.isPrefixOf_iff_prefix.1 h
        exact other rest hrest.symm

theorem templateRound_none {substitution : Parser Unit} {c : Cursor}
    (h : templateSpan 0 c.rest = none) :
    templateRound substitution c = .error { left := c.left, line := c.line } := by
  unfold templateRound
  rw [h]

theorem templateRound_some {substitution : Parser Unit} {c : Cursor} {n : Nat}
    (h : templateSpan 0 c.rest = some n) : templateRound substitution c
      = if "$\x7b".toList.isPrefixOf (c.advance n).rest then
          (do substitution; symbol "\x7d"; return true) ((c.advance n).advance 2)
        else .ok (false, (c.advance n).advance 1) := by
  unfold templateRound
  rw [h]

instance (substitution : Parser Unit) [Keeps σ substitution] :
    Keeps σ (templateRound substitution) := by
  have hclosed : Keeps σ (do substitution; symbol "\x7d"; return true : Parser Bool) :=
    inferInstance
  refine ⟨fun {c b c'} hc h => ?_⟩
  cases hspan : templateSpan 0 c.rest with
  | none =>
      rw [templateRound_none hspan] at h
      cases h
  | some n =>
      rw [templateRound_some hspan] at h
      split at h
      case isTrue => exact hclosed.keeps ((hc.advance n).advance 2) h
      case isFalse =>
        cases h
        exact (hc.advance n).advance 1

instance (substitution : Parser Unit) [Keeps σ substitution] :
    Keeps σ (templateWith substitution) := by
  rw [templateWith_eq]
  infer_instance

set_option synthInstance.maxSize 256 in
instance : Keeps σ rules.typeQuery := by
  unfold typeQuery
  infer_instance

instance : Keeps σ rules.tupleMember := by
  unfold tupleMember
  infer_instance

instance : Keeps σ rules.functionOrGroup := by
  unfold functionOrGroup
  infer_instance

instance : Keeps σ rules.functionType := by
  unfold functionType
  infer_instance

instance : Keeps σ rules.typeName := by
  unfold typeName
  infer_instance

instance (w : Text) : Keeps σ (rules.wordType w) := by
  unfold wordType
  infer_instance

instance : Keeps σ rules.primaryType := by
  unfold primaryType
  refine @Keeps.bind _ _ _ _ _ _ fun t => ?_
  split
  · infer_instance
  · split <;> infer_instance

instance : Keeps σ rules.operandType := by
  unfold operandType
  infer_instance

-- ================================================================= types

instance : Keeps σ typeOperator? := by
  unfold typeOperator?
  infer_instance

instance : Keeps σ rules.typeRule := by
  unfold typeRule
  infer_instance

end TypeShape.Source.Rules
