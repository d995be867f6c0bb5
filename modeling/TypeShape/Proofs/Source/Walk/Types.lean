/-
Types go abreast under rules that are alike.

The rules are taken in the order of the grammar, each with the instances of those that it uses.
What is left for it are the steps between them: a question is answered alike on both sides
(`Abreast.sees_bind`, `Abreast.upcoming_bind`, `Abreast.ite`), a lexeme that was asked for is taken
(`Measured`), a brace is opened or closed (`Abreast.open_bind`, `Abreast.close`), and then both
sides go on whatever comes next (`Anywhere`).
-/
import TypeShape.Proofs.Source.Walk.Basic

namespace TypeShape.Source

/-- A course that goes on after a template if its substitutions keep to it. -/
class Course.Templates (C : Course) : Prop where
  template : ∀ {k t φ} {p q : Parser Unit}, (∀ k t, Abreast C k (k + 1) t True p q) →
    Abreast C k (k + 1) t φ (Rules.templateWith p) (Rules.templateWith q)

namespace Rules

variable {C : Course} {k j : Nat} {t : Text} {φ : Prop} (rules rules' : Rules)
  [hr : Rules.Alike C rules rules'] [hC : C.Templates]

-- ======================================================= type parameters

instance : Abreast C k (k + 1) t φ rules.typeArguments rules'.typeArguments := by
  unfold typeArguments
  infer_instance

instance : Abreast C k (k + 1) t φ rules.typeArguments? rules'.typeArguments? := by
  unfold typeArguments?
  infer_instance

set_option synthInstance.maxSize 256 in
instance : Abreast C k (k + 1) t φ rules.typeParameter rules'.typeParameter := by
  unfold typeParameter
  infer_instance

instance : Abreast C k (k + 1) t φ rules.typeParameters rules'.typeParameters := by
  unfold typeParameters
  infer_instance

instance : Abreast C k (k + 1) t φ rules.typeParameters? rules'.typeParameters? := by
  unfold typeParameters?
  infer_instance

-- ============================================================ parameters

instance : Abreast C k (k + 1) t φ rules.arguments rules'.arguments := by
  unfold arguments
  infer_instance

instance : Abreast C k (k + 1) t φ rules.pattern rules'.pattern := by
  unfold pattern
  infer_instance

instance (words : List Text) : Abreast C k (k + 1) t φ (modifier? words) (modifier? words) := by
  unfold modifier?
  infer_instance

instance : Abreast C k (k + 1) t φ rules.parameter rules'.parameter := by
  unfold parameter
  infer_instance

instance : Abreast C k (k + 1) t φ rules.parameters rules'.parameters := by
  unfold parameters
  infer_instance

-- ========================================================== return types

set_option synthInstance.maxSize 256 in
instance : Abreast C k (k + 1) t φ rules.returnType rules'.returnType := by
  unfold returnType
  infer_instance

instance : Abreast C k (k + 1) t φ rules.callSignature rules'.callSignature := by
  unfold callSignature
  infer_instance

-- ================================================================= names

instance : Abreast C k (k + 1) t φ rules.memberName rules'.memberName := by
  unfold memberName
  infer_instance

instance : Abreast C k (k + 1) t φ seesCall seesCall := by
  unfold seesCall
  infer_instance

instance : Abreast C k (k + 1) t φ rules.annotation rules'.annotation := by
  unfold annotation
  infer_instance

-- ====================================================== index signatures

instance : Abreast C k (k + 1) t φ rules.indexBracket rules'.indexBracket := by
  unfold indexBracket
  infer_instance

instance : Abreast C k (k + 1) t φ rules.indexSignature rules'.indexSignature := by
  unfold indexSignature
  infer_instance

instance : Abreast C k (k + 1) t φ rules.indexSignature? rules'.indexSignature? := by
  unfold indexSignature?
  infer_instance

-- ========================================================= object types

set_option synthInstance.maxSize 1000 in
instance : Abreast C k (k + 1) t φ rules.typeMember rules'.typeMember := by
  unfold typeMember
  infer_instance

instance : Abreast C k (k + 1) t φ seesClose seesClose := by
  unfold seesClose
  infer_instance

instance : Abreast C k k t φ close close := by
  unfold close
  infer_instance

instance (read : List Property) :
    Abreast C k (k + 1) t φ (rules.memberRound read) (rules'.memberRound read) := by
  unfold memberRound
  infer_instance

set_option synthInstance.maxSize 512 in
instance : Abreast C k (k + 1) t φ rules.typeMembers rules'.typeMembers := by
  unfold typeMembers
  infer_instance

-- ============================================================== classes

instance : Abreast C k (k + 1) t φ classModifiers classModifiers := by
  unfold classModifiers
  infer_instance

set_option synthInstance.maxSize 1000 in
instance (isStatic : Bool) (key : Text) : Abreast C k (k + 1) t φ
    (rules.classMemberAfter isStatic key) (rules'.classMemberAfter isStatic key) := by
  unfold classMemberAfter
  infer_instance

set_option synthInstance.maxSize 1000 in
instance : Abreast C k (k + 1) t φ rules.classMember rules'.classMember := by
  unfold classMember
  infer_instance

instance (read : List Property) :
    Abreast C k (k + 1) t φ (rules.fieldRound read) (rules'.fieldRound read) := by
  unfold fieldRound
  infer_instance

instance : Abreast C k (k + 1) t φ rules.classMembers rules'.classMembers := by
  unfold classMembers
  infer_instance

-- ============================================================== operands

instance (p q : Parser Unit) [h : ∀ k t, Abreast C k (k + 1) t True p q] :
    Abreast C k (k + 1) t φ (templateWith p) (templateWith q) :=
  hC.template h

set_option synthInstance.maxSize 512 in
instance : Abreast C k (k + 1) t φ rules.typeQuery rules'.typeQuery := by
  unfold typeQuery
  infer_instance

instance : Abreast C k (k + 1) t φ rules.tupleMember rules'.tupleMember := by
  unfold tupleMember
  infer_instance

instance : Abreast C k (k + 1) t φ rules.functionOrGroup rules'.functionOrGroup := by
  unfold functionOrGroup
  infer_instance

instance : Abreast C k (k + 1) t φ rules.functionType rules'.functionType := by
  unfold functionType
  infer_instance

instance : Abreast C k (k + 1) t φ rules.typeName rules'.typeName := by
  unfold typeName
  infer_instance

instance : Abreast C k (k + 1) t φ (rules.wordType (t.take (nameLength t)))
    (rules'.wordType (t.take (nameLength t))) := by
  unfold wordType
  infer_instance

instance : Abreast C k (k + 1) t φ rules.primaryType rules'.primaryType := by
  unfold primaryType
  refine @Abreast.upcoming_bind _ _ _ _ _ _ _ _ ?_
  refine @Abreast.ite _ _ _ _ _ _ _ _ _ _ _ _ ?_ ?_
  · infer_instance
  · split <;> infer_instance

instance : Abreast C k (k + 1) t φ rules.operandType rules'.operandType := by
  unfold operandType
  infer_instance

-- ================================================================= types

instance : Abreast C k (k + 1) t φ typeOperator? typeOperator? := by
  unfold typeOperator?
  infer_instance

instance : Abreast C k (k + 1) t φ rules.typeRule rules'.typeRule := by
  unfold typeRule
  infer_instance

end Rules

end TypeShape.Source
