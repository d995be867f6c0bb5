/-
Statements go abreast under rules that are alike, and so do the declarations that they find.
-/
import TypeShape.Proofs.Source.Walk.Expressions

namespace TypeShape.Source.Rules

variable {C : Course} {k j : Nat} {t : Text} {φ : Prop} (rules rules' : Rules)
  [hr : Rules.Alike C rules rules'] [hC : C.Templates]

-- ========================================================== declarations

/-- What is collected is put on top of what was found before. -/
theorem collect_run (kind : Json) (p : Parser (Text × Nat × List Property)) (c : Cursor) :
    collect kind p c = (p c).map fun ((name, line, properties), c') =>
      ((), { c' with found := { name, kind, properties, line := .int line } :: c.found }) := by
  have hget : (get : Parser Cursor) c = .ok (c, c) := rfl
  cases hp : p c <;> (simp only [collect, Bind.bind, StateT.bind, Except.bind, hget, hp]; rfl)

instance (kind : Json) (p q : Parser (Text × Nat × List Property))
    [h : Abreast C k (k + 1) t φ p q] :
    Abreast C k (k + 1) t φ (collect kind p) (collect kind q) := by
  refine ⟨fun {c} hφ hc ht => ?_⟩
  obtain ⟨heq, hends⟩ := h.along hφ hc ht
  rw [collect_run, collect_run, heq]
  cases hq : q c with
  | error e => exact ⟨rfl, fun h => by cases h⟩
  | ok r =>
      obtain ⟨a, c'⟩ := r
      exact ⟨rfl, fun h => by cases h; exact C.found (hends hq)⟩

instance : Abreast C k (k + 1) t φ declaredName declaredName := by
  unfold declaredName
  infer_instance

instance : Abreast C k (k + 1) t φ rules.extendedTypes rules'.extendedTypes := by
  unfold extendedTypes
  infer_instance

instance : Abreast C k (k + 1) t φ rules.interfaceRule rules'.interfaceRule := by
  unfold interfaceRule
  infer_instance

instance : Abreast C k (k + 1) t φ rules.heritageOperand rules'.heritageOperand := by
  refine ⟨fun {c} hφ hc ht => ?_⟩
  unfold heritageOperand
  exact Abreast.along hφ hc ht

instance : Abreast C k (k + 1) t φ rules.classRule rules'.classRule := by
  unfold classRule
  infer_instance

instance : Abreast C k (k + 1) t φ rules.functionRule rules'.functionRule := by
  unfold functionRule
  infer_instance

instance : Abreast C k (k + 1) t φ rules.aliasRule rules'.aliasRule := by
  unfold aliasRule
  infer_instance

instance : Abreast C k (k + 1) t φ rules.enumRule rules'.enumRule := by
  unfold enumRule
  infer_instance

instance : Abreast C k (k + 1) t φ rules.namespaceRule rules'.namespaceRule := by
  unfold namespaceRule
  infer_instance

instance (allowIn : Bool) :
    Abreast C k (k + 1) t φ (rules.variableRule allowIn) (rules'.variableRule allowIn) := by
  unfold variableRule
  infer_instance

instance : Abreast C k (k + 1) t φ rules.variablesRule rules'.variablesRule := by
  unfold variablesRule
  infer_instance

-- ==================================================== imports and exports

instance : Abreast C k (k + 1) t φ exportClause exportClause := by
  unfold exportClause
  infer_instance

instance : Abreast C k (k + 1) t φ rules.fromRule rules'.fromRule := by
  unfold fromRule
  infer_instance

instance : Abreast C k (k + 1) t φ importAlias importAlias := by
  unfold importAlias
  infer_instance

set_option synthInstance.maxSize 512 in
instance : Abreast C k (k + 1) t φ rules.importRule rules'.importRule := by
  unfold importRule
  infer_instance

set_option synthInstance.maxSize 256 in
instance (declaration declaration' : Parser Unit)
    [∀ t φ, Abreast C k (k + 1) t φ declaration declaration'] :
    Abreast C k (k + 1) t φ (rules.exportRule declaration) (rules'.exportRule declaration') := by
  unfold exportRule
  infer_instance

-- ====================================================== ambient and others

instance : Abreast C k (k + 1) t φ rules.declarationRule rules'.declarationRule := by
  unfold declarationRule
  infer_instance

instance : Abreast C k (k + 1) t φ rules.ambientRule rules'.ambientRule := by
  unfold ambientRule
  infer_instance

-- =============================================================== control

instance : Abreast C k (k + 1) t φ rules.condition rules'.condition := by
  unfold condition
  infer_instance

set_option synthInstance.maxSize 512 in
instance : Abreast C k (k + 1) t φ rules.forRule rules'.forRule := by
  unfold forRule
  infer_instance

set_option synthInstance.maxSize 1000 in
instance : Abreast C k (k + 1) t φ rules.switchRule rules'.switchRule := by
  unfold switchRule
  infer_instance

set_option synthInstance.maxSize 256 in
instance : Abreast C k (k + 1) t φ rules.tryRule rules'.tryRule := by
  unfold tryRule
  infer_instance

instance : Abreast C k (k + 1) t φ rules.expressionStatement rules'.expressionStatement := by
  unfold expressionStatement
  infer_instance

set_option synthInstance.maxSize 1000 in
instance : Abreast C k (k + 1) t φ (rules.wordStatement (t.take (nameLength t)))
    (rules'.wordStatement (t.take (nameLength t))) := by
  unfold wordStatement
  infer_instance

instance : Abreast C k (k + 1) t φ rules.statementRule rules'.statementRule := by
  unfold statementRule
  refine @Abreast.upcoming_bind _ _ _ _ _ _ _ _ ?_
  refine @Abreast.ite _ _ _ _ _ _ _ _ _ _ _ _ ?_ ?_
  · infer_instance
  · split <;> infer_instance

end TypeShape.Source.Rules
