/-
Statements keep within their scope, and so do the declarations that they find.
-/
import TypeShape.Proofs.Source.Expressions
import TypeShape.Proofs.Source.Members
import TypeShape.Source.StatementRule

namespace TypeShape.Source.Rules

variable {σ : Scope} (rules : Rules) [hr : rules.Sound]

-- ========================================================= collecting

/-- A parser that reads the rest of a declaration of the given name: the types of its
properties stand after a brace that comes later. -/
def Declares (w : Text) (p : Parser (Text × Nat × List Property)) : Prop :=
  ∀ {σ : Scope} {c : Cursor} {a : Text × Nat × List Property} {c' : Cursor}, σ.Within c →
    p c = .ok (a, c') → a.1 = w ∧ ∃ body, '{' :: body <:+ c.rest ∧ TypesIn body a.2.2

/-- What comes before the members makes no difference. -/
theorem Declares.bind {α : Type} {w : Text} {p : Parser α}
    {f : α → Parser (Text × Nat × List Property)} [hp : ∀ σ, Keeps σ p]
    (hf : ∀ a, Declares w (f a)) : Declares w (p >>= f) := by
  intro σ c a c' hc h
  obtain ⟨x, c₁, hpc, hfc⟩ := bind_eq_ok.1 h
  have hc₁ := (hp _).keeps (hc.narrow hc.rest (List.suffix_refl _)) hpc
  obtain ⟨hname, body, hbody, htypes⟩ := hf x hc₁ hfc
  exact ⟨hname, body, hbody.trans hc₁.rest, htypes⟩

/-- The members end the declaration. -/
theorem Declares.members {w : Text} {line : Nat} {p : Parser (List Property)}
    (hp : ∀ {σ : Scope} {c c' : Cursor} {ps : List Property}, σ.Within c → p c = .ok (ps, c') →
      ∃ body, '{' :: body <:+ c.rest ∧ TypesIn body ps) :
    Declares w (do return (w, line, ← p)) := by
  intro σ c a c' hc h
  obtain ⟨ps, c₁, hpc, hpure⟩ := bind_eq_ok.1 h
  cases hpure
  exact ⟨rfl, hp hc hpc⟩

/-- The name of a declaration is a name that is taken from the text. -/
theorem declaredName_eq_ok {c c' : Cursor} {w : Text} {line : Nat}
    (h : declaredName c = .ok ((w, line), c')) : c.skip.rest = w ++ c'.rest ∧ IsName w := by
  obtain ⟨w', c₁, hname, hline⟩ := bind_eq_ok.1 h
  cases hline
  obtain ⟨w', _, hupcoming, hname⟩ := bind_eq_ok.1 hname
  cases hupcoming
  split at hname
  case isTrue => cases hname
  case isFalse hempty =>
    have hsome : nameLength c.skip.rest ≠ 0 := by
      intro hzero
      rw [hzero] at hempty
      exact hempty rfl
    obtain ⟨w, v, hrest, hw, hlength⟩ := exists_name hsome
    have hword : c.skip.rest.take (nameLength c.skip.rest) = w := by
      rw [hlength, hrest, List.take_left]
    rw [hword] at hname
    cases hname
    refine ⟨?_, hw⟩
    show c.skip.rest = w ++ c.skip.rest.drop w.length
    rw [hrest, List.drop_left]

instance : Keeps σ declaredName := by
  unfold declaredName
  infer_instance

/-- A declaration that is collected has room where it is read. -/
theorem Keeps.collect {kind : Json} {rest : Text × Nat → Parser (Text × Nat × List Property)}
    [hkeeps : ∀ a, Keeps σ (rest a)] (hdeclares : ∀ w line, Declares w (rest (w, line))) :
    Keeps σ (Rules.collect kind (declaredName >>= rest)) := by
  refine ⟨fun {c a c'} hc h => ?_⟩
  obtain ⟨before, c₀, hget, h⟩ := bind_eq_ok.1 h
  cases hget
  obtain ⟨⟨w, line, ps⟩, c₂, hp, h⟩ := bind_eq_ok.1 h
  cases h
  obtain ⟨⟨w', line'⟩, c₁, hname, hrest⟩ := bind_eq_ok.1 hp
  have hc₁ := (inferInstance : Keeps σ declaredName).keeps hc hname
  have hc₂ := (hkeeps _).keeps hc₁ hrest
  refine ⟨hc₂.rest, hc₂.left, fun d hd => ?_⟩
  rcases List.mem_cons.1 hd with rfl | hd
  · obtain ⟨hw, body, hbody, htypes⟩ := hdeclares w' line' hc₁ hrest
    obtain ⟨first, hfirst⟩ := hc.skip.rest
    obtain ⟨between, hbetween⟩ := hbody
    obtain ⟨hskip, hisName⟩ := declaredName_eq_ok hname
    refine σ.covers _ ⟨first ++ w' ++ between, body, ?_, ?_, htypes⟩
    · rw [← hfirst, hskip, ← hbetween]
      simp only [List.append_assoc]
    · cases hw
      exact ⟨hisName, first, between, rfl⟩
  · exact hc.found d hd

-- ========================================================== declarations

instance : Keeps σ rules.extendedTypes := by
  unfold extendedTypes
  infer_instance

instance : Keeps σ rules.heritageOperand := by
  refine ⟨fun {c a c'} hc h => ?_⟩
  unfold heritageOperand at h
  exact Keeps.keeps hc h

instance : Keeps σ rules.interfaceRule := by
  refine Keeps.collect fun w line => ?_
  exact Declares.bind fun _ => Declares.bind fun _ => Declares.members (rules.typeMembers_types)

instance : Keeps σ rules.classRule := by
  refine Keeps.collect fun w line => ?_
  exact Declares.bind fun _ => Declares.bind fun _ => Declares.members (rules.classMembers_types)

instance : Keeps σ rules.functionRule := by
  unfold functionRule
  infer_instance

instance : Keeps σ rules.aliasRule := by
  unfold aliasRule
  infer_instance

instance : Keeps σ rules.enumRule := by
  unfold enumRule
  infer_instance

instance : Keeps σ rules.namespaceRule := by
  unfold namespaceRule
  infer_instance

instance (allowIn : Bool) : Keeps σ (rules.variableRule allowIn) := by
  unfold variableRule
  infer_instance

instance : Keeps σ rules.variablesRule := by
  unfold variablesRule
  infer_instance

-- ==================================================== imports and exports

instance : Keeps σ exportClause := by
  unfold exportClause
  infer_instance

instance : Keeps σ rules.fromRule := by
  unfold fromRule
  infer_instance

instance : Keeps σ importAlias := by
  unfold importAlias
  infer_instance

set_option synthInstance.maxSize 2000 in
instance : Keeps σ rules.importRule := by
  unfold importRule
  infer_instance

set_option synthInstance.maxSize 512 in
instance (declaration : Parser Unit) [Keeps σ declaration] : Keeps σ (rules.exportRule declaration) := by
  unfold exportRule
  infer_instance

-- ====================================================== ambient and others

instance : Keeps σ afterWord := .ask _

set_option synthInstance.maxSize 256 in
instance : Keeps σ rules.declarationRule := by
  unfold declarationRule
  infer_instance

instance : Keeps σ rules.ambientRule := by
  unfold ambientRule
  infer_instance

-- =============================================================== control

instance : Keeps σ rules.condition := by
  unfold condition
  infer_instance

set_option synthInstance.maxSize 1000 in
instance : Keeps σ rules.forRule := by
  unfold forRule
  infer_instance

instance : Keeps σ rules.switchRule := by
  unfold switchRule
  infer_instance

instance : Keeps σ rules.tryRule := by
  unfold tryRule
  infer_instance

instance : Keeps σ rules.expressionStatement := by
  unfold expressionStatement
  infer_instance

set_option synthInstance.maxSize 256 in
instance (w : Text) : Keeps σ (rules.wordStatement w) := by
  unfold wordStatement
  infer_instance

instance : Keeps σ rules.statementRule := by
  unfold statementRule
  refine @Keeps.bind _ _ _ _ _ _ fun t => ?_
  split
  · infer_instance
  · split <;> infer_instance

end TypeShape.Source.Rules
