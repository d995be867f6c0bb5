/-
The bound on nesting is never met.

Every goal that is entered inside another one has taken a character before, save that a
statement may begin with an expression and an expression with an element. So parsers of any two
depths that are great enough for the text come to the same (`parse_alike`). What was found before
makes no difference either: it stays under what is found.

The rules are walked through on two courses at once: up to the first character on the longer
one, where the goals inside are not yet known to be alike, and from then on along the shorter one.
-/
import TypeShape.Proofs.Source.Walk.Progress

namespace TypeShape.Source

variable {n k j : Nat} {base : List Declaration} {t : Text} {φ : Prop} {α β : Type}

-- ========================================================= short courses

/-- Whatever keeps within its text keeps to a short course. -/
theorem Abreast.of_keeps {p : Parser α} [∀ σ, Keeps σ p]
    (h : ∀ c, p (c.onto base) = onto base (p c)) : Abreast (short n base) k j t φ p p :=
  ⟨fun {c} _ hc _ => ⟨h c, fun hok => hc.of_keeps hok⟩⟩

instance (length : Nat) : Abreast (short n base) k j t φ (take length) (take length) :=
  .of_keeps fun _ => rfl

instance (s : Text) : Abreast (short n base) k j t φ (symbol s) (symbol s) :=
  .of_keeps fun c => symbol_onto s c base

instance : Abreast (short n base) k j t φ Rules.close Rules.close := by
  unfold Rules.close
  infer_instance

/-- After a character the shorter course is gone on with. -/
instance (priority := high) Abreast.bind_advance {p q : Parser α} {f g : α → Parser β}
    [hp : Abreast (short (n + 1) base) k (k + 1) t φ p q] [hq : Leads (n + 1) n t φ q]
    [hf : ∀ a, Anywhere (short n base) k j (f a) (g a)] :
    Abreast (short (n + 1) base) k j t φ (p >>= f) (q >>= g) := by
  refine ⟨fun {c} hφ hc ht => ?_⟩
  have hbind := Abreast.along_bind (C := short n base) (c := c) (i := k)
    ⟨(hp.along hφ hc ht).1, fun hok => hq.leads hφ hc ht hok⟩ hf
  exact ⟨hbind.1, fun hok => (hbind.2 hok).mono (Nat.le_succ n)⟩

/-- The shorter course is gone on with if something is taken. -/
instance (priority := high) Abreast.perhaps_bind {p : Parser Bool} {f g : Bool → Parser β}
    [hp : Perhaps p] [hf : Anywhere (short n base) k j (f true) (g true)]
    [hf' : Abreast (short (n + 1) base) k j t φ (f false) (g false)] :
    Abreast (short (n + 1) base) k j t φ (p >>= f) (p >>= g) := by
  refine ⟨fun {c} hφ hc ht => ?_⟩
  have honto : p (c.onto base) = onto base (p c) := by
    rw [hp.eq, hp.eq]
    show (if hp.test c.skip.rest then _ else _) = _
    split <;> rfl
  cases hpc : p c with
  | error e =>
      rw [hp.eq] at hpc
      split at hpc <;> cases hpc
  | ok r =>
      obtain ⟨taken, c'⟩ := r
      rw [hpc] at honto
      have hf₁ : (p >>= f) (c.onto base) = f taken (c'.onto base) := by
        simp only [Bind.bind, StateT.bind, Except.bind, honto, onto]
      have hg₁ : (p >>= g) c = g taken c' := by
        simp only [Bind.bind, StateT.bind, Except.bind, hpc]
      show (p >>= f) (c.onto base) = _ ∧ _
      rw [hf₁, hg₁]
      cases taken with
      | true =>
          obtain ⟨heq, hends⟩ := (hf.abreast _).along trivial (hp.below hc hpc) rfl
          exact ⟨heq, fun hok => (hends hok).mono (Nat.le_succ n)⟩
      | false =>
          cases hp.eq_of_false hpc
          exact hf'.along hφ hc ht

/-- From the shorter course it is gone back to the longer one, if that is left again. -/
instance Abreast.go_back_advance {t' : Text} {f g : PUnit → Parser β}
    (c : { c // (short (n + 1) base).Holds (k + 1) c ∧ c.skip.rest = t' })
    [hf : Abreast (short (n + 1) base) k j t' True (f ⟨⟩) (g ⟨⟩)]
    [hg : Leads (n + 1) n t' True (g ⟨⟩)] :
    Abreast (short n base) k j t φ (set (c.1.onto (short (n + 1) base).base) >>= f)
      (set c.1 >>= g) :=
  ⟨fun _ _ _ => ⟨(hf.along trivial c.2.1 c.2.2).1, fun hok => hg.leads trivial c.2.1 c.2.2 hok⟩⟩

-- =========================================================== short loops

instance (close : Text) (item item' : Parser Unit)
    [∀ t φ, Abreast (short n base) k (k + 1) t φ item item'] :
    Abreast (short n base) k (k + 1) t φ (Rules.sparseList close item)
      (Rules.sparseList close item') := by
  unfold Rules.sparseList
  infer_instance

-- ============================================================ templates

instance (p q : Parser Unit) [h : ∀ t, Abreast (short n base) k (k + 1) t True p q] :
    Abreast (short n base) k (k + 1) t φ (Rules.templateRound p) (Rules.templateRound q) := by
  have closed (t : Text) : Abreast (short n base) k (k + 1) t True
      (do p; symbol "\x7d"; return true : Parser Bool) (do q; symbol "\x7d"; return true) :=
    inferInstance
  refine ⟨fun {c} _ hc _ => ?_⟩
  have hspan' (m : Option Nat) (h : templateSpan 0 c.rest = m) :
      templateSpan 0 (c.onto (short n base).base).rest = m := h
  cases hspan : templateSpan 0 c.rest with
  | none =>
      rw [Rules.templateRound_none hspan, Rules.templateRound_none (hspan' _ hspan)]
      exact ⟨rfl, fun hok => by cases hok⟩
  | some length =>
      have hc := hc.advance length
      rw [Rules.templateRound_some hspan, Rules.templateRound_some (hspan' _ hspan)]
      show (if "$\x7b".toList.isPrefixOf (c.advance length).rest then _ else _) = _ ∧ _
      split
      case isTrue => exact (closed _).along trivial (hc.advance 2) rfl
      case isFalse => exact ⟨rfl, fun hok => by cases hok; exact hc.advance 1⟩

instance : (short n base).Templates where
  template h := by
    rw [Rules.templateWith_eq, Rules.templateWith_eq]
    infer_instance

-- =============================================================== markup

namespace Rules

variable (rules rules' : Rules) [hr : Rules.Alike (short n base) rules rules']

section Markup

variable [he : ∀ t φ, Abreast (short n base) k (k + 1) t φ (rules .element) (rules' .element)]

instance : Abreast (short n base) k (k + 1) t φ markupName markupName := by
  unfold markupName
  have hpart (n' : Nat) (t : Text) (φ : Prop) : Abreast (short n base) k (k + 1) t φ
      (match n' with | 0 => fail | n => take n : Parser Unit) (match n' with | 0 => fail | n => take n) := by
    split <;> infer_instance
  infer_instance

instance : Abreast (short n base) k (k + 1) t φ rules.markupExpression rules'.markupExpression := by
  unfold markupExpression
  infer_instance

instance : Abreast (short n base) k (k + 1) t φ rules.markupAttribute rules'.markupAttribute := by
  unfold markupAttribute
  have hvalue (t : Text) (φ : Prop) : Abreast (short n base) k (k + 1) t φ
      (match t with
        | '{' :: _ => rules.markupExpression
        | '<' :: _ => rules .element
        | _ => match markupStringLength t with | some n => take n | none => fail)
      (match t with
        | '{' :: _ => rules'.markupExpression
        | '<' :: _ => rules' .element
        | _ => match markupStringLength t with | some n => take n | none => fail) := by
    split
    · infer_instance
    · infer_instance
    · split <;> infer_instance
  infer_instance

instance : Abreast (short n base) k (k + 1) t φ seesClosingTag seesClosingTag :=
  .ask _ fun _ _ => rfl

/-- A child that opens with an element, an expression, or neither. -/
def markupChildAt (t : Text) : Parser Bool :=
  match t with
  | '<' :: _ => do if ← seesClosingTag then return false else rules .element; return true
  | '{' :: _ => do rules.markupExpression; return true
  | _ => fun c => .error { left := c.left, line := c.line }

/-- A child is some text, and what the text after it opens with. -/
theorem markupChild_eq {c : Cursor} {t : Text}
    (h : (c.advance (markupTextLength c.rest)).rest = t) :
    rules.markupChild c = rules.markupChildAt t (c.advance (markupTextLength c.rest)) := by
  unfold markupChild
  dsimp only
  split
  case h_1 hrest => rw [← h, hrest]; rfl
  case h_2 hrest => rw [← h, hrest]; rfl
  case h_3 hmarkup hbrace =>
    unfold markupChildAt
    split
    case h_1 => cases hmarkup _ h
    case h_2 => cases hbrace _ h
    case h_3 => rfl

instance (rest : Text) :
    Abreast (short n base) k (k + 1) t φ (rules.markupChildAt rest) (rules'.markupChildAt rest) := by
  unfold markupChildAt
  split
  · infer_instance
  · infer_instance
  · exact .fault _ fun _ _ => rfl

instance : Abreast (short n base) k (k + 1) t φ rules.markupChild rules'.markupChild := by
  refine ⟨fun {c} _ hc _ => ?_⟩
  have hchild (c' : Cursor) : Abreast (short n base) k (k + 1) c'.skip.rest True
      (rules.markupChildAt c'.rest) (rules'.markupChildAt c'.rest) := inferInstance
  rw [markupChild_eq rules rfl, markupChild_eq rules' rfl]
  exact (hchild _).along trivial (hc.advance (markupTextLength c.rest)) rfl

instance : Abreast (short n base) k (k + 1) t φ rules.markupChildren rules'.markupChildren := by
  unfold markupChildren
  infer_instance

set_option synthInstance.maxSize 256 in
instance : Abreast (short (n + 1) base) k (k + 1) t φ rules.elementRule rules'.elementRule := by
  unfold elementRule
  infer_instance

end Markup

-- ========================================================= first characters

variable [hsound : rules'.Sound]

instance (arguments arguments' : Parser Unit)
    [∀ t φ, Abreast (short n base) k (k + 1) t φ arguments arguments'] :
    Abreast (short (n + 1) base) k (k + 1) t φ (rules.decorators arguments)
      (rules'.decorators arguments') := by
  unfold decorators
  dsimp only
  infer_instance

section Types

instance : Abreast (short (n + 1) base) k (k + 1) t φ rules.typeArguments rules'.typeArguments := by
  unfold typeArguments
  infer_instance

instance : Abreast (short (n + 1) base) k (k + 1) t φ rules.typeParameters? rules'.typeParameters? := by
  unfold typeParameters? typeParameters
  infer_instance

instance : Abreast (short (n + 1) base) k (k + 1) t φ rules.parameters rules'.parameters := by
  unfold parameters
  infer_instance

instance : Abreast (short (n + 1) base) k (k + 1) t φ rules.callSignature rules'.callSignature := by
  unfold callSignature
  infer_instance

instance : Abreast (short (n + 1) base) k (k + 1) t φ rules.functionOrGroup rules'.functionOrGroup := by
  unfold functionOrGroup
  infer_instance

instance : Abreast (short (n + 1) base) k (k + 1) t φ rules.functionType rules'.functionType := by
  unfold functionType
  infer_instance

instance : Abreast (short (n + 1) base) k (k + 1) t φ rules.typeName rules'.typeName := by
  unfold typeName
  infer_instance

set_option synthInstance.maxSize 512 in
instance : Abreast (short (n + 1) base) k (k + 1) t φ rules.typeMembers rules'.typeMembers := by
  unfold typeMembers
  infer_instance

instance : Abreast (short (n + 1) base) k (k + 1) t φ typeOperator? typeOperator? := by
  unfold typeOperator?
  infer_instance

instance (p q : Parser Unit) [∀ t, Abreast (short n base) k (k + 1) t True p q] :
    Abreast (short (n + 1) base) k (k + 1) t φ (templateWith p) (templateWith q) := by
  rw [templateWith_eq, templateWith_eq]
  infer_instance

set_option synthInstance.maxSize 256 in
instance [Positive φ t (t.take (nameLength t)).length] : Abreast (short (n + 1) base) k (k + 1) t φ
    (rules.wordType (t.take (nameLength t))) (rules'.wordType (t.take (nameLength t))) := by
  unfold wordType
  infer_instance

instance : Abreast (short (n + 1) base) k (k + 1) t φ rules.primaryType rules'.primaryType := by
  unfold primaryType
  refine @Abreast.upcoming_bind _ _ _ _ _ _ _ _ ?_
  refine @Abreast.ite _ _ _ _ _ _ _ _ _ _ _ _ ?_ ?_
  · infer_instance
  · split <;> infer_instance

set_option synthInstance.maxSize 256 in
instance : Abreast (short (n + 1) base) k (k + 1) t φ rules.operandType rules'.operandType := by
  unfold operandType
  infer_instance

instance : Abreast (short (n + 1) base) k (k + 1) t φ rules.typeRule rules'.typeRule := by
  unfold typeRule
  infer_instance

end Types

section Expressions

variable [ha : rules'.Advance] [he : ∀ k t φ,
  Abreast (short (n + 1) base) k (k + 1) t φ (rules .element) (rules' .element)]

instance (allowIn : Bool) : Abreast (short (n + 1) base) k (k + 1) t φ
    (rules.arrowFunction allowIn) (rules'.arrowFunction allowIn) := by
  unfold arrowFunction
  infer_instance

instance : Abreast (short (n + 1) base) k (k + 1) t φ rules.parenthesized rules'.parenthesized := by
  unfold parenthesized
  infer_instance

set_option synthInstance.maxSize 256 in
instance : Abreast (short (n + 1) base) k (k + 1) t φ rules.arguments rules'.arguments := by
  unfold arguments
  infer_instance

instance : Abreast (short (n + 1) base) k (k + 1) t φ rules.callTypeArguments? rules'.callTypeArguments? := by
  unfold callTypeArguments?
  infer_instance

set_option synthInstance.maxSize 256 in
instance : Abreast (short (n + 1) base) k (k + 1) t φ rules.suffix rules'.suffix := by
  unfold suffix
  infer_instance

set_option synthInstance.maxSize 256 in
instance (operand operand' : Parser Unit) (primary primary' : Parser Assignable)
    [∀ t φ, Abreast (short n base) k (k + 1) t φ operand operand']
    [∀ t φ, Abreast (short n base) k (k + 1) t φ primary primary']
    [Positive φ t (t.take (nameLength t)).length] : Abreast (short (n + 1) base) k (k + 1) t φ
      (rules.wordExpression operand primary (t.take (nameLength t)))
      (rules'.wordExpression operand' primary' (t.take (nameLength t))) := by
  unfold wordExpression
  infer_instance

set_option synthInstance.maxSize 256 in
instance (rounds : Nat) : Abreast (short (n + 1) base) k (k + 1) t φ
    (rules.primaryExpression rounds) (rules'.primaryExpression rounds) := by
  cases rounds with
  | zero => exact .fault _ fun _ _ => rfl
  | succ rounds =>
      unfold primaryExpression
      refine @Abreast.upcoming_bind _ _ _ _ _ _ _ _ ?_
      refine @Abreast.ite _ _ _ _ _ _ _ _ _ _ _ _ ?_ (@Abreast.ite _ _ _ _ _ _ _ _ _ _ _ _ ?_
        (@Abreast.ite _ _ _ _ _ _ _ _ _ _ _ _ ?_ ?_))
      · infer_instance
      · infer_instance
      · infer_instance
      · split
        case h_7 rest => cases patternLength ('/' :: rest) <;> infer_instance
        all_goals infer_instance

instance : Abreast (short (n + 1) base) k (k + 1) t φ rules.postfixExpression rules'.postfixExpression := by
  have hend (assignable : Assignable) (o : Option Assignable) (t : Text) (φ : Prop) :
      Abreast (short (n + 1) base) k (k + 1) t φ (match o with
        | some a => Pure.pure (a, true)
        | none => Pure.pure (assignable, false) : Parser (Assignable × Bool)) (match o with
        | some a => Pure.pure (a, true)
        | none => Pure.pure (assignable, false)) := by
    split <;> infer_instance
  refine ⟨fun {c} hφ hc ht => ?_⟩
  unfold postfixExpression
  exact Abreast.along hφ hc ht

instance : Abreast (short (n + 1) base) k (k + 1) t φ rules.unaryExpression rules'.unaryExpression := by
  unfold unaryExpression
  infer_instance

instance (allowIn : Bool) : Abreast (short (n + 1) base) k (k + 1) t φ
    (rules.binaryExpression allowIn) (rules'.binaryExpression allowIn) := by
  unfold binaryExpression
  have hoperator (length : Nat) (assignable : Assignable) (t : Text) (φ : Prop) :
      Abreast (short (n + 1) base) k (k + 1) t φ
        (match length with
          | 0 => Pure.pure (assignable, false)
          | length => do
            take length
            let _ ← rules.unaryExpression
            Pure.pure (false, true) : Parser (Assignable × Bool))
        (match length with
          | 0 => Pure.pure (assignable, false)
          | length => do
            take length
            let _ ← rules'.unaryExpression
            Pure.pure (false, true)) := by
    split <;> infer_instance
  infer_instance

instance (allowIn : Bool) : Abreast (short (n + 1) base) k (k + 1) t φ
    (rules.conditionalExpression allowIn) (rules'.conditionalExpression allowIn) := by
  unfold conditionalExpression
  infer_instance

set_option synthInstance.maxSize 256 in
instance (allowIn : Bool) : Abreast (short (n + 1) base) k (k + 1) t φ
    (rules.expressionRule allowIn) (rules'.expressionRule allowIn) := by
  unfold expressionRule
  infer_instance

end Expressions

section Statements

variable [ha : rules'.Advance] [he : ∀ allowIn k t φ, Abreast (short (n + 1) base) k (k + 1) t φ
  (rules (.expression allowIn)) (rules' (.expression allowIn))]

instance (allowIn : Bool) : Abreast (short (n + 1) base) k (k + 1) t φ
    (rules.sequence allowIn) (rules'.sequence allowIn) := by
  unfold sequence
  infer_instance

instance : Abreast (short (n + 1) base) k (k + 1) t φ rules.expressionStatement
    rules'.expressionStatement := by
  unfold expressionStatement
  infer_instance

instance : Abreast (short (n + 1) base) k (k + 1) t φ rules.declarationRule
    rules'.declarationRule := by
  unfold declarationRule
  infer_instance

set_option synthInstance.maxSize 1000 in
instance [Positive φ t (t.take (nameLength t)).length] : Abreast (short (n + 1) base) k (k + 1) t φ
    (rules.wordStatement (t.take (nameLength t))) (rules'.wordStatement (t.take (nameLength t))) := by
  unfold wordStatement
  infer_instance

instance : Abreast (short (n + 1) base) k (k + 1) t φ rules.block rules'.block := by
  unfold block
  infer_instance

set_option synthInstance.maxSize 256 in
instance : Abreast (short (n + 1) base) k (k + 1) t φ rules.statementRule rules'.statementRule := by
  unfold statementRule
  refine @Abreast.upcoming_bind _ _ _ _ _ _ _ _ ?_
  refine @Abreast.ite _ _ _ _ _ _ _ _ _ _ _ _ ?_ ?_
  · infer_instance
  · split <;> infer_instance

end Statements

end Rules

-- ================================================================ depths

/-- Goals that go abreast on a course, elements among them. -/
theorem Rules.Alike.of_goals {C : Course} {rules rules' : Rules}
    (h : ∀ g {k t φ}, Abreast C k (k + 1) t φ (rules g) (rules' g)) : Rules.Alike C rules rules' :=
  ⟨fun g _ => h g, fun _ _ => h .element⟩

section Depths

variable {m d d' : Nat} (hshort : ∀ {d d'}, m ≤ d → m ≤ d' → ∀ g {k t φ},
  Abreast (short n base) k (k + 1) t φ (parse d g) (parse d' g))

include hshort

theorem parse_type (h : m ≤ d) (h' : m ≤ d') :
    Abreast (short (n + 1) base) k (k + 1) t φ (parse (d + 1) .type) (parse (d' + 1) .type) := by
  have := Rules.Alike.of_goals (hshort h h')
  exact (inferInstance : Abreast (short (n + 1) base) k (k + 1) t φ (parse d).typeRule
    (parse d').typeRule)

theorem parse_element (h : m ≤ d) (h' : m ≤ d') : Abreast (short (n + 1) base) k (k + 1) t φ
    (parse (d + 1) .element) (parse (d' + 1) .element) := by
  have := Rules.Alike.of_goals (hshort h h')
  have he {t φ} := hshort h h' .element (k := k) (t := t) (φ := φ)
  exact (inferInstance : Abreast (short (n + 1) base) k (k + 1) t φ (parse d).elementRule
    (parse d').elementRule)

/-- An expression may begin with an element. -/
theorem parse_expression (h : m < d) (h' : m < d') (allowIn : Bool) :
    Abreast (short (n + 1) base) k (k + 1) t φ (parse (d + 1) (.expression allowIn))
      (parse (d' + 1) (.expression allowIn)) := by
  have := Rules.Alike.of_goals (hshort (Nat.le_of_lt h) (Nat.le_of_lt h'))
  have he (k t φ) : Abreast (short (n + 1) base) k (k + 1) t φ (parse d .element)
      (parse d' .element) := by
    obtain ⟨e, rfl⟩ := Nat.exists_eq_add_of_lt h
    obtain ⟨e', rfl⟩ := Nat.exists_eq_add_of_lt h'
    exact parse_element hshort (Nat.le_add_right _ _) (Nat.le_add_right _ _)
  exact (inferInstance : Abreast (short (n + 1) base) k (k + 1) t φ
    ((parse d).expressionRule allowIn) ((parse d').expressionRule allowIn))

/-- A statement may begin with an expression. -/
theorem parse_statement (h : m + 1 < d) (h' : m + 1 < d') :
    Abreast (short (n + 1) base) k (k + 1) t φ (parse (d + 1) .statement)
      (parse (d' + 1) .statement) := by
  have : Rules.Alike (short n base) (parse d) (parse d') :=
    .of_goals (hshort (by omega) (by omega))
  have he (allowIn k t φ) : Abreast (short (n + 1) base) k (k + 1) t φ
      (parse d (.expression allowIn)) (parse d' (.expression allowIn)) := by
    obtain ⟨e, rfl⟩ := Nat.exists_eq_add_of_lt h
    obtain ⟨e', rfl⟩ := Nat.exists_eq_add_of_lt h'
    exact parse_expression hshort (by omega) (by omega) allowIn
  exact (inferInstance : Abreast (short (n + 1) base) k (k + 1) t φ (parse d).statementRule
    (parse d').statementRule)

end Depths

/-- No goal is as deep as three times the characters that are left. -/
theorem parse_abreast (n : Nat) {d d' : Nat} (h : 3 * n ≤ d) (h' : 3 * n ≤ d') (g : Goal) :
    Abreast (short n base) k (k + 1) t φ (parse d g) (parse d' g) := by
  induction n generalizing d d' g k t φ with
  | zero => exact ⟨fun _ hc _ => absurd hc.short (Nat.not_lt_zero _)⟩
  | succ n ih =>
      have hshort {d d' : Nat} (h : 3 * n ≤ d) (h' : 3 * n ≤ d') (g : Goal) {k t φ} :
          Abreast (short n base) k (k + 1) t φ (parse d g) (parse d' g) := ih h h' g
      obtain ⟨e, rfl⟩ : ∃ e, d = e + 1 := ⟨d - 1, by omega⟩
      obtain ⟨e', rfl⟩ : ∃ e', d' = e' + 1 := ⟨d' - 1, by omega⟩
      cases g with
      | type => exact parse_type hshort (by omega) (by omega)
      | element => exact parse_element hshort (by omega) (by omega)
      | expression allowIn => exact parse_expression hshort (by omega) (by omega) allowIn
      | statement => exact parse_statement hshort (by omega) (by omega)

/-- So goals of all depths that are great enough for the text are alike. -/
theorem parse_alike (base : List Declaration) {d d' : Nat} (h : 3 * n ≤ d) (h' : 3 * n ≤ d') :
    Rules.Alike (short n base) (parse d) (parse d') :=
  .of_goals fun g => parse_abreast n h h' g

end TypeShape.Source
