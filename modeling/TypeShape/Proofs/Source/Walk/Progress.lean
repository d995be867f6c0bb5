/-
Parsers that take something.

Two courses that say no more of the cursor than how much is left: below a bound, and one
more. A parser advances when it leads from the longer course to the shorter one. On the short
course all that is taken is alike, so the number of open braces does not count there.
-/
import TypeShape.Proofs.Source.Program
import TypeShape.Proofs.Source.Walk.Statements

namespace TypeShape.Source

-- ==================================================== how much is left

/-- A cursor whose count is right and that has less than so much text left. -/
structure Cursor.Below (n : Nat) (c : Cursor) : Prop where
  left : c.left = c.rest.length
  short : c.rest.length < n

namespace Cursor.Below

variable {n : Nat} {c c' : Cursor}

theorem mono {m : Nat} (h : c.Below n) (hle : n ≤ m) : c.Below m :=
  ⟨h.left, Nat.lt_of_lt_of_le h.short hle⟩

/-- An end of the text has no more left. -/
theorem of_suffix (h : c.Below n) (hleft : c'.left = c'.rest.length) (hrest : c'.rest <:+ c.rest) :
    c'.Below n :=
  ⟨hleft, Nat.lt_of_le_of_lt hrest.length_le h.short⟩

theorem skip (h : c.Below n) : c.skip.Below n :=
  h.of_suffix ((skipFrom_suffix .between c.left c.line c.rest).2 h.left)
    (skipFrom_suffix .between c.left c.line c.rest).1

theorem advance (h : c.Below n) (m : Nat) : (c.advance m).Below n := by
  refine h.of_suffix ?_ (List.drop_suffix m c.rest)
  show c.left - m = (c.rest.drop m).length
  rw [List.length_drop, h.left]

/-- Some character is taken. -/
theorem advance_lt (h : c.Below (n + 1)) {m : Nat} (hm : 0 < m) (hne : c.rest ≠ []) :
    (c.advance m).Below n := by
  refine ⟨(h.advance m).left, ?_⟩
  show (c.rest.drop m).length < n
  have hpos := List.length_pos_iff.2 hne
  have hshort := h.short
  rw [List.length_drop]
  omega

/-- A parser that keeps within every scope leaves no more than there was. -/
theorem of_keeps {α : Type} {p : Parser α} [hp : ∀ σ, Keeps σ p] {a : α} (h : c.Below n)
    (hok : p c = .ok (a, c')) : c'.Below n := by
  let σ : Scope := { text := c.rest, admits := fun _ => True, covers := fun _ _ => trivial }
  have within : σ.Within c := ⟨List.suffix_refl _, h.left, fun _ _ => trivial⟩
  have within' := (hp σ).keeps within hok
  exact h.of_suffix within'.left within'.rest

end Cursor.Below

/-- The course on which less than so much text is left. -/
def short (n : Nat) (base : List Declaration) : Course where
  base := base
  Holds _ c := c.Below n
  found h := ⟨h.left, h.short⟩
  lexeme h _ := h.skip.advance _
  opens h _ := h.skip.advance _
  closes h _ := h.skip.advance _

variable {m n k j : Nat} {base : List Declaration} {t : Text} {φ : Prop} {α β : Type}

-- ============================================================== leading

/-- A parser that leads from less than `m` characters left to less than `n`. It advances where
`m` is one more than `n`. -/
class Leads (m n : Nat) (t : Text) (φ : Prop) (p : Parser α) : Prop where
  leads : ∀ {c a c'}, φ → c.Below m → c.skip.rest = t → p c = .ok (a, c') → c'.Below n

/-- A length that was asked for is not zero, nor is the text empty. -/
class Positive (φ : Prop) (t : Text) (length : Nat) : Prop where
  positive : φ → 0 < length ∧ t ≠ []

namespace Leads

instance take (length : Nat) [h : Positive φ t length] : Leads (n + 1) n t φ (Source.take length) :=
  ⟨fun hφ hc ht hok => by
    cases hok
    obtain ⟨hpos, hne⟩ := h.positive hφ
    exact hc.skip.advance_lt hpos (ht ▸ hne)⟩

instance (priority := low) of_keeps {p : Parser α} [hp : ∀ σ, Keeps σ p] : Leads n n t φ p :=
  ⟨fun _ hc _ hok => hc.of_keeps hok⟩

/-- Something is taken at first. -/
instance bind_first {p : Parser α} {f : α → Parser β} [hp : Leads (n + 1) n t φ p]
    [hf : ∀ a t, Leads n n t True (f a)] : Leads (n + 1) n t φ (p >>= f) := by
  refine ⟨fun hφ hc ht hok => ?_⟩
  obtain ⟨a, c₁, hpc, hfc⟩ := bind_eq_ok.1 hok
  exact (hf a _).leads trivial (hp.leads hφ hc ht hpc) rfl hfc

/-- Something is taken later. -/
instance (priority := low) bind_later {p : Parser α} {f : α → Parser β} [hp : ∀ σ, Keeps σ p]
    [hf : ∀ a t, Leads m n t True (f a)] : Leads m n t φ (p >>= f) := by
  refine ⟨fun _ hc _ hok => ?_⟩
  obtain ⟨a, c₁, hpc, hfc⟩ := bind_eq_ok.1 hok
  exact (hf a _).leads trivial (hc.of_keeps hpc) rfl hfc

-- the same where the first result does not matter

instance first_seq {p : Parser α} {q : Parser β} [hp : Leads (n + 1) n t φ p]
    [hq : ∀ t, Leads n n t True q] : Leads (n + 1) n t φ (p >>= fun _ => q) :=
  bind_first

instance (priority := low) later_seq {p : Parser α} {q : Parser β} [hp : ∀ σ, Keeps σ p]
    [hq : ∀ t, Leads m n t True q] : Leads m n t φ (p >>= fun _ => q) :=
  bind_later

instance ite {b : Prop} [Decidable b] {p q : Parser α} [hp : Leads m n t (φ ∧ b) p]
    [hq : Leads m n t (φ ∧ ¬b) q] : Leads m n t φ (if b then p else q) := by
  refine ⟨fun hφ hc ht hok => ?_⟩
  by_cases hb : b
  · rw [if_pos hb] at hok
    exact hp.leads ⟨hφ, hb⟩ hc ht hok
  · rw [if_neg hb] at hok
    exact hq.leads ⟨hφ, hb⟩ hc ht hok

instance (priority := high) ite_true {p q : Parser α} [hp : Leads m n t φ p] :
    Leads m n t φ (if true = true then p else q) :=
  hp

instance (priority := high) ite_false {p q : Parser α} [hq : Leads m n t φ q] :
    Leads m n t φ (if false = true then p else q) :=
  hq

instance either {p q : Parser α} [hp : Leads m n t φ p] [hq : Leads m n t φ q] :
    Leads m n t φ (Source.either p q) := by
  refine ⟨fun {c a c'} hφ hc ht hok => ?_⟩
  unfold Source.either at hok
  cases hpc : p c with
  | ok r =>
      rw [hpc] at hok
      cases hok
      exact hp.leads hφ hc ht hpc
  | error e =>
      rw [hpc] at hok
      cases hqc : q c with
      | ok r =>
          rw [hqc] at hok
          cases hok
          exact hq.leads hφ hc ht hqc
      | error e' =>
          rw [hqc] at hok
          cases hok

/-- A fault leaves nothing behind. -/
instance fail : Leads m n t φ (Source.fail : Parser α) :=
  ⟨fun _ _ _ hok => by cases hok⟩

instance failHere : Leads m n t φ (Source.failHere : Parser α) :=
  ⟨fun _ _ _ hok => by cases hok⟩

instance failBefore (followers : Char → Bool) :
    Leads m n t φ (Source.failBefore followers : Parser α) :=
  ⟨fun _ _ _ hok => by cases hok⟩

-- questions

instance upcoming_bind {f : Text → Parser β} [h : Leads m n t φ (f t)] :
    Leads m n t φ (upcoming >>= f) :=
  ⟨fun hφ hc ht hok => by subst ht; exact h.leads hφ hc rfl hok⟩

instance upcomingName_bind {f : Text → Parser β} [h : Leads m n t φ (f (t.take (nameLength t)))] :
    Leads m n t φ (upcomingName >>= f) :=
  ⟨fun hφ hc ht hok => by subst ht; exact h.leads hφ hc rfl hok⟩

instance sees_bind {s : Text} {f : Bool → Parser β} [h : Leads m n t φ (f (s.isPrefixOf t))] :
    Leads m n t φ (sees s >>= f) :=
  ⟨fun hφ hc ht hok => by subst ht; exact h.leads hφ hc rfl hok⟩

instance afterWord_bind {f : Text → Parser β} [h : ∀ w, Leads m n t φ (f w)] :
    Leads m n t φ (Rules.afterWord >>= f) :=
  ⟨fun hφ hc ht hok => (h _).leads hφ hc ht hok⟩

-- going back

instance get_bind {f : Cursor → Parser β}
    [h : ∀ c : { c : Cursor // c.Below m ∧ c.skip.rest = t }, Leads m n t φ (f c.1)] :
    Leads m n t φ (get >>= f) :=
  ⟨fun {c _ _} hφ hc ht hok => (h ⟨c, hc, ht⟩).leads hφ hc ht hok⟩

instance set_bind {i : Nat} {t' : Text} {f : PUnit → Parser β}
    (c : { c : Cursor // c.Below i ∧ c.skip.rest = t' }) [h : Leads i n t' True (f ⟨⟩)] :
    Leads m n t φ (set c.1 >>= f) :=
  ⟨fun _ _ _ hok => h.leads trivial c.2.1 c.2.2 hok⟩

end Leads

-- what has been asked before something is taken

theorem ne_nil_of_nameLength (h : nameLength t ≠ 0) : t ≠ [] := by
  rintro rfl
  exact h rfl

/-- The name ahead has characters if it has a length. -/
theorem Positive.of_name (h : φ → nameLength t ≠ 0) :
    Positive φ t (t.take (nameLength t)).length := by
  refine ⟨fun hφ => ?_⟩
  have hne := ne_nil_of_nameLength (h hφ)
  have hpos := List.length_pos_iff.2 hne
  have hlength := h hφ
  rw [List.length_take]
  exact ⟨by omega, hne⟩

/-- A name that is not empty has a length. -/
theorem nameLength_ne_zero_of_take (h : t.take (nameLength t) ≠ []) : nameLength t ≠ 0 := by
  intro hzero
  rw [hzero] at h
  exact h rfl

instance : Positive (φ ∧ (nameLength t != 0) = true) t (t.take (nameLength t)).length :=
  .of_name fun h => bne_iff_ne.1 h.2

instance : Positive (φ ∧ ¬(t.take (nameLength t)).isEmpty = true) t (t.take (nameLength t)).length :=
  .of_name fun h => nameLength_ne_zero_of_take fun hnil => h.2 (by rw [hnil]; rfl)

/-- A length that is not zero. -/
class Nonzero (length : Nat) : Prop where
  out : length ≠ 0

instance (length : Nat) : Nonzero (length + 1) := ⟨length.add_one_ne_zero⟩

instance {w : Text} {length : Nat} [hw : HasLength w length] [hlength : Nonzero length] :
    Positive (φ ∧ (t.take (nameLength t) == w) = true) t length := by
  refine ⟨fun h => ⟨Nat.pos_of_ne_zero hlength.out,
    ne_nil_of_nameLength (nameLength_ne_zero_of_take fun hnil => hlength.out ?_)⟩⟩
  rw [← hw.length, ← eq_of_beq h.2, hnil]
  rfl

/-- A plain text has characters. -/
theorem Plain.ne_nil {s : Text} [hs : Plain s] : s ≠ [] := by
  rintro rfl
  cases hs.plain

instance {w : Text} [hw : Plain w] : Positive (φ ∧ (t.take (nameLength t) == w) = true) t
    (t.take (nameLength t)).length :=
  .of_name fun h => nameLength_ne_zero_of_take fun hnil => hw.ne_nil (by rw [← eq_of_beq h.2, hnil])

instance {next : Text} :
    Positive (φ ∧ ¬(!Rules.opensDeclaration (t.take (nameLength t)) next) = true) t
      (t.take (nameLength t)).length :=
  .of_name fun h => nameLength_ne_zero_of_take fun hnil => h.2 (by rw [hnil]; rfl)

instance : Positive (φ ∧ (privateLength t != 0) = true) t (privateLength t) :=
  ⟨fun h => ⟨Nat.pos_of_ne_zero (bne_iff_ne.1 h.2), by
    rintro rfl
    exact bne_iff_ne.1 h.2 rfl⟩⟩

instance : Positive (φ ∧ (unaryLength t != 0) = true) t (unaryLength t) :=
  ⟨fun h => ⟨Nat.pos_of_ne_zero (bne_iff_ne.1 h.2), by
    rintro rfl
    exact bne_iff_ne.1 h.2 rfl⟩⟩

instance {d : Char} {rest : Text} : Positive φ (d :: rest) 1 :=
  ⟨fun _ => ⟨Nat.one_pos, by simp⟩⟩

instance {d : Char} : Positive (φ ∧ (t.head? == some d) = true) t 1 :=
  ⟨fun h => ⟨Nat.one_pos, by
    rintro rfl
    cases h.2⟩⟩

instance {s : Text} {length : Nat} [hs : HasLength s length] [hlength : Nonzero length] :
    Positive (φ ∧ s.isPrefixOf t = true) t length := by
  refine ⟨fun h => ⟨Nat.pos_of_ne_zero hlength.out, ?_⟩⟩
  rintro rfl
  apply hlength.out
  rw [← hs.length, List.prefix_nil.1 (List.isPrefixOf_iff_prefix.1 h.2)]
  rfl

instance (priority := low) {ψ : Prop} {length : Nat} [h : Positive φ t length] :
    Positive (φ ∧ ψ) t length :=
  ⟨fun hφ => h.positive hφ.1⟩

instance {a b : Bool} {length : Nat} [h : Positive ((φ ∧ a = true) ∧ b = true) t length] :
    Positive (φ ∧ (a && b) = true) t length :=
  ⟨fun hφ => by
    obtain ⟨ha, hb⟩ := Bool.and_eq_true_iff.1 hφ.2
    exact h.positive ⟨⟨hφ.1, ha⟩, hb⟩⟩

instance {a b : Bool} {length : Nat} [ha : Positive (φ ∧ a = true) t length]
    [hb : Positive (φ ∧ b = true) t length] : Positive (φ ∧ (a || b) = true) t length :=
  ⟨fun hφ => (Bool.or_eq_true_iff.1 hφ.2).elim (fun h => ha.positive ⟨hφ.1, h⟩)
    fun h => hb.positive ⟨hφ.1, h⟩⟩

-- ============================================================== perhaps

/-- A parser that takes so many characters if the text ahead passes a test, and else leaves the
cursor where it is. -/
class Perhaps (p : Parser Bool) where
  test : Text → Bool
  length : Nat
  eq : ∀ c, p c = if test c.skip.rest then .ok (true, c.skip.advance length) else .ok (false, c)
  positive : 0 < length
  test_nil : test [] = false

namespace Perhaps

instance (s : Text) [hs : Plain s] : Perhaps (symbol? s) where
  test := s.isPrefixOf
  length := s.length
  eq c := by
    show (if s.isPrefixOf c.skip.rest then do take s.length; return true
      else return false : Parser Bool) c = _
    split <;> rfl
  positive := List.length_pos_iff.2 hs.ne_nil
  test_nil := by
    cases s with
    | nil => cases hs.ne_nil rfl
    | cons d s => rfl

instance (w : Text) [hw : Plain w] : Perhaps (keyword? w) where
  test t := t.take (nameLength t) == w
  length := w.length
  eq c := by
    show (if c.skip.rest.take (nameLength c.skip.rest) == w then do take w.length; return true
      else return false : Parser Bool) c = _
    split <;> rfl
  positive := List.length_pos_iff.2 hw.ne_nil
  test_nil := by
    cases w with
    | nil => cases hw.ne_nil rfl
    | cons d w => rfl

variable {p : Parser Bool} [hp : Perhaps p] {c c' : Cursor}

theorem below (hc : c.Below (n + 1)) (h : p c = .ok (true, c')) : c'.Below n := by
  rw [hp.eq] at h
  split at h
  case isTrue htest =>
    cases h
    refine hc.skip.advance_lt hp.positive fun hnil => ?_
    rw [hnil, hp.test_nil] at htest
    cases htest
  case isFalse => cases h

theorem eq_of_false (h : p c = .ok (false, c')) : c' = c := by
  rw [hp.eq] at h
  split at h <;> cases h
  rfl

end Perhaps

-- ============================================================== lexemes

namespace Leads

/-- A symbol is taken if it has characters. -/
theorem of_symbol {s : Text} (hs : s ≠ []) : Leads (n + 1) n t φ (symbol s) := by
  unfold symbol
  have positive : Positive (φ ∧ s.isPrefixOf t = true) t s.length := by
    refine ⟨fun h => ⟨List.length_pos_iff.2 hs, ?_⟩⟩
    rintro rfl
    exact hs (List.prefix_nil.1 (List.isPrefixOf_iff_prefix.1 h.2))
  infer_instance

instance symbol (s : Text) [hs : Plain s] : Leads (n + 1) n t φ (Source.symbol s) :=
  of_symbol hs.ne_nil

instance symbol_brace : Leads (n + 1) n t φ (Source.symbol "\x7b") := of_symbol (by decide)

instance symbol_backquote : Leads (n + 1) n t φ (Source.symbol "\x60") := of_symbol (by decide)

instance name : Leads (n + 1) n t φ Source.name := by
  unfold Source.name
  infer_instance

instance keyword (w : Text) [hw : Plain w] : Leads (n + 1) n t φ (Source.keyword w) := by
  unfold Source.keyword
  have positive : Positive (φ ∧ (t.take (nameLength t) == w) = true) t w.length := by
    refine ⟨fun h => ⟨List.length_pos_iff.2 hw.ne_nil, ?_⟩⟩
    rintro rfl
    exact hw.ne_nil (eq_of_beq h.2).symm
  infer_instance

instance string : Leads (n + 1) n t φ Source.string := by
  unfold Source.string
  refine @upcoming_bind _ _ _ _ _ _ ?_
  cases h : stringLength t with
  | none => exact fail
  | some length =>
      have positive : Positive φ t length := by
        refine ⟨fun _ => ?_⟩
        cases t with
        | nil => cases h
        | cons d rest =>
            change (if d = '"' ∨ d = '\'' then (stringTail d 0 rest).map (· + 1) else none)
              = some length at h
            split at h
            case isTrue =>
              obtain ⟨tail, -, rfl⟩ := Option.map_eq_some_iff.1 h
              exact ⟨Nat.succ_pos _, by simp⟩
            case isFalse => cases h
      exact take length

instance number : Leads (n + 1) n t φ Source.number := by
  unfold Source.number
  refine @upcoming_bind _ _ _ _ _ _ ?_
  split
  case h_1 => exact fail
  case h_2 length hlength =>
    have positive : Positive φ t (numberLength t) := by
      refine ⟨fun _ => ⟨Nat.pos_of_ne_zero hlength, ?_⟩⟩
      rintro rfl
      exact hlength rfl
    exact take _

/-- It is taken, or else something after it. -/
instance perhaps_bind {p : Parser Bool} {f : Bool → Parser β} [hp : Perhaps p]
    [hf : ∀ t, Leads n n t True (f true)] [hf' : Leads (n + 1) n t φ (f false)] :
    Leads (n + 1) n t φ (p >>= f) := by
  refine ⟨fun {c b c'} hφ hc ht hok => ?_⟩
  obtain ⟨taken, c₁, hpc, hok⟩ := bind_eq_ok.1 hok
  cases taken with
  | true => exact (hf _).leads trivial (hp.below hc hpc) rfl hok
  | false =>
      cases hp.eq_of_false hpc
      exact hf'.leads hφ hc ht hok

/-- The first of some items is taken at least. -/
instance commaItems (item : Parser Unit) [h : ∀ t, Leads (n + 1) n t True item]
    [∀ σ, Keeps σ item] : Leads (n + 1) n t φ (Source.commaItems item) := by
  refine ⟨fun {c a c'} _ hc _ hok => ?_⟩
  unfold Source.commaItems repeatWhile iterate Source.loop at hok
  split at hok
  case h_1 => cases hok
  case h_2 s c₁ hstep =>
    have hc₁ : c₁.Below n :=
      (inferInstance : Leads (n + 1) n c.skip.rest True _).leads trivial hc rfl hstep
    exact hc₁.of_keeps hok
  case h_3 s c₁ hstep =>
    have hc₁ : c₁.Below n :=
      (inferInstance : Leads (n + 1) n c.skip.rest True _).leads trivial hc rfl hstep
    cases hok
    exact hc₁

end Leads

-- ================================================================ rules

/-- A regular expression has characters. -/
theorem patternLength_pos {length : Nat} (h : patternLength t = some length) : 0 < length := by
  unfold patternLength at h
  split at h
  case h_1 d rest =>
    split at h
    case isTrue => cases h
    case isFalse =>
      obtain ⟨tail, -, rfl⟩ := Option.map_eq_some_iff.1 h
      omega
  case h_2 => cases h

/-- Rules whose expressions and elements take something. -/
class Rules.Advance (rules : Rules) : Prop where
  expression : ∀ {n t φ} (allowIn : Bool), Leads (n + 1) n t φ (rules (.expression allowIn))
  element : ∀ {n t φ}, Leads (n + 1) n t φ (rules .element)

namespace Rules

variable (rules : Rules) [hr : rules.Sound]

instance : Leads (n + 1) n t φ rules.parameters := by
  unfold parameters
  infer_instance

instance : Leads (n + 1) n t φ rules.callSignature := by
  unfold callSignature
  infer_instance

instance (allowIn : Bool) : Leads (n + 1) n t φ (rules.arrowFunction allowIn) := by
  unfold arrowFunction
  infer_instance

instance : Leads (n + 1) n t φ rules.parenthesized := by
  unfold parenthesized
  infer_instance

instance (substitution : Parser Unit) [∀ σ, Keeps σ substitution] :
    Leads (n + 1) n t φ (templateWith substitution) := by
  rw [templateWith_eq]
  infer_instance

instance : Leads (n + 1) n t φ rules.block := by
  unfold block
  infer_instance

instance (operand : Parser Unit) (primary : Parser Assignable) [∀ σ, Keeps σ operand]
    [∀ σ, Keeps σ primary] [Positive φ t (t.take (nameLength t)).length] :
    Leads (n + 1) n t φ (rules.wordExpression operand primary (t.take (nameLength t))) := by
  unfold wordExpression
  infer_instance

section Expressions

variable [ha : rules.Advance]

instance (allowIn : Bool) : Leads (n + 1) n t φ (rules (.expression allowIn)) :=
  ha.expression allowIn

instance (allowIn : Bool) : Leads (n + 1) n t φ (rules.sequence allowIn) := by
  unfold sequence
  infer_instance

instance (rounds : Nat) : Leads (n + 1) n t φ (rules.primaryExpression rounds) := by
  cases rounds with
  | zero => exact .fail
  | succ rounds =>
      unfold primaryExpression
      refine @Leads.upcoming_bind _ _ _ _ _ _ (@Leads.ite _ _ _ _ _ _ _ _ _ ?_
        (@Leads.ite _ _ _ _ _ _ _ _ _ ?_ (@Leads.ite _ _ _ _ _ _ _ _ _ ?_ ?_)))
      · infer_instance
      · infer_instance
      · infer_instance
      · split
        case h_7 rest =>
          cases hpattern : patternLength ('/' :: rest) with
          | none => infer_instance
          | some length =>
              have positive (φ : Prop) : Positive φ ('/' :: rest) length :=
                ⟨fun _ => ⟨patternLength_pos hpattern, by simp⟩⟩
              infer_instance
        case h_8 rest =>
          have element {n t φ} : Leads (n + 1) n t φ (rules .element) := ha.element
          infer_instance
        all_goals infer_instance

instance : Leads (n + 1) n t φ rules.postfixExpression := by
  have hsuffixed (σ : Scope) := keeps_suffixed (σ := σ)
  refine ⟨fun {c a c'} hφ hc ht hok => ?_⟩
  unfold postfixExpression at hok
  exact Leads.leads hφ hc ht hok

instance : Leads (n + 1) n t φ rules.unaryExpression := by
  unfold unaryExpression
  infer_instance

instance (allowIn : Bool) : Leads (n + 1) n t φ (rules.binaryExpression allowIn) := by
  unfold binaryExpression
  have hoperated (σ : Scope) := keeps_operated (σ := σ) rules
  infer_instance

instance (allowIn : Bool) : Leads (n + 1) n t φ (rules.conditionalExpression allowIn) := by
  unfold conditionalExpression
  infer_instance

set_option synthInstance.maxSize 256 in
instance (allowIn : Bool) : Leads (n + 1) n t φ (rules.expressionRule allowIn) := by
  unfold expressionRule
  infer_instance

instance : Leads (n + 1) n t φ rules.elementRule := by
  unfold elementRule
  infer_instance

instance : Leads (n + 1) n t φ rules.expressionStatement := by
  unfold expressionStatement
  infer_instance

instance : Leads (n + 1) n t φ rules.declarationRule := by
  unfold declarationRule
  infer_instance

set_option synthInstance.maxSize 1000 in
instance [Positive φ t (t.take (nameLength t)).length] :
    Leads (n + 1) n t φ (rules.wordStatement (t.take (nameLength t))) := by
  unfold wordStatement
  infer_instance

instance : Leads (n + 1) n t φ rules.statementRule := by
  unfold statementRule
  refine @Leads.upcoming_bind _ _ _ _ _ _ (@Leads.ite _ _ _ _ _ _ _ _ _ ?_ ?_)
  · infer_instance
  · split
    all_goals infer_instance

end Expressions

end Rules

/-- The expressions and elements of every depth take something. -/
instance parse_advance (depth : Nat) : (parse depth).Advance := by
  induction depth with
  | zero => exact ⟨fun _ => .fail, .fail⟩
  | succ depth ih =>
      refine ⟨fun {n t φ} allowIn => ?_, fun {n t φ} => ?_⟩
      · exact (inferInstance : Leads (n + 1) n t φ ((parse depth).expressionRule allowIn))
      · exact (inferInstance : Leads (n + 1) n t φ (parse depth).elementRule)

/-- So do statements. -/
instance (depth : Nat) : Leads (n + 1) n t φ (parse depth).statement := by
  cases depth with
  | zero => exact .fail
  | succ depth => exact (inferInstance : Leads (n + 1) n t φ (parse depth).statementRule)

end TypeShape.Source
