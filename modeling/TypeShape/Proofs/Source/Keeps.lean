/-
Parsers that keep within a scope: the steps of the cursor and the ways to combine them.

`Keeps` is a class with an instance for every way in which a rule is put together: one parser
after another (`Keeps.bind`, `Keeps.seq`), a question and what follows each answer
(`Keeps.choose`, `Keeps.ite`), one parser or else another (`Keeps.either`), rounds
(`Keeps.iterate`), and the way back to where the cursor was (`Keeps.get_bind`, `Keeps.set`). So a
rule keeps by its form, once it is unfolded and the rules that it uses are known to keep.
-/
import TypeShape.Proofs.Source.Scope

namespace TypeShape.Source

/-- Wherever the parser succeeds within a scope, it ends there. -/
class Keeps (σ : Scope) {α : Type} (p : Parser α) : Prop where
  keeps : ∀ {c : Cursor} {a : α} {c' : Cursor}, σ.Within c → p c = .ok (a, c') → σ.Within c'

variable {σ : Scope} {α β : Type}

/-- Two steps in a row succeed when both do. -/
theorem bind_eq_ok {p : Parser α} {f : α → Parser β} {c c'' : Cursor} {b : β} :
    (p >>= f) c = .ok (b, c'') ↔ ∃ a c', p c = .ok (a, c') ∧ f a c' = .ok (b, c'') := by
  cases h : p c with
  | error e => simp [bind, StateT.bind, Except.bind, h]
  | ok r =>
      obtain ⟨a, c'⟩ := r
      rw [show (p >>= f) c = f a c' by simp [bind, StateT.bind, Except.bind, h]]
      exact ⟨fun hf => ⟨a, c', rfl, hf⟩, fun ⟨_, _, heq, hf⟩ => by cases heq; exact hf⟩

-- ======================================================== steps in a row

instance Keeps.pure (a : α) : Keeps σ (Pure.pure a : Parser α) :=
  ⟨fun hc h => by cases h; exact hc⟩

instance Keeps.bind {p : Parser α} {f : α → Parser β} [hp : Keeps σ p]
    [hf : ∀ a, Keeps σ (f a)] : Keeps σ (p >>= f) := by
  refine ⟨fun hc h => ?_⟩
  obtain ⟨a, c', hpc, hfc⟩ := bind_eq_ok.1 h
  exact (hf a).keeps (hp.keeps hc hpc) hfc

-- By `Keeps.bind` alone the search for an instance would count what follows a result that is not
-- used twice, and so twice as often with every step.

/-- The first result may not matter. -/
instance Keeps.seq {p : Parser α} {q : Parser β} [hp : Keeps σ p] [hq : Keeps σ q] :
    Keeps σ (p >>= fun _ => q) :=
  .bind

/-- The first result may only decide between two ways to go on. -/
instance Keeps.choose {p : Parser Bool} {q q' : Parser β} [hp : Keeps σ p] [hq : Keeps σ q]
    [hq' : Keeps σ q'] : Keeps σ (p >>= fun b => if b = true then q else q') := by
  have hchoice (b : Bool) : Keeps σ (if b = true then q else q') := by
    cases b
    · exact hq'
    · exact hq
  exact .bind

instance Keeps.ite {b : Prop} [Decidable b] {p q : Parser α} [hp : Keeps σ p] [hq : Keeps σ q] :
    Keeps σ (if b then p else q) := by
  split
  · exact hp
  · exact hq

instance Keeps.either {p q : Parser α} [hp : Keeps σ p] [hq : Keeps σ q] :
    Keeps σ (Source.either p q) := by
  refine ⟨fun {c a c'} hc h => ?_⟩
  unfold Source.either at h
  cases hpc : p c with
  | ok r =>
      rw [hpc] at h
      cases h
      exact hp.keeps hc hpc
  | error e =>
      rw [hpc] at h
      cases hqc : q c with
      | ok r =>
          rw [hqc] at h
          cases h
          exact hq.keeps hc hqc
      | error e' =>
          rw [hqc] at h
          cases h

/-- Where the cursor is remembered, it may be gone back to. -/
instance Keeps.get_bind {f : Cursor → Parser β} [hf : ∀ c : { c // σ.Within c }, Keeps σ (f c)] :
    Keeps σ (get >>= f) :=
  ⟨fun {c _ _} hc h => (hf ⟨c, hc⟩).keeps hc h⟩

instance Keeps.set (c : { c // σ.Within c }) : Keeps σ (set c.1 : Parser PUnit) :=
  ⟨fun _ h => by cases h; exact c.2⟩

-- =============================================================== lexemes

/-- A question about what comes next leaves the cursor where it is. -/
theorem Keeps.ask (answer : Cursor → α) : Keeps σ (fun c => .ok (answer c, c) : Parser α) :=
  ⟨fun hc h => by cases h; exact hc⟩

instance : Keeps σ upcoming := .ask _

instance : Keeps σ upcomingName := .ask _

instance (s : Text) : Keeps σ (sees s) := .ask _

instance : Keeps σ onNewLine := .ask _

instance (b : Bool) : Keeps σ (endsHere b) := .ask _

/-- A fault leaves nothing behind. -/
theorem Keeps.fault (e : Cursor → Failure) : Keeps σ (fun c => .error (e c) : Parser α) :=
  ⟨fun _ h => by cases h⟩

instance (followers : Char → Bool) : Keeps σ (failBefore followers : Parser α) := .fault _

instance : Keeps σ (fail : Parser α) := .fault _

instance : Keeps σ (failHere : Parser α) := .fault _

instance (n : Nat) : Keeps σ (take n) :=
  ⟨fun hc h => by cases h; exact hc.skip.advance n⟩

instance (s : Text) : Keeps σ (symbol s) := by unfold symbol; infer_instance

instance (s : Text) : Keeps σ (symbol? s) := by unfold symbol?; infer_instance

instance : Keeps σ name := by unfold name; infer_instance

instance (w : Text) : Keeps σ (keyword w) := by unfold keyword; infer_instance

instance (w : Text) : Keeps σ (keyword? w) := by unfold keyword?; infer_instance

instance : Keeps σ semicolon := by unfold semicolon; infer_instance

instance : Keeps σ string := by
  unfold string
  have (n : Option Nat) : Keeps σ (match n with | some n => take n | none => fail) := by
    cases n <;> infer_instance
  infer_instance

instance : Keeps σ number := by
  unfold number
  have (n : Nat) : Keeps σ (match n with | 0 => fail | n => take n) := by
    split <;> infer_instance
  infer_instance

instance (p : Parser Unit) [hp : Keeps σ p] : Keeps σ (textOf p) := by
  refine ⟨fun {c a c'} hc h => ?_⟩
  unfold textOf at h
  cases hpc : p c with
  | error e =>
      rw [hpc] at h
      cases h
  | ok r =>
      rw [hpc] at h
      cases h
      exact hp.keeps hc hpc

-- ================================================================= loops

instance Keeps.loop {τ : Type} {step : τ → Parser (τ × Bool)} [hstep : ∀ s, Keeps σ (step s)]
    (rounds : Nat) (s : τ) : Keeps σ (Source.loop step rounds s) := by
  refine ⟨fun {c a c'} hc h => ?_⟩
  induction rounds generalizing s c with
  | zero => cases h
  | succ rounds ih =>
      unfold Source.loop at h
      cases hs : step s c with
      | error e =>
          rw [hs] at h
          cases h
      | ok r =>
          obtain ⟨⟨s', again⟩, c''⟩ := r
          rw [hs] at h
          have hc'' := (hstep s).keeps hc hs
          cases again with
          | true => exact ih s' hc'' h
          | false =>
              cases h
              exact hc''

instance Keeps.iterate {τ : Type} (init : τ) (step : τ → Parser (τ × Bool))
    [∀ s, Keeps σ (step s)] : Keeps σ (Source.iterate init step) :=
  ⟨fun {c _ _} hc h => (Keeps.loop (c.left + 1) init).keeps hc h⟩

instance (step : Parser Bool) [Keeps σ step] : Keeps σ (repeatWhile step) := by
  unfold repeatWhile
  infer_instance

instance (close : Text) (item : Parser Unit) [Keeps σ item] : Keeps σ (commaList close item) := by
  unfold commaList
  infer_instance

instance (item : Parser Unit) [Keeps σ item] : Keeps σ (commaItems item) := by
  unfold commaItems
  infer_instance

-- ================================================================= goals

/-- Every goal keeps within every scope. -/
class Rules.Sound (rules : Rules) : Prop where
  goal : ∀ (σ : Scope) (g : Goal), Keeps σ (rules g)

namespace Rules

variable (rules : Rules) [hr : rules.Sound]

instance (g : Goal) : Keeps σ (rules g) := hr.goal σ g

instance : Keeps σ rules.type := hr.goal σ _

instance : Keeps σ rules.expression := hr.goal σ _

instance : Keeps σ rules.statement := hr.goal σ _

instance (allowIn : Bool) : Keeps σ (rules.sequence allowIn) := by
  unfold sequence
  infer_instance

instance : Keeps σ rules.block := by
  unfold block
  infer_instance

instance (arguments : Parser Unit) [Keeps σ arguments] : Keeps σ (rules.decorators arguments) := by
  unfold decorators
  dsimp only
  infer_instance

end Rules

end TypeShape.Source
