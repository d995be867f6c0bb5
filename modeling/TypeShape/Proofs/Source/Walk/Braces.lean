/-
The parser and the scan for braces agree where braces stand in code.

The scan counts braces, and whatever else the grammar reads leaves its count alone where the text
is exposed. So along a course on which the count is right the parser takes each brace in the
step in which the scan counts it, and where the body of an interface ends, the scan stops
(`inStep_of_typeMembers`).
-/
import TypeShape.Proofs.Source.Program
import TypeShape.Proofs.Source.Walk.Exposed
import TypeShape.Proofs.Source.Walk.Statements
import TypeShape.TypeText.Inline

namespace TypeShape.Source

open TypeText (closeBraces?)

variable {text t u : Text} {n k j : Nat} {c c' : Cursor}

-- =============================================================== the scan

/-- The scan goes on after characters without braces. -/
theorem closeBraces?_braceless {s : Text} (hs : Braceless s) (depth : Nat) (t : Text) :
    closeBraces? depth (s ++ t)
      = (closeBraces? depth t).map fun (inside, after) => (s ++ inside, after) := by
  induction s with
  | nil => cases h : closeBraces? depth t <;> simp [h]
  | cons d s ih =>
      have hd := hs d (List.mem_cons_self ..)
      have hopen : d ≠ '{' := by rintro rfl; cases hd
      have hclose : d ≠ '}' := by rintro rfl; cases hd
      have ih := ih fun e he => hs e (List.mem_cons_of_mem d he)
      rw [List.cons_append, closeBraces?, if_neg (fun h => hclose h.1), if_neg hopen,
        if_neg hclose]
      dsimp only
      rw [ih, Option.map_map]
      rfl

/-- The scan of a text has come to what is left with so many braces open, or has ended there. -/
def Scanned (text : Text) : Nat → Text → Prop
  | 0, rest => ∃ inside, closeBraces? 1 text = some (inside, rest)
  | k + 1, rest => ∃ taken, closeBraces? 1 text
      = (closeBraces? (k + 1) rest).map fun (inside, after) => (taken ++ inside, after)

namespace Scanned

theorem start (text : Text) : Scanned text 1 text :=
  ⟨[], by simp⟩

theorem pass (h : Scanned text (k + 1) t) (hn : Passes t n) : Scanned text (k + 1) (t.drop n) := by
  obtain ⟨taken, h⟩ := h
  have hpass := closeBraces?_braceless hn.taken (k + 1) (t.drop n)
  rw [List.take_append_drop] at hpass
  refine ⟨taken ++ t.take n, ?_⟩
  rw [h, hpass, Option.map_map]
  simp only [Function.comp_def, List.append_assoc]

theorem opens (h : Scanned text (k + 1) ('{' :: t)) : Scanned text (k + 2) t := by
  obtain ⟨taken, h⟩ := h
  refine ⟨taken ++ ['{'], ?_⟩
  rw [h, closeBraces?, if_neg (fun h => absurd h.1 (by decide)), if_pos rfl, Option.map_map]
  simp only [Function.comp_def, List.append_assoc]
  rfl

theorem closes (h : Scanned text (k + 1) ('}' :: t)) : Scanned text k t := by
  obtain ⟨taken, h⟩ := h
  cases k with
  | zero => exact ⟨taken ++ ['}'], by rw [h, closeBraces?, if_pos ⟨rfl, Nat.le_refl 1⟩]; rfl⟩
  | succ k =>
      refine ⟨taken ++ ['}'], ?_⟩
      rw [h, closeBraces?, if_neg (fun h => absurd h.2 (by omega)), if_neg (by decide),
        if_pos rfl, Option.map_map]
      simp only [Function.comp_def, List.append_assoc]
      rfl

end Scanned

-- ============================================================= the course

/-- Blanks and comments before an exposed lexeme are passed. -/
theorem skips_of_exposed (h : exposed .code c.rest = true) : Skips c.rest c.skip.rest :=
  skipFrom_exposed .between c.left c.line c.rest h

/-- A cursor from which on the text is exposed, and to which the scan has come with so many braces
open. There is no markup. -/
structure InStep (text : Text) (k : Nat) (c : Cursor) : Prop where
  markup : c.markup = false
  exposed : exposed .code c.rest = true
  scanned : Scanned text k c.rest

namespace InStep

theorem pass (h : InStep text (k + 1) c) (hrest : c'.rest = c.rest.drop n)
    (hn : Passes c.rest n) (hmarkup : c'.markup = c.markup) : InStep text (k + 1) c' :=
  ⟨hmarkup.trans h.markup, hrest ▸ hn.left, hrest ▸ h.scanned.pass hn⟩

theorem skip (h : InStep text (k + 1) c) : InStep text (k + 1) c.skip := by
  obtain ⟨n, hrest, hn, -⟩ := skips_of_exposed h.exposed
  exact h.pass hrest hn rfl

theorem lexeme (h : InStep text (k + 1) c) (hn : Lexeme c.skip.rest n) :
    InStep text (k + 1) (c.skip.advance n) := by
  obtain ⟨-, -, -, hslash⟩ := skips_of_exposed h.exposed
  exact h.skip.pass rfl (passes_lexeme h.skip.exposed hslash hn) rfl

end InStep

/-- The course on which the scan keeps in step with the parser. -/
def inStep (text : Text) : Course where
  base := []
  Holds := InStep text
  found h := ⟨h.markup, h.exposed, h.scanned⟩
  lexeme h := h.lexeme
  opens {k c t} h hrest := by
    have hskip := h.skip
    have hscanned := hskip.scanned
    have hexposed := hskip.exposed
    rw [hrest] at hscanned hexposed
    have hadvance : (c.skip.advance 1).rest = t := by simp [Cursor.advance, hrest]
    exact ⟨h.markup, hadvance ▸ hexposed, hadvance ▸ hscanned.opens⟩
  closes {k c t} h hrest := by
    have hskip := h.skip
    have hscanned := hskip.scanned
    have hexposed := hskip.exposed
    rw [hrest] at hscanned hexposed
    have hadvance : (c.skip.advance 1).rest = t := by simp [Cursor.advance, hrest]
    exact ⟨h.markup, hadvance ▸ hexposed, hadvance ▸ hscanned.closes⟩

-- ============================================================== templates

theorem repeatWhile_stop {step : Parser Bool} (h : step c = .ok (false, c')) :
    repeatWhile step c = .ok ((), c') := by
  have hstep : (do return ((), ← step) : Parser (Unit × Bool)) c = .ok (((), false), c') :=
    bind_eq_ok.2 ⟨false, c', h, rfl⟩
  show loop (fun _ => do return ((), ← step)) (c.left + 1) () c = _
  rw [loop, hstep]

theorem repeatWhile_error {step : Parser Bool} {e : Failure} (h : step c = .error e) :
    repeatWhile step c = .error e := by
  have hstep : (do return ((), ← step) : Parser (Unit × Bool)) c = .error e := by
    simp only [Bind.bind, StateT.bind, Except.bind, h]
  show loop (fun _ => do return ((), ← step)) (c.left + 1) () c = _
  rw [loop, hstep]

theorem Cursor.advance_advance (c : Cursor) (m n : Nat) :
    (c.advance m).advance n = c.advance (m + n) := by
  simp [Cursor.advance, List.drop_drop, Nat.sub_sub, List.take_add, List.count_append,
    Nat.add_assoc]

/-- A template that is exposed has no substitutions, so it does not matter how they are read. -/
theorem templateRound_exposed (h : exposed (.quoted '\x60') c.rest = true) :
    (∃ e, ∀ p, Rules.templateRound p c = .error e)
      ∨ ∃ n, Passes c.rest n ∧ ∀ p, Rules.templateRound p c = .ok (false, c.advance n) := by
  cases hspan : templateSpan 0 c.rest with
  | none => exact .inl ⟨_, fun p => Rules.templateRound_none hspan⟩
  | some n =>
      obtain ⟨hinside, hclose⟩ := inside_templateSpan (.zero h) hspan
      refine .inr ⟨n + 1, hinside.passes rfl hclose, fun p => ?_⟩
      have hopen : "$\x7b".toList.isPrefixOf (c.advance n).rest = false := by
        show "$\x7b".toList.isPrefixOf (c.rest.drop n) = false
        cases hrest : c.rest.drop n with
        | nil => rfl
        | cons d rest =>
            rw [hrest] at hclose
            cases hclose
            rfl
      rw [Rules.templateRound_some hspan, if_neg (by rw [hopen]; exact Bool.false_ne_true),
        Cursor.advance_advance]

/-- So it fails for all substitutions or is passed for all. -/
theorem templateWith_exposed (h : exposed .code c.skip.rest = true) :
    (∃ e, ∀ p, Rules.templateWith p c = .error e)
      ∨ ∃ n, Passes c.skip.rest n ∧ ∀ p, Rules.templateWith p c = .ok ((), c.skip.advance n) := by
  have hwith (p : Parser Unit) : Rules.templateWith p c
      = (symbol "\x60" >>= fun _ => repeatWhile (Rules.templateRound p)) c :=
    congrFun (Rules.templateWith_eq p) c
  cases hopen : symbol "\x60" c with
  | error e =>
      refine .inl ⟨e, fun p => ?_⟩
      rw [hwith]
      simp only [Bind.bind, StateT.bind, Except.bind, hopen]
  | ok r =>
      obtain ⟨⟨⟩, c₁⟩ := r
      obtain ⟨⟨rest, hrest⟩, rfl⟩ := symbol_brace hopen
      have hadvance : (c.skip.advance 1).rest = rest := by simp [Cursor.advance, hrest]
      have hnext (p : Parser Unit) :
          Rules.templateWith p c = repeatWhile (Rules.templateRound p) (c.skip.advance 1) := by
        rw [hwith]
        simp only [Bind.bind, StateT.bind, Except.bind, hopen]
      rw [hrest] at h
      obtain ⟨e, he⟩ | ⟨n, hn, hok⟩ :=
        templateRound_exposed (c := c.skip.advance 1) (hadvance.symm ▸ h)
      · exact .inl ⟨e, fun p => by rw [hnext, repeatWhile_error (he p)]⟩
      · refine .inr ⟨1 + n, ?_, fun p => ?_⟩
        · rw [hadvance] at hn
          rw [hrest, Nat.add_comm]
          exact hn.cons rfl
        · rw [hnext, repeatWhile_stop (hok p), Cursor.advance_advance]

instance : (inStep text).Templates where
  template {k t φ p q} _ := by
    refine ⟨fun {c} _ hc _ => ?_⟩
    have honto : c.onto (inStep text).base = c := by
      show { c with found := c.found ++ [] } = c
      rw [List.append_nil]
    rw [honto]
    obtain ⟨e, he⟩ | ⟨n, hn, hok⟩ := templateWith_exposed hc.skip.exposed
    · rw [he, he]
      exact ⟨rfl, fun h => by cases h⟩
    · rw [hok, hok]
      refine ⟨?_, fun h => ?_⟩
      · show _ = Except.ok ((), { c.skip.advance n with found := c.found ++ [] })
        rw [List.append_nil]
        rfl
      · cases h
        exact hc.skip.pass rfl hn rfl

-- ================================================================= goals

/-- Along the course the goals of every depth keep in step with the scan. -/
instance (depth : Nat) : Rules.Alike (inStep text) (parse depth) (parse depth) := by
  have element (rules : Rules) {i : Nat} {c : Cursor} (h : (inStep text).Holds (i + 1) c)
      (hmarkup : c.markup = true) {k : Nat} {t : Text} {φ : Prop} :
      Abreast (inStep text) k (k + 1) t φ (rules .element) (rules .element) := by
    rw [h.markup] at hmarkup
    cases hmarkup
  induction depth with
  | zero => exact ⟨fun g _ => .fault _ fun _ _ => rfl, element _⟩
  | succ depth ih =>
      refine ⟨fun g hg {k t φ} => ?_, element _⟩
      cases g with
      | type => exact (inferInstance :
          Abreast (inStep text) k (k + 1) t φ (parse depth).typeRule (parse depth).typeRule)
      | expression allowIn => exact (inferInstance : Abreast (inStep text) k (k + 1) t φ
          ((parse depth).expressionRule allowIn) ((parse depth).expressionRule allowIn))
      | statement => exact (inferInstance : Abreast (inStep text) k (k + 1) t φ
          (parse depth).statementRule (parse depth).statementRule)
      | element => exact absurd rfl hg

/-- Where a parser keeps in step, so many braces are open where it ends. -/
theorem Abreast.ends {C : Course} {φ : Prop} {α : Type} {p : Parser α} {a : α}
    [h : Abreast C k j c.skip.rest φ p p] (hφ : φ) (hc : C.Holds (k + 1) c) (hok : p c = .ok (a, c')) :
    C.Holds j c' :=
  (h.along hφ hc rfl).2 hok

/-- Whatever is open where a parser ends, an answer after it takes nothing. -/
instance Abreast.bind_pure {C : Course} {φ : Prop} {α β : Type} {p q : Parser α} {b : β}
    [h : Abreast C k j t φ p q] :
    Abreast C k j t φ (p >>= fun _ => Pure.pure b) (q >>= fun _ => Pure.pure b) := by
  refine ⟨fun {c} hφ hc ht => ?_⟩
  obtain ⟨heq, hends⟩ := h.along hφ hc ht
  cases hq : q c with
  | error e =>
      rw [hq] at heq
      simp only [Bind.bind, StateT.bind, Except.bind, hq, heq, onto]
      exact ⟨trivial, fun h => by cases h⟩
  | ok r =>
      rw [hq] at heq
      simp only [Bind.bind, StateT.bind, Except.bind, hq, heq, onto]
      exact ⟨rfl, fun h => by cases h; exact hends hq⟩

-- one step for each lexeme of a body, in two branches
set_option synthInstance.maxSize 256 in
/-- The body of an interface ends where the scan for its brace stops. -/
theorem inStep_of_typeMembers {depth : Nat} {ps : List Property}
    (hopen : c.skip.rest = '{' :: text) (hmarkup : c.markup = false)
    (hexposed : exposed .code text = true)
    (h : Rules.typeMembers (parse depth) c = .ok (ps, c')) : InStep text 0 c' := by
  unfold Rules.typeMembers at h
  obtain ⟨⟨⟩, c₁, hbrace, h⟩ := bind_eq_ok.1 h
  obtain ⟨-, rfl⟩ := symbol_brace hbrace
  have hrest : (c.skip.advance 1).rest = text := by simp [Cursor.advance, hopen]
  have hc : (inStep text).Holds 1 (c.skip.advance 1) :=
    ⟨hmarkup, hrest ▸ hexposed, hrest ▸ Scanned.start text⟩
  exact Abreast.ends (C := inStep text) (φ := True) trivial hc h

end TypeShape.Source
