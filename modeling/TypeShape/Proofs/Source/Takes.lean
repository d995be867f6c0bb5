/-
What a parser takes where the text ahead is known.

A parser takes the source from one end to another: its answer and the end it leaves are
told by what is left of the text alone, and the cursor follows by counting (`Cursor.to`).
So a rule is walked through one lexeme at a time, each step a lemma about the text at
hand. Where a rule only asks what comes next, the kind of character that the next lexeme
opens with (`Opens`) is all that counts, which leaves open what text follows.
-/
import TypeShape.Proofs.Source.Keeps

namespace TypeShape.Source

-- ============================================================== skipping

/-- The line breaks that are skipped are counted. -/
theorem skipFrom_breaks (mode : Skipping) (left line : Nat) (t : Text) :
    (skipFrom mode left line t).2.2 + (skipFrom mode left line t).1.count '\n'
      = line + t.count '\n' := by
  fun_induction skipFrom mode left line t <;> grind

-- ================================================================ places

/-- The next lexeme opens with such a character. -/
def Opens (kind : Char → Bool) (u : Text) : Prop :=
  ∃ d ∈ (ahead u).head?, kind d = true

/-- The cursor stands before the text. -/
structure Cursor.Stands (c : Cursor) (u : Text) : Prop where
  rest : c.rest = u
  left : c.left = u.length

/-- The cursor further on, before an end of its text. -/
def Cursor.to (c : Cursor) (v : Text) : Cursor :=
  { c with rest := v, left := v.length, line := c.line + (c.rest.count '\n' - v.count '\n') }

/-- A lexeme that is known opens with its first character. -/
theorem Opens.of_ahead {u v : Text} {d : Char} {kind : Char → Bool} (h : ahead u = d :: v)
    (hd : kind d = true) : Opens kind u :=
  ⟨d, by rw [h]; rfl, hd⟩

theorem Opens.mono {u : Text} {kind kind' : Char → Bool} (h : Opens kind u)
    (hsub : ∀ d, kind d = true → kind' d = true) : Opens kind' u := by
  obtain ⟨d, hd, hk⟩ := h
  exact ⟨d, hd, hsub d hk⟩

/-- A lexeme of another kind is not the one that comes next. -/
theorem Opens.isPrefixOf_ahead {u s : Text} {kind : Char → Bool} (h : Opens kind u)
    (hs : s.head?.map kind = some false) : s.isPrefixOf (ahead u) = false := by
  obtain ⟨d, hd, hk⟩ := h
  cases s with
  | nil => cases hs
  | cons e s =>
      cases hu : ahead u with
      | nil => rfl
      | cons d' v =>
          rw [hu] at hd
          cases hd
          have hne : e ≠ d := by
            intro heq
            subst heq
            simp [hk] at hs
          simp [List.isPrefixOf, hne]

namespace Cursor

variable {c : Cursor} {u v w : Text}

theorem Stands.to_self (h : c.Stands u) : c.to u = c := by
  unfold Cursor.to
  rw [h.rest, Nat.sub_self, ← h.left, ← h.rest]
  rfl

@[simp]
theorem to_stands (c : Cursor) (v : Text) : (c.to v).Stands v :=
  ⟨rfl, rfl⟩

/-- On the way to an end of the text, a stop at a longer end makes no difference. -/
theorem to_to (hv : v <:+ c.rest) (hw : w <:+ v) : (c.to v).to w = c.to w := by
  have hcv := hv.sublist.count_le '\n'
  have hvw := hw.sublist.count_le '\n'
  simp only [Cursor.to, Cursor.mk.injEq, true_and, and_true]
  omega

end Cursor

/-- Up to the next lexeme blanks and comments are skipped. -/
theorem Cursor.Stands.skip {c : Cursor} {u : Text} (hc : c.Stands u) : c.skip = c.to (ahead u) := by
  have hrest := skipFrom_between u.length c.line u
  have hleft := (skipFrom_suffix .between u.length c.line u).2 rfl
  have hline := skipFrom_breaks .between u.length c.line u
  have hle := (ahead_suffix u).sublist.count_le '\n'
  rw [hrest] at hleft hline
  have hlast : (skipFrom .between u.length c.line u).2.2
      = c.line + (u.count '\n' - (ahead u).count '\n') := by
    omega
  simp only [Cursor.skip, Cursor.to, hc.left, hc.rest, hrest, hleft, Cursor.mk.injEq, true_and,
    and_true]
  exact hlast

/-- The next lexeme stands on a later line where a line break is skipped before it. -/
theorem Cursor.Stands.line_lt_skip {c : Cursor} {u : Text} (hc : c.Stands u) :
    c.line < c.skip.line ↔ (ahead u).count '\n' < u.count '\n' := by
  rw [hc.skip]
  simp only [Cursor.to, hc.rest]
  omega

/-- A lexeme is passed by its length. -/
theorem Cursor.to_advance {c : Cursor} {s v : Text} (h : s ++ v <:+ c.rest) :
    (c.to (s ++ v)).advance s.length = c.to v := by
  have hle := h.sublist.count_le '\n'
  rw [List.count_append] at hle
  simp only [Cursor.advance, Cursor.to, List.drop_left, List.take_left, List.length_append,
    List.count_append, Nat.add_sub_cancel_left, Cursor.mk.injEq, true_and, and_true]
  omega

-- =============================================================== reading

variable {α β σ : Type}

/-- Wherever the first text is left, the parser answers, and leaves the second. -/
structure Takes (p : Parser α) (u : Text) (a : α) (v : Text) : Prop where
  ending : v <:+ u
  run : ∀ {c : Cursor}, c.Stands u → p c = .ok (a, c.to v)

/-- Wherever the text is left, the parser fails. -/
def Fails (p : Parser α) (u : Text) : Prop :=
  ∀ ⦃c : Cursor⦄, c.Stands u → ∃ e, p c = .error e

namespace Takes

variable {p q : Parser α} {f : α → Parser β} {u v w : Text} {a : α} {b : β}

theorem pure (a : α) (u : Text) : Takes (Pure.pure a : Parser α) u a u :=
  ⟨List.suffix_refl u, fun hc => by rw [hc.to_self]; rfl⟩

theorem bind (hp : Takes p u a v) (hf : Takes (f a) v b w) : Takes (p >>= f) u b w := by
  refine ⟨hf.ending.trans hp.ending, fun {c} hc => ?_⟩
  have hv : v <:+ c.rest := hc.rest ▸ hp.ending
  rw [← Cursor.to_to hv hf.ending]
  exact bind_eq_ok.2 ⟨a, _, hp.run hc, hf.run (c.to_stands v)⟩

/-- A branch that is not entered. -/
theorem otherwise {b : Bool} (hb : b = false) (hq : Takes q u a v) :
    Takes (if b = true then p else q) u a v := by
  rw [hb]
  exact hq

/-- Where a step takes nothing, it does not matter whether it is made. -/
theorem perhaps {x : Parser β} {b : Bool} {y : β} (hx : Takes x u y u) (hq : Takes q u a v) :
    Takes (if b = true then x >>= fun _ => q else q) u a v := by
  cases b with
  | true => exact hx.bind hq
  | false => exact hq

/-- A question leaves the cursor where it is. -/
theorem ask {answer : Cursor → α} (h : ∀ {c : Cursor}, c.Stands u → answer c = a) :
    Takes (fun c => .ok (answer c, c) : Parser α) u a u :=
  ⟨List.suffix_refl u, fun hc => by simp only [h hc, hc.to_self]⟩

theorem first (hp : Takes p u a v) : Takes (either p q) u a v :=
  ⟨hp.ending, fun hc => by simp only [either, hp.run hc]⟩

theorem second (hp : Fails p u) (hq : Takes q u a v) : Takes (either p q) u a v := by
  refine ⟨hq.ending, fun hc => ?_⟩
  obtain ⟨e, he⟩ := hp hc
  simp only [either, he, hq.run hc]

end Takes

namespace Fails

variable {p : Parser α} {f : α → Parser β} {u v : Text} {a : α}

theorem start (hp : Fails p u) : Fails (p >>= f) u := by
  intro c hc
  obtain ⟨e, he⟩ := hp hc
  exact ⟨e, by simp [Bind.bind, StateT.bind, Except.bind, he]⟩

theorem later (hp : Takes p u a v) (hf : Fails (f a) v) : Fails (p >>= f) u := by
  intro c hc
  obtain ⟨e, he⟩ := hf (c.to_stands v)
  exact ⟨e, by simp [Bind.bind, StateT.bind, Except.bind, hp.run hc, he]⟩

theorem fail (u : Text) : Fails (Source.fail : Parser α) u :=
  fun _ _ => ⟨_, rfl⟩

end Fails

-- ================================================================= words

/-- A word: characters of a name, the first of which opens one. -/
def isWord (w : Text) : Bool :=
  w.head?.any isNameStart && w.all isNameChar

/-- A word opens with a character that opens names. -/
theorem exists_of_isWord {w : Text} (hw : isWord w = true) :
    ∃ d s, w = d :: s ∧ isNameStart d = true := by
  cases w with
  | nil => cases hw
  | cons d s =>
      simp only [isWord, List.head?_cons, Option.any_some, Bool.and_eq_true] at hw
      exact ⟨d, s, rfl, hw.1⟩

/-- A word is a name, one without escapes. -/
theorem isName_of_isWord {w : Text} (hw : isWord w = true) : IsName w := by
  obtain ⟨d, s, rfl, hd⟩ := exists_of_isWord hw
  simp only [isWord, List.all_cons, Bool.and_eq_true, List.all_eq_true] at hw
  exact .char hd (goesOn_of_forall hw.2.2)

/-- Nothing is skipped before a word. -/
theorem ahead_word {w : Text} (hw : isWord w = true) (v : Text) : ahead (w ++ v) = w ++ v :=
  (isName_of_isWord hw).ahead v

/-- No name goes on into the text. -/
def Breaks (v : Text) : Prop :=
  ∀ d ∈ v.head?, isNameChar d = false ∧ d ≠ '\\'

/-- The name that comes next, or nothing. -/
def wordAt (u : Text) : Text :=
  (ahead u).take (nameLength (ahead u))

theorem nameEscape_eq_zero {v : Text} (hv : v.head? ≠ some '\\') : nameEscape v = 0 := by
  unfold nameEscape
  split
  · exact absurd rfl hv
  · exact absurd rfl hv
  · rfl

theorem Breaks.nameTail {v : Text} (hv : Breaks v) : nameTail 0 v = 0 := by
  cases v with
  | nil => rfl
  | cons d v =>
      obtain ⟨hd, hescape⟩ := hv d rfl
      have h : nameEscape (d :: v) = 0 := nameEscape_eq_zero (by simpa using hescape)
      simp [Source.nameTail, hd, h]

/-- A name ends where none goes on. -/
theorem IsName.nameLength_append {w v : Text} (hw : IsName w) (hv : Breaks v) :
    Source.nameLength (w ++ v) = w.length := by
  rw [hw.nameLength, hv.nameTail, Nat.add_zero]

/-- So does a word. -/
theorem nameLength_append {w v : Text} (hw : isWord w = true) (hv : Breaks v) :
    nameLength (w ++ v) = w.length :=
  (isName_of_isWord hw).nameLength_append hv

theorem nameLength_eq_zero {v : Text} {d : Char} (hd : isNameStart d = false)
    (hescape : d ≠ '\\') : nameLength (d :: v) = 0 := by
  simp [nameLength, hd, nameEscape_eq_zero (v := d :: v) (by simpa using hescape)]

theorem IsName.wordAt {u w v : Text} (hw : IsName w) (h : Source.ahead u = w ++ v)
    (hv : Breaks v) : wordAt u = w := by
  rw [Source.wordAt, h, hw.nameLength_append hv, List.take_left]

theorem wordAt_eq {u w v : Text} (h : ahead u = w ++ v) (hw : isWord w = true) (hv : Breaks v) :
    wordAt u = w :=
  (isName_of_isWord hw).wordAt h hv

/-- Where a word comes next, a name does. -/
theorem opens_word {u w v : Text} (h : ahead u = w ++ v) (hw : isWord w = true) :
    Opens isNameStart u := by
  obtain ⟨d, s, rfl, hd⟩ := exists_of_isWord hw
  exact .of_ahead h hd

theorem isEmpty_of_isWord {w : Text} (hw : isWord w = true) : w.isEmpty = false := by
  obtain ⟨d, s, rfl, -⟩ := exists_of_isWord hw
  rfl

theorem nameLength_ne_zero {u w v : Text} (h : ahead u = w ++ v) (hw : isWord w = true)
    (hv : Breaks v) : (nameLength (ahead u) != 0) = true := by
  obtain ⟨d, s, hs, -⟩ := exists_of_isWord hw
  rw [h, nameLength_append hw hv, hs]
  rfl

/-- A mark is none of the characters of names and opens no escape. -/
def isMark (d : Char) : Bool :=
  !isNameChar d && d != '\\'

theorem isMark_of_beq {e : Char} (he : isMark e = true) (d : Char) (hd : (d == e) = true) :
    isMark d = true := by
  rw [beq_iff_eq.1 hd]
  exact he

/-- Where a mark comes next, no name does. -/
theorem Opens.nameLength {u : Text} {kind : Char → Bool} (h : Opens kind u)
    (hkind : ∀ d, kind d = true → isMark d = true) : nameLength (ahead u) = 0 := by
  obtain ⟨d, hd, hk⟩ := h
  cases hu : ahead u with
  | nil => rfl
  | cons d' v =>
      rw [hu] at hd
      cases hd
      have hmark := hkind d hk
      simp only [isMark, Bool.and_eq_true, Bool.not_eq_true', bne_iff_ne] at hmark
      exact nameLength_eq_zero (by simp [isNameStart, hmark.1]) hmark.2

theorem Opens.wordAt {u : Text} {kind : Char → Bool} (h : Opens kind u)
    (hkind : ∀ d, kind d = true → isMark d = true) : wordAt u = [] := by
  rw [Source.wordAt, h.nameLength hkind, List.take_zero]

/-- A name ends before blanks, comments and marks. -/
theorem Opens.breaks {u : Text} {kind : Char → Bool} (h : Opens kind u)
    (hkind : ∀ d, kind d = true → isMark d = true) : Breaks u := by
  obtain ⟨d, hd, hk⟩ := h
  intro e he
  cases u with
  | nil => cases he
  | cons e' u =>
      cases he
      by_cases hspace : isSpace e = true
      case pos =>
        refine ⟨by simp [isNameChar, hspace], ?_⟩
        intro heq
        subst heq
        cases hspace
      case neg =>
        by_cases hslash : e = '/'
        case pos => exact hslash ▸ ⟨rfl, by decide⟩
        case neg =>
          rw [ahead_cons (Bool.not_eq_true _ ▸ hspace) hslash] at hd
          cases hd
          simpa [isMark] using hkind d hk

-- ============================================================= lookahead

namespace Takes

variable {u s v w : Text} {kind : Char → Bool} {a : α}

theorem upcoming : Takes upcoming u (ahead u) u :=
  .ask fun hc => by rw [hc.skip]; rfl

theorem upcomingName : Takes upcomingName u (wordAt u) u :=
  .ask fun hc => by rw [hc.skip]; rfl

theorem sees (s : Text) : Takes (sees s) u (s.isPrefixOf (ahead u)) u :=
  .ask fun hc => by rw [hc.skip]; rfl

theorem sees_not (h : Opens kind u) (hs : s.head?.map kind = some false) :
    Takes (Source.sees s) u false u :=
  h.isPrefixOf_ahead hs ▸ sees s

theorem onNewLine : Takes onNewLine u (decide ((ahead u).count '\n' < u.count '\n')) u :=
  .ask fun hc => by simp only [hc.line_lt_skip]

/-- Whether a construct may end before the text at hand, on the same line or on a later one. -/
def endsAhead (inExpression onNewLine : Bool) : Text → Bool
  | [] => true
  | '}' :: _ => true
  | t => onNewLine && !continuesLine inExpression t

/-- Whether a construct may end here is told by the text. -/
theorem endsHere (inExpression : Bool) :
    ∃ ends, Takes (endsHere inExpression) u ends u :=
  ⟨endsAhead inExpression (decide ((ahead u).count '\n' < u.count '\n')) (ahead u),
    .ask fun hc => by
      have hline := hc.line_lt_skip
      rw [hc.skip] at hline ⊢
      simp only [hline]
      rfl⟩

-- =============================================================== lexemes

theorem take (h : ahead u = s ++ v) (n : Nat) (hn : n = s.length) : Takes (take n) u () v := by
  have hend : s ++ v <:+ u := h ▸ ahead_suffix u
  refine ⟨(List.suffix_append s v).trans hend, fun {c} hc => ?_⟩
  simp only [Source.take, hc.skip, h, hn, Cursor.to_advance (hc.rest ▸ hend)]

theorem sees_ahead (h : ahead u = s ++ v) : Takes (Source.sees s) u true u :=
  .ask fun hc => by
    rw [hc.skip]
    simp [Cursor.to, h]

theorem symbol (h : ahead u = s ++ v) : Takes (symbol s) u () v :=
  .bind (sees_ahead h) (.take h _ rfl)

theorem symbol? (h : ahead u = s ++ v) : Takes (symbol? s) u true v :=
  .bind (sees_ahead h) (.bind (.take h _ rfl) (.pure true v))

theorem symbol?_not (h : Opens kind u) (hs : s.head?.map kind = some false) :
    Takes (Source.symbol? s) u false u :=
  .bind (sees_not h hs) (.pure false u)

theorem isName (h : ahead u = w ++ v) (hw : IsName w) (hv : Breaks v) : Takes name u w v := by
  have hempty : w.isEmpty = false := by simpa using hw.ne_nil
  refine .bind upcomingName ?_
  rw [hw.wordAt h hv]
  exact .otherwise hempty <| .bind (.take h _ rfl) (.pure w v)

theorem name (h : ahead u = w ++ v) (hw : isWord w = true) (hv : Breaks v) :
    Takes name u w v :=
  .isName h (isName_of_isWord hw) hv

theorem keyword?_not (hw : wordAt u ≠ w) : Takes (keyword? w) u false u := by
  exact .bind upcomingName (.otherwise (beq_eq_false_iff_ne.2 hw) (.pure false u))

/-- The text that a parser takes opens with the next lexeme. -/
theorem textOf {p : Parser Unit} (h : ahead u = s ++ v) (hp : Takes p u () v) :
    Takes (textOf p) u s v := by
  refine ⟨hp.ending, fun {c} hc => ?_⟩
  simp only [Source.textOf, hp.run hc, hc.skip, h]
  simp [Cursor.textTo, Cursor.to]

end Takes

namespace Fails

variable {u s v w : Text} {kind : Char → Bool}

theorem symbol (h : Opens kind u) (hs : s.head?.map kind = some false) : Fails (symbol s) u :=
  .later (.sees_not h hs) (.fail u)

theorem keyword (hw : wordAt u ≠ w) : Fails (keyword w) u := by
  refine .later .upcomingName ?_
  simp only [beq_eq_false_iff_ne.2 hw, Bool.false_eq_true, if_false]
  exact .fail u

end Fails

-- ================================================================= loops

/-- From a state and a text, the rounds of a loop end in another state, and leave another
text. No round but the last takes nothing. -/
structure Rounds (step : σ → Parser (σ × Bool)) (s : σ) (u : Text) (r : σ) (v : Text) : Prop where
  ending : v <:+ u
  run : ∀ {c : Cursor} {n : Nat}, c.Stands u → u.length < n → loop step n s c = .ok (r, c.to v)

namespace Rounds

variable {step : σ → Parser (σ × Bool)} {s s' r : σ} {u v w : Text}

theorem stop (h : Takes (step s) u (r, false) v) : Rounds step s u r v := by
  refine ⟨h.ending, fun {c n} hc hn => ?_⟩
  cases n with
  | zero => omega
  | succ n => simp only [loop, h.run hc]

theorem more (h : Takes (step s) u (s', true) v) (hlt : v.length < u.length)
    (hrounds : Rounds step s' v r w) : Rounds step s u r w := by
  refine ⟨hrounds.ending.trans h.ending, fun {c n} hc hn => ?_⟩
  have hv : v <:+ c.rest := hc.rest ▸ h.ending
  cases n with
  | zero => omega
  | succ n =>
      rw [← Cursor.to_to hv hrounds.ending, loop, h.run hc]
      exact hrounds.run (c.to_stands v) (by omega)

theorem iterate (h : Rounds step s u r v) : Takes (iterate s step) u r v :=
  ⟨h.ending, fun hc => h.run hc (by rw [hc.left]; omega)⟩

end Rounds

/-- A step that tells whether to go on is repeated from one text to another. -/
def Repeats (step : Parser Bool) (u v : Text) : Prop :=
  Rounds (fun _ => do return ((), ← step)) () u () v

namespace Repeats

variable {step : Parser Bool} {u v w : Text}

theorem stop (h : Takes step u false v) : Repeats step u v :=
  Rounds.stop (.bind h (.pure ((), false) v))

theorem more (h : Takes step u true v) (hlt : v.length < u.length) (hrounds : Repeats step v w) :
    Repeats step u w :=
  Rounds.more (.bind h (.pure ((), true) v)) hlt hrounds

theorem takes (h : Repeats step u v) : Takes (repeatWhile step) u () v :=
  h.iterate

/-- Nothing is taken where the first round says no. -/
theorem none (h : Takes step u false u) : Takes (repeatWhile step) u () u :=
  (stop h).takes

end Repeats

end TypeShape.Source
