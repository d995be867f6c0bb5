/-
Two parsers side by side along one text.

A course says what stays true of the cursor from lexeme to lexeme, by the number of braces
that are open. Two parsers go abreast along it when they come to the same, and the course
goes on where they end: one may have other rules for its goals, and more declarations under
those that it finds. The property is a class, so that for a rule it follows from the form of
the rule. What has been asked about the text ahead is carried along, since a rule that takes
so many characters has asked before which lexeme they make; after a step the text is another
one, and nothing is known of it (`Anywhere`).

One walk over the grammar (`Walk.Types`, `Walk.Expressions`, `Walk.Statements`) then serves
every course: how deep goals nest, and how braces are balanced.
-/
import TypeShape.Proofs.Source.Keeps
import TypeShape.Source.StatementRule

namespace TypeShape.Source

-- ============================================================== lexemes

/-- The characters that open or close what counts: braces, quotes and escapes. -/
def delimiters : Text :=
  "\x7b\x7d\"'\x60\\"

/-- A symbol or word without such characters; a slash may only begin it. -/
class Plain (s : Text) : Prop where
  plain : (!s.isEmpty && s.all (!delimiters.elem ·) && !s.tail.elem '/') = true

/-- The number of characters of a lexeme at the start of a text, braces apart, or none. -/
inductive Lexeme (t : Text) : Nat → Prop
  | none : Lexeme t 0
  | name : Lexeme t (t.take (nameLength t)).length
  | privateName : Lexeme t (privateLength t)
  | number : Lexeme t (numberLength t)
  | string {n : Nat} : stringLength t = some n → Lexeme t n
  | pattern {n : Nat} : patternLength t = some n → Lexeme t n
  | symbol {s : Text} : Plain s → s.isPrefixOf t = true → Lexeme t s.length

-- ============================================================== courses

/-- The cursor with more declarations under those that were found. -/
@[reducible]
def Cursor.onto (c : Cursor) (base : List Declaration) : Cursor :=
  { c with found := c.found ++ base }

/-- An outcome with more declarations under those that were found. -/
def onto {α : Type} (base : List Declaration) :
    Except Failure (α × Cursor) → Except Failure (α × Cursor)
  | .ok (a, c) => .ok (a, c.onto base)
  | .error e => .error e

/-- What is true of the cursor along a text while so many braces are open; after the last
closing brace there is nothing to go on with. -/
structure Course where
  /-- The declarations that one parser starts with and the other does not. -/
  base : List Declaration
  Holds : Nat → Cursor → Prop
  found : ∀ {k c ds}, Holds k c → Holds k { c with found := ds }
  lexeme : ∀ {k c n}, Holds (k + 1) c → Lexeme c.skip.rest n → Holds (k + 1) (c.skip.advance n)
  opens : ∀ {k c t}, Holds (k + 1) c → c.skip.rest = '{' :: t → Holds (k + 2) (c.skip.advance 1)
  closes : ∀ {k c t}, Holds (k + 1) c → c.skip.rest = '}' :: t → Holds k (c.skip.advance 1)

variable {C : Course} {k j : Nat} {t : Text} {φ : Prop} {α β : Type}

/-- From where `k + 1` braces are open to where `j` are, two parsers come to the same. The text
ahead is `t`, and `φ` is what is known of it. -/
class Abreast (C : Course) (k j : Nat) (t : Text) (φ : Prop) (p q : Parser α) : Prop where
  along : ∀ {c}, φ → C.Holds (k + 1) c → c.skip.rest = t →
    p (c.onto C.base) = onto C.base (q c) ∧ ∀ {a c'}, q c = .ok (a, c') → C.Holds j c'

/-- Two parsers that go abreast whatever comes next. What follows a step is held to this, since
the text that is ahead then is another one. -/
class Anywhere (C : Course) (k j : Nat) (p q : Parser α) : Prop where
  abreast : ∀ t, Abreast C k j t True p q

instance (priority := low) Anywhere.of_abreast {p q : Parser α}
    [h : ∀ t, Abreast C k j t True p q] : Anywhere C k j p q :=
  ⟨h⟩

-- ======================================================== steps in a row

instance Abreast.pure (a : α) :
    Abreast C k (k + 1) t φ (Pure.pure a : Parser α) (Pure.pure a) :=
  ⟨fun _ hc _ => ⟨rfl, fun h => by cases h; exact hc⟩⟩

/-- What follows a parser goes on from where it ends. -/
theorem Abreast.along_bind {i : Nat} {p q : Parser α} {f g : α → Parser β} {c : Cursor}
    (hp : p (c.onto C.base) = onto C.base (q c) ∧ ∀ {a c'}, q c = .ok (a, c') → C.Holds (i + 1) c')
    (hf : ∀ a, Anywhere C i j (f a) (g a)) :
    (p >>= f) (c.onto C.base) = onto C.base ((q >>= g) c)
      ∧ ∀ {b c'}, (q >>= g) c = .ok (b, c') → C.Holds j c' := by
  obtain ⟨heq, hends⟩ := hp
  cases hq : q c with
  | error e =>
      rw [hq] at heq
      have hp' : (p >>= f) (c.onto C.base) = .error e := by
        simp only [Bind.bind, StateT.bind, Except.bind, heq, onto]
      have hq' : (q >>= g) c = .error e := by
        simp only [Bind.bind, StateT.bind, Except.bind, hq]
      rw [hp', hq']
      exact ⟨rfl, fun h => by cases h⟩
  | ok r =>
      obtain ⟨a, c'⟩ := r
      rw [hq] at heq
      have hp' : (p >>= f) (c.onto C.base) = f a (c'.onto C.base) := by
        simp only [Bind.bind, StateT.bind, Except.bind, heq, onto]
      have hq' : (q >>= g) c = g a c' := by
        simp only [Bind.bind, StateT.bind, Except.bind, hq]
      rw [hp', hq']
      exact ((hf a).abreast _).along trivial (hends hq) rfl

instance (priority := low) Abreast.bind {p q : Parser α} {f g : α → Parser β}
    [hp : Abreast C k (k + 1) t φ p q] [hf : ∀ a, Anywhere C k j (f a) (g a)] :
    Abreast C k j t φ (p >>= f) (q >>= g) :=
  ⟨fun hφ hc ht => Abreast.along_bind (hp.along hφ hc ht) hf⟩

instance (priority := low) Abreast.seq {p q : Parser α} {p' q' : Parser β}
    [hp : Abreast C k (k + 1) t φ p q] [hp' : Anywhere C k j p' q'] :
    Abreast C k j t φ (p >>= fun _ => p') (q >>= fun _ => q') :=
  .bind

section Anywhere

variable {p q : Parser α} {f g : α → Parser β} {p' q' : Parser β}

instance Anywhere.bind [hp : Anywhere C k (k + 1) p q] [hf : ∀ a, Anywhere C k j (f a) (g a)] :
    Anywhere C k j (p >>= f) (q >>= g) :=
  have := hp.abreast
  .of_abreast

instance Anywhere.seq [hp : Anywhere C k (k + 1) p q] [hp' : Anywhere C k j p' q'] :
    Anywhere C k j (p >>= fun _ => p') (q >>= fun _ => q') :=
  .bind

end Anywhere

-- ============================================================= branches

instance Abreast.ite {b : Prop} [Decidable b] {p q p' q' : Parser α}
    [hp : Abreast C k j t (φ ∧ b) p q] [hp' : Abreast C k j t (φ ∧ ¬b) p' q'] :
    Abreast C k j t φ (if b then p else p') (if b then q else q') := by
  refine ⟨fun {c} hφ hc ht => ?_⟩
  by_cases hb : b
  · rw [if_pos hb, if_pos hb]
    exact hp.along ⟨hφ, hb⟩ hc ht
  · rw [if_neg hb, if_neg hb]
    exact hp'.along ⟨hφ, hb⟩ hc ht

instance Anywhere.ite {b : Prop} [Decidable b] {p q p' q' : Parser α} [hp : Anywhere C k j p q]
    [hp' : Anywhere C k j p' q'] :
    Anywhere C k j (if b then p else p') (if b then q else q') := by
  split
  · exact hp
  · exact hp'

/-- What a step results in may only decide between two ways to go on. -/
instance Anywhere.choose {p q : Parser Bool} {f f' g g' : Parser β}
    [hp : Anywhere C k (k + 1) p q] [hf : Anywhere C k j f g] [hf' : Anywhere C k j f' g'] :
    Anywhere C k j (p >>= fun b => if b = true then f else f')
      (q >>= fun b => if b = true then g else g') :=
  .bind

instance (priority := low) Abreast.choose {p q : Parser Bool} {f f' g g' : Parser β}
    [hp : Abreast C k (k + 1) t φ p q] [hf : Anywhere C k j f g] [hf' : Anywhere C k j f' g'] :
    Abreast C k j t φ (p >>= fun b => if b = true then f else f')
      (q >>= fun b => if b = true then g else g') :=
  .bind

instance (priority := high) Abreast.ite_true {p q p' q' : Parser α} [hp : Abreast C k j t φ p q] :
    Abreast C k j t φ (if true = true then p else p') (if true = true then q else q') :=
  hp

instance (priority := high) Abreast.ite_false {p q p' q' : Parser α}
    [hp : Abreast C k j t φ p' q'] :
    Abreast C k j t φ (if false = true then p else p') (if false = true then q else q') :=
  hp

instance Abreast.either {p q p' q' : Parser α} [hp : Abreast C k j t φ p q]
    [hp' : Abreast C k j t φ p' q'] : Abreast C k j t φ (Source.either p p') (Source.either q q') := by
  refine ⟨fun {c} hφ hc ht => ?_⟩
  obtain ⟨heq, hends⟩ := hp.along hφ hc ht
  obtain ⟨heq', hends'⟩ := hp'.along hφ hc ht
  unfold Source.either
  rw [heq, heq']
  cases hq : q c with
  | ok r => exact ⟨rfl, fun h => by cases h; exact hends hq⟩
  | error e =>
      cases hq' : q' c with
      | ok r => exact ⟨rfl, fun h => by cases h; exact hends' hq'⟩
      | error e' => exact ⟨rfl, fun h => by cases h⟩

-- ============================================================ questions

/-- A question leaves the cursor where it is. -/
theorem Abreast.ask (answer : Cursor → α)
    (hanswer : ∀ c ds, answer { c with found := ds } = answer c) :
    Abreast C k (k + 1) t φ (fun c => .ok (answer c, c)) (fun c => .ok (answer c, c)) := by
  refine ⟨fun {c} _ hc _ => ⟨?_, fun h => by cases h; exact hc⟩⟩
  rw [hanswer]
  rfl

instance (b : Bool) : Abreast C k (k + 1) t φ (endsHere b) (endsHere b) := .ask _ fun _ _ => rfl

instance : Abreast C k (k + 1) t φ Rules.leadingComment Rules.leadingComment :=
  .ask _ fun _ _ => rfl

section Known

variable {f g : Text → Parser β} {u v : Bool → Parser β}

-- what has been asked is known from then on, and not forgotten over another question

instance Abreast.upcoming_bind [h : Abreast C k j t φ (f t) (g t)] :
    Abreast C k j t φ (upcoming >>= f) (upcoming >>= g) :=
  ⟨fun hφ hc ht => by subst ht; exact h.along hφ hc rfl⟩

instance Abreast.upcomingName_bind
    [h : Abreast C k j t φ (f (t.take (nameLength t))) (g (t.take (nameLength t)))] :
    Abreast C k j t φ (upcomingName >>= f) (upcomingName >>= g) :=
  ⟨fun hφ hc ht => by subst ht; exact h.along hφ hc rfl⟩

instance Abreast.sees_bind {s : Text}
    [h : Abreast C k j t φ (u (s.isPrefixOf t)) (v (s.isPrefixOf t))] :
    Abreast C k j t φ (sees s >>= u) (sees s >>= v) :=
  ⟨fun hφ hc ht => by subst ht; exact h.along hφ hc rfl⟩

instance Abreast.onNewLine_bind [h : ∀ b, Abreast C k j t φ (u b) (v b)] :
    Abreast C k j t φ (onNewLine >>= u) (onNewLine >>= v) :=
  ⟨fun {c} hφ hc ht => (h (c.line < c.skip.line)).along hφ hc ht⟩

instance Abreast.afterWord_bind [h : ∀ w, Abreast C k j t φ (f w) (g w)] :
    Abreast C k j t φ (Rules.afterWord >>= f) (Rules.afterWord >>= g) :=
  ⟨fun hφ hc ht => (h _).along hφ hc ht⟩

end Known

-- =============================================================== faults

/-- A fault leaves nothing behind. -/
theorem Abreast.fault (e : Cursor → Failure) (he : ∀ c ds, e { c with found := ds } = e c) :
    Abreast C k j t φ (fun c => .error (e c) : Parser α) (fun c => .error (e c)) := by
  refine ⟨fun {c} _ _ _ => ⟨?_, fun h => by cases h⟩⟩
  rw [he]
  rfl

instance (followers : Char → Bool) :
    Abreast C k j t φ (failBefore followers : Parser α) (failBefore followers) :=
  .fault _ fun _ _ => rfl

instance : Abreast C k j t φ (fail : Parser α) fail := .fault _ fun _ _ => rfl

instance : Abreast C k j t φ (failHere : Parser α) failHere := .fault _ fun _ _ => rfl

-- ========================================================== going back

/-- Where the cursor is remembered, it may be gone back to. -/
instance Abreast.get_bind {f g : Cursor → Parser β}
    [hf : ∀ c : { c // C.Holds (k + 1) c ∧ c.skip.rest = t },
      Abreast C k j t φ (f (c.1.onto C.base)) (g c.1)] :
    Abreast C k j t φ (get >>= f) (get >>= g) :=
  ⟨fun {c} hφ hc ht => (hf ⟨c, hc, ht⟩).along hφ hc ht⟩

instance Abreast.go_back_bind {t' : Text} {f g : PUnit → Parser β}
    (c : { c // C.Holds (k + 1) c ∧ c.skip.rest = t' }) [hf : Abreast C k j t' True (f ⟨⟩) (g ⟨⟩)] :
    Abreast C k j t φ (set (c.1.onto C.base) >>= f) (set c.1 >>= g) :=
  ⟨fun _ _ _ => hf.along trivial c.2.1 c.2.2⟩

-- ============================================================ characters

/-- A question about the text ahead was answered by a lexeme of so many characters. -/
class Measured (φ : Prop) (t : Text) (n : Nat) : Prop where
  lexeme : φ → Lexeme t n

instance (n : Nat) [h : Measured φ t n] : Abreast C k (k + 1) t φ (take n) (take n) :=
  ⟨fun hφ hc ht => ⟨rfl, fun heq => by
    cases heq
    exact C.lexeme hc (ht ▸ h.lexeme hφ)⟩⟩

-- the symbols and words of the grammar, where they are taken by their length

/-- The length of a symbol or word that is written as a number. -/
class HasLength (s : Text) (n : Nat) : Prop where
  length : s.length = n

instance (s : Text) : HasLength s s.length := ⟨rfl⟩
instance : HasLength "," 1 := ⟨rfl⟩
instance : HasLength "." 1 := ⟨rfl⟩
instance : HasLength "=" 1 := ⟨rfl⟩
instance : HasLength "!" 1 := ⟨rfl⟩
instance : HasLength "|" 1 := ⟨rfl⟩
instance : HasLength "+" 1 := ⟨rfl⟩
instance : HasLength "-" 1 := ⟨rfl⟩
instance : HasLength "[" 1 := ⟨rfl⟩
instance : HasLength "++" 2 := ⟨rfl⟩
instance : HasLength "--" 2 := ⟨rfl⟩
instance : HasLength "new" 3 := ⟨rfl⟩
instance : HasLength "await" 5 := ⟨rfl⟩
instance : HasLength "static" 6 := ⟨rfl⟩
instance : HasLength "extends" 7 := ⟨rfl⟩
instance : HasLength "function" 8 := ⟨rfl⟩

instance : Plain "(" := ⟨rfl⟩
instance : Plain ")" := ⟨rfl⟩
instance : Plain "[" := ⟨rfl⟩
instance : Plain "]" := ⟨rfl⟩
instance : Plain "<" := ⟨rfl⟩
instance : Plain ">" := ⟨rfl⟩
instance : Plain "," := ⟨rfl⟩
instance : Plain ";" := ⟨rfl⟩
instance : Plain ":" := ⟨rfl⟩
instance : Plain "-?:" := ⟨rfl⟩
instance : Plain "+?:" := ⟨rfl⟩
instance : Plain "?:" := ⟨rfl⟩
instance : Plain "?" := ⟨rfl⟩
instance : Plain "?." := ⟨rfl⟩
instance : Plain "." := ⟨rfl⟩
instance : Plain "..." := ⟨rfl⟩
instance : Plain "=" := ⟨rfl⟩
instance : Plain "=>" := ⟨rfl⟩
instance : Plain "*" := ⟨rfl⟩
instance : Plain "|" := ⟨rfl⟩
instance : Plain "&" := ⟨rfl⟩
instance : Plain "!" := ⟨rfl⟩
instance : Plain "@" := ⟨rfl⟩
instance : Plain "/" := ⟨rfl⟩
instance : Plain "+" := ⟨rfl⟩
instance : Plain "-" := ⟨rfl⟩
instance : Plain "++" := ⟨rfl⟩
instance : Plain "--" := ⟨rfl⟩
instance : Plain ['['] := ⟨rfl⟩
instance : Plain ['<'] := ⟨rfl⟩
instance : Plain ['*'] := ⟨rfl⟩
instance : Plain ['+'] := ⟨rfl⟩
instance : Plain ['-'] := ⟨rfl⟩
instance : Plain [';'] := ⟨rfl⟩
instance : Plain "as" := ⟨rfl⟩
instance : Plain "satisfies" := ⟨rfl⟩
instance : Plain "class" := ⟨rfl⟩
instance : Plain "export" := ⟨rfl⟩

-- the questions that measure a lexeme

instance : Measured φ t (t.take (nameLength t)).length := ⟨fun _ => .name⟩

instance : Measured φ t (privateLength t) := ⟨fun _ => .privateName⟩

instance {w : Text} {n : Nat} [hn : HasLength w n] :
    Measured (φ ∧ (t.take (nameLength t) == w) = true) t n :=
  ⟨fun h => by
    rw [← hn.length, ← eq_of_beq h.2]
    exact .name⟩

instance {s : Text} {n : Nat} [hs : Plain s] [hn : HasLength s n] :
    Measured (φ ∧ s.isPrefixOf t = true) t n :=
  ⟨fun h => by
    rw [← hn.length]
    exact .symbol hs h.2⟩

instance {d : Char} {rest : Text} [hd : Plain [d]] : Measured φ (d :: rest) 1 :=
  ⟨fun _ => .symbol hd (by simp [List.isPrefixOf])⟩

instance {d : Char} [hd : Plain [d]] : Measured (φ ∧ (t.head? == some d) = true) t 1 := by
  refine ⟨fun h => ?_⟩
  cases t with
  | nil => cases h.2
  | cons e rest =>
      cases eq_of_beq h.2
      exact .symbol hd (by simp [List.isPrefixOf])

instance {m n : Nat} [h : Measured φ t m] : Measured (φ ∧ (m == n) = true) t n :=
  ⟨fun hφ => eq_of_beq hφ.2 ▸ h.lexeme hφ.1⟩

instance (priority := low) {ψ : Prop} {n : Nat} [h : Measured φ t n] : Measured (φ ∧ ψ) t n :=
  ⟨fun hφ => h.lexeme hφ.1⟩

instance {a b : Bool} {n : Nat} [h : Measured ((φ ∧ a = true) ∧ b = true) t n] :
    Measured (φ ∧ (a && b) = true) t n :=
  ⟨fun hφ => by
    obtain ⟨ha, hb⟩ := Bool.and_eq_true_iff.1 hφ.2
    exact h.lexeme ⟨⟨hφ.1, ha⟩, hb⟩⟩

instance {a b : Bool} {n : Nat} [ha : Measured (φ ∧ a = true) t n]
    [hb : Measured (φ ∧ b = true) t n] : Measured (φ ∧ (a || b) = true) t n :=
  ⟨fun hφ => (Bool.or_eq_true_iff.1 hφ.2).elim (fun h => ha.lexeme ⟨hφ.1, h⟩)
    fun h => hb.lexeme ⟨hφ.1, h⟩⟩

-- ============================================================== lexemes

instance (s : Text) [Plain s] : Abreast C k (k + 1) t φ (symbol s) (symbol s) := by
  unfold symbol
  infer_instance

instance (s : Text) [Plain s] : Abreast C k (k + 1) t φ (symbol? s) (symbol? s) := by
  unfold symbol?
  infer_instance

instance : Abreast C k (k + 1) t φ name name := by
  unfold name
  infer_instance

instance (w : Text) : Abreast C k (k + 1) t φ (keyword w) (keyword w) := by
  unfold keyword
  infer_instance

instance (w : Text) : Abreast C k (k + 1) t φ (keyword? w) (keyword? w) := by
  unfold keyword?
  infer_instance

instance : Abreast C k (k + 1) t φ semicolon semicolon := by
  unfold semicolon
  infer_instance

instance : Abreast C k (k + 1) t φ string string := by
  unfold string
  refine @Abreast.upcoming_bind _ _ _ _ _ _ _ _ ?_
  cases h : stringLength t with
  | none => exact (inferInstance : Abreast C k (k + 1) t φ fail fail)
  | some n =>
      have : Measured φ t n := ⟨fun _ => .string h⟩
      exact (inferInstance : Abreast C k (k + 1) t φ (take n) (take n))

instance : Abreast C k (k + 1) t φ number number := by
  unfold number
  refine @Abreast.upcoming_bind _ _ _ _ _ _ _ _ ?_
  have : Measured φ t (numberLength t) := ⟨fun _ => .number⟩
  split
  · exact (inferInstance : Abreast C k (k + 1) t φ fail fail)
  · infer_instance

instance (p q : Parser Unit) [h : Abreast C k (k + 1) t φ p q] :
    Abreast C k (k + 1) t φ (textOf p) (textOf q) := by
  refine ⟨fun {c} hφ hc ht => ?_⟩
  obtain ⟨heq, hends⟩ := h.along hφ hc ht
  unfold textOf
  rw [heq]
  cases hq : q c with
  | error e => exact ⟨rfl, fun h => by cases h⟩
  | ok r => exact ⟨rfl, fun h => by cases h; exact hends hq⟩

-- =============================================================== braces

/-- A symbol is the same lexeme on both sides. -/
theorem symbol_onto (s : Text) (c : Cursor) (base : List Declaration) :
    symbol s (c.onto base) = onto base (symbol s c) := by
  show (if s.isPrefixOf c.skip.rest then take s.length else fail : Parser Unit) (c.onto base)
    = onto base ((if s.isPrefixOf c.skip.rest then take s.length else fail : Parser Unit) c)
  split <;> rfl

/-- A brace that is taken stands ahead. -/
theorem symbol_brace {d : Char} {c c' : Cursor} (h : symbol [d] c = .ok ((), c')) :
    (∃ t, c.skip.rest = d :: t) ∧ c' = c.skip.advance 1 := by
  change (if [d].isPrefixOf c.skip.rest then take 1 else fail : Parser Unit) c = .ok ((), c') at h
  split at h
  case isTrue hprefix =>
    cases h
    refine ⟨?_, rfl⟩
    cases hrest : c.skip.rest with
    | nil => simp [hrest] at hprefix
    | cons e t =>
        have heq : d = e := by simpa [hrest, List.isPrefixOf] using hprefix
        exact ⟨t, by rw [heq]⟩
  case isFalse => cases h

/-- An opening brace is one more that is open. -/
instance Abreast.open_bind {f g : Unit → Parser β}
    [h : ∀ a, Anywhere C (k + 1) j (f a) (g a)] :
    Abreast C k j t φ (symbol "\x7b" >>= f) (symbol "\x7b" >>= g) :=
  ⟨fun _ hc _ => Abreast.along_bind ⟨symbol_onto .., fun hok => by
    obtain ⟨⟨t, ht⟩, rfl⟩ := symbol_brace hok
    exact C.opens hc ht⟩ h⟩

/-- A closing brace is one less that is open. -/
instance Abreast.close : Abreast C k k t φ (symbol "\x7d") (symbol "\x7d") :=
  ⟨fun _ hc _ => ⟨symbol_onto .., fun hok => by
    obtain ⟨⟨t, ht⟩, rfl⟩ := symbol_brace hok
    exact C.closes hc ht⟩⟩

instance (priority := low) Abreast.close_bind {p q : Parser α} {f g : α → Parser β}
    [hp : Abreast C (k + 1) (k + 1) t φ p q] [hf : ∀ a, Anywhere C k j (f a) (g a)] :
    Abreast C (k + 1) j t φ (p >>= f) (q >>= g) :=
  ⟨fun hφ hc ht => Abreast.along_bind (hp.along hφ hc ht) hf⟩

/-- An opening brace that was seen is taken by its length. -/
instance Abreast.take_open_bind {rest : Text} {f g : Unit → Parser β}
    [h : ∀ a, Anywhere C (k + 1) j (f a) (g a)] :
    Abreast C k j ('{' :: rest) φ (take 1 >>= f) (take 1 >>= g) :=
  ⟨fun _ hc ht => Abreast.along_bind ⟨rfl, fun hok => by
    cases hok
    exact C.opens hc ht⟩ h⟩

-- ================================================================= loops

instance Abreast.iterate {τ : Type} (init : τ) (step step' : τ → Parser (τ × Bool))
    [h : ∀ s, Anywhere C k (k + 1) (step s) (step' s)] :
    Abreast C k (k + 1) t φ (Source.iterate init step) (Source.iterate init step') := by
  have hloop (rounds : Nat) (s : τ) {c : Cursor} (hc : C.Holds (k + 1) c) :
      Source.loop step rounds s (c.onto C.base) = onto C.base (Source.loop step' rounds s c)
        ∧ ∀ {a c'}, Source.loop step' rounds s c = .ok (a, c') → C.Holds (k + 1) c' := by
    induction rounds generalizing s c with
    | zero => exact ⟨rfl, fun h => by cases h⟩
    | succ rounds ih =>
        obtain ⟨heq, hends⟩ := ((h s).abreast _).along trivial hc rfl
        unfold Source.loop
        rw [heq]
        cases hstep : step' s c with
        | error e => exact ⟨rfl, fun h => by cases h⟩
        | ok r =>
            obtain ⟨⟨s', again⟩, c''⟩ := r
            cases again with
            | true => exact ih s' (hends hstep)
            | false => exact ⟨rfl, fun h => by cases h; exact hends hstep⟩
  exact ⟨fun {c} _ hc _ => hloop (c.left + 1) init hc⟩

instance (step step' : Parser Bool) [Anywhere C k (k + 1) step step'] :
    Abreast C k (k + 1) t φ (repeatWhile step) (repeatWhile step') := by
  unfold repeatWhile
  infer_instance

instance (close : Text) [Plain close] (item item' : Parser Unit)
    [∀ t φ, Abreast C k (k + 1) t φ item item'] :
    Abreast C k (k + 1) t φ (commaList close item) (commaList close item') := by
  unfold commaList
  infer_instance

instance (item item' : Parser Unit) [∀ t φ, Abreast C (k + 1) (k + 2) t φ item item'] :
    Abreast C (k + 1) (k + 1) t φ (commaList "\x7d" item) (commaList "\x7d" item') := by
  unfold commaList
  infer_instance

instance (item item' : Parser Unit) [Anywhere C k (k + 1) item item'] :
    Abreast C k (k + 1) t φ (commaItems item) (commaItems item') := by
  unfold commaItems
  infer_instance

-- ================================================================= goals

/-- Two families of rules whose goals go abreast; elements only need to where there may be
markup on the course. -/
class Rules.Alike (C : Course) (rules rules' : Rules) : Prop where
  goal : ∀ g, g ≠ .element → ∀ {k t φ}, Abreast C k (k + 1) t φ (rules g) (rules' g)
  element : ∀ {i c}, C.Holds (i + 1) c → c.markup = true →
    ∀ {k t φ}, Abreast C k (k + 1) t φ (rules .element) (rules' .element)

namespace Rules

variable (rules rules' : Rules) [h : Rules.Alike C rules rules']

instance : Abreast C k (k + 1) t φ rules.type rules'.type := h.goal _ (by simp)

instance : Abreast C k (k + 1) t φ rules.expression rules'.expression := h.goal _ (by simp)

instance (allowIn : Bool) :
    Abreast C k (k + 1) t φ (rules (.expression allowIn)) (rules' (.expression allowIn)) :=
  h.goal _ (by simp)

instance : Abreast C k (k + 1) t φ rules.statement rules'.statement := h.goal _ (by simp)

instance (allowIn : Bool) :
    Abreast C k (k + 1) t φ (rules.sequence allowIn) (rules'.sequence allowIn) := by
  unfold sequence
  infer_instance

instance : Abreast C k (k + 1) t φ rules.block rules'.block := by
  unfold block
  infer_instance

instance (arguments arguments' : Parser Unit) [∀ t φ, Abreast C k (k + 1) t φ arguments arguments'] :
    Abreast C k (k + 1) t φ (rules.decorators arguments) (rules'.decorators arguments') := by
  unfold decorators
  dsimp only
  infer_instance

end Rules

end TypeShape.Source
