/-
Type expressions as trees, and all the ways to print them.

A term is a name, alone or with parameters in angle brackets. An expression is a term with list
suffixes, and terms chained to it as modifiers. Blanks may stand around a parameter, around a
separator and at both ends; everything else is fixed by the tree. The scans know nothing of
trees, yet from whatever was printed they give back the terms (`Term.read_printed`) and the
chain of them (`Expression.read_printed`).
-/
import Mathlib.Data.List.Forall2
import TypeShape.Proofs.TypeText.Spelling

namespace TypeShape

-- =============================================================== blanks

instance (l : Text) : Decidable (Blanks l) :=
  decidable_of_iff (l.all isBlank = true) List.all_eq_true

/-- No blank is taken for something else. -/
theorem Blanks.notMem {l : Text} (hl : Blanks l) (mark : Char) (hmark : isBlank mark = false) :
    mark ∉ l := by
  intro h
  rw [hl mark h] at hmark
  cases hmark

/-- Whatever stands between two solid texts, all together is solid. -/
theorem Solid.append {s u : Text} (hs : Solid s) (hne : s ≠ []) (hu : Solid u) (hne' : u ≠ [])
    (between : Text) : Solid (s ++ (between ++ u)) := by
  constructor
  case first =>
    intro c hc
    rw [head?_append_of_ne_nil hne] at hc
    exact hs.first c hc
  case last =>
    intro c hc
    obtain ⟨final, hfinal⟩ := Option.isSome_iff_exists.1 (List.getLast?_isSome.2 hne')
    rw [← List.append_assoc, List.getLast?_append, hfinal] at hc
    cases hc
    exact hu.last _ hfinal

namespace TypeText

-- ================================================================ trees

/-- A name, alone or with parameters. -/
structure Term where
  name : Text
  parameters : List Text

/-- A base term in so many list layers, and its modifiers in order. -/
structure Expression where
  base : Term
  lists : Nat
  modifiers : List Term

/-- A term without anything that takes expressions apart. -/
structure Term.Plain (a : Term) : Prop where
  name : PlainName a.name
  parameters : ∀ p ∈ a.parameters, PlainName p ∧ ',' ∉ p

/-- An expression of such terms. -/
structure Expression.Plain (e : Expression) : Prop where
  base : e.base.Plain
  modifiers : ∀ m ∈ e.modifiers, m.Plain

instance (a : Term) : Decidable a.Plain :=
  decidable_of_iff (PlainName a.name ∧ a.parameters.Forall fun p => PlainName p ∧ ',' ∉ p) <| by
    rw [List.forall_iff_forall_mem]
    exact ⟨fun h => ⟨h.1, h.2⟩, fun h => ⟨h.name, h.parameters⟩⟩

instance (e : Expression) : Decidable e.Plain :=
  decidable_of_iff (e.base.Plain ∧ e.modifiers.Forall Term.Plain) <| by
    rw [List.forall_iff_forall_mem]
    exact ⟨fun h => ⟨h.1, h.2⟩, fun h => ⟨h.base, h.modifiers⟩⟩

/-- What a term is looked up under: its name, with a mark if it has parameters. -/
def Term.key (a : Term) : Text :=
  if a.parameters.isEmpty then a.name else a.name ++ "<>"

-- ============================================================= printing

/-- Parameters with commas between them. -/
inductive PrintsParameters : List Text → Text → Prop
  | last {p l r : Text} (before : Blanks l) (after : Blanks r) :
      PrintsParameters [p] (l ++ p ++ r)
  | more {p l r t : Text} {ps : List Text} (before : Blanks l) (after : Blanks r)
      (others : PrintsParameters ps t) : PrintsParameters (p :: ps) (l ++ p ++ r ++ ',' :: t)

/-- A term. -/
inductive Term.Prints : Term → Text → Prop
  | alone (name : Text) : Prints ⟨name, []⟩ name
  | applied {name t : Text} {ps : List Text} (group : PrintsParameters ps t) :
      Prints ⟨name, ps⟩ (name ++ '<' :: (t ++ ['>']))

/-- Modifiers, each after its separator. -/
inductive PrintsModifiers : List Term → Text → Prop
  | none : PrintsModifiers [] []
  | more {m : Term} {l r u t : Text} {ms : List Term} (before : Blanks l) (after : Blanks r)
      (printed : m.Prints u) (others : PrintsModifiers ms t) :
      PrintsModifiers (m :: ms) (l ++ separator :: (r ++ u ++ t))

/-- An expression; the first text is its base as it is printed there. -/
inductive Expression.Prints (e : Expression) : Text → Text → Prop
  | mk {b l r t : Text} (before : Blanks l) (after : Blanks r) (base : e.base.Prints b)
      (modifiers : PrintsModifiers e.modifiers t) :
      Prints e b (l ++ (b ++ suffixes e.lists ++ t) ++ r)

-- =========================================================== parameters

namespace PrintsParameters

variable {ps : List Text} {t : Text}

theorem ne_nil (h : PrintsParameters ps t) : ps ≠ [] := by
  cases h <;> simp

theorem filled (h : PrintsParameters ps t) (plain : ∀ p ∈ ps, PlainName p ∧ ',' ∉ p) :
    t ≠ [] := by
  cases h with
  | last => simp [(plain _ (List.mem_singleton.2 rfl)).1.nonempty]
  | more => simp

/-- Only commas and blanks are new. -/
theorem notMem (h : PrintsParameters ps t) {mark : Char} (solid : isBlank mark = false)
    (comma : mark ≠ ',') (absent : ∀ p ∈ ps, mark ∉ p) : mark ∉ t := by
  induction h with
  | last before after =>
      have hp := absent _ (List.mem_singleton.2 rfl)
      simp [before.notMem mark solid, hp, after.notMem mark solid]
  | more before after others ih =>
      have hp := absent _ (List.mem_cons_self ..)
      have ht := ih fun q hq => absent q (List.mem_cons_of_mem _ hq)
      simp [before.notMem mark solid, hp, after.notMem mark solid, comma, ht]

/-- The marks of the type language are none of these. -/
theorem notMem_plain (h : PrintsParameters ps t) (plain : ∀ p ∈ ps, PlainName p ∧ ',' ∉ p)
    {mark : Char} (hmark : mark ∈ typeMarks) : mark ∉ t := by
  have solid : isBlank mark = false := by
    have table : typeMarks.all (fun m => !isBlank m) = true := by decide
    simpa using List.all_eq_true.1 table mark hmark
  have comma : mark ≠ ',' := by
    rintro rfl
    exact absurd hmark (by decide)
  exact h.notMem solid comma fun p hp => (plain p hp).1.notMem hmark

/-- The pieces between the commas are the parameters. -/
theorem trim_pieces (h : PrintsParameters ps t) (solid : ∀ p ∈ ps, Solid p ∧ ',' ∉ p) :
    (Text.pieces ',' t).map Text.trim = ps := by
  induction h with
  | @last p l r before after =>
      obtain ⟨hp, comma⟩ := solid p (List.mem_singleton.2 rfl)
      have absent : ',' ∉ l ++ p ++ r := by
        simp [before.notMem ',' rfl, comma, after.notMem ',' rfl]
      rw [pieces_of_notMem absent, List.map_singleton, trim_between before hp after]
  | @more p l r t ps before after others ih =>
      obtain ⟨hp, comma⟩ := solid p (List.mem_cons_self ..)
      have absent : ',' ∉ l ++ p ++ r := by
        simp [before.notMem ',' rfl, comma, after.notMem ',' rfl]
      rw [pieces_append absent, List.map_cons, trim_between before hp after,
        ih fun q hq => solid q (List.mem_cons_of_mem _ hq)]

end PrintsParameters

-- ================================================================ terms

namespace Term

variable {a : Term} {s : Text}

/-- A printed term is its name and perhaps a group after it. -/
theorem Prints.name_append (h : a.Prints s) : ∃ group, s = a.name ++ group := by
  cases h with
  | alone name => exact ⟨[], (List.append_nil _).symm⟩
  | applied group => exact ⟨_, rfl⟩

theorem Prints.ne_nil (h : a.Prints s) (plain : a.Plain) : s ≠ [] := by
  obtain ⟨group, rfl⟩ := h.name_append
  simp [plain.name.nonempty]

theorem Prints.solid (h : a.Prints s) (plain : a.Plain) : Solid s := by
  cases h with
  | alone name => exact plain.name.toSolid
  | @applied name t ps group =>
      have bracket : Solid ['>'] := by
        constructor <;>
        · intro c hc
          cases hc
          rfl
      exact plain.name.toSolid.append plain.name.nonempty bracket (by simp) ('<' :: t)

/-- Only angle brackets and commas are new. -/
theorem Prints.notMem (h : a.Prints s) (plain : a.Plain) {mark : Char}
    (hmark : mark ∈ typeMarks) (hopen : mark ≠ '<') (hclose : mark ≠ '>') : mark ∉ s := by
  cases h with
  | alone name => exact plain.name.notMem hmark
  | @applied name t ps group =>
      simp [plain.name.notMem hmark, group.notMem_plain plain.parameters hmark, hopen, hclose]

/-- With suffixes only brackets of both kinds and commas are new. -/
theorem Prints.notMem_suffixes (h : a.Prints s) (plain : a.Plain) (n : Nat) {mark : Char}
    (hmark : mark ∈ typeMarks) (bracket : mark ∉ ['<', '>', '[', ']']) :
    mark ∉ s ++ suffixes n := by
  simp only [List.mem_cons, List.not_mem_nil, or_false, not_or] at bracket
  intro mem
  rcases List.mem_append.1 mem with mem | mem
  · exact h.notMem plain hmark bracket.1 bracket.2.1 mem
  · rcases mem_suffixes mem with rfl | rfl
    · exact bracket.2.2.1 rfl
    · exact bracket.2.2.2 rfl

/-- A term is read back from whatever it was printed as. -/
theorem read_printed (h : a.Prints s) (plain : a.Plain) :
    Applied.read s = ⟨a.key, a.parameters⟩ := by
  cases h with
  | alone name => exact Applied.read_of_notMem (plain.name.notMem (by decide))
  | @applied name t ps group =>
      obtain ⟨first, inner, rfl⟩ := List.exists_cons_of_ne_nil (group.filled plain.parameters)
      have closed : '>' ∉ first :: inner := group.notMem_plain plain.parameters (by decide)
      have key : key ⟨name, ps⟩ = name ++ "<>" := by
        unfold Term.key
        rw [if_neg (by simpa using group.ne_nil)]
      have solid : ∀ p ∈ ps, Solid p ∧ ',' ∉ p := fun p hp =>
        ⟨(plain.parameters p hp).1.toSolid, (plain.parameters p hp).2⟩
      have read : Applied.read (name ++ '<' :: first :: inner ++ ['>']) = _ :=
        Applied.read_group plain.name.nonempty (plain.name.notMem (by decide))
          (mt (List.mem_cons_of_mem first) closed)
      rw [List.append_assoc, group.trim_pieces solid] at read
      rw [key]
      exact read

end Term

-- ============================================================ modifiers

namespace PrintsModifiers

variable {ms : List Term} {t : Text}

/-- Modifiers end a solid text as one. -/
theorem solid_append (h : PrintsModifiers ms t) (plain : ∀ m ∈ ms, m.Plain) {s : Text}
    (hs : Solid s) (hne : s ≠ []) : Solid (s ++ t) := by
  induction h generalizing s with
  | none => rwa [List.append_nil]
  | @more m l r u t ms before after printed others ih =>
      have hm := plain m (List.mem_cons_self ..)
      have longer : Solid (s ++ (l ++ separator :: r ++ u)) :=
        hs.append hne (printed.solid hm) (printed.ne_nil hm) _
      have h := ih (fun q hq => plain q (List.mem_cons_of_mem _ hq)) longer (by simp [hne])
      simpa using h

/-- Only separators, angle brackets and commas are new. -/
theorem brace_notMem (h : PrintsModifiers ms t) (plain : ∀ m ∈ ms, m.Plain) : '{' ∉ t := by
  induction h with
  | none => exact List.not_mem_nil
  | @more m l r u t ms before after printed others ih =>
      have hm : '{' ∉ u := printed.notMem (plain m (List.mem_cons_self ..)) (by decide)
        (by decide) (by decide)
      have ht := ih fun q hq => plain q (List.mem_cons_of_mem _ hq)
      simp [separator, before.notMem '{' rfl, after.notMem '{' rfl, hm, ht]

/-- The pieces between the separators are what stands before the modifiers, and then each of
them as it is printed. -/
theorem trim_pieces (h : PrintsModifiers ms t) (plain : ∀ m ∈ ms, m.Plain) :
    ∃ us, List.Forall₂ Term.Prints ms us ∧
      ∀ l s : Text, Blanks l → Solid s → s ≠ [] → separator ∉ s →
        (Text.pieces separator (l ++ s ++ t)).map Text.trim = s :: us := by
  have noBlanks : Blanks [] := fun c hc => nomatch hc
  induction h with
  | none =>
      refine ⟨[], .nil, ?_⟩
      intro l s before hs hne alone
      have absent : separator ∉ l ++ s := by
        simp [before.notMem separator rfl, alone]
      have trimmed := trim_between before hs noBlanks
      rw [List.append_nil] at trimmed ⊢
      rw [pieces_of_notMem absent, List.map_singleton, trimmed]
  | @more m l' r u t ms before after printed others ih =>
      have hm := plain m (List.mem_cons_self ..)
      obtain ⟨us, hus, read⟩ := ih fun q hq => plain q (List.mem_cons_of_mem _ hq)
      refine ⟨u :: us, .cons printed hus, ?_⟩
      intro l s before' hs hne alone
      have absent : separator ∉ l ++ s ++ l' := by
        simp [before.notMem separator rfl, before'.notMem separator rfl, alone]
      have next := read r u after (printed.solid hm) (printed.ne_nil hm)
        (printed.notMem hm (by decide) (by decide) (by decide))
      rw [← List.append_assoc, pieces_append absent, List.map_cons,
        trim_between before' hs before, next]

end PrintsModifiers

-- ========================================================== expressions

namespace Expression

variable {e : Expression} {b t : Text}

/-- Without the blanks at its ends a printed expression is no inline object, and its chain is
the printed base with its suffixes and each modifier as it is printed. -/
theorem read_printed (h : e.Prints b t) (plain : e.Plain) :
    ∃ us, List.Forall₂ Term.Prints e.modifiers us
      ∧ Chain.read (Text.trim t) = ⟨b ++ suffixes e.lists, us⟩
      ∧ Plan.inlineObject? (Text.trim t) = none := by
  cases h with
  | @mk l r tail before after base modifiers =>
      have hbase := solid_append_suffixes (base.solid plain.base) (base.ne_nil plain.base) e.lists
      have nonempty : b ++ suffixes e.lists ≠ [] := by simp [base.ne_nil plain.base]
      have core := modifiers.solid_append plain.modifiers hbase nonempty
      have trimmed := trim_between before core after
      obtain ⟨us, hus, pieces⟩ := modifiers.trim_pieces plain.modifiers
      refine ⟨us, hus, ?_, ?_⟩
      · have noBrace : '{' ∉ b ++ suffixes e.lists ++ tail := by
          intro mem
          rcases List.mem_append.1 mem with mem | mem
          · exact base.notMem_suffixes plain.base e.lists (by decide) (by decide) mem
          · exact modifiers.brace_notMem plain.modifiers mem
        have read := pieces [] _ (fun c hc => nomatch hc) hbase nonempty
          (base.notMem_suffixes plain.base e.lists (by decide) (by decide))
        rw [List.nil_append] at read
        rw [trimmed, Chain.read, strip_of_notMem noBrace, read]
      · obtain ⟨group, rfl⟩ := base.name_append
        rw [trimmed, List.append_assoc, List.append_assoc]
        exact inlineObject?_name plain.base.name _

end Expression

end TypeText

end TypeShape
