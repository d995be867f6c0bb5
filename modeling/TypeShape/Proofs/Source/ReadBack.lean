/-
Printed declarations are read back: the text of a list of declarations gives exactly this list.

A statement that holds a declaration collects it under the line on which its name stands
(`Collects`); all else about it is told by the text. The loop over statements is followed by
induction on the list, with the blanks that the declaration before has left.
-/
import TypeShape.Proofs.Source.ReadTypes

namespace TypeShape.Source

variable {u v x : Text} {rules : Rules}

-- ============================================================ collecting

/-- Wherever the first text is left, the parser collects one declaration and leaves the last;
the declaration is told the line on which the cursor is before the one in between. -/
structure Collects (p : Parser Unit) (u : Text) (d : Nat → Declaration) (x v : Text) : Prop where
  named : x <:+ u
  ending : v <:+ u
  run : ∀ {c : Cursor}, c.Stands u →
    p c = .ok ((), { c.to v with found := d (c.to x).line :: c.found })

namespace Collects

variable {α : Type} {p : Parser α} {f : α → Parser Unit} {a : α} {q q' : Parser Unit}
  {w : Text} {d : Nat → Declaration}

theorem bind (hp : Takes p u a w) (hf : Collects (f a) w d x v) : Collects (p >>= f) u d x v := by
  refine ⟨hf.named.trans hp.ending, hf.ending.trans hp.ending, fun {c} hc => ?_⟩
  have hw : w <:+ c.rest := hc.rest ▸ hp.ending
  rw [← Cursor.to_to hw hf.named, ← Cursor.to_to hw hf.ending]
  exact bind_eq_ok.2 ⟨a, _, hp.run hc, hf.run (c.to_stands w)⟩

theorem otherwise {b : Bool} (hb : b = false) (hq : Collects q u d x v) :
    Collects (if b = true then q' else q) u d x v := by
  rw [hb]
  exact hq

theorem branch {b : Bool} (hb : b = true) (hq : Collects q u d x v) :
    Collects (if b = true then q else q') u d x v := by
  rw [hb]
  exact hq

end Collects

/-- A declaration is collected with the line of its name. -/
theorem collects {kind : Json} {w : Text} {ps : List Property} (hname : Takes name u w x)
    {f : Text × Nat → Parser (Text × Nat × List Property)}
    (hf : ∀ line, Takes (f (w, line)) x (w, line, ps) v) :
    Collects (Rules.collect kind (Rules.declaredName >>= f)) u
      (fun line => { name := w, kind, properties := ps, line := .int line }) x v := by
  have hend := (hf 0).ending
  refine ⟨hname.ending, hend.trans hname.ending, fun {c} hc => ?_⟩
  have hx : x <:+ c.rest := hc.rest ▸ hname.ending
  have hdeclared : Rules.declaredName c = .ok ((w, (c.to x).line), c.to x) :=
    bind_eq_ok.2 ⟨w, _, hname.run hc, rfl⟩
  have hbody : (Rules.declaredName >>= f) c = .ok ((w, (c.to x).line, ps), c.to v) := by
    rw [← Cursor.to_to hx hend]
    exact bind_eq_ok.2 ⟨_, _, hdeclared, (hf _).run (c.to_stands x)⟩
  exact bind_eq_ok.2 ⟨c, c, rfl, bind_eq_ok.2 ⟨_, _, hbody, rfl⟩⟩

-- ================================================================= words

theorem breaks_space (x : Text) : Breaks (' ' :: x) := by
  intro d hd
  cases hd
  exact ⟨rfl, by decide⟩

/-- A word comes next, and ends before a blank. -/
structure WordAhead (u word x : Text) : Prop where
  ahead : ahead u = word ++ ' ' :: x
  isWord : isWord word = true

namespace WordAhead

variable {word : Text} (h : WordAhead u word x)

include h

theorem opens : Opens isNameStart u :=
  opens_word h.ahead h.isWord

theorem wordAt : wordAt u = word :=
  wordAt_eq h.ahead h.isWord (breaks_space x)

theorem take : Takes (take word.length) u () (' ' :: x) :=
  .take h.ahead _ rfl

/-- What is asked for after the word comes next. -/
theorem afterWord : Takes Rules.afterWord u (Source.ahead x) u := by
  refine .ask fun {c} hc => ?_
  have hend : word ++ ' ' :: x <:+ c.rest := by
    rw [hc.rest, ← h.ahead]
    exact ahead_suffix u
  have hskip : c.skip = c.to (word ++ ' ' :: x) := by
    rw [hc.skip, h.ahead]
  have hlength : nameLength (c.to (word ++ ' ' :: x)).rest = word.length :=
    nameLength_append h.isWord (breaks_space x)
  simp only [hskip, hlength, Cursor.to_advance hend, (c.to_stands (' ' :: x)).skip]
  rfl

/-- The word decides what statement it is. -/
theorem statement {d : Nat → Declaration} {y : Text}
    (hword : Collects (rules.wordStatement word) u d y v) :
    Collects rules.statementRule u d y v := by
  have hpos := nameLength_ne_zero h.ahead h.isWord (breaks_space x)
  refine .bind .upcoming <| .branch hpos ?_
  change Collects (rules.wordStatement (Source.wordAt u)) u d y v
  rw [h.wordAt]
  exact hword

end WordAhead

-- ========================================================== declarations

namespace Written

variable (w : Written)

/-- The blanks before a property are skipped. -/
theorem ahead_gap (indent : Nat) (x : Text) : ahead (gap indent ++ x) = ahead x := by
  rw [gap, List.cons_append, ahead_break]
  induction indent with
  | zero => rfl
  | succ indent ih => rw [List.replicate_succ, List.cons_append, ahead_space, ih]

/-- What stands after the name of a declaration: a brace, and properties that the rules read from
there on, up to the end of the declaration. -/
structure ReadAhead (rules : Rules) (x : Text) (ps : List Property) (v : Text) : Prop where
  opens : Opens (· == '{') x
  members : Takes (if w.isClass then rules.classMembers else rules.typeMembers) x ps v

namespace ReadAhead

variable {w} {ps : List Property} (h : w.ReadAhead rules x ps v)

include h

theorem breaks : Breaks x :=
  h.opens.breaks (isMark_of_beq rfl)

theorem typeParameters : Takes rules.typeParameters? x () x :=
  .bind (.sees_not h.opens rfl) (.pure () x)

theorem keyword {word : Text} (hword : word ≠ []) : Takes (keyword? word) x false x := by
  refine .keyword?_not ?_
  rw [h.opens.wordAt (isMark_of_beq rfl)]
  exact hword.symm

/-- An interface extends nothing. -/
theorem extendedTypes : Takes rules.extendedTypes x () x :=
  .bind (h.keyword (by decide)) (.pure () x)

/-- A class has no heritage. -/
theorem heritage (operand : Parser Unit) : Takes (rules.heritage operand) x () x :=
  .bind (h.keyword (by decide)) <| .bind (h.keyword (by decide)) (.pure () x)

end ReadAhead

variable {ps : List Property}

/-- After its word an interface is collected. -/
theorem collects_interface (hclass : w.isClass = false) (h : ahead u = w.name.text ++ x)
    (hx : w.ReadAhead rules x ps v) :
    Collects rules.interfaceRule u (fun line => { w.declaration line with properties := ps }) x
      v := by
  have hname := Takes.name h w.name.isWord hx.breaks
  have hmembers := hx.members
  rw [hclass] at hmembers
  unfold declaration
  rw [hclass]
  exact collects hname fun line => .bind hx.typeParameters <|
    .bind hx.extendedTypes <| .bind hmembers (.pure _ v)

/-- After its word a class is collected. -/
theorem collects_class (hclass : w.isClass = true) (h : ahead u = w.name.text ++ x)
    (hx : w.ReadAhead rules x ps v) :
    Collects rules.classRule u (fun line => { w.declaration line with properties := ps }) x v := by
  have hname := Takes.name h w.name.isWord hx.breaks
  have hmembers := hx.members
  rw [hclass] at hmembers
  unfold declaration
  rw [hclass]
  exact collects hname fun line => .bind hx.typeParameters <|
    .bind (hx.heritage _) <| .bind hmembers (.pure _ v)

theorem isWord_word : isWord w.word = true := by
  unfold word
  split <;> decide

/-- The word of a declaration is none of the others. -/
theorem beq_word {s : Text} (hs : s ≠ "class".toList ∧ s ≠ "interface".toList) :
    (w.word == s) = false := by
  rw [beq_eq_false_iff_ne]
  unfold word
  split
  · exact hs.1.symm
  · exact hs.2.symm

theorem opensDeclaration_word (next : Text) : Rules.opensDeclaration w.word next = true := by
  unfold word
  split <;> rfl

/-- The word of a declaration comes next, and then its name. -/
theorem wordAhead (h : ahead u = w.word ++ ' ' :: (w.name.text ++ x)) :
    WordAhead u w.word (w.name.text ++ x) :=
  ⟨h, w.isWord_word⟩

/-- A declaration is collected with what its rule reads after the name. -/
theorem collects_declarationRule (h : ahead u = w.word ++ ' ' :: (w.name.text ++ x))
    (hx : w.ReadAhead rules x ps v) :
    Collects rules.declarationRule u (fun line => { w.declaration line with properties := ps }) x
      v := by
  have hahead := w.wordAhead h
  have hname : ahead (' ' :: (w.name.text ++ x)) = w.name.text ++ x :=
    ahead_word w.name.isWord x
  have htake := hahead.take
  refine .bind .upcomingName <| .bind hahead.afterWord ?_
  rw [hahead.wordAt]
  cases hclass : w.isClass with
  | true =>
      have hword : w.word = "class".toList := by rw [word, hclass]; rfl
      rw [hword] at htake ⊢
      exact .otherwise rfl <| .bind htake <| .otherwise rfl <| .branch rfl <|
        w.collects_class hclass hname hx
  | false =>
      have hword : w.word = "interface".toList := by rw [word, hclass]; rfl
      rw [hword] at htake ⊢
      exact .otherwise rfl <| .bind htake <| .branch rfl <|
        w.collects_interface hclass hname hx

/-- What is exported by the word of a declaration is the declaration. -/
theorem collects_exportRule (rules : Rules) {declaration : Parser Unit} {d : Nat → Declaration}
    (h : ahead u = w.word ++ ' ' :: (w.name.text ++ x))
    (hdeclaration : Collects declaration u d x v) :
    Collects (rules.exportRule declaration) u d x v := by
  have hahead := w.wordAhead h
  refine .bind (.symbol?_not hahead.opens rfl) <| .bind (.sees_not hahead.opens rfl) <|
    .bind (.sees_not hahead.opens rfl) <| .bind (.sees_not hahead.opens rfl) <|
    .bind .upcomingName ?_
  rw [hahead.wordAt]
  exact .otherwise (w.beq_word (by decide)) <| .otherwise (w.beq_word (by decide)) <|
    .otherwise (w.beq_word (by decide)) <| .otherwise (w.beq_word (by decide)) hdeclaration

/-- A declaration that is not exported is a statement. -/
theorem collects_plain (h : ahead u = w.word ++ ' ' :: (w.name.text ++ x))
    (hx : w.ReadAhead rules x ps v) :
    Collects rules.statementRule u (fun line => { w.declaration line with properties := ps }) x
      v := by
  have hahead := w.wordAhead h
  have himport : (w.word == "import".toList) = false := w.beq_word (by decide)
  refine hahead.statement (.bind hahead.afterWord <| .otherwise (w.beq_word (by decide)) ?_)
  exact .otherwise (by rw [himport]; rfl) <| .branch (w.opensDeclaration_word _) <|
    w.collects_declarationRule h hx

/-- So is one that is exported. -/
theorem collects_export
    (h : ahead u = "export".toList ++ ' ' :: (w.word ++ ' ' :: (w.name.text ++ x)))
    (hx : w.ReadAhead rules x ps v) :
    Collects rules.statementRule u (fun line => { w.declaration line with properties := ps }) x
      v := by
  have hafter : ahead (' ' :: (w.word ++ ' ' :: (w.name.text ++ x)))
      = w.word ++ ' ' :: (w.name.text ++ x) := ahead_word w.isWord_word _
  have hnext := w.wordAhead hafter
  have hahead : WordAhead u "export".toList (w.word ++ ' ' :: (w.name.text ++ x)) :=
    ⟨h, by decide⟩
  have hdeclare : wordAt (' ' :: (w.word ++ ' ' :: (w.name.text ++ x))) ≠ "declare" := by
    rw [hnext.wordAt, ← beq_eq_false_iff_ne]
    exact w.beq_word (by decide)
  refine hahead.statement (.bind hahead.afterWord <| .branch rfl <| .bind hahead.take ?_)
  exact w.collects_exportRule rules hafter <| .bind (.keyword?_not hdeclare) <|
    .bind (Repeats.none (.bind (.symbol?_not hnext.opens rfl) (.pure false _))) <|
    w.collects_declarationRule hafter hx

/-- A declaration is collected with the properties that are read after its name. -/
theorem collects_lead (h : ahead u = w.lead ++ (w.name.text ++ x))
    (hx : w.ReadAhead rules x ps v) :
    Collects rules.statementRule u (fun line => { w.declaration line with properties := ps }) x
      v := by
  unfold lead at h
  cases hexported : w.exported with
  | true =>
      rw [hexported] at h
      exact w.collects_export (by simpa using h) hx
  | false =>
      rw [hexported] at h
      exact w.collects_plain (by simpa using h) hx

/-- Every declaration opens with a word. -/
theorem lead_eq_cons : ∃ d s, w.lead = d :: s ∧ isNameStart d = true := by
  unfold lead word
  cases w.exported with
  | true => exact ⟨'e', _, rfl, rfl⟩
  | false =>
      cases w.isClass with
      | true => exact ⟨'c', _, rfl, rfl⟩
      | false => exact ⟨'i', _, rfl, rfl⟩

/-- The name of a declaration stands on its first line. -/
theorem line_name {c : Cursor} {b : Text}
    (hc : c.Stands (b ++ (w.lead ++ (w.name.text ++ x)))) :
    (c.to x).line = c.line + b.count '\n' := by
  have hlead := w.count_break_lead
  rw [List.count_append] at hlead
  simp only [Cursor.to, hc.rest, List.count_append]
  omega

end Written

namespace Spaced

variable (s : Spaced)

/-- The body of a declaration gives its properties. -/
theorem readAhead (hs : ∀ m ∈ s.members, rules.ReadsType m.type) (indent : Nat) (v : Text) :
    s.head.ReadAhead rules (s.body indent ++ v) (s.members.map SpacedMember.property) v := by
  have hbody : ahead (s.body indent ++ v) = '{' ::
      (rows (Written.gap indent) true (s.members.map SpacedMember.print) ++ '\n' :: '}' :: v) := by
    simp only [body, List.cons_append, List.append_assoc]
    rfl
  have hgap := Written.ahead_gap indent
  refine ⟨.of_ahead hbody rfl, ?_⟩
  cases s.head.isClass with
  | true => exact takes_classMembers hgap rfl s.members hs hbody
  | false => exact takes_typeMembers hgap rfl s.members hs hbody

/-- A declaration is collected as it is printed. -/
theorem collects_print (hs : ∀ m ∈ s.members, rules.ReadsType m.type) (indent : Nat)
    (h : ahead u = s.print indent ++ v) :
    Collects rules.statementRule u s.declaration (s.body indent ++ v) v := by
  rw [print, List.append_assoc, List.append_assoc] at h
  exact s.head.collects_lead h (s.readAhead hs indent v)

theorem print_eq_cons (indent : Nat) :
    ∃ d t, s.print indent = d :: t ∧ isNameStart d = true := by
  obtain ⟨d, t, ht, hd⟩ := s.head.lead_eq_cons
  exact ⟨d, _, by rw [print, ht, List.cons_append], hd⟩

theorem ahead_print (indent : Nat) (v : Text) :
    ahead (s.print indent ++ v) = s.print indent ++ v := by
  obtain ⟨d, t, ht, hd⟩ := s.print_eq_cons indent
  rw [ht, List.cons_append, ahead_isNameStart hd]

theorem opens_print {indent : Nat} (h : ahead u = s.print indent ++ v) : Opens isNameStart u := by
  obtain ⟨d, t, ht, hd⟩ := s.print_eq_cons indent
  rw [ht] at h
  exact .of_ahead h hd

variable {c : Cursor} {b : Text} {indent : Nat}

theorem line_name (hc : c.Stands (b ++ (s.print indent ++ v))) :
    (c.to (s.body indent ++ v)).line = c.line + b.count '\n' := by
  rw [print, List.append_assoc, List.append_assoc] at hc
  exact s.head.line_name hc

/-- After a declaration its lines are behind. -/
theorem line_end (hc : c.Stands (b ++ (s.print indent ++ v))) :
    (c.to v).line = c.line + b.count '\n' + (s.print indent).count '\n' := by
  simp only [Cursor.to, hc.rest, List.count_append]
  omega

/-- The properties have types. -/
def IsTyped : Prop :=
  ∀ m ∈ s.members, IsType m.type

/-- Types are shorter than the text of the declarations that hold them, so that there is room for
their nesting. -/
theorem IsTyped.readsType {s : Spaced} {ss : List Spaced} (hs : s ∈ ss) (htyped : s.IsTyped)
    {n : Nat} (hn : (printAll indent ss).length ≤ n) :
    ∀ m ∈ s.members, (parse n).ReadsType m.type := by
  intro m hm
  have hlt : m.type.length < (s.print indent).length := by
    have hmember := m.length_type_lt
    have hrows : m.print.length
        ≤ (rows (Written.gap indent) true (s.members.map SpacedMember.print)).length :=
      length_le_rows (List.mem_map_of_mem hm)
    simp only [print, body, List.length_append, List.length_cons]
    omega
  have hle : (s.print indent).length ≤ (printAll indent ss).length := by
    clear hn
    induction ss with
    | nil => cases hs
    | cons s' ss ih =>
        rw [printAll, List.length_append, List.length_cons]
        rcases List.mem_cons.1 hs with rfl | hs
        · omega
        · have := ih hs
          omega
  exact htyped m hm n (by omega)

end Spaced

-- ============================================================== programs

/-- One round over the statements of a text. -/
def statementRound (rules : Rules) : Parser (Unit × Bool) := do
  return ((), ← (do
    if (← upcoming).isEmpty then return false
    rules.statement
    return true))

/-- A declaration makes one round. -/
theorem statementRound_collects {d : Nat → Declaration} {kind : Char → Bool}
    (hopens : Opens kind u) (h : Collects rules.statement u d x v) {c : Cursor}
    (hc : c.Stands u) :
    statementRound rules c
      = .ok (((), true), { c.to v with found := d (c.to x).line :: c.found }) := by
  have hupcoming := Takes.upcoming.run hc
  have hempty : (ahead u).isEmpty = false := by
    obtain ⟨d, hd, -⟩ := hopens
    cases hu : ahead u with
    | nil =>
        rw [hu] at hd
        cases hd
    | cons d s => rfl
  refine bind_eq_ok.2 ⟨true, _, bind_eq_ok.2 ⟨_, _, hupcoming, ?_⟩, rfl⟩
  rw [hempty, hc.to_self]
  exact bind_eq_ok.2 ⟨(), _, h.run hc, rfl⟩

/-- At the end of the text the rounds end. -/
theorem statementRound_end (rules : Rules) (h : ahead u = []) {c : Cursor} (hc : c.Stands u) :
    statementRound rules c = .ok (((), false), c) := by
  have hskip : c.skip.rest = [] := by
    rw [hc.skip, h]
    rfl
  refine bind_eq_ok.2 ⟨false, _, bind_eq_ok.2 ⟨_, c, rfl, ?_⟩, rfl⟩
  rw [hskip]
  rfl

/-- From blanks before printed declarations on, the rounds collect exactly these. -/
theorem loop_printAll {inner : Rules} (hstatement : rules.statement = inner.statementRule)
    (indent : Nat) (ss : List Spaced)
    (hss : ∀ s ∈ ss, ∀ m ∈ s.members, inner.ReadsType m.type) {b : Text}
    (hb : ∀ x, ahead (b ++ x) = ahead x) {c : Cursor}
    (hc : c.Stands (b ++ Spaced.printAll indent ss)) {k : Nat} (hk : c.rest.length < k) :
    ∃ c', loop (fun _ => statementRound rules) k () c = .ok ((), c')
      ∧ c'.found = (Spaced.listed indent (c.line + b.count '\n') ss).reverse ++ c.found := by
  induction ss generalizing b c k with
  | nil =>
      have hend : ahead (b ++ Spaced.printAll indent []) = [] := hb []
      cases k with
      | zero => omega
      | succ k =>
          refine ⟨c, ?_, rfl⟩
          rw [loop, statementRound_end rules hend hc]
  | cons s ss ih =>
      have hahead : ahead (b ++ Spaced.printAll indent (s :: ss))
          = s.print indent ++ '\n' :: Spaced.printAll indent ss := by
        rw [hb, Spaced.printAll, s.ahead_print]
      have hcollects := s.collects_print (hss s List.mem_cons_self) indent hahead
      rw [← hstatement] at hcollects
      have hround := statementRound_collects (s.opens_print hahead) hcollects hc
      rw [s.line_name hc] at hround
      -- where the next round starts: the line break after the declaration is still ahead
      let next : Cursor := { c.to ('\n' :: Spaced.printAll indent ss) with
        found := s.declaration (c.line + b.count '\n') :: c.found }
      have hnext : next.Stands (['\n'] ++ Spaced.printAll indent ss) := ⟨rfl, rfl⟩
      have hline : next.line = c.line + b.count '\n' + (s.print indent).count '\n' :=
        s.line_end hc
      cases k with
      | zero => omega
      | succ k =>
          have hshort : next.rest.length < k := by
            obtain ⟨d, t, ht, -⟩ := s.print_eq_cons indent
            rw [hc.rest, Spaced.printAll, ht] at hk
            simp only [List.length_append, List.length_cons] at hk
            simp only [hnext.rest, List.length_append, List.length_cons, List.length_nil]
            omega
          obtain ⟨c', hloop, hfound⟩ := ih (fun s' hs' => hss s' (List.mem_cons_of_mem s hs'))
            ahead_break hnext hshort
          refine ⟨c', by rw [loop, hround]; exact hloop, ?_⟩
          rw [hfound, hline, Spaced.listed, List.reverse_cons, List.append_assoc]
          rfl

/-- What a program leaves collected is parsed, in source order. -/
theorem parseText_of_program {t path : Text} {c : Cursor}
    (h : program (parse (4 * t.length + 16)) (.start (markupSuffix.isSuffixOf path) t)
      = .ok ((), c)) : parseText t path = .ok { path, declarations := c.found.reverse } := by
  have hdeclarations : declarations (markupSuffix.isSuffixOf path) t = .ok c.found.reverse := by
    unfold declarations
    simp only [Cursor.start] at h ⊢
    rw [h]
  unfold parseText
  rw [hdeclarations]
  rfl

/-- A text with one declaration is parsed as this declaration, with the properties that are read
after its name. -/
theorem Written.parseText_lead (w : Written) {ps : List Property} (path : Text)
    (hx : w.ReadAhead (parse (4 * (w.lead ++ (w.name.text ++ x)).length + 15)) x ps []) :
    parseText (w.lead ++ (w.name.text ++ x)) path
      = .ok { path, declarations := [{ w.declaration 1 with properties := ps }] } := by
  let text := w.lead ++ (w.name.text ++ x)
  let start := Cursor.start (markupSuffix.isSuffixOf path) text
  let rules := parse (4 * text.length + 16)
  have hstart : start.Stands text := ⟨rfl, rfl⟩
  obtain ⟨first, others, hlead, hfirst⟩ := w.lead_eq_cons
  have htext : text = first :: (others ++ (w.name.text ++ x)) := by
    rw [← List.cons_append, ← hlead]
  have hahead : ahead text = text := by
    rw [htext, ahead_isNameStart hfirst]
  have hopens : Opens isNameStart text := .of_ahead (hahead.trans htext) hfirst
  -- the only round takes the declaration, all of it
  have hcollects : Collects rules.statement text _ x [] := w.collects_lead hahead hx
  have hround := statementRound_collects hopens hcollects hstart
  have hline : (start.to x).line = 1 := w.line_name (b := []) hstart
  rw [hline] at hround
  let d : Declaration := { w.declaration 1 with properties := ps }
  let last : Cursor := { start.to [] with found := [d] }
  have hend : statementRound rules last = .ok (((), false), last) :=
    statementRound_end rules rfl ⟨rfl, rfl⟩
  have hloop : loop (fun _ => statementRound rules) (start.left + 1) () start = .ok ((), last) := by
    have hleft : start.left = others.length + (w.name.text ++ x).length + 1 := by
      show text.length = _
      rw [htext, List.length_cons, List.length_append]
    rw [hleft, loop, hround]
    show loop _ _ () last = _
    rw [loop, hend]
  have hprogram : program rules start = .ok ((), last) := by
    have hsees := (Takes.sees_not hopens (s := "#!") rfl).run hstart
    rw [hstart.to_self] at hsees
    exact bind_eq_ok.2 ⟨false, _, hsees, hloop⟩
  exact parseText_of_program hprogram

namespace Spaced

variable (indent : Nat) (ss : List Spaced)

/-- Printed declarations open with no line for an interpreter. -/
theorem sees_printAll {c : Cursor} (hc : c.Stands (printAll indent ss)) :
    sees "#!" c = .ok (false, c) := by
  have htakes : Takes (sees "#!") (printAll indent ss) false (printAll indent ss) := by
    cases ss with
    | nil => exact .sees "#!"
    | cons s ss => exact .sees_not (s.opens_print (s.ahead_print indent _)) rfl
  rw [htakes.run hc, hc.to_self]

/-- As programs, printed declarations leave these collected, the latest first. -/
theorem program_printAll (hss : ∀ s ∈ ss, s.IsTyped) (markup : Bool) :
    ∃ c', program (parse (4 * (printAll indent ss).length + 16))
        (Cursor.start markup (printAll indent ss)) = .ok ((), c')
      ∧ c'.found = (listed indent 1 ss).reverse := by
  have hstart : (Cursor.start markup (printAll indent ss)).Stands ([] ++ printAll indent ss) :=
    ⟨rfl, rfl⟩
  have hroom : (printAll indent ss).length ≤ 4 * (printAll indent ss).length + 15 := by omega
  have hreads := fun s hs => (hss s hs).readsType hs hroom
  have hstatement : (parse (4 * (printAll indent ss).length + 16)).statement
      = (parse (4 * (printAll indent ss).length + 15)).statementRule := rfl
  obtain ⟨c', hloop, hfound⟩ := loop_printAll hstatement indent ss hreads
    (fun _ => rfl) hstart (Nat.lt_succ_self _)
  refine ⟨c', bind_eq_ok.2 ⟨false, _, sees_printAll indent ss hstart, hloop⟩, ?_⟩
  rw [hfound]
  exact List.append_nil _

/-- Whatever blanks and comments stand before their types, printed declarations are read back in
order, each under the line of its name. -/
theorem parseText_spaced (hss : ∀ s ∈ ss, s.IsTyped) (path : Text) :
    parseText (printAll indent ss) path = .ok { path, declarations := listed indent 1 ss } := by
  obtain ⟨c', hprogram, hfound⟩ := program_printAll indent ss hss (markupSuffix.isSuffixOf path)
  rw [parseText_of_program hprogram, hfound, List.reverse_reverse]

end Spaced

/-- Whatever declarations are printed, the text is parsed as these declarations, in order, with
the types as they are printed and each under the line of its name. -/
theorem Written.parseText_printAll (indent : Nat) (ws : List Written) (path : Text) :
    parseText (printAll indent ws) path = .ok { path, declarations := listed 1 ws } := by
  rw [← printAll_spaced, ← listed_spaced indent]
  refine Spaced.parseText_spaced indent (ws.map spaced) (fun s hs m hm => ?_) path
  obtain ⟨w, -, rfl⟩ := List.mem_map.1 hs
  obtain ⟨m, -, rfl⟩ := List.mem_map.1 hm
  exact m.type.isType

/-- Separators and brackets inside a type do not end the property around it. -/
example :
    let point : Identifier := ⟨"Point".toList, by decide, List.all_eq_true.1 (by decide), by decide⟩
    let number : TypeTree := .operands (.predefined ⟨"number".toList, by decide⟩) []
    let key : Key := .quoted ⟨'"', "a b".toList, .inl rfl, by simp⟩
    let object : Element := .object [⟨.plain point, true, number⟩, ⟨key, false, .function number⟩]
    let type : TypeTree := .operands (.list (.generic point number [number])) [object]
    let written : Written := ⟨true, false, point, [⟨key, true, type⟩]⟩
    let printed := "Point<number, number>[] & \x7b Point?: number; \"a b\": () => number \x7d"
    type.print = printed.toList
      ∧ Written.printAll 2 [written] = "export interface Point \x7b\n  \"a b\"?: ".toList
        ++ printed.toList ++ ";\n\x7d\n".toList
      ∧ Written.listed 1 [written]
        = [⟨"Point", .str "interface", [⟨"a b", printed, true⟩], .int 1⟩] :=
  ⟨rfl, rfl, rfl⟩

end TypeShape.Source
