/-
What a literal makes depends on its name by nothing but the name.

A literal is read as the body of an interface. Where its name is one of source text, the parser is
back at the literal after it, at the same place whatever the name was: there is more text before
it, so that the bounds on depth and on rounds are others, and they are never met
(`parse_abreast`).
-/
import TypeShape.Proofs.Source.ReadBack
import TypeShape.Proofs.Source.Walk.Nesting

namespace TypeShape.Source

variable {α β : Type} {n : Nat} {c c' : Cursor} {t u v : Text} {base : List Declaration}

-- ========================================================== the interface

/-- What stands after the name of an interface. -/
def Rules.interfaceBody (rules : Rules) : Parser (List Property) := do
  rules.typeParameters?
  rules.extendedTypes
  rules.typeMembers

/-- The declaration of a literal under a name. -/
def literalDeclaration (name : Text) (properties : List Property) : Declaration :=
  { name, kind := Declaration.interfaceKind, properties, line := .int 1 }

theorem run_bind {p : Parser α} {a : α} (h : p c = .ok (a, c')) (f : α → Parser β) :
    (p >>= f) c = f a c' := by
  simp only [Bind.bind, StateT.bind, Except.bind, h]

theorem run_bind_error {p : Parser α} {e : Failure} (h : p c = .error e) (f : α → Parser β) :
    (p >>= f) c = .error e := by
  simp only [Bind.bind, StateT.bind, Except.bind, h]

/-- A parser that takes what comes next goes on with the rest. -/
theorem Takes.run_bind {p : Parser α} {a : α} (h : Takes p u a v) (hc : c.Stands u)
    (f : α → Parser β) : (p >>= f) c = f a (c.to v) :=
  Source.run_bind (h.run hc) f

theorem run_map (f : α → β) (p : Parser α) (c : Cursor) :
    (f <$> p) c = (p c).map fun (a, c') => (f a, c') := by
  show (do let a ← p; Pure.pure (f a) : Parser β) c = _
  cases hp : p c with
  | error e => rw [run_bind_error hp]; rfl
  | ok r => rw [run_bind hp]; rfl

/-- An interface after its word collects what stands after its name. -/
theorem interfaceRule_run {rules : Rules} {w : Text} (hname : Takes name u w v)
    (hc : c.Stands u) : rules.interfaceRule c = (rules.interfaceBody (c.to v)).map
      fun (properties, c') => ((), { c' with found :=
        { name := w, kind := Declaration.interfaceKind, properties, line := .int (c.to v).line }
          :: c.found }) := by
  have hdeclared : Rules.declaredName c = .ok ((w, (c.to v).line), c.to v) :=
    bind_eq_ok.2 ⟨w, _, hname.run hc, rfl⟩
  have hbody : (do
      rules.typeParameters?
      rules.extendedTypes
      return (w, (c.to v).line, ← rules.typeMembers) : Parser (Text × Nat × List Property))
      = (fun ps => (w, (c.to v).line, ps)) <$> rules.interfaceBody := by
    simp only [Rules.interfaceBody, map_bind, bind_pure_comp]
  unfold Rules.interfaceRule
  rw [Rules.collect_run, run_bind hdeclared]
  dsimp only
  rw [hbody, run_map]
  cases rules.interfaceBody (c.to v) <;> rfl

/-- A statement that opens with the word is an interface. -/
theorem statementRule_run {rules : Rules} {x : Text} (h : WordAhead u "interface" x)
    (hc : c.Stands u) : rules.statementRule c = rules.interfaceRule (c.to (' ' :: x)) := by
  have hword : rules.statementRule c = rules.wordStatement "interface" c := by
    have hpos := nameLength_ne_zero h.ahead h.isWord (breaks_space x)
    unfold Rules.statementRule
    rw [Takes.upcoming.run_bind hc, hc.to_self, if_pos hpos]
    change rules.wordStatement (wordAt u) c = _
    rw [h.wordAt]
  have hopens (next : Text) : Rules.opensDeclaration "interface" next = true := rfl
  have hdeclaration : rules.wordStatement "interface" c = rules.declarationRule c := by
    unfold Rules.wordStatement
    rw [h.afterWord.run_bind hc, hc.to_self, if_neg (by decide), if_neg (by simp),
      if_pos (hopens _)]
  have hrule : rules.declarationRule c = rules.interfaceRule (c.to (' ' :: x)) := by
    unfold Rules.declarationRule
    rw [Takes.upcomingName.run_bind hc, hc.to_self, h.afterWord.run_bind hc, hc.to_self,
      h.wordAt, if_neg (by rw [hopens]; decide), h.take.run_bind hc,
      if_pos (beq_self_eq_true _)]
  rw [hword, hdeclaration, hrule]

-- ======================================================== more statements

/-- Before the end of the text a round takes a statement. -/
theorem statementRound_run {rules : Rules} (h : c.skip.rest ≠ []) :
    statementRound rules c = (rules.statement c).map fun (_, c') => (((), true), c') := by
  have hupcoming : upcoming c = .ok (c.skip.rest, c) := rfl
  have hempty : c.skip.rest.isEmpty = false := by simpa using h
  have hround : statementRound rules c = (do rules.statement; return ((), true)) c := by
    unfold statementRound
    rw [bind_assoc, run_bind hupcoming, hempty, if_neg Bool.false_ne_true, bind_assoc]
    simp only [pure_bind]
  rw [hround]
  cases hstatement : rules.statement c with
  | error e => rw [run_bind_error hstatement]; rfl
  | ok r => rw [run_bind hstatement]; rfl

/-- The first statement of a program, and what follows. -/
theorem program_run {rules : Rules} (hmark : sees "#!" c = .ok (false, c)) (h : c.skip.rest ≠ []) :
    program rules c = match rules.statement c with
      | .error e => .error e
      | .ok (_, c') => loop (fun _ => statementRound rules) c.left () c' := by
  have hloop : program rules c = loop (fun _ => statementRound rules) (c.left + 1) () c := by
    unfold program
    rw [run_bind hmark]
    rfl
  rw [hloop, loop, statementRound_run h]
  cases rules.statement c <;> rfl

/-- At its end there is no more round. -/
theorem statementRound_stop {rules : Rules} (h : c.skip.rest = []) :
    statementRound rules c = .ok (((), false), c) := by
  refine bind_eq_ok.2 ⟨false, _, bind_eq_ok.2 ⟨_, c, rfl, ?_⟩, rfl⟩
  rw [h]
  rfl

/-- A round that goes on has taken a statement. -/
theorem statementRound_below {depth : Nat} (hc : c.Below (n + 1))
    (hok : statementRound (parse depth) c = .ok (((), true), c')) : c'.Below n := by
  obtain ⟨again, c₁, hround, hpure⟩ := bind_eq_ok.1 hok
  cases hpure
  obtain ⟨t, c₂, hupcoming, hround⟩ := bind_eq_ok.1 hround
  cases hupcoming
  split at hround
  case isTrue => cases hround
  case isFalse =>
    obtain ⟨⟨⟩, c₃, hstatement, hpure⟩ := bind_eq_ok.1 hround
    cases hpure
    exact Leads.leads (t := c.skip.rest) (φ := True) trivial hc rfl hstatement

/-- Rounds over statements come to the same for all depths and bounds that are great enough. -/
theorem loop_deep {d d' r r' : Nat} (hc : c.Below n) (h : 3 * n ≤ d) (h' : 3 * n ≤ d')
    (hr : n ≤ r) (hr' : n ≤ r') :
    loop (fun _ => statementRound (parse d)) r () (c.onto base)
      = onto base (loop (fun _ => statementRound (parse d')) r' () c) := by
  induction n generalizing c r r' with
  | zero => exact absurd hc.short (Nat.not_lt_zero _)
  | succ n ih =>
      obtain ⟨r, rfl⟩ : ∃ q, r = q + 1 := ⟨r - 1, by omega⟩
      obtain ⟨r', rfl⟩ : ∃ q, r' = q + 1 := ⟨r' - 1, by omega⟩
      have alike := parse_alike base h h'
      have habreast : Abreast (short (n + 1) base) 0 1 c.skip.rest True (statementRound (parse d))
          (statementRound (parse d')) := by
        unfold statementRound
        infer_instance
      have hround : statementRound (parse d) (c.onto base)
          = onto base (statementRound (parse d') c) := (habreast.along trivial hc rfl).1
      rw [loop, loop, hround]
      cases hstep : statementRound (parse d') c with
      | error e => rfl
      | ok s =>
          obtain ⟨⟨⟨⟩, again⟩, c'⟩ := s
          cases again with
          | true =>
              exact ih (statementRound_below hc hstep) (by omega) (by omega) (by omega) (by omega)
          | false => rfl

-- =============================================================== literals

instance (rules : Rules) [rules.Sound] (σ : Scope) : Keeps σ rules.interfaceBody := by
  unfold Rules.interfaceBody
  infer_instance

/-- What a literal makes under any name, or the line of its first fault: the
properties of the body that it begins with, and the declarations after it. -/
def readBody (literal : Text) : Except Nat (List Property × List Declaration) :=
  let rules := parse (3 * (literal.length + 2))
  match rules.interfaceBody (.start false (' ' :: literal)) with
  | .error e => .error e.line
  | .ok (properties, c) =>
    match loop (fun _ => statementRound rules) (literal.length + 2) () { c with found := [] } with
    | .error e => .error e.line
    | .ok (_, c) => .ok (properties, c.found.reverse)

variable {name literal : Text}

/-- The word and the name of a literal come next, and then the literal. -/
theorem wordAhead_literal (name literal : Text) :
    WordAhead (literalText name literal) "interface" (name ++ ' ' :: literal) := by
  have htext : literalText name literal
      = "interface".toList ++ ' ' :: (name ++ ' ' :: literal) := by
    unfold literalText
    simp
  refine ⟨?_, by decide⟩
  rw [htext]
  exact ahead_word (by decide) _

/-- After its name nothing is left of the name. -/
theorem to_literal (hname : IsName name) (literal : Text) :
    (Cursor.start false (literalText name literal)).to (' ' :: literal)
      = .start false (' ' :: literal) := by
  have hcount : (literalText name literal).count '\n' = (' ' :: literal).count '\n' := by
    have hbreak : name.count '\n' = 0 := List.count_eq_zero.2 hname.notMem_break
    unfold literalText
    rw [List.count_append, List.count_append, hbreak,
      show "interface ".toList.count '\n' = 0 by decide, Nat.zero_add]
  simp only [Cursor.to, Cursor.start, hcount, Nat.sub_self, Nat.add_zero]

/-- The first statement of a literal is an interface with its name. -/
theorem statement_literal (hname : IsName name) (rules : Rules) :
    rules.statementRule (.start false (literalText name literal))
      = (rules.interfaceBody (.start false (' ' :: literal))).map fun (properties, c) =>
        ((), { c with found := [literalDeclaration name properties] }) := by
  have hahead := wordAhead_literal name literal
  have hstart : (Cursor.start false (literalText name literal)).Stands (literalText name literal) :=
    ⟨rfl, rfl⟩
  have htakes : Takes Source.name (' ' :: (name ++ ' ' :: literal)) name (' ' :: literal) :=
    .isName (hname.ahead _) hname (breaks_space literal)
  have hto : ((Cursor.start false (literalText name literal)).to
      (' ' :: (name ++ ' ' :: literal))).to (' ' :: literal) = .start false (' ' :: literal) := by
    rw [Cursor.to_to hahead.take.ending htakes.ending, to_literal hname]
  rw [statementRule_run hahead hstart, interfaceRule_run htakes (Cursor.to_stands _ _), hto]
  rfl

/-- The statements of a literal: its interface, and what follows. -/
theorem program_literal (hname : IsName name) (depth : Nat) :
    program (parse (depth + 1)) (.start false (literalText name literal))
      = match (parse depth).interfaceBody (.start false (' ' :: literal)) with
        | .error e => .error e
        | .ok (properties, c) => loop (fun _ => statementRound (parse (depth + 1)))
            (Cursor.start false (literalText name literal)).left ()
            { c with found := [literalDeclaration name properties] } := by
  have hahead := wordAhead_literal name literal
  have hstart : (Cursor.start false (literalText name literal)).Stands (literalText name literal) :=
    ⟨rfl, rfl⟩
  have hmark := (Takes.sees_not hahead.opens (s := "#!") rfl).run hstart
  rw [hstart.to_self] at hmark
  have hne : (Cursor.start false (literalText name literal)).skip.rest ≠ [] := by
    rw [hstart.skip, hahead.ahead]
    simp [Cursor.to]
  have hstatement : (parse (depth + 1)).statement = (parse depth).statementRule := rfl
  rw [program_run hmark hne, hstatement, statement_literal hname]
  cases (parse depth).interfaceBody (.start false (' ' :: literal)) <;> rfl

instance {base : List Declaration} {k : Nat} {φ : Prop} (rules rules' : Rules)
    [Rules.Alike (short n base) rules rules'] :
    Abreast (short n base) k (k + 1) t φ rules.interfaceBody rules'.interfaceBody := by
  unfold Rules.interfaceBody
  infer_instance

theorem onto_nil (r : Except Failure (α × Cursor)) : onto [] r = r := by
  cases r with
  | error e => rfl
  | ok r =>
      obtain ⟨a, c⟩ := r
      simp only [onto, Cursor.onto, List.append_nil]

/-- After the name of a literal less is left than the bounds of its reading ask for. -/
theorem below_literal (literal : Text) :
    (Cursor.start false (' ' :: literal)).Below (literal.length + 2) :=
  ⟨rfl, Nat.lt_succ_self _⟩

/-- The body of a literal is read alike at all depths that are great enough. -/
theorem interfaceBody_deep (literal : Text) {depth : Nat} (h : 3 * (literal.length + 2) ≤ depth) :
    (parse depth).interfaceBody (.start false (' ' :: literal))
      = (parse (3 * (literal.length + 2))).interfaceBody (.start false (' ' :: literal)) := by
  have alike := parse_alike [] h (Nat.le_refl _)
  have habreast : Abreast (short (literal.length + 2) []) 0 1
      (Cursor.start false (' ' :: literal)).skip.rest True (parse depth).interfaceBody
      (parse (3 * (literal.length + 2))).interfaceBody := inferInstance
  have honto := (habreast.along trivial (below_literal literal) rfl).1
  change _ = onto [] _ at honto
  rw [onto_nil] at honto
  exact honto

theorem length_literalText (name literal : Text) :
    (literalText name literal).length = 10 + name.length + (literal.length + 1) := by
  unfold literalText
  simp
  omega

/-- The name of a literal makes no difference to its declarations but for the name. -/
theorem declarations_literal (hname : IsName name) (literal : Text) :
    declarations false (literalText name literal) = (readBody literal).map
      fun (properties, others) => literalDeclaration name properties :: others := by
  have hleft : literal.length + 2 ≤ (Cursor.start false (literalText name literal)).left := by
    have hlength := length_literalText name literal
    simp only [Cursor.start]
    omega
  unfold declarations readBody
  dsimp only
  -- what is left before the literal depends on the name, and so does the depth; both are more than
  -- enough, and any two that are come to the same
  rw [program_literal hname]
  generalize (Cursor.start false (literalText name literal)).left = left at hleft ⊢
  have hdeep := interfaceBody_deep literal (show 3 * (literal.length + 2) ≤ 4 * left + 15 by omega)
  rw [hdeep]
  cases hbody : (parse (3 * (literal.length + 2))).interfaceBody (.start false (' ' :: literal)) with
  | error e => rfl
  | ok r =>
      obtain ⟨properties, c⟩ := r
      have hc : ({ c with found := [] } : Cursor).Below (literal.length + 2) := by
        have hc : c.Below (literal.length + 2) := (below_literal literal).of_keeps hbody
        exact ⟨hc.left, hc.short⟩
      have hloop : loop (fun _ => statementRound (parse (4 * left + 15 + 1))) left ()
          { c with found := [literalDeclaration name properties] }
          = onto [literalDeclaration name properties]
            (loop (fun _ => statementRound (parse (3 * (literal.length + 2)))) (literal.length + 2)
              () { c with found := [] }) :=
        loop_deep hc (by omega) (Nat.le_refl _) hleft (Nat.le_refl _)
      dsimp only
      rw [hloop]
      cases loop (fun _ => statementRound (parse (3 * (literal.length + 2)))) (literal.length + 2) ()
          { c with found := [] } with
      | error e => rfl
      | ok r =>
          obtain ⟨⟨⟩, c'⟩ := r
          simp [onto, Except.map]

/-- After the word and a name a literal makes the declaration of that name, and what comes after
its body. -/
theorem parseText_literal (hname : IsName name) {path : Text}
    (hpath : markupSuffix.isSuffixOf path = false) (literal : Text) :
    parseText (literalText name literal) path = (readBody literal).map fun body =>
      { path, declarations := literalDeclaration name body.1 :: body.2 } := by
  unfold parseText
  rw [hpath, declarations_literal hname]
  cases readBody literal <;> rfl

/-- What a literal makes under a name: the declaration of that name with the properties that the
literal makes under any name. -/
theorem readLiteral_of_isName (hname : IsName name) (literal : Text) :
    readLiteral name literal = match readBody literal with
      | .error line => .error (.unreadable literalPath (.unparsable line))
      | .ok (properties, _) => .ok (literalDeclaration name properties) := by
  have hpath : markupSuffix.isSuffixOf literalPath = false := by decide
  have hparse : parseText ("interface " ++ name ++ ' ' :: literal) literalPath = _ :=
    parseText_literal hname hpath literal
  unfold readLiteral read
  rw [hparse]
  cases readBody literal <;> rfl

/-- A word is a name. -/
theorem readLiteral_eq (hname : isWord name = true) (literal : Text) :
    readLiteral name literal = match readBody literal with
      | .error line => .error (.unreadable literalPath (.unparsable line))
      | .ok (properties, _) => .ok (literalDeclaration name properties) :=
  readLiteral_of_isName (isName_of_isWord hname) literal

-- ================================================================ bodies

/-- A text is the body of an interface with these properties, from its first brace to its end. -/
def IsBody (literal : Text) (properties : List Property) : Prop :=
  ∃ c, Rules.typeMembers (parse (4 * literal.length + 16)) (.start false literal)
    = .ok (properties, c) ∧ c.skip.rest = []

instance (literal : Text) (properties : List Property) : Decidable (IsBody literal properties) :=
  match h : Rules.typeMembers (parse (4 * literal.length + 16)) (.start false literal) with
  | .error _ => isFalse fun ⟨_, hmembers, _⟩ => nomatch h.symm.trans hmembers
  | .ok (read, c) =>
    decidable_of_iff (read = properties ∧ c.skip.rest = [])
      ⟨fun ⟨hread, hend⟩ => ⟨c, by rw [h, hread], hend⟩,
        fun ⟨_, hmembers, hend⟩ => by cases h.symm.trans hmembers; exact ⟨rfl, hend⟩⟩

/-- A brace is taken where it comes next. -/
theorem symbol_brace_run (h : c.skip.rest = '{' :: t) :
    symbol "\x7b" c = .ok ((), c.skip.advance 1) := by
  show (if "\x7b".toList.isPrefixOf c.skip.rest then take 1 else fail : Parser Unit) c = _
  rw [h]
  rfl

/-- Before a brace an interface has nothing but its members, which do not depend on the blanks
before them. -/
theorem interfaceBody_run {rules : Rules} {properties : List Property} {c'' : Cursor}
    (hskip : c'.skip = c.skip) (h : rules.typeMembers c = .ok (properties, c'')) :
    rules.interfaceBody c' = .ok (properties, c'') := by
  obtain ⟨⟨⟩, c₁, hbrace, hrest⟩ := bind_eq_ok.1 h
  obtain ⟨⟨t, hopen⟩, rfl⟩ := symbol_brace hbrace
  have hopen' : c'.skip.rest = '{' :: t := hskip ▸ hopen
  have hparameters : rules.typeParameters? c' = .ok ((), c') := by
    show (if "<".toList.isPrefixOf c'.skip.rest then rules.typeParameters else pure ()) c' = _
    rw [hopen']
    rfl
  have hextended : rules.extendedTypes c' = .ok ((), c') := by
    refine bind_eq_ok.2 ⟨false, c', ?_, rfl⟩
    show (if c'.skip.rest.take (nameLength c'.skip.rest) == "extends".toList then
      (do take 7; return true : Parser Bool) else return false) c' = _
    rw [hopen']
    rfl
  have hmembers : rules.typeMembers c' = .ok (properties, c'') := by
    refine bind_eq_ok.2 ⟨(), _, symbol_brace_run hopen', ?_⟩
    rw [hskip]
    exact hrest
  exact bind_eq_ok.2 ⟨(), c', hparameters, bind_eq_ok.2 ⟨(), c', hextended, hmembers⟩⟩

/-- A blank before a text is skipped. -/
theorem skip_start_space (literal : Text) :
    (Cursor.start false (' ' :: literal)).skip = (Cursor.start false literal).skip := by
  have hskip : skipFrom .between (literal.length + 1) 1 (' ' :: literal)
      = skipFrom .between literal.length 1 literal :=
    skipFrom.eq_def .between (literal.length + 1) 1 (' ' :: literal)
  unfold Cursor.skip Cursor.start
  rw [List.length_cons, hskip]

/-- A body is read to its properties, and nothing comes after it. -/
theorem IsBody.readBody {properties : List Property} (h : IsBody literal properties) :
    readBody literal = .ok (properties, []) := by
  obtain ⟨c, hmembers, hend⟩ := h
  have hbody := interfaceBody_run (skip_start_space literal) hmembers
  rw [interfaceBody_deep literal (by omega)] at hbody
  have hloop (rules : Rules) : loop (fun _ => statementRound rules) (literal.length + 2) ()
      { c with found := [] } = .ok ((), { c with found := [] }) := by
    have hstop : statementRound rules { c with found := [] }
        = .ok (((), false), { c with found := [] }) :=
      statementRound_stop hend
    rw [loop, hstop]
  unfold Source.readBody
  dsimp only
  rw [hbody]
  dsimp only
  rw [hloop]
  rfl

/-- After the word and a name it is the only declaration. -/
theorem IsBody.parseText_of_isName {properties : List Property} (h : IsBody literal properties)
    (hname : IsName name) {path : Text} (hpath : markupSuffix.isSuffixOf path = false) :
    Source.parseText (literalText name literal) path
      = .ok { path, declarations := [literalDeclaration name properties] } := by
  rw [parseText_literal hname hpath, h.readBody]
  rfl

theorem IsBody.parseText {properties : List Property} (h : IsBody literal properties)
    (hname : isWord name = true) {path : Text} (hpath : markupSuffix.isSuffixOf path = false) :
    parseText (literalText name literal) path
      = .ok { path, declarations := [literalDeclaration name properties] } :=
  h.parseText_of_isName (isName_of_isWord hname) hpath

theorem IsBody.readLiteral_of_isName {properties : List Property} (h : IsBody literal properties)
    (hname : IsName name) :
    Source.readLiteral name literal = .ok (literalDeclaration name properties) := by
  rw [Source.readLiteral_of_isName hname, h.readBody]

theorem IsBody.readLiteral {properties : List Property} (h : IsBody literal properties)
    (hname : isWord name = true) :
    readLiteral name literal = .ok (literalDeclaration name properties) :=
  h.readLiteral_of_isName (isName_of_isWord hname)

end TypeShape.Source
