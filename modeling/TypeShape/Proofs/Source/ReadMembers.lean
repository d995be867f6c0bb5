/-
Properties as they are printed are read as what they say, in object types and interfaces and
in classes alike.

A key is never taken for a modifier or another kind of member: its word is none of the reserved
ones, and the mark after it is that of a property. What the rules read of types is assumed
here, of each type (`Rules.ReadsType`) or for types up to some length (`Rules.TakesTypes`).
-/
import TypeShape.Proofs.Source.Spaced

namespace TypeShape.Source

variable {u v : Text}

-- ================================================================= places

/-- What may come after a type. -/
def endsType (d : Char) : Bool :=
  d == ';' || d == ',' || d == '>' || d == '}'

/-- The rules read the text as a type: it opens with a lexeme, and wherever it comes next and may
end, it is taken. -/
structure Rules.ReadsType (rules : Rules) (t : Text) : Prop where
  opens : ∃ d ∈ t.head?, isSpace d = false ∧ d ≠ '/'
  takes : ∀ {u v : Text}, ahead u = t ++ v → Opens endsType v → Takes rules.type u () v

/-- The rules read types up to a length. -/
def Rules.TakesTypes (rules : Rules) (n : Nat) : Prop :=
  ∀ (t : TypeTree) {u v : Text}, t.print.length < n → ahead u = t.print ++ v →
    Opens endsType v → Takes rules.type u () v

theorem isMark_of_endsType (d : Char) (hd : endsType d = true) : isMark d = true := by
  simp only [endsType, Bool.or_eq_true, beq_iff_eq] at hd
  rcases hd with ((rfl | rfl) | rfl) | rfl <;> rfl

theorem Element.ahead_print (e : Element) (v : Text) : ahead (e.print ++ v) = e.print ++ v := by
  obtain ⟨d, s, hs, hd⟩ := e.print_eq_cons
  rw [hs, List.cons_append]
  simp only [Bool.or_eq_true, beq_iff_eq] at hd
  rcases hd with hd | rfl
  · rw [ahead_isNameStart hd]
  · rfl

theorem TypeTree.ahead_print (t : TypeTree) (v : Text) : ahead (t.print ++ v) = t.print ++ v := by
  cases t with
  | operands first others => rw [print, List.append_assoc, first.ahead_print]
  | function result => rw [print]; rfl

theorem TypeTree.opens (t : TypeTree) (h : ahead u = t.print ++ v) : Opens opensType u := by
  obtain ⟨d, s, hs, hd⟩ := t.print_eq_cons
  rw [hs] at h
  exact .of_ahead h hd

theorem Element.opens (e : Element) (h : ahead u = e.print ++ v) : Opens opensType u := by
  obtain ⟨d, s, hs, hd⟩ := e.print_eq_cons
  rw [hs] at h
  exact .of_ahead h (by rw [opensType, hd, Bool.true_or])

theorem Key.ahead_print (k : Key) (v : Text) : ahead (k.print ++ v) = k.print ++ v := by
  obtain ⟨d, s, hs, hd⟩ := k.print_eq_cons
  rw [hs, List.cons_append]
  simp only [opensKey, Bool.or_eq_true, beq_iff_eq] at hd
  rcases hd with (hd | rfl) | rfl
  · rw [ahead_isNameStart hd]
  · rfl
  · rfl

-- ================================================================== keys

/-- A key comes next: no other lexeme, and no reserved word. -/
structure KeyAhead (u : Text) : Prop where
  opens : Opens opensKey u
  word : wordAt u ∉ reserved

theorem KeyAhead.of_quote {quote : Char} (isQuote : quote = '"' ∨ quote = '\'')
    (h : ahead u = quote :: v) : KeyAhead u := by
  have hmark : isMark quote = true := by
    rcases isQuote with hq | hq <;> rw [hq] <;> rfl
  have hquote : Opens (· == quote) u := .of_ahead h (beq_self_eq_true _)
  refine ⟨hquote.mono fun d hd => ?_, ?_⟩
  · rw [eq_of_beq hd]
    rcases isQuote with hq | hq <;> rw [hq] <;> rfl
  · rw [hquote.wordAt (isMark_of_beq hmark)]
    decide

theorem Key.keyAhead {k : Key} (h : ahead u = k.print ++ v) (hv : Breaks v) : KeyAhead u := by
  cases k with
  | plain w =>
      refine ⟨(opens_word h w.isWord).mono fun d hd => ?_, ?_⟩
      · rw [opensKey, hd]
        rfl
      · rw [wordAt_eq h w.isWord hv]
        exact w.free
  | quoted q => exact .of_quote q.isQuote h

/-- Quoted text ends at its quote. -/
theorem stringTail_append {quote : Char} {t : Text}
    (ht : ∀ c ∈ t, c ≠ quote ∧ c ≠ '\\' ∧ c ≠ '\n' ∧ c ≠ '\r') (rest : Text) :
    stringTail quote 0 (t ++ quote :: rest) = some (t.length + 1) := by
  induction t with
  | nil => simp [stringTail]
  | cons c t ih =>
      obtain ⟨hquote, hescape, hbreak, hreturn⟩ := ht c List.mem_cons_self
      simp [stringTail, hquote, hescape, hbreak, hreturn,
        ih fun d hd => ht d (List.mem_cons_of_mem c hd)]

/-- A plain key is read as it is written. -/
theorem Identifier.takes_memberName (w : Identifier) (rules : Rules) (h : ahead u = w.text ++ v)
    (hv : Breaks v) : Takes rules.memberName u w.text v := by
  refine .bind .upcoming ?_
  rw [if_pos (nameLength_ne_zero h w.isWord hv)]
  exact .name h w.isWord hv

/-- A key in quotes is read without them, and otherwise as it is written. -/
theorem takes_quoted {quote : Char} {t : Text} (isQuote : quote = '"' ∨ quote = '\'')
    (htail : stringTail quote 0 (t ++ quote :: v) = some (t.length + 1)) (rules : Rules)
    (h : ahead u = quote :: (t ++ [quote]) ++ v) : Takes rules.memberName u t v := by
  have hlength : stringLength (ahead u) = some (t.length + 2) := by
    rw [h, List.cons_append, List.append_assoc, List.singleton_append]
    simp [stringLength, isQuote, htail]
  have hname : nameLength (ahead u) = 0 := by
    rw [h]
    rcases isQuote with hq | hq <;> rw [hq] <;> exact nameLength_eq_zero rfl (by decide)
  have hprivate : privateLength (ahead u) = 0 := by
    rw [h]
    rcases isQuote with hq | hq <;> rw [hq] <;> rfl
  have hstring : Takes string u () v := by
    refine .bind .upcoming ?_
    rw [hlength]
    exact .take h _ (by simp)
  refine .bind .upcoming ?_
  simp only [hname, hprivate, hlength, bne_self_eq_false, Bool.false_eq_true, if_false,
    Option.isSome_some, if_true]
  refine .bind (.textOf h hstring) ?_
  rw [List.drop_one, List.tail_cons, List.dropLast_concat]
  exact .pure t v

/-- A key is read as what it says. -/
theorem Key.takes (k : Key) (rules : Rules) (h : ahead u = k.print ++ v) (hv : Breaks v) :
    Takes rules.memberName u k.text v := by
  cases k with
  | plain w => exact w.takes_memberName rules h hv
  | quoted q => exact takes_quoted q.isQuote (stringTail_append q.plain v) rules h

namespace KeyAhead

/-- No modifier comes before a key: all of their words are reserved. -/
theorem modifier? (h : KeyAhead u) {words : List Text} (hwords : ∀ w ∈ words, w ∈ reserved) :
    Takes (Rules.modifier? words) u false u := by
  have hw : words.elem (wordAt u) = false := by
    rw [List.elem_eq_mem, decide_eq_false_iff_not]
    exact fun hmem => h.word (hwords _ hmem)
  refine .bind .upcomingName ?_
  simp only [hw, Bool.not_false, if_true]
  exact .pure false u

theorem seesCall (h : KeyAhead u) : Takes Rules.seesCall u false u :=
  .bind (.sees_not h.opens rfl) (.bind (.sees_not h.opens rfl) (.pure false u))

theorem indexSignature? (h : KeyAhead u) (rules : Rules) :
    Takes rules.indexSignature? u false u :=
  .bind (.sees_not h.opens rfl) (.pure false u)

end KeyAhead

-- ============================================================ properties

/-- After a key and perhaps its question mark comes the colon. -/
theorem takes_optional (isOptional : Bool) (v : Text) :
    Takes (symbol? "?") (colon isOptional ++ v) isOptional (':' :: v) := by
  cases isOptional with
  | true => exact .symbol? rfl
  | false =>
      have hcolon : Opens (· == ':') (':' :: v) := .of_ahead rfl rfl
      exact .symbol?_not hcolon rfl

theorem seesCall_colon (v : Text) : Takes Rules.seesCall (':' :: v) false (':' :: v) := by
  have h : Opens (· == ':') (':' :: v) := .of_ahead rfl rfl
  exact .bind (.sees_not h rfl) (.bind (.sees_not h rfl) (.pure false _))

namespace Rules

variable {rules : Rules} {t : Text}

/-- Types of the grammar are read as types. -/
theorem TakesTypes.readsType {n : Nat} (hr : rules.TakesTypes n) (t : TypeTree)
    (ht : t.print.length < n) : rules.ReadsType t.print := by
  refine ⟨?_, hr t ht⟩
  obtain ⟨d, s, hs, hd⟩ := t.print_eq_cons
  refine ⟨d, by rw [hs]; rfl, ?_⟩
  simp only [opensType, Bool.or_eq_true, beq_iff_eq] at hd
  rcases hd with (hd | rfl) | rfl
  · exact ⟨isSpace_of_isNameStart hd, ne_slash_of_isNameStart hd⟩
  · decide
  · decide

namespace ReadsType

variable (ht : rules.ReadsType t)

include ht

/-- Nothing is skipped before a type. -/
theorem ahead_append (v : Text) : ahead (t ++ v) = t ++ v := by
  obtain ⟨d, hd, hspace, hslash⟩ := ht.opens
  obtain ⟨s, rfl⟩ := List.head?_eq_some_iff.1 hd
  exact ahead_cons hspace hslash _

/-- A type opens no comment. -/
theorem comment?_append (v : Text) : comment? ((t ++ v).dropWhile isSpace) = none := by
  obtain ⟨d, hd, hspace, hslash⟩ := ht.opens
  obtain ⟨s, rfl⟩ := List.head?_eq_some_iff.1 hd
  rw [List.cons_append, List.dropWhile_cons_of_neg (by rw [hspace]; exact Bool.false_ne_true)]
  unfold comment?
  split
  case h_1 heq => exact absurd (List.cons.inj heq).1 hslash
  case h_2 heq => exact absurd (List.cons.inj heq).1 hslash
  case h_3 => rfl

/-- The type of a property is read as it is written, but the first comment before it, if there is
one, is told in its place. -/
theorem takes_annotation (gap : List Spacer) {v : Text} (hv : Opens endsType v) :
    Takes rules.annotation (':' :: (gapText gap ++ (t ++ v))) ((firstComment? gap).getD t) v := by
  have hahead : ahead (gapText gap ++ (t ++ v)) = t ++ v :=
    (ahead_gap gap _).trans (ht.ahead_append v)
  have hcomment : Takes leadingComment (gapText gap ++ (t ++ v)) (firstComment? gap)
      (gapText gap ++ (t ++ v)) :=
    .ask fun hc => by rw [hc.rest, comment?_gap, ht.comment?_append, Option.or_none]
  refine .bind (.symbol? rfl) (.bind hcomment ?_)
  exact .bind (.textOf hahead (ht.takes hahead hv)) (.pure _ v)

end ReadsType

end Rules

section Key

variable {rules : Rules} {k t : Text} {isOptional : Bool} {gap : List Spacer}

/-- A property of an object type or an interface, whatever its key is read as. -/
theorem KeyAhead.typeMember (key : KeyAhead u) (ht : rules.ReadsType t)
    (hk : Takes rules.memberName u k (colon isOptional ++ (gapText gap ++ (t ++ v))))
    (hv : Opens endsType v) :
    Takes rules.typeMember u [{ name := k, type := (firstComment? gap).getD t, isOptional }] v := by
  have hnew : wordAt u ≠ "new" := fun heq => key.word (by rw [heq]; decide)
  refine .bind key.seesCall <| .bind (.sees_not key.opens rfl) <| .bind (.sees_not key.opens rfl) ?_
  refine .bind (key.modifier? (by decide)) <| .bind .upcomingName <|
    .otherwise (beq_eq_false_iff_ne.2 hnew) ?_
  refine .bind (key.modifier? (by decide)) <| .bind (key.modifier? (by decide)) <|
    .bind (key.modifier? (by decide)) <| .bind (key.modifier? (by decide)) <|
    .bind (key.indexSignature? rules) <| .bind (key.modifier? (by decide)) <|
    .bind (.symbol?_not key.opens rfl) <| .bind (key.modifier? (by decide)) ?_
  refine .bind hk <| .bind (takes_optional isOptional _) <| .bind (seesCall_colon _) ?_
  exact .bind (ht.takes_annotation gap hv) (.pure _ v)

end Key

namespace SpacedMember

variable {rules : Rules} {m : SpacedMember}

theorem ahead_key (h : ahead u = m.print ++ v) :
    ahead u = m.key.print
      ++ (colon m.isOptional ++ (gapText m.gap ++ (m.type ++ v))) := by
  rw [h, print, List.append_assoc, List.append_assoc, List.append_assoc]

/-- The marks after a key end it. -/
theorem breaks_colon (isOptional : Bool) (v : Text) : Breaks (colon isOptional ++ v) := by
  intro d hd
  cases isOptional <;> cases hd <;> exact ⟨rfl, by decide⟩

theorem keyAhead (h : ahead u = m.print ++ v) : KeyAhead u :=
  m.key.keyAhead (m.ahead_key h) (breaks_colon _ _)

/-- A property of an object type or an interface. -/
theorem takes_typeMember (hm : rules.ReadsType m.type)
    (h : ahead u = m.print ++ v) (hv : Opens endsType v) :
    Takes rules.typeMember u [m.property] v := by
  have hkey := m.key.takes rules (m.ahead_key h) (breaks_colon _ _)
  exact (m.keyAhead h).typeMember hm hkey hv

/-- A property of a class, semicolon included. -/
theorem takes_classMember (hm : rules.ReadsType m.type)
    (h : ahead u = m.print ++ ';' :: v) (hv : Opens (fun d => opensKey d || d == '}') v) :
    Takes rules.classMember u [m.property] v := by
  have key := m.keyAhead h
  have hstatic : wordAt u ≠ "static" := fun heq => key.word (by rw [heq]; decide)
  have hmodifiers : Takes Rules.classModifiers u false u := by
    refine .bind (key.modifier? (by decide)) <| .bind (key.modifier? (by decide)) <|
      .bind (key.modifier? (by decide)) <| .bind (key.modifier? (by decide)) <|
      .bind (key.modifier? (by decide)) <| .bind (key.modifier? (by decide)) <|
      .bind (key.modifier? (by decide)) <| .bind (key.modifier? (by decide)) <|
      .bind (key.modifier? (by decide)) (.pure false u)
  refine .bind (.symbol?_not key.opens rfl) <|
    .bind (Repeats.none (.bind (.symbol?_not key.opens rfl) (.pure false u))) <|
    .bind .upcomingName <| .otherwise (beq_eq_false_iff_ne.2 hstatic) ?_
  refine .bind hmodifiers <| .bind (key.indexSignature? rules) <|
    .bind (key.modifier? (by decide)) <| .bind (.symbol?_not key.opens rfl) <|
    .bind (key.modifier? (by decide)) <| .bind (.symbol?_not key.opens rfl) ?_
  refine .bind (m.key.takes rules (m.ahead_key h) (breaks_colon _ _)) <|
    .bind (takes_optional m.isOptional _) ?_
  have hcolon : Opens (· == ':')
      (':' :: (gapText m.gap ++ (m.type ++ ';' :: v))) := .of_ahead rfl rfl
  refine .perhaps (.symbol?_not hcolon rfl) <| .bind (seesCall_colon _) ?_
  have hsemicolon : Opens (· == ';') (';' :: v) := .of_ahead rfl rfl
  refine .bind (hm.takes_annotation m.gap (.of_ahead rfl rfl)) <|
    .bind (.symbol?_not hsemicolon rfl) ?_
  obtain ⟨ends, hends⟩ := Takes.endsHere (u := v) true
  exact .bind (.symbol? rfl) <| .bind (.symbol?_not hv rfl) <| .bind hends (.pure _ v)

end SpacedMember

-- ================================================================ bodies

theorem takes_seesClose (h : ahead u = '}' :: v) : Takes Rules.seesClose u true u := by
  have hopens : Opens (· == '}') u := .of_ahead h rfl
  exact .bind (.sees_ahead (s := ['}']) h) <| .bind (.sees_not hopens rfl) (.pure true u)

theorem KeyAhead.seesClose (h : KeyAhead u) : Takes Rules.seesClose u false u :=
  .bind (.sees_not h.opens rfl) <| .bind (.sees_not h.opens rfl) (.pure false u)

section Bodies

variable {rules : Rules} {gap tail : Text} {closed : Bool}

/-- A member in a row comes next. -/
theorem ahead_row (hgap : ∀ x, ahead (gap ++ x) = ahead x) (m : SpacedMember) (x : Text) :
    ahead (gap ++ (m.print ++ x)) = m.print ++ x := by
  rw [hgap, SpacedMember.print, List.append_assoc, Key.ahead_print]

theorem rows_closed_cons (gap m : Text) (ms : List Text) :
    rows gap true (m :: ms) = gap ++ m ++ ';' :: rows gap true ms := by
  cases ms with
  | nil => rfl
  | cons m' ms => rfl

/-- Rows open with their first member. -/
theorem exists_rows_cons (gap : Text) (closed : Bool) (m : Text) (ms : List Text) :
    ∃ x, rows gap closed (m :: ms) = gap ++ m ++ x := by
  cases ms with
  | nil => exact ⟨_, rfl⟩
  | cons m' ms => exact ⟨_, rfl⟩

theorem keyAhead_rows (hgap : ∀ x, ahead (gap ++ x) = ahead x) (m : SpacedMember)
    (ms : List SpacedMember) :
    KeyAhead (rows gap closed ((m :: ms).map SpacedMember.print) ++ tail) := by
  obtain ⟨x, hx⟩ := exists_rows_cons gap closed m.print (ms.map SpacedMember.print)
  rw [List.map_cons, hx, List.append_assoc, List.append_assoc]
  exact m.keyAhead (ahead_row hgap m _)

theorem length_lt_of_member {m : SpacedMember} (h : ahead u = m.print ++ ';' :: v) :
    v.length < u.length := by
  have hle := (ahead_suffix u).length_le
  rw [h, List.length_append, List.length_cons] at hle
  omega

/-- A round over a member with its semicolon goes on unless the brace comes next. -/
theorem takes_memberRound {p : Property} (hp : Takes rules.typeMember u [p] (';' :: v))
    {ends : Bool} (hends : Takes Rules.seesClose v ends v) (read : List Property) :
    Takes (rules.memberRound read) u (read ++ [p], !ends) v := by
  have hsemicolon : Opens (· == ';') (';' :: v) := .of_ahead rfl rfl
  refine .bind hp ?_
  exact .bind (.symbol?_not hsemicolon rfl) <| .bind (.symbol? rfl) <|
    .bind hends (.pure _ v)

/-- Without a semicolon the brace must come next. -/
theorem takes_memberRound_last {p : Property} (hp : Takes rules.typeMember u [p] tail)
    (htail : ahead tail = '}' :: v) (read : List Property) :
    Takes (rules.memberRound read) u (read ++ [p], false) tail := by
  have hbrace : Opens (· == '}') tail := .of_ahead htail rfl
  refine .bind hp ?_
  exact .bind (.symbol?_not hbrace rfl) <| .bind (.symbol?_not hbrace rfl) <|
    .bind (takes_seesClose htail) (.pure _ tail)

/-- In rows, members are read one after the other, up to the closing brace. -/
theorem rounds_rows (hgap : ∀ x, ahead (gap ++ x) = ahead x)
    (htail : ahead tail = '}' :: v) (m : SpacedMember) (ms : List SpacedMember)
    (hms : ∀ m' ∈ m :: ms, rules.ReadsType m'.type) (read : List Property) :
    Rounds rules.memberRound read (rows gap closed ((m :: ms).map SpacedMember.print) ++ tail)
      (read ++ (m :: ms).map SpacedMember.property) tail := by
  have hm := hms m List.mem_cons_self
  induction ms generalizing m read with
  | nil =>
      rw [List.map_singleton, List.map_singleton, rows, List.append_assoc, List.append_assoc]
      cases closed with
      | true =>
          have hp := m.takes_typeMember hm (ahead_row hgap m (';' :: tail)) (.of_ahead rfl rfl)
          exact .stop (takes_memberRound hp (takes_seesClose htail) read)
      | false =>
          have hp := m.takes_typeMember hm (ahead_row hgap m tail) (.of_ahead htail rfl)
          exact .stop (takes_memberRound_last hp htail read)
  | cons m' ms ih =>
      have hms' : ∀ m'' ∈ m' :: ms, rules.ReadsType m''.type := fun m'' hm'' =>
        hms m'' (List.mem_cons_of_mem m hm'')
      have next := ih m' hms' (read ++ [m.property]) (hms' m' List.mem_cons_self)
      rw [List.append_assoc, List.singleton_append, ← List.map_cons] at next
      have hrow : ahead (rows gap closed ((m :: m' :: ms).map SpacedMember.print) ++ tail)
          = m.print ++ ';' :: (rows gap closed ((m' :: ms).map SpacedMember.print) ++ tail) := by
        rw [← ahead_row hgap]
        simp [rows]
      have hp := m.takes_typeMember hm hrow (.of_ahead rfl rfl)
      have hround := takes_memberRound hp (keyAhead_rows hgap m' ms).seesClose read
      exact .more hround (length_lt_of_member hrow) next

theorem takes_close (htail : ahead tail = '}' :: v) :
    Takes (do let _ ← symbol? "|"; symbol "\x7d") tail () v := by
  have hopens : Opens (· == '}') tail := .of_ahead htail rfl
  exact .bind (.symbol?_not hopens rfl) (.symbol (s := ['}']) htail)

/-- Members that are read in rounds are the body of an object type. -/
theorem KeyAhead.typeMembers {x : Text} {ps : List Property} (key : KeyAhead x)
    (hrounds : Rounds rules.memberRound [] x ps tail) (htail : ahead tail = '}' :: v)
    (h : ahead u = '{' :: x) : Takes rules.typeMembers u ps v := by
  refine .bind (.symbol (s := ['{']) h) ?_
  refine .bind (.sees_not key.opens rfl) <| .bind key.seesClose <|
    .bind (.symbol?_not key.opens rfl) <| .bind (.symbol?_not key.opens rfl) ?_
  exact .bind hrounds.iterate <| .bind (takes_close htail) (.pure _ v)

/-- The body of an object type or an interface gives its properties. -/
theorem takes_typeMembers (hgap : ∀ x, ahead (gap ++ x) = ahead x)
    (htail : ahead tail = '}' :: v) (ms : List SpacedMember)
    (hms : ∀ m ∈ ms, rules.ReadsType m.type)
    (h : ahead u = '{' :: (rows gap closed (ms.map SpacedMember.print) ++ tail)) :
    Takes rules.typeMembers u (ms.map SpacedMember.property) v := by
  cases ms with
  | nil =>
      have hbrace : Opens (· == '}') tail := .of_ahead htail rfl
      refine .bind (.symbol (s := ['{']) h) ?_
      refine .bind (.sees_not hbrace rfl) <| .bind (takes_seesClose htail) ?_
      exact .bind (takes_close htail) (.pure [] v)
  | cons m ms =>
      exact (keyAhead_rows hgap m ms).typeMembers (rounds_rows hgap htail m ms hms []) htail h

/-- In a class every property ends with its semicolon. -/
theorem rounds_fields (hgap : ∀ x, ahead (gap ++ x) = ahead x)
    (htail : ahead tail = '}' :: v) (ms : List SpacedMember)
    (hms : ∀ m ∈ ms, rules.ReadsType m.type) (read : List Property) :
    Rounds rules.fieldRound read (rows gap true (ms.map SpacedMember.print) ++ tail)
      (read ++ ms.map SpacedMember.property) tail := by
  induction ms generalizing read with
  | nil =>
      rw [List.map_nil, List.map_nil, List.append_nil]
      exact .stop (.bind (.sees_ahead (s := ['}']) htail) (.pure _ tail))
  | cons m ms ih =>
      have hrow : ahead (rows gap true ((m :: ms).map SpacedMember.print) ++ tail)
          = m.print ++ ';' :: (rows gap true (ms.map SpacedMember.print) ++ tail) := by
        rw [← ahead_row hgap, List.map_cons, rows_closed_cons]
        simp
      have hnext : Opens (fun d => opensKey d || d == '}')
          (rows gap true (ms.map SpacedMember.print) ++ tail) := by
        cases ms with
        | nil => exact .of_ahead htail rfl
        | cons m' ms => exact (keyAhead_rows hgap m' ms).opens.mono (by simp +contextual)
      have key := m.keyAhead hrow
      have hfield := m.takes_classMember (hms m List.mem_cons_self) hrow hnext
      have next := ih (fun m' hm' => hms m' (List.mem_cons_of_mem m hm')) (read ++ [m.property])
      rw [List.append_assoc, List.singleton_append, ← List.map_cons] at next
      exact .more (.bind (.sees_not key.opens rfl) (.bind hfield (.pure _ _)))
        (length_lt_of_member hrow) next

/-- The body of a class gives its properties. -/
theorem takes_classMembers (hgap : ∀ x, ahead (gap ++ x) = ahead x)
    (htail : ahead tail = '}' :: v) (ms : List SpacedMember)
    (hms : ∀ m ∈ ms, rules.ReadsType m.type)
    (h : ahead u = '{' :: (rows gap true (ms.map SpacedMember.print) ++ tail)) :
    Takes rules.classMembers u (ms.map SpacedMember.property) v := by
  have hrounds := rounds_fields hgap htail ms hms []
  exact .bind (.symbol (s := ['{']) h) <| .bind hrounds.iterate <|
    .bind (.symbol (s := ['}']) htail) (.pure _ v)

end Bodies

end TypeShape.Source
