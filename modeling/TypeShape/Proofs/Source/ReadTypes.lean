/-
Types as they are printed are read to their end, and no further.

The engine is `takesTypes_parse`: a parser for texts of some nesting reads every type shorter than
that, by induction on the nesting, since whatever a type holds is shorter than the type. The
suffixes of a list are read by one loop after all that stands before them, so a listable type
is followed through its layers to the first text that is no list (`Element.takes_primaryType`).
-/
import TypeShape.Proofs.Source.ReadMembers

namespace TypeShape.Source

variable {u v : Text} {rules : Rules} {n : Nat}

-- ================================================================= places

/-- What may come after an operand of `&`. -/
def endsOperand (d : Char) : Bool :=
  endsType d || d == '&'

/-- What may come after a listable type. -/
def endsElement (d : Char) : Bool :=
  endsOperand d || d == '['

/-- What may come after a type name. -/
def endsWord (d : Char) : Bool :=
  endsElement d || d == '<'

theorem isMark_of_endsWord (d : Char) (hd : endsWord d = true) : isMark d = true := by
  simp only [endsWord, endsElement, endsOperand, Bool.or_eq_true, beq_iff_eq] at hd
  rcases hd with ((hd | rfl) | rfl) | rfl
  · exact isMark_of_endsType d hd
  · rfl
  · rfl
  · rfl

theorem endsWord_of_endsElement (d : Char) (hd : endsElement d = true) : endsWord d = true := by
  rw [endsWord, hd, Bool.true_or]

theorem endsElement_of_endsOperand (d : Char) (hd : endsOperand d = true) :
    endsElement d = true := by
  rw [endsElement, hd, Bool.true_or]

theorem endsOperand_of_endsType (d : Char) (hd : endsType d = true) : endsOperand d = true := by
  rw [endsOperand, hd, Bool.true_or]

theorem Opens.breaksWord (h : Opens endsElement v) : Breaks v :=
  (h.mono endsWord_of_endsElement).breaks isMark_of_endsWord

-- ========================================================= type arguments

theorem opens_following_comma (parts : List Text) (v : Text) :
    Opens endsType (following [',', ' '] parts ++ '>' :: v) := by
  cases parts with
  | nil => exact .of_ahead rfl rfl
  | cons p parts => exact .of_ahead rfl rfl

theorem following_cons (separator p : Text) (parts : List Text) (v : Text) :
    following separator (p :: parts) ++ v
      = separator ++ (p ++ (following separator parts ++ v)) := by
  simp [following]

/-- Further type arguments, each after its comma. -/
def argumentRound (rules : Rules) : Parser Bool := do
  if ← symbol? "," then
    if ← sees ">" then return false
    rules.type
    return true
  else return false

/-- All further arguments are read, up to the closing bracket. -/
theorem repeats_arguments (hr : rules.TakesTypes n) (ts : List TypeTree)
    (hts : ∀ t ∈ ts, t.print.length < n) (v : Text) :
    Repeats (argumentRound rules) (following [',', ' '] (ts.map TypeTree.print) ++ '>' :: v)
      ('>' :: v) := by
  induction ts with
  | nil =>
      have hclose : Opens (· == '>') ('>' :: v) := .of_ahead rfl rfl
      exact .stop (.bind (.symbol?_not hclose rfl) (.pure false _))
  | cons t ts ih =>
      rw [List.map_cons, following_cons]
      have hahead := t.ahead_print (following [',', ' '] (ts.map TypeTree.print) ++ '>' :: v)
      have htype := hr t (hts t List.mem_cons_self) ((ahead_space _).trans hahead)
        (opens_following_comma _ v)
      refine .more (.bind (.symbol? (s := [',']) rfl) <|
        .bind (.sees_not (t.opens ((ahead_space _).trans hahead)) rfl) <|
        .bind htype (.pure true _)) ?_ (ih fun t' ht' => hts t' (List.mem_cons_of_mem t ht'))
      simp only [List.length_append, List.length_cons]
      omega

theorem takes_typeArguments (hr : rules.TakesTypes n) (t : TypeTree) (ts : List TypeTree)
    (hts : ∀ t' ∈ t :: ts, t'.print.length < n)
    (h : ahead u = '<' :: (t.print ++ (following [',', ' '] (ts.map TypeTree.print) ++ '>' :: v))) :
    Takes rules.typeArguments u () v := by
  have htype := hr t (hts t List.mem_cons_self) (t.ahead_print _)
    (opens_following_comma (ts.map TypeTree.print) v)
  have hothers := repeats_arguments hr ts (fun t' ht' => hts t' (List.mem_cons_of_mem t ht')) v
  exact .bind (.symbol (s := ['<']) h) <| .bind htype <| .bind hothers.takes <|
    .symbol (s := ['>']) rfl

-- ============================================================= type names

/-- After a type name come neither members nor type arguments. -/
theorem takes_typeName {w : Text} (hw : isWord w = true) (h : ahead u = w ++ v)
    (hv : Opens endsElement v) : Takes rules.typeName u () v := by
  refine .bind (.name h hw hv.breaksWord) <|
    .bind (Repeats.none (.bind (.symbol?_not hv rfl) (.pure false v))) ?_
  exact .second (.start (.symbol hv rfl)) (.pure () v)

/-- A type name with its arguments is read to the end of these. -/
theorem takes_typeName_generic (hr : rules.TakesTypes n) (w : Identifier) (t : TypeTree)
    (ts : List TypeTree) (hts : ∀ t' ∈ t :: ts, t'.print.length < n)
    (h : ahead u = w.text
      ++ '<' :: (t.print ++ (following [',', ' '] (ts.map TypeTree.print) ++ '>' :: v))) :
    Takes rules.typeName u () v := by
  have hopen : Opens endsWord
      ('<' :: (t.print ++ (following [',', ' '] (ts.map TypeTree.print) ++ '>' :: v))) :=
    .of_ahead rfl rfl
  refine .bind (.name h w.isWord (hopen.breaks isMark_of_endsWord)) <|
    .bind (Repeats.none (.bind (.symbol?_not hopen rfl) (.pure false _))) ?_
  exact .first (takes_typeArguments hr t ts hts rfl)

theorem Identifier.beq_reserved (w : Identifier) {s : Text} (hs : s ∈ reserved) :
    (w.text == s) = false :=
  beq_eq_false_iff_ne.2 fun heq => w.free (heq ▸ hs)

/-- No type of its own opens with a plain name. -/
theorem takes_wordType (w : Identifier) (h : Takes rules.typeName u () v) :
    Takes (rules.wordType w.text) u true v := by
  have hplain : Rules.plainWords.elem w.text = false := by
    rw [List.elem_eq_mem, decide_eq_false_iff_not]
    exact fun hw => w.free (List.mem_append_left _ (List.mem_append_left _
      (List.mem_append_left _ hw)))
  refine .otherwise hplain <| .otherwise (w.beq_reserved (by decide)) <|
    .otherwise (w.beq_reserved (by decide)) <| .otherwise (w.beq_reserved (by decide)) <|
    .otherwise (w.beq_reserved (by decide)) <| .otherwise (w.beq_reserved (by decide)) <|
    .otherwise (w.beq_reserved (by decide)) ?_
  exact .bind h (.pure true v)

theorem takes_wordType_predefined (rules : Rules) (w : Predefined) (h : ahead u = w.text ++ v) :
    Takes (rules.wordType w.text) u true v := by
  have table : ∀ w ∈ predefinedNames, Rules.plainWords.elem w = true := by decide
  unfold Rules.wordType
  rw [if_pos (table w.text w.known)]
  exact .bind (.take h _ rfl) (.pure true v)

-- ======================================================== listable types

/-- One more list layer after a type. -/
def listSuffix (rules : Rules) : Parser Bool := do
  if (← sees "[") && !(← onNewLine) then
    take 1
    if !(← sees "]") then rules.type
    symbol "]"
    return true
  else return false

theorem takes_listSuffix (rules : Rules) (v : Text) :
    Takes (listSuffix rules) ('[' :: ']' :: v) true v := by
  have hopen : Opens (· == '[') ('[' :: ']' :: v) := .of_ahead rfl rfl
  have hline : Takes onNewLine ('[' :: ']' :: v) false ('[' :: ']' :: v) := by
    have h := Takes.onNewLine (u := '[' :: ']' :: v)
    rw [show ahead ('[' :: ']' :: v) = '[' :: ']' :: v from rfl] at h
    simpa using h
  refine .bind (.sees_ahead (s := ['[']) rfl) <| .bind hline <|
    .bind (.take (s := ['[']) rfl 1 rfl) ?_
  exact .bind (.sees_ahead (s := [']']) rfl) <| .bind (.symbol (s := [']']) rfl) (.pure true v)

theorem takes_listSuffix_none (rules : Rules) {kind : Char → Bool} (hv : Opens kind v)
    (hkind : kind '[' = false) : Takes (listSuffix rules) v false v :=
  .bind (.sees_not hv (by simp [hkind])) <| .bind .onNewLine (.pure false v)

/-- A word at the start of a type decides what type it is. -/
theorem primaryType_word {w x : Text} (hw : isWord w = true) (h : ahead u = w ++ x) (hx : Breaks x)
    (hword : Takes (rules.wordType w) u true v) : Takes rules.primaryType u true v := by
  have hwordAt := wordAt_eq h hw hx
  refine .bind .upcoming ?_
  rw [if_pos (nameLength_ne_zero h hw hx), ← wordAt, hwordAt]
  exact hword

/-- A brace at the start of a type opens an object type. -/
theorem primaryType_brace {ps : List Property} (h : ahead u = '{' :: v) {w : Text}
    (hmembers : Takes rules.typeMembers u ps w) : Takes rules.primaryType u true w := by
  refine .bind .upcoming ?_
  rw [h]
  exact .bind hmembers (.pure true w)

/-- A listable type is read up to its suffixes, and the loop over suffixes gets through the
rest of it. -/
theorem Element.takes_primaryType (hr : rules.TakesTypes n) (e : Element) {u v : Text}
    (hn : e.print.length ≤ n) (h : ahead u = e.print ++ v) (hv : Opens endsElement v) :
    ∃ w, Takes rules.primaryType u true w
      ∧ ∀ x, Repeats (listSuffix rules) v x → Repeats (listSuffix rules) w x := by
  -- by the form of the type: only a list has suffixes, and the loop takes one more of them
  match e with
  | .name w =>
      rw [print] at h
      exact ⟨v, primaryType_word w.isWord h hv.breaksWord
        (takes_wordType w (takes_typeName w.isWord h hv)), fun x hx => hx⟩
  | .predefined w =>
      rw [print] at h
      exact ⟨v, primaryType_word w.isWord h hv.breaksWord (takes_wordType_predefined rules w h),
        fun x hx => hx⟩
  | .list e =>
      rw [print, List.append_assoc] at h
      rw [print, List.length_append] at hn
      obtain ⟨w, hw, hrest⟩ := e.takes_primaryType hr (by omega) h (.of_ahead rfl rfl)
      refine ⟨w, hw, fun x hx => hrest x (.more (takes_listSuffix rules v) ?_ hx)⟩
      simp only [List.length_append, List.length_cons]
      omega
  | .generic w first others =>
      have hargs : ∀ t ∈ first :: others, t.print.length < n := fun t ht =>
        Nat.lt_of_lt_of_le (length_argument_lt ht) hn
      rw [print, printTypes_eq] at h
      simp only [List.append_assoc, List.cons_append, List.nil_append] at h
      have hbreaks (x : Text) : Breaks ('<' :: x) := by
        have hopens : Opens (· == '<') ('<' :: x) := .of_ahead rfl rfl
        exact hopens.breaks (isMark_of_beq rfl)
      exact ⟨v, primaryType_word w.isWord h (hbreaks _)
        (takes_wordType w (takes_typeName_generic hr w first others hargs h)), fun x hx => hx⟩
  | .object members =>
      have hmembers : ∀ m ∈ members.map Member.spaced, rules.ReadsType m.type := by
        intro _ hm
        obtain ⟨m, hmember, rfl⟩ := List.mem_map.1 hm
        exact hr.readsType m.type (Nat.lt_of_lt_of_le (length_member_lt hmember) hn)
      rw [print, printMembers_eq, ← map_print_spaced] at h
      simp only [List.append_assoc, List.cons_append, List.nil_append] at h
      exact ⟨v, primaryType_brace h (takes_typeMembers ahead_space rfl _ hmembers h),
        fun x hx => hx⟩

-- ======================================================= how types open

/-- The words that change the type after them, and the one that opens an assertion. -/
def leadingWords : List Text :=
  Rules.prefixWords ++ ["asserts".toList]

/-- A type opens with a word that is none of these, after which a mark comes, or it opens with
a brace or a parenthesis. -/
inductive Opening : Text → Prop
  | word {w x : Text} (isWord : isWord w = true) (free : w ∉ leadingWords)
      (next : ∀ v, Opens endsElement v → Opens endsWord (x ++ v)) : Opening (w ++ x)
  | mark {d : Char} (x : Text) (isMark : d = '{' ∨ d = '(') : Opening (d :: x)

/-- More text may follow. -/
theorem Opening.append {t : Text} (h : Opening t) (x : Text)
    (hx : ∀ v, Opens endsElement v → Opens endsElement (x ++ v)) : Opening (t ++ x) := by
  cases h with
  | @word w y isWord free next =>
      rw [List.append_assoc]
      refine .word isWord free fun v hv => ?_
      rw [List.append_assoc]
      exact next _ (hx v hv)
  | mark y isMark => exact .mark _ isMark

/-- A word may be a type of its own. -/
theorem Opening.alone {w : Text} (hw : isWord w = true) (free : w ∉ leadingWords) : Opening w := by
  rw [← List.append_nil w]
  exact .word hw free fun v hv => hv.mono endsWord_of_endsElement

theorem Identifier.not_leading (w : Identifier) : w.text ∉ leadingWords := by
  have table : ∀ s ∈ leadingWords, s ∈ reserved := by decide
  exact fun hw => w.free (table _ hw)

/-- A listable type opens like a type. -/
theorem Element.opening (e : Element) : Opening e.print := by
  match e with
  | .name w =>
      rw [print]
      exact .alone w.isWord w.not_leading
  | .predefined w =>
      have table : ∀ s ∈ predefinedNames, s ∉ leadingWords := by decide
      rw [print]
      exact .alone w.isWord (table _ w.known)
  | .list e =>
      rw [print]
      exact e.opening.append _ fun v _ => .of_ahead rfl rfl
  | .generic w first others =>
      rw [print]
      exact .word w.isWord w.not_leading fun v _ => .of_ahead rfl rfl
  | .object members =>
      rw [print]
      exact .mark _ (.inl rfl)

/-- So does every type. -/
theorem TypeTree.opening (t : TypeTree) : Opening t.print := by
  cases t with
  | operands first others =>
      rw [print, printElements_eq]
      refine first.opening.append _ fun v hv => ?_
      cases others with
      | nil => exact hv
      | cons e es => exact .of_ahead rfl rfl
  | function result =>
      rw [print]
      exact .mark _ (.inr rfl)

/-- Where a type comes next, it is known what its word is and what follows the word. -/
theorem Opening.wordAt {t : Text} (ht : Opening t) (h : ahead u = t ++ v)
    (hv : Opens endsElement v) :
    wordAt u = [] ∨ ∃ x, ahead u = wordAt u ++ x ∧ isWord (wordAt u) = true
      ∧ wordAt u ∉ leadingWords ∧ Opens endsWord x := by
  cases ht with
  | @word w x isWord free next =>
      rw [List.append_assoc] at h
      rw [wordAt_eq h isWord ((next v hv).breaks isMark_of_endsWord)]
      exact .inr ⟨x ++ v, h, isWord, free, next v hv⟩
  | @mark d x isMark =>
      have hmark : ∀ d, (d == '{' || d == '(') = true → Source.isMark d = true := by
        intro d hd
        rw [Bool.or_eq_true, beq_iff_eq, beq_iff_eq] at hd
        rcases hd with rfl | rfl <;> rfl
      have hopens : Opens (fun d => d == '{' || d == '(') u :=
        .of_ahead h (by simpa using isMark)
      exact .inl (hopens.wordAt hmark)

theorem Opening.wordAt_not_leading {t : Text} (ht : Opening t) (h : ahead u = t ++ v)
    (hv : Opens endsElement v) : Source.wordAt u ∉ leadingWords := by
  rcases ht.wordAt h hv with hword | ⟨x, -, -, free, -⟩
  · rw [hword]
    decide
  · exact free

-- ============================================================== operands

/-- The words and marks that stand before a type. -/
def prefixRound : Parser Bool := do
  let w ← upcomingName
  if Rules.prefixWords.elem w then
    take w.length
    return true
  else symbol? "?"

/-- Nothing stands before a type of this grammar. -/
theorem takes_prefixRound {t : TypeTree} (h : ahead u = t.print ++ v) (hv : Opens endsElement v) :
    Takes prefixRound u false u := by
  have hword : Rules.prefixWords.elem (wordAt u) = false := by
    rw [List.elem_eq_mem, decide_eq_false_iff_not]
    exact fun hw => t.opening.wordAt_not_leading h hv (List.mem_append_left _ hw)
  exact .bind .upcomingName <| .otherwise hword (.symbol?_not (t.opens h) rfl)

/-- A listable type is read to its end. -/
theorem takes_operandType (hr : rules.TakesTypes n) (e : Element) (hn : e.print.length ≤ n)
    (h : ahead u = e.print ++ v) (hv : Opens endsOperand v) : Takes rules.operandType u () v := by
  have hv' := hv.mono endsElement_of_endsOperand
  obtain ⟨w, hw, hrest⟩ := e.takes_primaryType hr hn h hv'
  have hsuffixes := hrest v (.stop (takes_listSuffix_none rules hv rfl))
  have htype : ahead u = (TypeTree.operands e []).print ++ v := by
    rw [h, TypeTree.print, printElements_eq]
    simp [following]
  exact .bind (Repeats.none (takes_prefixRound htype hv')) <| .bind hw hsuffixes.takes

theorem takes_typeOperator_none {kind : Char → Bool} (h : Opens kind u) (hbar : kind '|' = false)
    (hand : kind '&' = false) : Takes Rules.typeOperator? u false u :=
  .bind (.sees_not h (by simp [hbar])) <| .bind (.symbol?_not h (by simp [hbar])) <|
    .symbol?_not h (by simp [hand])

theorem takes_typeOperator_and (h : ahead u = '&' :: v) : Takes Rules.typeOperator? u true v := by
  have hopens : Opens (· == '&') u := .of_ahead h rfl
  exact .bind (.sees_not hopens rfl) <| .bind (.symbol?_not hopens rfl) <|
    .symbol? (s := ['&']) h

/-- One operand and the operator after it. -/
def operandRound (rules : Rules) : Parser Bool := do
  repeatWhile Rules.typeOperator?
  rules.operandType
  Rules.typeOperator?

/-- The last operand ends the rounds. -/
theorem takes_operandRound_last (hr : rules.TakesTypes n) (e : Element) (hn : e.print.length ≤ n)
    (h : ahead u = e.print ++ v) (hv : Opens endsType v) :
    Takes (operandRound rules) u false v := by
  have hstart := Repeats.none (takes_typeOperator_none (e.opens h) rfl rfl)
  have hoperand := takes_operandType hr e hn h (hv.mono endsOperand_of_endsType)
  exact .bind hstart <| .bind hoperand (takes_typeOperator_none hv rfl rfl)

/-- After any other operand the rounds go on. -/
theorem takes_operandRound (hr : rules.TakesTypes n) (e : Element) (hn : e.print.length ≤ n)
    (h : ahead u = e.print ++ ' ' :: '&' :: v) : Takes (operandRound rules) u true v := by
  have hstart := Repeats.none (takes_typeOperator_none (e.opens h) rfl rfl)
  have hoperand := takes_operandType hr e hn h (.of_ahead rfl rfl)
  exact .bind hstart <| .bind hoperand (takes_typeOperator_and rfl)

/-- Operands are read one after the other. -/
theorem repeats_operands (hr : rules.TakesTypes n) (e : Element) (es : List Element)
    (hes : ∀ e' ∈ e :: es, e'.print.length ≤ n) (hv : Opens endsType v)
    (h : ahead u = e.print ++ (following [' ', '&', ' '] (es.map Element.print) ++ v)) :
    Repeats (operandRound rules) u v := by
  have he := hes e List.mem_cons_self
  induction es generalizing e u with
  | nil => exact .stop (takes_operandRound_last hr e he h hv)
  | cons e' es ih =>
      have hes' : ∀ e'' ∈ e' :: es, e''.print.length ≤ n := fun e'' he'' =>
        hes e'' (List.mem_cons_of_mem e he'')
      rw [List.map_cons, following_cons, List.cons_append, List.cons_append, List.cons_append,
        List.nil_append] at h
      have hnext := ih e' hes' ((ahead_space _).trans (e'.ahead_print _))
        (hes' e' List.mem_cons_self)
      have hle := (ahead_suffix u).length_le
      refine .more (takes_operandRound hr e he h) ?_ hnext
      rw [h] at hle
      simp only [List.length_append, List.length_cons] at hle ⊢
      omega

-- ============================================================= functions

/-- A type predicate after an arrow. -/
def predicateType (rules : Rules) : Parser Unit := do
  let _ ← name
  if ← onNewLine then fail
  keyword "is"
  rules.type

/-- A word that a mark follows starts no predicate. -/
theorem fails_predicateType (rules : Rules) {w x : Text} (hw : isWord w = true)
    (h : ahead u = w ++ x) (hx : Opens endsWord x) : Fails (predicateType rules) u := by
  have his : wordAt x ≠ "is" := by
    rw [hx.wordAt isMark_of_endsWord]
    decide
  refine .later (.name h hw (hx.breaks isMark_of_endsWord)) <| .later .onNewLine ?_
  cases decide ((ahead x).count '\n' < x.count '\n') with
  | true => exact .start (.fail x)
  | false => exact .start (.keyword his)

/-- What a function gives is read as a type: it opens with no predicate. -/
theorem takes_returnType (hr : rules.TakesTypes n) (t : TypeTree) (hn : t.print.length < n)
    (h : ahead u = t.print ++ v) (hv : Opens endsType v) : Takes rules.returnType u () v := by
  have hv' := (hv.mono endsOperand_of_endsType).mono endsElement_of_endsOperand
  have htype := hr t hn h hv
  have hasserts : (wordAt u == "asserts".toList) = false :=
    beq_eq_false_iff_ne.2 fun heq => t.opening.wordAt_not_leading h hv'
      (by rw [heq]; decide)
  refine .bind .upcomingName ?_
  rcases t.opening.wordAt h hv' with hword | ⟨x, hx, hword, -, hnext⟩
  · rw [hword]
    exact htype
  · exact .otherwise (isEmpty_of_isWord hword) <| .otherwise hasserts <|
      .second (fails_predicateType rules hword hx hnext) htype

/-- A function type is read to its end. -/
theorem takes_function (hr : rules.TakesTypes n) (t : TypeTree) (hn : t.print.length < n)
    (h : ahead u = '(' :: ')' :: ' ' :: '=' :: '>' :: ' ' :: (t.print ++ v))
    (hv : Opens endsType v) : Takes rules.primaryType u false v := by
  have hopens : Opens (· == '(') u := .of_ahead h rfl
  have hparameters : Takes rules.parameters u () (' ' :: '=' :: '>' :: ' ' :: (t.print ++ v)) := by
    refine .bind (.symbol (s := ['(']) h) <| .bind (Repeats.none ?_) <|
      .symbol (s := [')']) rfl
    exact .bind (.sees_ahead (s := [')']) rfl) (.pure false _)
  have hfunction : Takes rules.functionOrGroup u false v :=
    .first <| .bind hparameters <| .bind (.symbol (s := ['=', '>']) rfl) <|
      .bind (takes_returnType hr t hn (t.ahead_print v) hv) (.pure false v)
  refine .bind .upcoming ?_
  rw [h]
  exact hfunction

-- ================================================================= types

/-- A type is read by the rules that read all shorter types. -/
theorem takes_typeRule (hr : rules.TakesTypes n) (t : TypeTree) (hn : t.print.length ≤ n)
    (h : ahead u = t.print ++ v) (hv : Opens endsType v) : Takes rules.typeRule u () v := by
  have hextends : wordAt v = [] := hv.wordAt isMark_of_endsType
  have hoperands : Repeats (operandRound rules) u v := by
    cases t with
    | operands first others =>
        rw [TypeTree.print, printElements_eq, List.append_assoc] at h
        exact repeats_operands hr first others (fun e he =>
          Nat.le_trans (TypeTree.length_operand_le he) hn) hv h
    | function result =>
        have hopens := (TypeTree.function result).opens h
        have hstart := Repeats.none (takes_typeOperator_none hopens rfl rfl)
        have hv' := (hv.mono endsOperand_of_endsType).mono endsElement_of_endsOperand
        have hprefix := Repeats.none (takes_prefixRound h hv')
        rw [TypeTree.print] at h hn
        have hresult : result.print.length < n := by
          simp only [List.length_cons] at hn
          omega
        have hfunction := takes_function hr result hresult h hv
        exact .stop <| .bind hstart <| .bind (.bind hprefix <| .bind hfunction (.pure () v)) <|
          takes_typeOperator_none hv rfl rfl
  refine .bind hoperands.takes <| .bind .upcomingName <| .bind .onNewLine ?_
  rw [hextends]
  exact .pure () v

/-- The parser for texts of some nesting reads all types that are shorter. -/
theorem takesTypes_parse (depth : Nat) : (parse depth).TakesTypes depth := by
  induction depth with
  | zero => exact fun t u v hn => absurd hn (Nat.not_lt_zero _)
  | succ depth ih =>
      exact fun t u v hn h hv => takes_typeRule ih t (Nat.le_of_lt_succ hn) h hv

/-- A type as it may be written: wherever there is room for its nesting, it is read as a type. -/
def IsType (t : Text) : Prop :=
  ∀ depth, t.length < depth → (parse depth).ReadsType t

/-- Types of the grammar are types. -/
theorem TypeTree.isType (t : TypeTree) : IsType t.print :=
  fun depth ht => (takesTypes_parse depth).readsType t ht

end TypeShape.Source
