/-
Texts whose braces all stand in code.

Whether a brace counts is for the grammar to say: in quotes and in comments it does not. A text
is exposed if it has none there, by a reading that knows only quotes and comments
(`Place.after`). Then what the parser skips and every lexeme that it takes is free of braces, and
leaves a text that is exposed again.
-/
import TypeShape.Proofs.Source.Takes
import TypeShape.Proofs.Source.Walk.Basic

namespace TypeShape.Source

-- =============================================================== places

/-- A brace. -/
def isBrace (d : Char) : Bool :=
  d == '{' || d == '}'

/-- The quotes of strings and templates. -/
def isQuote (d : Char) : Bool :=
  d == '"' || d == '\'' || d == '\x60'

/-- Where in a text one may stand. -/
inductive Place
  | code
  /-- After a slash that opens a comment. -/
  | slash
  | lineComment
  | blockComment
  /-- After a star in a block comment. -/
  | star
  | quoted (quote : Char)
  /-- After a backslash in quotes. -/
  | escaped (quote : Char)
deriving DecidableEq

/-- The place after a character. There is none after a brace in quotes or in a comment, a
backslash in code, or a slash in code that opens no comment. -/
def Place.after : Place → Char → Option Place
  | .code, d =>
    if isQuote d then some (.quoted d)
    else if d = '/' then some .slash
    else if d = '\\' then none
    else some .code
  | .slash, d =>
    if d = '/' then some .lineComment
    else if d = '*' then some .blockComment
    else none
  | .lineComment, d =>
    if isLineEnd d then some .code
    else if isBrace d then none
    else some .lineComment
  | .blockComment, d =>
    if d = '*' then some .star
    else if isBrace d then none
    else some .blockComment
  | .star, d =>
    if d = '/' then some .code
    else if d = '*' then some .star
    else if isBrace d then none
    else some .blockComment
  | .quoted quote, d =>
    if d = quote then some .code
    else if d = '\\' then some (.escaped quote)
    else if isBrace d then none
    else some (.quoted quote)
  | .escaped quote, d =>
    if isBrace d then none
    else some (.quoted quote)

/-- From a place on, all braces of a text stand in code, and it ends with all quotes and block
comments closed. -/
def exposed : Place → Text → Bool
  | p, [] => p == .code || p == .lineComment
  | p, d :: rest =>
    match p.after d with
    | none => false
    | some p => exposed p rest

/-- A text without braces. -/
def Braceless (t : Text) : Prop :=
  ∀ d ∈ t, isBrace d = false

-- ======================================================= what is passed

/-- After so many characters, none of which is a brace, one stands in code again. -/
structure Passes (t : Text) (n : Nat) : Prop where
  taken : Braceless (t.take n)
  left : exposed .code (t.drop n) = true

namespace Passes

variable {t : Text} {n : Nat} {d : Char}

theorem zero (h : exposed .code t = true) : Passes t 0 :=
  ⟨fun d hd => by simp at hd, h⟩

/-- One more character before them makes no difference if it is no brace. -/
theorem cons (h : Passes t n) (hd : isBrace d = false) : Passes (d :: t) (n + 1) := by
  refine ⟨fun e he => ?_, h.left⟩
  rcases List.mem_cons.1 he with rfl | he
  · exact hd
  · exact h.taken e he

end Passes

variable {p p' : Place} {t u : Text} {n : Nat} {d : Char}

theorem exposed_cons (h : exposed p (d :: t) = true) :
    ∃ p', p.after d = some p' ∧ exposed p' t = true := by
  unfold exposed at h
  split at h
  case h_1 => cases h
  case h_2 p' hp => exact ⟨p', hp, h⟩

/-- The characters that stand for themselves in code. -/
def isPlain (d : Char) : Bool :=
  !delimiters.elem d && d != '/'

/-- A kind of characters to which no mark and no slash belong. -/
theorem isPlain_of_kind {kind : Char → Bool} (h : kind d = true)
    (hmarks : ('/' :: delimiters).all (!kind ·) = true) : isPlain d = true := by
  have hmem : d ∉ '/' :: delimiters := by
    intro hmem
    have hkind := List.all_eq_true.1 hmarks d hmem
    rw [h] at hkind
    cases hkind
  rw [List.mem_cons, not_or] at hmem
  unfold isPlain
  rw [Bool.and_eq_true, bne_iff_ne, Bool.not_eq_true']
  exact ⟨by simpa using hmem.2, hmem.1⟩

theorem ne_of_isPlain {e : Char} (h : isPlain d = true) (he : isPlain e = false) : d ≠ e := by
  rintro rfl
  rw [h] at he
  cases he

theorem isBrace_of_isPlain (h : isPlain d = true) : isBrace d = false := by
  simp [isBrace, ne_of_isPlain h (e := '{') (by decide), ne_of_isPlain h (e := '}') (by decide)]

theorem isQuote_of_isPlain (h : isPlain d = true) : isQuote d = false := by
  simp [isQuote, ne_of_isPlain h (e := '"') (by decide), ne_of_isPlain h (e := '\'') (by decide),
    ne_of_isPlain h (e := '\x60') (by decide)]

theorem after_of_isPlain (h : isPlain d = true) : Place.code.after d = some .code := by
  simp [Place.after, isQuote_of_isPlain h, ne_of_isPlain h (e := '/') (by decide),
    ne_of_isPlain h (e := '\\') (by decide)]

/-- Plain characters are passed in code. -/
theorem passes_plain (h : exposed .code t = true) (hplain : ∀ d ∈ t.take n, isPlain d = true) :
    Passes t n := by
  induction n generalizing t with
  | zero => exact .zero h
  | succ n ih =>
      cases t with
      | nil => exact ⟨fun d hd => by simp at hd, by simpa using h⟩
      | cons d t =>
          have hd := hplain d (by simp)
          obtain ⟨p', hp, ht⟩ := exposed_cons h
          rw [after_of_isPlain hd] at hp
          cases hp
          exact (ih ht fun e he => hplain e (by simp [he])).cons (isBrace_of_isPlain hd)

-- =============================================================== blanks

/-- The place of a mode of skipping. -/
def Skipping.place : Skipping → Place
  | .between => .code
  | .lineComment => .lineComment
  | .blockComment => .blockComment

/-- A text is left after characters that are passed, and no slash comes next. -/
def Skips (t u : Text) : Prop :=
  ∃ n, u = t.drop n ∧ Passes t n ∧ u.head? ≠ some '/'

theorem Skips.cons (h : Skips t u) (hd : isBrace d = false) : Skips (d :: t) u := by
  obtain ⟨n, rfl, hpasses, hslash⟩ := h
  exact ⟨n + 1, rfl, hpasses.cons hd, hslash⟩

theorem Skips.stop (h : exposed .code t = true) (hslash : t.head? ≠ some '/') : Skips t t :=
  ⟨0, rfl, .zero h, hslash⟩

theorem after_lineComment (h : Place.lineComment.after d = some p) :
    isBrace d = false ∧ p = if isLineEnd d then .code else .lineComment := by
  cases hbrace : isBrace d with
  | false =>
      refine ⟨rfl, ?_⟩
      simp only [Place.after, hbrace] at h
      split at h <;> simp_all
  | true => rcases Bool.or_eq_true_iff.1 hbrace with hd | hd <;> cases eq_of_beq hd <;> cases h

theorem after_blockComment (h : Place.blockComment.after d = some p) :
    isBrace d = false ∧ p = if d = '*' then .star else .blockComment := by
  cases hbrace : isBrace d with
  | false =>
      refine ⟨rfl, ?_⟩
      simp only [Place.after, hbrace] at h
      split at h <;> simp_all
  | true => rcases Bool.or_eq_true_iff.1 hbrace with hd | hd <;> cases eq_of_beq hd <;> cases h

/-- After a star a slash closes the comment; else the star made no difference. -/
theorem after_star (hd : d ≠ '/') : Place.star.after d = Place.blockComment.after d := by
  simp [Place.after, hd]

theorem exposed_star (h : exposed .star t = true) (hslash : t.head? ≠ some '/') :
    exposed .blockComment t = true := by
  cases t with
  | nil => cases h
  | cons d t =>
      rw [exposed, after_star (by simpa using hslash)] at h
      exact h

theorem closesBlock_cons (hd : d ≠ '*') (t : Text) : closesBlock (d :: t) = closesBlock t := by
  rw [closesBlock]
  intro rest hrest
  cases hrest
  exact absurd rfl hd

/-- A block comment that is exposed is closed. -/
theorem closesBlock_of_exposed (t : Text) : (exposed .blockComment t = true → closesBlock t = true)
    ∧ (exposed .star t = true → closesBlock ('*' :: t) = true) := by
  induction t with
  | nil => exact ⟨fun h => (by cases h), fun h => (by cases h)⟩
  | cons d t ih =>
      obtain ⟨hblock, hstar⟩ := ih
      have hopen (h : exposed .blockComment (d :: t) = true) : closesBlock (d :: t) = true := by
        obtain ⟨p, hp, ht⟩ := exposed_cons h
        rw [(after_blockComment hp).2] at ht
        split at ht
        case isTrue hd =>
          rw [hd]
          exact hstar ht
        case isFalse hd =>
          rw [closesBlock_cons hd]
          exact hblock ht
      refine ⟨hopen, fun h => ?_⟩
      by_cases hd : d = '/'
      · rw [hd]
        rfl
      · have hopen := hopen (exposed_star h (by simpa using hd))
        rw [closesBlock]
        · exact hopen
        · exact fun rest _ hrest => hd (List.cons.inj hrest).1

/-- Where text is exposed, a slash in code opens a comment. -/
theorem slash_opens (h : exposed .code ('/' :: t) = true) :
    ∃ rest, t = '/' :: rest ∨ t = '*' :: rest := by
  obtain ⟨p, hp, ht⟩ := exposed_cons h
  cases hp
  cases t with
  | nil => cases ht
  | cons d rest =>
      obtain ⟨p, hp, -⟩ := exposed_cons ht
      refine ⟨rest, ?_⟩
      by_cases hline : d = '/'
      · exact .inl (hline ▸ rfl)
      · by_cases hblock : d = '*'
        · exact .inr (hblock ▸ rfl)
        · simp [Place.after, hline, hblock] at hp

/-- What is skipped is passed, and no slash comes next. -/
theorem skipFrom_exposed (mode : Skipping) (left line : Nat) (t : Text)
    (h : exposed mode.place t = true) : Skips t (skipFrom mode left line t).1 := by
  -- one case for each step of the skipping; a place is passed without a brace, and a comment that
  -- would stay open is not exposed
  fun_induction skipFrom mode left line t
  case case1 => exact .stop rfl (by simp)
  case case2 c rest line' hspace ih =>
    have hplain := isPlain_of_kind hspace (by decide)
    obtain ⟨p, hp, hrest⟩ := exposed_cons h
    cases (after_of_isPlain hplain).symm.trans hp
    exact (ih hrest).cons (isBrace_of_isPlain hplain)
  case case3 rest _ ih => exact ((ih h).cons rfl).cons rfl
  case case4 rest _ _ ih => exact ((ih h).cons rfl).cons rfl
  case case5 rest hopen _ => exact absurd ((closesBlock_of_exposed rest).1 h) hopen
  case case6 rest hline hblock _ =>
    obtain ⟨rest', rfl | rfl⟩ := slash_opens h
    · exact (hline rest' rfl).elim
    · exact (hblock rest' rfl).elim
  case case7 c rest _ hslash => exact .stop h (by simpa using hslash)
  case case8 c rest line' ih =>
    obtain ⟨p, hp, hrest⟩ := exposed_cons h
    obtain ⟨hbrace, rfl⟩ := after_lineComment hp
    refine (ih ?_).cons hbrace
    split <;> simp_all [Skipping.place]
  case case9 rest ih => exact ((ih h).cons rfl).cons rfl
  case case10 c line' rest hstar ih =>
    obtain ⟨p, hp, hrest⟩ := exposed_cons h
    obtain ⟨hbrace, rfl⟩ := after_blockComment hp
    rw [if_neg hstar] at hrest
    exact ((ih hrest).cons rfl).cons hbrace
  case case11 c line' rest hslash ih =>
    obtain ⟨p, hp, hrest⟩ := exposed_cons h
    obtain ⟨hbrace, rfl⟩ := after_blockComment hp
    refine (ih ?_).cons hbrace
    split at hrest
    case isTrue =>
      refine exposed_star hrest ?_
      cases rest with
      | nil => simp
      | cons d rest =>
          simp only [List.head?_cons, ne_eq, Option.some.injEq]
          rintro rfl
          exact hslash rest rfl
    case isFalse => exact hrest

-- =============================================================== quotes

theorem isBrace_of_isQuote (h : isQuote d = true) : isBrace d = false := by
  simp only [isQuote, Bool.or_eq_true, beq_iff_eq] at h
  rcases h with (rfl | rfl) | rfl <;> rfl

theorem ne_of_isQuote {quote : Char} (hquote : isQuote quote = true) (hd : isQuote d = false) :
    d ≠ quote := by
  rintro rfl
  rw [hquote] at hd
  cases hd

theorem after_quoted {quote : Char} (hquote : d ≠ quote) (hescape : d ≠ '\\')
    (h : (Place.quoted quote).after d = some p) : isBrace d = false ∧ p = .quoted quote := by
  cases hbrace : isBrace d <;> simp_all [Place.after]

theorem after_escaped {quote : Char} (h : (Place.escaped quote).after d = some p) :
    isBrace d = false ∧ p = .quoted quote := by
  cases hbrace : isBrace d <;> simp_all [Place.after]

/-- After so many characters, none of which is a brace, one stands in quotes. -/
structure Inside (quote : Char) (t : Text) (n : Nat) : Prop where
  taken : Braceless (t.take n)
  left : exposed (.quoted quote) (t.drop n) = true

namespace Inside

variable {quote : Char}

theorem zero (h : exposed (.quoted quote) t = true) : Inside quote t 0 :=
  ⟨fun d hd => by simp at hd, h⟩

theorem cons (h : Inside quote t n) (hd : isBrace d = false) : Inside quote (d :: t) (n + 1) := by
  refine ⟨fun e he => ?_, h.left⟩
  rcases List.mem_cons.1 he with rfl | he
  · exact hd
  · exact h.taken e he

theorem tail (h : Inside quote (d :: t) (n + 1)) : isBrace d = false ∧ Inside quote t n :=
  ⟨h.taken d (by simp), fun e he => h.taken e (by simp [he]), h.left⟩

variable (hquote : isQuote quote = true)

include hquote

/-- Plain characters neither close quotes nor escape. -/
theorem of_plain (h : exposed (.quoted quote) t = true)
    (hplain : ∀ d ∈ t.take n, isPlain d = true) : Inside quote t n := by
  induction n generalizing t with
  | zero => exact .zero h
  | succ n ih =>
      cases t with
      | nil => exact ⟨fun d hd => by simp at hd, by simpa using h⟩
      | cons d t =>
          have hd := hplain d (by simp)
          have hne : d ≠ quote := ne_of_isQuote hquote (isQuote_of_isPlain hd)
          obtain ⟨p', hp, ht⟩ := exposed_cons h
          obtain ⟨hbrace, rfl⟩ := after_quoted hne (ne_of_isPlain hd (by decide)) hp
          exact (ih ht fun e he => hplain e (by simp [he])).cons hbrace

/-- What is escaped stays in quotes. -/
theorem of_stringEscape (h : exposed (.escaped quote) t = true) (hn : stringEscape t = some n) :
    Inside quote t n := by
  have hhex {d : Char} (hd : isHex d = true) : isPlain d = true :=
    isPlain_of_kind hd (by decide)
  cases t with
  | nil => cases hn
  | cons d t =>
      obtain ⟨p', hp, ht⟩ := exposed_cons h
      obtain ⟨hbrace, rfl⟩ := after_escaped hp
      unfold stringEscape at hn
      split at hn
      case h_1 a b rest heq =>
        cases heq
        split at hn <;> cases hn
        refine (of_plain hquote ht (n := 2) ?_).cons hbrace
        simp_all
      case h_3 rest heq =>
        -- the digits of a code point would stand in braces
        cases heq
        obtain ⟨p', hp, -⟩ := exposed_cons ht
        cases (after_quoted (ne_of_isQuote hquote rfl) (by decide) hp).1
      case h_4 a b c e rest _ heq =>
        cases heq
        split at hn <;> cases hn
        refine (of_plain hquote ht (n := 4) ?_).cons hbrace
        simp_all
      case h_6 rest heq =>
        cases heq
        cases hn
        refine (of_plain hquote ht (n := 1) ?_).cons hbrace
        simp
        decide
      case h_7 heq =>
        cases heq
        cases hn
        exact (zero ht).cons hbrace
      all_goals cases hn

/-- After an escaped part the quotes go on. -/
theorem escape (h : Inside quote ('\\' :: t) 0) (hn : stringEscape t = some n) :
    Inside quote t n := by
  obtain ⟨p, hp, ht⟩ := exposed_cons h.left
  rw [Place.after, if_neg (ne_of_isQuote hquote rfl), if_pos rfl] at hp
  cases hp
  exact of_stringEscape hquote ht hn

omit hquote

/-- After any other character they go on too. -/
theorem next (h : Inside quote (d :: t) 0) (hclose : d ≠ quote) (hescape : d ≠ '\\') :
    isBrace d = false ∧ Inside quote t 0 := by
  obtain ⟨p, hp, ht⟩ := exposed_cons h.left
  obtain ⟨hbrace, rfl⟩ := after_quoted hclose hescape hp
  exact ⟨hbrace, zero ht⟩

/-- The closing quote leads to code. -/
theorem close (h : Inside quote (quote :: t) 0) : exposed .code t = true := by
  obtain ⟨p, hp, ht⟩ := exposed_cons h.left
  rw [Place.after, if_pos rfl] at hp
  cases hp
  exact ht

include hquote in
/-- Up to the closing quote, and with it, all is passed. -/
theorem passes (h : Inside quote t n) (hclose : (t.drop n).head? = some quote) :
    Passes t (n + 1) := by
  induction n generalizing t with
  | zero =>
      cases t with
      | nil => cases hclose
      | cons d t =>
          cases hclose
          exact (Passes.zero h.close).cons (isBrace_of_isQuote hquote)
  | succ n ih =>
      cases t with
      | nil => cases hclose
      | cons d t =>
          obtain ⟨hd, htail⟩ := h.tail
          exact (ih htail hclose).cons hd

end Inside

/-- A string is passed up to its closing quote, and that too. -/
theorem passes_stringTail {quote : Char} (hquote : isQuote quote = true) {skip : Nat}
    (h : Inside quote t skip) (hn : stringTail quote skip t = some n) : Passes t n := by
  -- character by character; what an escape covers is skipped, whatever it is
  induction t generalizing skip n with
  | nil => cases hn
  | cons d t ih =>
      unfold stringTail at hn
      cases skip with
      | succ more =>
          obtain ⟨m, hm, rfl⟩ := Option.map_eq_some_iff.1 hn
          obtain ⟨hd, htail⟩ := h.tail
          exact (ih htail hm).cons hd
      | zero =>
          dsimp only at hn
          split at hn
          case isTrue hclose =>
            cases hclose
            cases hn
            exact (Passes.zero h.close).cons (isBrace_of_isQuote hquote)
          case isFalse hclose =>
            split at hn
            case isTrue hescape =>
              cases hescape
              split at hn
              case h_1 m hm =>
                obtain ⟨l, hl, rfl⟩ := Option.map_eq_some_iff.1 hn
                exact (ih (h.escape hquote hm) hl).cons rfl
              case h_2 => cases hn
            case isFalse hescape =>
              split at hn
              case isTrue => cases hn
              case isFalse =>
                obtain ⟨l, hl, rfl⟩ := Option.map_eq_some_iff.1 hn
                obtain ⟨hd, htail⟩ := h.next hclose hescape
                exact (ih htail hl).cons hd

/-- A template that is exposed has no substitutions: it is inside up to its closing quote. -/
theorem inside_templateSpan {skip : Nat} (h : Inside '\x60' t skip)
    (hn : templateSpan skip t = some n) : Inside '\x60' t n ∧ (t.drop n).head? = some '\x60' := by
  induction t generalizing skip n with
  | nil => cases hn
  | cons d t ih =>
      unfold templateSpan at hn
      cases skip with
      | succ more =>
          obtain ⟨m, hm, rfl⟩ := Option.map_eq_some_iff.1 hn
          obtain ⟨hd, htail⟩ := h.tail
          exact ⟨(ih htail hm).1.cons hd, (ih htail hm).2⟩
      | zero =>
          dsimp only at hn
          split at hn
          case isTrue hclose =>
            cases hclose
            cases hn
            exact ⟨h, rfl⟩
          case isFalse hclose =>
            split at hn
            case isTrue hopen =>
              -- the brace of a substitution would stand in quotes
              obtain ⟨rfl, hbrace⟩ := hopen
              cases t with
              | nil => cases hbrace
              | cons e t =>
                  cases hbrace
                  obtain ⟨-, htail⟩ := h.next hclose (by decide)
                  cases (htail.next (by decide) (by decide)).1
            case isFalse =>
              split at hn
              case isTrue hescape =>
                cases hescape
                split at hn
                case h_1 m hm =>
                  obtain ⟨l, hl, rfl⟩ := Option.map_eq_some_iff.1 hn
                  have htail := ih (h.escape rfl hm) hl
                  exact ⟨htail.1.cons rfl, htail.2⟩
                case h_2 => cases hn
              case isFalse hescape =>
                obtain ⟨l, hl, rfl⟩ := Option.map_eq_some_iff.1 hn
                obtain ⟨hd, htail⟩ := h.next hclose hescape
                exact ⟨(ih htail hl).1.cons hd, (ih htail hl).2⟩

-- ================================================================ names

theorem exposed_of_isPlain (h : exposed .code (d :: t) = true) (hd : isPlain d = true) :
    exposed .code t = true := by
  obtain ⟨p, hp, ht⟩ := exposed_cons h
  rw [after_of_isPlain hd] at hp
  cases hp
  exact ht

theorem isPlain_of_isNameChar (h : isNameChar d = true) : isPlain d = true :=
  isPlain_of_kind h (by decide)

/-- Where text is exposed no name has an escape. -/
theorem nameEscape_of_exposed (h : exposed .code t = true) : nameEscape t = 0 := by
  refine nameEscape_eq_zero fun hhead => ?_
  cases t with
  | nil => cases hhead
  | cons d t =>
      cases hhead
      cases h

/-- So the characters of a name after its first one are plain. -/
theorem plain_nameTail (h : exposed .code t = true) :
    ∀ d ∈ t.take (nameTail 0 t), isPlain d = true := by
  induction t with
  | nil => simp
  | cons c t ih =>
      rw [nameTail]
      split
      case isTrue hc =>
        have hplain := isPlain_of_isNameChar hc
        simpa using ⟨hplain, ih (exposed_of_isPlain h hplain)⟩
      case isFalse =>
        rw [nameEscape_of_exposed h]
        simp

/-- And with that one all of them are. -/
theorem plain_nameLength (h : exposed .code t = true) :
    ∀ d ∈ t.take (nameLength t), isPlain d = true := by
  cases t with
  | nil => simp
  | cons c t =>
      rw [nameLength]
      split
      case isTrue hc =>
        have hplain := isPlain_of_isNameChar (Bool.and_eq_true_iff.1 hc).1
        simpa using ⟨hplain, plain_nameTail (exposed_of_isPlain h hplain)⟩
      case isFalse =>
        rw [nameEscape_of_exposed h]
        simp

/-- Those of a private name are, too. -/
theorem plain_privateLength (h : exposed .code t = true) :
    ∀ d ∈ t.take (privateLength t), isPlain d = true := by
  unfold privateLength
  split
  case h_1 rest =>
    have hrest := exposed_of_isPlain h (by decide)
    have hname := plain_nameLength hrest
    split
    case h_1 => simp
    case h_2 n hn =>
      rw [hn] at hname
      simpa using ⟨by decide, hname⟩
  case h_2 => simp

-- ============================================================== numbers

/-- The characters that numbers are made of. -/
def isNumeric (d : Char) : Bool :=
  d.isAlphanum || "._+-".toList.elem d

theorem isPlain_of_isNumeric (h : isNumeric d = true) : isPlain d = true :=
  isPlain_of_kind h (by decide)

/-- The first so many characters of a text may be those of a number. -/
def Numeric (t : Text) (n : Nat) : Prop :=
  ∀ d ∈ t.take n, isNumeric d = true

theorem Numeric.cons (hd : isNumeric d = true) (h : Numeric t n) : Numeric (d :: t) (n + 1) := by
  simpa [Numeric] using ⟨hd, h⟩

theorem Numeric.zero : Numeric t 0 := by
  simp [Numeric]

theorem Numeric.add {m : Nat} (h : Numeric t n) (h' : Numeric (t.drop n) m) :
    Numeric t (n + m) := by
  unfold Numeric
  rw [List.take_add]
  intro d hd
  exact (List.mem_append.1 hd).elim (h d) (h' d)

/-- Digits are, of any base. -/
theorem numeric_digitRun {digit : Char → Bool} (hdigit : ∀ d, digit d = true → isNumeric d = true)
    (t : Text) : Numeric t (digitRun digit t) := by
  have hgo (t : Text) : Numeric t (digitRun.go digit t) := by
    fun_induction digitRun.go digit t with
    | case1 c rest hc ih => exact (ih.cons (hdigit c hc)).cons rfl
    | case3 c rest _ hc ih => exact ih.cons (hdigit c hc)
    | case2 | case4 | case5 => exact .zero
  unfold digitRun
  split
  case h_1 => exact .zero
  case h_2 c rest =>
    split
    case isTrue hc => exact (hgo rest).cons (hdigit c hc)
    case isFalse => exact .zero

theorem isNumeric_of_isDigit (h : d.isDigit = true) : isNumeric d = true := by
  simp [isNumeric, Char.isAlphanum, h]

/-- Hexadecimal digits may stand in numbers. -/
theorem isNumeric_of_isHex (h : isHex d = true) : isNumeric d = true := by
  unfold isHex Json.hexDigit? at h
  split at h
  case isTrue hdigit => exact isNumeric_of_isDigit hdigit
  case isFalse =>
    have hletter : d.isLower = true ∨ d.isUpper = true := by
      split at h
      case isTrue hlower =>
        refine .inl ?_
        exact Bool.and_eq_true_iff.2
          ⟨decide_eq_true hlower.1, decide_eq_true (Char.le_trans hlower.2 (by decide))⟩
      case isFalse =>
        split at h
        case isTrue hupper =>
          refine .inr ?_
          exact decide_eq_true ⟨hupper.1, Char.le_trans hupper.2 (by decide)⟩
        case isFalse => cases h
    have halpha : d.isAlpha = true := Bool.or_eq_true_iff.2 hletter.symm
    simp [isNumeric, Char.isAlphanum, halpha]

/-- An exponent is its mark, its sign and digits. -/
theorem numeric_exponentLength (t : Text) : Numeric t (exponentLength t) := by
  unfold exponentLength
  split
  case h_1 e sign rest =>
    split
    case isTrue he =>
      have hletter : isNumeric e = true := by
        rcases Bool.or_eq_true_iff.1 he with h | h <;> cases eq_of_beq h <;> rfl
      split
      case isTrue hsign =>
        have hsigned : isNumeric sign = true := by
          rcases Bool.or_eq_true_iff.1 hsign with h | h <;> cases eq_of_beq h <;> rfl
        have hrun := numeric_digitRun (fun _ => isNumeric_of_isDigit) rest
        split
        case h_1 => exact .zero
        case h_2 n hn => exact ((hn ▸ hrun).cons hsigned).cons hletter
      case isFalse =>
        have hrun := numeric_digitRun (fun _ => isNumeric_of_isDigit) (sign :: rest)
        split
        case h_1 => exact .zero
        case h_2 n hn => exact (hn ▸ hrun).cons hletter
    case isFalse => exact .zero
  case h_2 => exact .zero

/-- A number with a base is a zero, the letter of the base and digits. -/
theorem numeric_basedLength (t : Text) : Numeric t (basedLength t) := by
  unfold basedLength
  split
  case h_1 b rest =>
    extract_lets run
    have hletter {x y : Char} (h : (b == x || b == y) = true) (hx : isNumeric x = true)
        (hy : isNumeric y = true) : isNumeric b = true := by
      rcases Bool.or_eq_true_iff.1 h with h | h <;> cases eq_of_beq h <;> assumption
    have hrun : run = 0 ∨ isNumeric b = true ∧ Numeric rest run := by
      unfold run
      split
      case isTrue h =>
        exact .inr ⟨hletter h rfl rfl, numeric_digitRun (fun _ => isNumeric_of_isHex) rest⟩
      case isFalse =>
        split
        case isTrue h =>
          refine .inr ⟨hletter h rfl rfl, numeric_digitRun (fun d hd => ?_) rest⟩
          refine isNumeric_of_isDigit ?_
          simp only [Char.isDigit, Bool.and_eq_true, decide_eq_true_eq] at hd ⊢
          exact ⟨hd.1, Char.le_trans hd.2 (by decide)⟩
        case isFalse =>
          split
          case isTrue h =>
            refine .inr ⟨hletter h rfl rfl, numeric_digitRun (fun d hd => ?_) rest⟩
            rcases Bool.or_eq_true_iff.1 hd with h | h <;> cases eq_of_beq h <;> rfl
          case isFalse => exact .inl rfl
    split
    case isTrue => exact .zero
    case isFalse hne =>
      obtain ⟨hb, hrun⟩ := hrun.resolve_left hne
      exact (hrun.cons hb).cons rfl
  case h_2 => exact .zero

/-- The mark of a big number may stand in one. -/
theorem numeric_withBigMark {t : Text} {n : Nat} (h : Numeric t n) :
    Numeric t (withBigMark n t) := by
  unfold withBigMark
  split
  case isTrue hmark =>
    refine h.add ?_
    cases hrest : t.drop n with
    | nil => exact fun d hd => by simp at hd
    | cons d rest =>
        have hd : d = 'n' := by simpa [hrest] using hmark.2
        rw [hd]
        exact Numeric.zero.cons rfl
  case isFalse => exact h

/-- A decimal number is digits, a point and digits, and an exponent. -/
theorem numeric_decimalLength (t : Text) : Numeric t (decimalLength t) := by
  have hdigits (t : Text) : Numeric t (digitRun Char.isDigit t) :=
    numeric_digitRun (fun _ => isNumeric_of_isDigit) t
  unfold decimalLength
  split
  case h_1 rest =>
    dsimp only
    split
    case isTrue => exact .zero
    case isFalse => exact ((hdigits rest).cons rfl).add (numeric_exponentLength _)
  case h_2 =>
    dsimp only
    split
    case isTrue => exact .zero
    case isFalse =>
      split
      case h_1 rest hdrop =>
        refine Numeric.add ?_ (numeric_exponentLength _)
        rw [Nat.add_assoc]
        refine (hdigits t).add ?_
        rw [hdrop, Nat.add_comm]
        exact (hdigits rest).cons rfl
      case h_2 =>
        have hexponent := numeric_exponentLength (t.drop (digitRun Char.isDigit t))
        split
        case h_1 => exact numeric_withBigMark (hdigits t)
        case h_2 n hn => exact (hdigits t).add hexponent

theorem numeric_numberLength (t : Text) : Numeric t (numberLength t) := by
  have hbased := numeric_basedLength t
  unfold numberLength
  split
  case h_1 => exact numeric_decimalLength t
  case h_2 => exact numeric_withBigMark hbased

-- ============================================================== lexemes

/-- The characters of a symbol that does not begin with a slash. -/
theorem isPlain_of_plain {s : Text} (hs : Plain s) (hslash : s.head? ≠ some '/') :
    ∀ d ∈ s, isPlain d = true := by
  have hplain := hs.plain
  rw [Bool.and_eq_true, Bool.and_eq_true, List.all_eq_true] at hplain
  obtain ⟨⟨-, hmarks⟩, htail⟩ := hplain
  intro d hd
  have hne : d ≠ '/' := by
    cases s with
    | nil => cases hd
    | cons e s =>
        rintro rfl
        rcases List.mem_cons.1 hd with rfl | hd
        · exact hslash rfl
        · simp [hd] at htail
  unfold isPlain
  rw [hmarks d hd, Bool.true_and]
  exact bne_iff_ne.2 hne

/-- Every lexeme of an exposed text is passed where no slash comes next. -/
theorem passes_lexeme (h : exposed .code t = true) (hslash : t.head? ≠ some '/')
    (hn : Lexeme t n) : Passes t n := by
  -- names, numbers and symbols are plain; only a string has quotes in it, and a pattern would open
  -- with a slash
  cases hn with
  | none => exact .zero h
  | name =>
      refine passes_plain h ?_
      rw [List.length_take, ← List.take_eq_take_min]
      exact plain_nameLength h
  | privateName => exact passes_plain h (plain_privateLength h)
  | number => exact passes_plain h fun d hd => isPlain_of_isNumeric (numeric_numberLength t d hd)
  | string hn =>
      cases t with
      | nil => cases hn
      | cons quote t =>
          rw [stringLength] at hn
          split at hn
          case isTrue heq =>
            have hquote : isQuote quote = true := by rcases heq with rfl | rfl <;> rfl
            obtain ⟨m, hm, rfl⟩ := Option.map_eq_some_iff.1 hn
            obtain ⟨p, hp, hopen⟩ := exposed_cons h
            rw [Place.after, if_pos hquote] at hp
            cases hp
            exact (passes_stringTail hquote (.zero hopen) hm).cons (isBrace_of_isQuote hquote)
          case isFalse => cases hn
  | pattern hn =>
      unfold patternLength at hn
      split at hn
      case h_1 => exact absurd rfl hslash
      case h_2 => cases hn
  | @symbol s hs hprefix =>
      obtain ⟨rest, rfl⟩ := List.isPrefixOf_iff_prefix.1 hprefix
      refine passes_plain h ?_
      rw [List.take_left]
      refine isPlain_of_plain hs fun hhead => hslash ?_
      rw [List.head?_append, hhead]
      rfl

end TypeShape.Source
