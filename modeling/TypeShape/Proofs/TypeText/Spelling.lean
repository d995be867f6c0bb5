/-
How types are written: a name or an inline object, list suffixes after it, and blanks
around it.

A name is taken apart by none of the marks of the type language, and an inline object
ends at the brace that closes its first one. Written so, every scan finds exactly the
parts that the type was put together from.
-/
import TypeShape.Proofs.Text.Scan
import TypeShape.Resolve.Base
import TypeShape.Resolve.Plan

namespace TypeShape

-- ============================================================= trimming

/-- Nothing but blanks. -/
def Blanks (t : Text) : Prop :=
  ∀ c ∈ t, isBlank c = true

/-- A text that neither starts nor ends with a blank. -/
structure Solid (t : Text) : Prop where
  first : ∀ c ∈ t.head?, isBlank c = false
  last : ∀ c ∈ t.getLast?, isBlank c = false

/-- A text that does not start with a blank stays as it is on the left. -/
theorem dropWhile_isBlank_of_first {t : Text} (h : ∀ c ∈ t.head?, isBlank c = false) :
    t.dropWhile isBlank = t := by
  cases t with
  | nil => rfl
  | cons c rest => rw [List.dropWhile_cons_of_neg (by simp [h c rfl])]

/-- The first character of a text that is not empty stays the first. -/
theorem head?_append_of_ne_nil {t : Text} (hne : t ≠ []) (r : Text) :
    (t ++ r).head? = t.head? := by
  cases t with
  | nil => exact absurd rfl hne
  | cons c rest => rfl

/-- Trimming takes away the blanks around a text, and no more. -/
theorem trim_between {l t r : Text} (hl : Blanks l) (ht : Solid t) (hr : Blanks r) :
    Text.trim (l ++ t ++ r) = t := by
  by_cases hempty : t = []
  case pos =>
    subst hempty
    rw [List.append_nil]
    exact trim_eq_nil_iff.2 fun c hc => (List.mem_append.1 hc).elim (hl c) (hr c)
  case neg =>
    have hleft : Text.trimLeft (l ++ t ++ r) = t ++ r := by
      rw [Text.trimLeft, List.append_assoc, List.dropWhile_append_of_pos hl]
      refine dropWhile_isBlank_of_first fun c hc => ht.first c ?_
      rwa [head?_append_of_ne_nil hempty] at hc
    rw [Text.trim, hleft, Text.trimRight, List.reverse_append, List.dropWhile_append_of_pos,
      dropWhile_isBlank_of_first, List.reverse_reverse]
    · intro c hc
      rw [List.head?_reverse] at hc
      exact ht.last c hc
    · exact fun c hc => hr c (List.mem_reverse.1 hc)

/-- A text that does not end with a blank stays as it is on the right. -/
theorem trimRight_solid {t : Text} (ht : Solid t) : Text.trimRight t = t := by
  rw [Text.trimRight, dropWhile_isBlank_of_first, List.reverse_reverse]
  intro c hc
  rw [List.head?_reverse] at hc
  exact ht.last c hc

/-- A solid text stays as it is. -/
theorem trim_solid {t : Text} (ht : Solid t) : Text.trim t = t := by
  rw [Text.trim, Text.trimLeft, dropWhile_isBlank_of_first ht.first, trimRight_solid ht]

-- ========================================================= list suffixes

namespace TypeText

/-- So many list suffixes. -/
def suffixes : Nat → Text
  | 0 => []
  | n + 1 => '[' :: ']' :: suffixes n

/-- Another suffix may as well stand at the end. -/
theorem suffixes_succ (n : Nat) : suffixes (n + 1) = suffixes n ++ listSuffix := by
  induction n with
  | zero => rfl
  | succ n ih =>
      show '[' :: ']' :: suffixes (n + 1) = '[' :: ']' :: suffixes n ++ listSuffix
      rw [ih]
      rfl

/-- All suffixes are taken. -/
theorem takeSuffixes_suffixes (n : Nat) : takeSuffixes (suffixes n) = (suffixes n, []) := by
  induction n with
  | zero => rfl
  | succ n ih => rw [suffixes, takeSuffixes, ih]

/-- Suffixes end a solid text as one. -/
theorem solid_append_suffixes {t : Text} (ht : Solid t) (hne : t ≠ []) (n : Nat) :
    Solid (t ++ suffixes n) := by
  cases n with
  | zero => rwa [suffixes, List.append_nil]
  | succ n =>
      refine ⟨fun c hc => ht.first c ?_, fun c hc => ?_⟩
      · rwa [head?_append_of_ne_nil hne] at hc
      · rw [suffixes_succ, ← List.append_assoc, List.getLast?_append] at hc
        cases hc
        rfl

end TypeText

/-- All suffixes are dropped, if nothing before them ends like one. -/
theorem dropListSuffixes_append {t : Text} (ht : t.getLast? ≠ some ']') (n : Nat) :
    dropListSuffixes (t ++ TypeText.suffixes n) = (n, t) := by
  have hreversed : dropSuffixesReversed (t ++ TypeText.suffixes n).reverse = (n, t.reverse) := by
    induction n with
    | zero =>
        rw [TypeText.suffixes, List.append_nil]
        unfold dropSuffixesReversed
        split
        case h_1 rest hreverse =>
          rw [← List.head?_reverse, hreverse] at ht
          exact absurd rfl ht
        case h_2 => rfl
    | succ n ih =>
        rw [TypeText.suffixes_succ, ← List.append_assoc, List.reverse_append]
        show ((dropSuffixesReversed (t ++ TypeText.suffixes n).reverse).1 + 1,
          (dropSuffixesReversed (t ++ TypeText.suffixes n).reverse).2) = _
        rw [ih]
  unfold dropListSuffixes
  rw [hreversed]
  dsimp only
  rw [List.reverse_reverse]

-- ================================================================ names

/-- What takes types apart. -/
def typeMarks : List Char :=
  ['&', '<', '>', '=', '[', ']', '{', '}']

/-- A name that none of the marks takes apart. -/
structure PlainName (s : Text) : Prop extends Solid s where
  nonempty : s ≠ []
  plain : ∀ c ∈ s, c ∉ typeMarks

-- the marks are looked for by a test, since `∀ c ∈ s` may also be decided by running through
-- all characters that there are
instance (s : Text) : Decidable (PlainName s) :=
  decidable_of_iff (s.head?.all (!isBlank ·) = true ∧ s.getLast?.all (!isBlank ·) = true
      ∧ s ≠ [] ∧ s.all (!typeMarks.contains ·) = true) <| by
    simp only [Option.all_eq_true, List.all_eq_true, Bool.not_eq_true',
      List.contains_eq_mem, decide_eq_false_iff_not]
    exact ⟨fun h => ⟨⟨h.1, h.2.1⟩, h.2.2.1, h.2.2.2⟩,
      fun h => ⟨h.first, h.last, h.nonempty, h.plain⟩⟩

theorem PlainName.notMem {s : Text} (hs : PlainName s) {mark : Char} (hmark : mark ∈ typeMarks) :
    mark ∉ s :=
  fun h => hs.plain mark h hmark

/-- Nothing is found whose first character is missing. -/
theorem indexOf?_eq_none {mark : Char} {needle t : Text} (h : mark ∉ t) :
    Text.indexOf? (mark :: needle) t = none := by
  induction t with
  | nil => rfl
  | cons c rest ih =>
      obtain ⟨hc, hrest⟩ := not_or.1 (mt List.mem_cons.2 h)
      unfold Text.indexOf?
      rw [if_neg (by simp [List.isPrefixOf, hc]), ih hrest]
      rfl

/-- Without an opening brace there is no artifact to remove. -/
theorem strip_of_notMem {t : Text} (h : '{' ∉ t) : TypeText.strip t = t := by
  have hfrom (artifact : Text) (rounds start : Nat) :
      TypeText.stripFrom ('{' :: artifact) rounds start t = t := by
    cases rounds with
    | zero => rfl
    | succ rounds =>
        have hnone : t.indexFrom? ('{' :: artifact) start = none := by
          rw [Text.indexFrom?, indexOf?_eq_none fun hmem => h (List.mem_of_mem_drop hmem)]
          rfl
        rw [TypeText.stripFrom, hnone]
  show TypeText.stripOne (TypeText.stripOne t _) _ = t
  rw [TypeText.stripOne, TypeText.stripOne]
  exact (congrArg (TypeText.stripFrom _ _ 0) (hfrom _ _ _)).trans (hfrom _ _ _)

namespace TypeText

/-- A chain without separators is its base. -/
theorem Chain.read_of_notMem {t : Text} (ht : Solid t) (hbrace : '{' ∉ t)
    (hmark : separator ∉ t) : Chain.read t = ⟨t, []⟩ := by
  rw [Chain.read, strip_of_notMem hbrace, pieces_of_notMem hmark, List.map_cons, List.map_nil,
    trim_solid ht]

/-- A name without parameters is looked up as it is. -/
theorem Applied.read_of_notMem {t : Text} (h : '<' ∉ t) : Applied.read t = ⟨t, []⟩ := by
  rw [Applied.read, cut?_of_notMem h]

/-- What follows a group of parameters is dropped. -/
theorem Applied.read_group {name inner after : Text} {first : Char} (hne : name ≠ [])
    (hname : '<' ∉ name) (hinner : '>' ∉ inner) :
    Applied.read (name ++ '<' :: first :: inner ++ '>' :: after)
      = ⟨name ++ "<>", (Text.pieces ',' (first :: inner)).map Text.trim⟩ := by
  cases name with
  | nil => exact absurd rfl hne
  | cons b base =>
      have hopen : Text.cut? '<' (b :: base ++ (('<' :: first :: inner) ++ '>' :: after))
          = some (b :: base, first :: (inner ++ '>' :: after)) := cut?_append hname _
      rw [Applied.read, List.append_assoc, hopen]
      dsimp only
      rw [cut?_append hinner]

/-- The marks of the suffixes are brackets. -/
theorem mem_suffixes {n : Nat} {c : Char} (h : c ∈ suffixes n) : c = '[' ∨ c = ']' := by
  induction n with
  | zero => cases h
  | succ n ih =>
      rcases List.mem_cons.1 h with h | h
      · exact .inl h
      · rcases List.mem_cons.1 h with h | h
        · exact .inr h
        · exact ih h

/-- What stands neither in a name nor in suffixes does not stand in both together. -/
theorem notMem_append_suffixes {s : Text} (hs : PlainName s) (n : Nat) {mark : Char}
    (hmark : mark ∈ typeMarks) (hopen : mark ≠ '[') (hclose : mark ≠ ']') :
    mark ∉ s ++ suffixes n := by
  intro h
  rcases List.mem_append.1 h with h | h
  · exact hs.notMem hmark h
  · rcases mem_suffixes h with h | h
    · exact hopen h
    · exact hclose h

end TypeText

/-- From a text that opens with neither a brace nor a bracket nothing is split off. -/
theorem splitObject?_of_first {t : Text} (h : ∀ c ∈ t.head?, c ≠ '{' ∧ c ≠ '[') :
    TypeText.splitObject? t = none := by
  unfold TypeText.splitObject?
  split
  case h_1 => exact absurd rfl (h _ rfl).1
  case h_2 => exact absurd rfl (h _ rfl).2
  case h_3 => rfl

/-- Nor is anything where a bracket is not followed by a brace. -/
theorem splitObject?_of_bracket {t : Text} (h : t.head? ≠ some '{') :
    TypeText.splitObject? ('[' :: t) = none := by
  unfold TypeText.splitObject?
  split
  case h_1 heq => cases heq
  case h_2 heq =>
    cases heq
    exact absurd rfl h
  case h_3 => rfl

/-- A text that opens with neither a brace nor a bracket is no inline object. -/
theorem inlineObject?_of_first {t : Text} (h : ∀ c ∈ t.head?, c ≠ '{' ∧ c ≠ '[') :
    Plan.inlineObject? t = none := by
  unfold Plan.inlineObject?
  rw [splitObject?_of_first h]
  rfl

/-- A name does not open like an inline object, whatever follows it. -/
theorem inlineObject?_name {s : Text} (hs : PlainName s) (after : Text) :
    Plan.inlineObject? (s ++ after) = none := by
  refine inlineObject?_of_first fun c hc => ?_
  rw [head?_append_of_ne_nil hs.nonempty] at hc
  have hmem := List.mem_of_head? hc
  exact ⟨fun h => hs.plain c hmem (by simp [h, typeMarks]),
    fun h => hs.plain c hmem (by simp [h, typeMarks])⟩

namespace Registry

variable {r : Registry} {s : Text}

/-- A name that no type is registered under means a built-in type or a declaration. -/
theorem resolveSingle_name (hs : PlainName s) (htypes : r.types.find? s = none) :
    r.resolveSingle s = match Schema.builtIn? s, r.interfaces.find? s with
      | some b, _ => pure b
      | none, some target => pure (.reference s target)
      | none, none => .ofResult (.error (.unresolvable s)) := by
  have harrow : Text.includes s arrow = false := by
    rw [Text.includes, show arrow = '=' :: ['>'] from rfl,
      indexOf?_eq_none (hs.notMem (by decide))]
    rfl
  unfold resolveSingle resolveNamed
  rw [harrow, if_neg (by simp), TypeText.Applied.read_of_notMem (hs.notMem (by decide))]
  dsimp only
  rw [htypes]
  cases Schema.builtIn? s with
  | some b => cases r.interfaces.find? s <;> rfl
  | none => cases r.interfaces.find? s <;> rfl

/-- A name with suffixes means lists of what the name means. -/
theorem resolveExpression_name (hs : PlainName s) (n : Nat) {schema : Schema}
    (h : r.resolveSingle s = pure schema) :
    r.resolveExpression (s ++ TypeText.suffixes n) = pure (schema.nested n) := by
  have hchain : TypeText.Chain.read (s ++ TypeText.suffixes n)
      = ⟨s ++ TypeText.suffixes n, []⟩ :=
    TypeText.Chain.read_of_notMem (TypeText.solid_append_suffixes hs.toSolid hs.nonempty n)
      (TypeText.notMem_append_suffixes hs n (by decide) (by decide) (by decide))
      (TypeText.notMem_append_suffixes hs n (by decide) (by decide) (by decide))
  have hlast : s.getLast? ≠ some ']' := fun h => hs.notMem (by decide) (List.mem_of_getLast? h)
  unfold resolveExpression resolveBase
  rw [hchain]
  dsimp only
  rw [dropListSuffixes_append hlast]
  dsimp only
  rw [h]
  rfl

end Registry

-- ======================================================= inline objects

/-- One inline object: the brace that opens the text is closed at its end, and not
before. -/
structure ObjectText (t : Text) : Prop where
  opened : t.head? = some '{'
  inside : ∀ n < t.length, 0 < n → (t.take n).count '}' < (t.take n).count '{'
  closed : t.count '}' = t.count '{'

/-- What is open after a character is what was open before it, and what the character adds. -/
theorem openAfter_count {depth : Nat} {c : Char} (hend : ¬(c = '}' ∧ depth ≤ 1)) (t : Text) :
    (if c = '{' then depth + 1 else if c = '}' then depth - 1 else depth) + (c :: t).count '}'
        + t.count '{' = depth + t.count '}' + (c :: t).count '{' := by
  rw [List.count_cons, List.count_cons]
  by_cases hopen : c = '{'
  · simp [hopen]
    omega
  · by_cases hclose : c = '}'
    · have hdeep : 1 < depth := Nat.lt_of_not_le fun hle => hend ⟨hclose, hle⟩
      simp [hclose]
      omega
    · simp [hopen, hclose]

/-- Before the end of the scan a brace is open. -/
theorem openAfter_pos {depth : Nat} {c : Char} (hdepth : 0 < depth)
    (hend : ¬(c = '}' ∧ depth ≤ 1)) :
    0 < if c = '{' then depth + 1 else if c = '}' then depth - 1 else depth := by
  split
  · exact Nat.succ_pos _
  · split
    case isTrue hclose =>
      exact Nat.sub_pos_of_lt (Nat.lt_of_not_le fun hle => hend ⟨hclose, hle⟩)
    case isFalse => exact hdepth

/-- The scan for the closing brace stops where as many braces are closed as were opened. -/
theorem closeBraces?_of_count {depth : Nat} {t : Text} (after : Text) (hdepth : 0 < depth)
    (hinside : ∀ before rest, before ++ rest = t → rest ≠ [] →
      before.count '}' < depth + before.count '{')
    (hclosed : t.count '}' = depth + t.count '{') :
    TypeText.closeBraces? depth (t ++ after) = some (t, after) := by
  induction t generalizing depth with
  | nil => simp at hclosed; omega
  | cons c rest ih =>
      rw [List.cons_append, TypeText.closeBraces?]
      by_cases hend : c = '}' ∧ depth ≤ 1
      · obtain ⟨rfl, hle⟩ := hend
        have hrest : rest = [] := by
          by_contra hne
          have h := hinside ['}'] rest rfl hne
          simp at h
          omega
        rw [if_pos ⟨rfl, hle⟩, hrest]
        rfl
      · have hcount := openAfter_count hend
        rw [if_neg hend]
        dsimp only
        rw [ih (openAfter_pos hdepth hend)]
        · rfl
        · intro before rest' heq hne
          have h := hinside (c :: before) rest' (by rw [List.cons_append, heq]) hne
          have hc := hcount before
          omega
        · have hc := hcount rest
          omega

/-- It does not stop anywhere else. -/
theorem count_of_closeBraces? {depth : Nat} {t inside after : Text} (hdepth : 0 < depth)
    (h : TypeText.closeBraces? depth t = some (inside, after)) :
    (∀ before rest, before ++ rest = inside → rest ≠ [] →
      before.count '}' < depth + before.count '{')
      ∧ inside.count '}' = depth + inside.count '{' := by
  -- the depth is one more after an opening brace and one less after a closing one, as the counts
  -- are
  induction t generalizing depth inside after with
  | nil => cases h
  | cons c t ih =>
      rw [TypeText.closeBraces?] at h
      by_cases hend : c = '}' ∧ depth ≤ 1
      · rw [if_pos hend] at h
        obtain ⟨rfl, hle⟩ := hend
        cases h
        refine ⟨fun before rest heq hne => ?_, by simp; omega⟩
        cases before with
        | nil => simpa using hdepth
        | cons b before =>
            have hnil := (List.cons.inj heq).2
            exact absurd (List.append_eq_nil_iff.1 hnil).2 hne
      · have hcount := openAfter_count hend
        rw [if_neg hend] at h
        obtain ⟨⟨inside, after⟩, hclose, heq⟩ := Option.map_eq_some_iff.1 h
        cases heq
        obtain ⟨hinside, hclosed⟩ := ih (openAfter_pos hdepth hend) hclose
        refine ⟨fun before rest heq hne => ?_, by have hc := hcount inside; omega⟩
        cases before with
        | nil => simpa using hdepth
        | cons b before =>
            cases heq
            have h := hinside before rest rfl hne
            have hc := hcount before
            omega

namespace ObjectText

variable {t : Text}

/-- What the scan takes is one inline object. -/
theorem of_closeBraces? {inside after : Text}
    (h : TypeText.closeBraces? 1 t = some (inside, after)) : ObjectText ('{' :: inside) := by
  obtain ⟨hinside, hclosed⟩ := count_of_closeBraces? Nat.one_pos h
  refine ⟨rfl, fun n hn hpos => ?_, ?_⟩
  · obtain ⟨m, rfl⟩ : ∃ m, n = m + 1 := ⟨n - 1, by omega⟩
    have hne : inside.drop m ≠ [] := by
      rw [List.length_cons] at hn
      rw [ne_eq, List.drop_eq_nil_iff]
      omega
    have h := hinside (inside.take m) (inside.drop m) (List.take_append_drop m inside) hne
    rw [List.take_succ_cons, List.count_cons_self, List.count_cons_of_ne (by decide)]
    omega
  · rw [List.count_cons_self, List.count_cons_of_ne (by decide)]
    omega

theorem ne_nil (ht : ObjectText t) : t ≠ [] := by
  rintro rfl
  cases ht.opened

/-- A beginning of the object leaves its first brace open. -/
theorem count_lt (ht : ObjectText t) {before after : Text} (heq : before ++ after = t)
    (hbefore : before ≠ []) (hafter : after ≠ []) : before.count '}' < before.count '{' := by
  subst heq
  have h := ht.inside before.length
    (by
      rw [List.length_append]
      exact Nat.lt_add_of_pos_right (List.length_pos_iff.2 hafter))
    (List.length_pos_iff.2 hbefore)
  rwa [List.take_left] at h

/-- The last character is the closing brace. -/
theorem getLast? (ht : ObjectText t) : t.getLast? = some '}' := by
  rcases List.eq_nil_or_concat t with rfl | ⟨before, c, rfl⟩
  · cases ht.opened
  · rw [List.concat_eq_append] at ht ⊢
    rw [List.getLast?_append]
    have hclosed := ht.closed
    rw [List.count_append, List.count_append] at hclosed
    have hc : c = '}' := by
      by_contra hne
      cases before with
      | nil =>
          cases ht.opened
          simp at hclosed
      | cons first rest =>
          have h : (first :: rest).count '}' < (first :: rest).count '{' :=
            ht.count_lt rfl (by simp) (by simp)
          have hnone : [c].count '}' = 0 := List.count_eq_zero.2 (by simpa using Ne.symm hne)
          omega
    rw [hc]
    rfl

theorem solid (ht : ObjectText t) : Solid t := by
  refine ⟨fun c hc => ?_, fun c hc => ?_⟩
  · rw [ht.opened] at hc
    cases hc
    rfl
  · rw [ht.getLast?] at hc
    cases hc
    rfl

/-- An inline object with list suffixes is split off as a whole. -/
theorem splitObject? (ht : ObjectText t) (n : Nat) :
    TypeText.splitObject? (t ++ TypeText.suffixes n) = some (t ++ TypeText.suffixes n, []) := by
  cases t with
  | nil => exact absurd rfl ht.ne_nil
  | cons c body =>
      cases ht.opened
      have hclose : TypeText.closeBraces? 1 (body ++ TypeText.suffixes n)
          = some (body, TypeText.suffixes n) := by
        refine closeBraces?_of_count _ Nat.one_pos (fun before rest heq hne => ?_) ?_
        · have h : ('{' :: before).count '}' < ('{' :: before).count '{' :=
            ht.count_lt (by rw [List.cons_append, heq]) (by simp) hne
          rw [List.count_cons_self, List.count_cons_of_ne (by decide)] at h
          omega
        · have h := ht.closed
          rw [List.count_cons_self, List.count_cons_of_ne (by decide)] at h
          omega
      show ((TypeText.closeBraces? 1 (body ++ TypeText.suffixes n)).bind fun found =>
        some ('{' :: found.1 ++ (TypeText.takeSuffixes found.2).1,
          (TypeText.takeSuffixes found.2).2)) = _
      rw [hclose, Option.bind_some]
      dsimp only
      rw [TypeText.takeSuffixes_suffixes]

/-- An inline object with list suffixes has no modifiers. -/
theorem inlineObject? (ht : ObjectText t) (n : Nat) :
    Plan.inlineObject? (t ++ TypeText.suffixes n) = some (t ++ TypeText.suffixes n, []) := by
  unfold Plan.inlineObject?
  rw [ht.splitObject? n]
  rfl

/-- There are fewer suffixes than characters. -/
theorem lt_length (ht : ObjectText t) (n : Nat) : n < (t ++ TypeText.suffixes n).length := by
  have hlength : n ≤ (TypeText.suffixes n).length := by
    induction n with
    | zero => exact Nat.zero_le _
    | succ n ih =>
        rw [TypeText.suffixes, List.length_cons, List.length_cons]
        omega
  have hpos := List.length_pos_iff.2 ht.ne_nil
  rw [List.length_append]
  omega

end ObjectText

end TypeShape
