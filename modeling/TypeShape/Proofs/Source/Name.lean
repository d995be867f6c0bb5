/-
The names of source text.

A name is a character that opens names, or an escaped one, and after it characters that go on a
name and escaped ones. What the lexer takes for a name is one (`exists_name`), and it takes one as
a whole and then whatever goes on it (`IsName.nameLength`). So a name stays a name when characters
of names are appended to it (`IsName.append`).
-/
import TypeShape.Proofs.Source.Gap

namespace TypeShape.Source

variable {t v w : Text}

-- =============================================================== grammar

/-- A character that is written as an escape. -/
inductive IsEscape : Text → Prop
  | braced {digits : Text} (nonempty : digits ≠ []) (hex : ∀ d ∈ digits, isHex d = true) :
      IsEscape ('\\' :: 'u' :: '{' :: (digits ++ ['}']))
  | plain {digits : Text} (four : digits.length = 4) (hex : ∀ d ∈ digits, isHex d = true) :
      IsEscape ('\\' :: 'u' :: digits)

/-- What goes on a name. -/
inductive GoesOn : Text → Prop
  | stop : GoesOn []
  | char {c : Char} {w : Text} (goesOn : isNameChar c = true) (rest : GoesOn w) : GoesOn (c :: w)
  | escape {e w : Text} (goesOn : IsEscape e) (rest : GoesOn w) : GoesOn (e ++ w)

/-- A name. -/
inductive IsName : Text → Prop
  | char {c : Char} {w : Text} (opens : isNameStart c = true) (rest : GoesOn w) : IsName (c :: w)
  | escape {e w : Text} (opens : IsEscape e) (rest : GoesOn w) : IsName (e ++ w)

-- =============================================================== escapes

theorem IsEscape.eq_cons {e : Text} (h : IsEscape e) : ∃ s, e = '\\' :: s := by
  cases h <;> exact ⟨_, rfl⟩

/-- An escape is measured to its end. -/
theorem IsEscape.nameEscape {e : Text} (h : IsEscape e) (v : Text) :
    nameEscape (e ++ v) = e.length := by
  cases h with
  | @braced digits hnonempty hhex =>
      have hdigits : (digits ++ '}' :: v).takeWhile isHex = digits := by
        rw [List.takeWhile_append_of_pos hhex, List.takeWhile_cons_of_neg (by decide),
          List.append_nil]
      simp [Source.nameEscape, hdigits, hnonempty]
  | @plain digits hfour hhex =>
      match digits, hfour with
      | [a, b, c, d], _ =>
          simp only [List.forall_mem_cons] at hhex
          obtain ⟨ha, hb, hc, hd, -⟩ := hhex
          have hbrace : a ≠ '{' := by
            rintro rfl
            cases ha
          show Source.nameEscape ('\\' :: 'u' :: a :: b :: c :: d :: v) = 6
          rw [Source.nameEscape.eq_2 a b c d v hbrace, ha, hb, hc, hd]
          rfl

/-- What is measured as an escape is one. -/
theorem exists_escape : nameEscape t ≠ 0 → ∃ e v, t = e ++ v ∧ IsEscape e := by
  fun_cases nameEscape t with
  | case1 rest digits hdigits =>
      intro
      simp only [Bool.and_eq_true, Bool.not_eq_true', List.isEmpty_eq_false_iff, beq_iff_eq,
        List.head?_eq_some_iff] at hdigits
      obtain ⟨hnonempty, v, hclose⟩ := hdigits
      have hhex : ∀ d ∈ digits, isHex d = true := List.all_eq_true.1 List.all_takeWhile
      have hrest : rest = digits ++ '}' :: v := by
        rw [← hclose]
        exact (List.prefix_iff_eq_append.1 (List.takeWhile_prefix isHex)).symm
      exact ⟨_, v, by rw [hrest]; simp, .braced hnonempty hhex⟩
  | case3 a b c d v hbrace hhex =>
      intro
      simp only [Bool.and_eq_true] at hhex
      obtain ⟨⟨⟨ha, hb⟩, hc⟩, hd⟩ := hhex
      exact ⟨'\\' :: 'u' :: [a, b, c, d], v, rfl, .plain rfl (by simp [ha, hb, hc, hd])⟩
  | case2 => exact absurd rfl
  | case4 => exact absurd rfl
  | case5 => exact absurd rfl

/-- The escape that opens a text, and what is left of the text after it. -/
theorem exists_escape_cons {c : Char} {rest : Text} {n : Nat}
    (h : nameEscape (c :: rest) = n + 1) :
    ∃ e, IsEscape e ∧ e.length = n + 1 ∧ n ≤ rest.length ∧ c :: rest = e ++ rest.drop n := by
  obtain ⟨e, v, heq, he⟩ := exists_escape (by rw [h]; exact Nat.succ_ne_zero n)
  have hlength : e.length = n + 1 := by rw [← he.nameEscape v, ← heq, h]
  have hdrop : rest.drop n = v := by
    rw [← List.drop_succ_cons, heq, List.drop_left' hlength]
  have hle := congrArg List.length heq
  rw [List.length_cons, List.length_append] at hle
  exact ⟨e, he, hlength, by omega, by rw [hdrop, heq]⟩

-- ============================================================= measuring

/-- What is measured already is passed. -/
theorem nameTail_skip (s v : Text) : nameTail s.length (s ++ v) = s.length + nameTail 0 v := by
  induction s with
  | nil => rw [List.nil_append, List.length_nil, Nat.zero_add]
  | cons c s ih =>
      show nameTail s.length (s ++ v) + 1 = _
      rw [ih, List.length_cons, Nat.add_right_comm]

/-- At an escape measuring goes on behind it. -/
theorem IsEscape.nameTail {e : Text} (h : IsEscape e) (v : Text) :
    nameTail 0 (e ++ v) = e.length + nameTail 0 v := by
  have hmeasured := h.nameEscape v
  obtain ⟨s, rfl⟩ := h.eq_cons
  rw [List.cons_append] at hmeasured ⊢
  rw [Source.nameTail, if_neg (by decide), hmeasured]
  show Source.nameTail s.length (s ++ v) + 1 = _
  rw [nameTail_skip, List.length_cons, Nat.add_right_comm]

theorem IsEscape.nameLength {e : Text} (h : IsEscape e) (v : Text) :
    nameLength (e ++ v) = e.length + Source.nameTail 0 v := by
  have hmeasured := h.nameEscape v
  rw [← h.nameTail]
  obtain ⟨s, rfl⟩ := h.eq_cons
  rw [List.cons_append] at hmeasured ⊢
  rw [Source.nameTail, Source.nameLength, if_neg (by decide), if_neg (by decide)]

/-- What goes on a name is measured as a whole, and then what goes on it. -/
theorem GoesOn.nameTail (h : GoesOn w) (v : Text) :
    nameTail 0 (w ++ v) = w.length + nameTail 0 v := by
  induction h with
  | stop => rw [List.nil_append, List.length_nil, Nat.zero_add]
  | char hc _ ih =>
      rw [List.cons_append, Source.nameTail, if_pos hc, ih, List.length_cons, Nat.add_right_comm]
  | escape he _ ih => rw [List.append_assoc, he.nameTail, ih, List.length_append, Nat.add_assoc]

/-- So is a name. -/
theorem IsName.nameLength (h : IsName w) (v : Text) :
    nameLength (w ++ v) = w.length + nameTail 0 v := by
  cases h with
  | char hc hrest =>
      rw [List.cons_append, Source.nameLength, if_pos hc, hrest.nameTail, List.length_cons,
        Nat.add_right_comm]
  | escape he hrest =>
      rw [List.append_assoc, he.nameLength, hrest.nameTail, List.length_append, Nat.add_assoc]

/-- What is measured goes on a name. -/
theorem exists_goesOn {skip : Nat} (hskip : skip ≤ t.length) :
    ∃ w v, t.drop skip = w ++ v ∧ GoesOn w ∧ nameTail skip t = skip + w.length := by
  fun_induction nameTail skip t with
  | case1 skip =>
      obtain rfl := Nat.le_zero.1 hskip
      exact ⟨[], [], rfl, .stop, rfl⟩
  | case2 c rest more ih =>
      obtain ⟨w, v, hrest, hw, hlength⟩ := ih (Nat.le_of_succ_le_succ hskip)
      exact ⟨w, v, hrest, hw, by omega⟩
  | case3 c rest hc ih =>
      obtain ⟨w, v, hrest, hw, hlength⟩ := ih (Nat.zero_le _)
      refine ⟨c :: w, v, congrArg (c :: ·) hrest, .char hc hw, ?_⟩
      rw [hlength, List.length_cons, Nat.add_assoc]
  | case4 c rest => exact ⟨[], c :: rest, rfl, .stop, rfl⟩
  | case5 c rest _ n hescape ih =>
      obtain ⟨e, he, hlength, hn, heq⟩ := exists_escape_cons hescape
      obtain ⟨w, v, hrest, hw, htail⟩ := ih hn
      refine ⟨e ++ w, v, ?_, .escape he hw, ?_⟩
      · rw [List.append_assoc, ← hrest, ← heq, List.drop_zero]
      · rw [htail, List.length_append, hlength]
        omega

/-- What is measured as a name is one. -/
theorem exists_name : nameLength t ≠ 0 →
    ∃ w v, t = w ++ v ∧ IsName w ∧ nameLength t = w.length := by
  fun_cases nameLength t with
  | case1 => exact absurd rfl
  | case2 c rest hc =>
      intro
      obtain ⟨w, v, hrest, hw, hlength⟩ := exists_goesOn (Nat.zero_le rest.length)
      refine ⟨c :: w, v, congrArg (c :: ·) hrest, .char hc hw, ?_⟩
      rw [hlength, List.length_cons, Nat.zero_add]
  | case3 => exact absurd rfl
  | case4 c rest _ n hescape =>
      intro
      obtain ⟨e, he, hlength, hn, heq⟩ := exists_escape_cons hescape
      obtain ⟨w, v, hrest, hw, htail⟩ := exists_goesOn hn
      refine ⟨e ++ w, v, ?_, .escape he hw, ?_⟩
      · rw [List.append_assoc, ← hrest, ← heq]
      · rw [htail, List.length_append, hlength]
        omega

-- ================================================================= names

/-- All characters of names go on a name. -/
theorem goesOn_of_forall (h : ∀ c ∈ w, isNameChar c = true) : GoesOn w := by
  induction w with
  | nil => exact .stop
  | cons c w ih =>
      obtain ⟨hc, hw⟩ := List.forall_mem_cons.1 h
      exact .char hc (ih hw)

theorem GoesOn.append (h : GoesOn w) (hv : GoesOn v) : GoesOn (w ++ v) := by
  induction h with
  | stop => exact hv
  | char hc _ ih => exact .char hc ih
  | escape he _ ih =>
      rw [List.append_assoc]
      exact .escape he ih

/-- A name stays one with more characters of names. -/
theorem IsName.append (h : IsName w) (hv : ∀ c ∈ v, isNameChar c = true) : IsName (w ++ v) := by
  cases h with
  | char hc hrest => exact .char hc (hrest.append (goesOn_of_forall hv))
  | escape he hrest =>
      rw [List.append_assoc]
      exact .escape he (hrest.append (goesOn_of_forall hv))

/-- What opens a name could go on one. -/
theorem IsName.goesOn (h : IsName w) : GoesOn w := by
  cases h with
  | char hc hrest => exact .char (Bool.and_eq_true_iff.1 hc).1 hrest
  | escape he hrest => exact .escape he hrest

/-- A name is not empty. -/
theorem IsName.ne_nil (h : IsName w) : w ≠ [] := by
  cases h with
  | char => exact List.cons_ne_nil _ _
  | escape he =>
      obtain ⟨s, rfl⟩ := he.eq_cons
      exact List.cons_ne_nil _ _

theorem isSpace_of_isNameStart {d : Char} (hd : isNameStart d = true) : isSpace d = false := by
  simp only [isNameStart, isNameChar, Bool.and_eq_true, Bool.not_eq_true'] at hd
  exact hd.1.1.2

theorem ne_slash_of_isNameStart {d : Char} (hd : isNameStart d = true) : d ≠ '/' := by
  rintro rfl
  cases hd

/-- Nothing is skipped before a name. -/
theorem ahead_isNameStart {d : Char} (hd : isNameStart d = true) (u : Text) :
    ahead (d :: u) = d :: u :=
  ahead_cons (isSpace_of_isNameStart hd) (ne_slash_of_isNameStart hd) u

theorem IsName.ahead (h : IsName w) (v : Text) : ahead (w ++ v) = w ++ v := by
  cases h with
  | char hc => exact ahead_isNameStart hc _
  | escape he =>
      obtain ⟨s, rfl⟩ := he.eq_cons
      exact ahead_cons (by decide) (by decide) _

theorem IsEscape.notMem_break {e : Text} (h : IsEscape e) : '\n' ∉ e := by
  have hdigits {digits : Text} (hex : ∀ d ∈ digits, isHex d = true) : '\n' ∉ digits :=
    fun hmem => absurd (hex _ hmem) (by decide)
  cases h with
  | braced _ hex => simp [hdigits hex]
  | plain _ hex => simp [hdigits hex]

theorem GoesOn.notMem_break (h : GoesOn w) : '\n' ∉ w := by
  induction h with
  | stop => exact List.not_mem_nil
  | char hc _ ih =>
      refine List.not_mem_cons_of_ne_of_not_mem ?_ ih
      rintro rfl
      cases hc
  | escape he _ ih => exact fun hmem => (List.mem_append.1 hmem).elim he.notMem_break ih

/-- A name does not break a line. -/
theorem IsName.notMem_break (h : IsName w) : '\n' ∉ w :=
  h.goesOn.notMem_break

end TypeShape.Source
