/-
What occurs in a type text, and where.

A search finds exactly what occurs, and a text that is put together around a character can
hold a word without that character only in one of its halves. So what does not occur in the
parts of a type occurs in none of the texts that the scans cut out of it.
-/
import TypeShape.Proofs.Resolve.Depth
import TypeShape.Proofs.TypeText.Spelling

namespace TypeShape

-- ============================================================ searching

/-- A search finds exactly what occurs. -/
theorem includes_iff {t needle : Text} : Text.includes t needle = true ↔ needle <:+: t := by
  unfold Text.includes
  induction t with
  | nil =>
      unfold Text.indexOf?
      cases needle <;> simp
  | cons c rest ih =>
      unfold Text.indexOf?
      rw [List.infix_cons_iff, ← ih, ← List.isPrefixOf_iff_prefix]
      by_cases h : needle.isPrefixOf (c :: rest) = true
      · simp [h]
      · simp [h]

/-- Before a character that it does not hold, a word ends. -/
theorem prefix_append_cons {needle before after : Text} {c : Char} (hc : c ∉ needle)
    (h : needle <+: before ++ c :: after) : needle <+: before := by
  rcases List.prefix_or_prefix_of_prefix h (List.prefix_append before _) with h' | ⟨more, rfl⟩
  · exact h'
  · have hmore : more <+: c :: after := (List.prefix_append_right_inj before).1 h
    cases more with
    | nil => simp
    | cons d more =>
        obtain ⟨rfl, -⟩ := List.cons_prefix_cons.1 hmore
        exact absurd (List.mem_append_right before List.mem_cons_self) hc

/-- Around a character that it does not hold, a word occurs in one of the halves. -/
theorem infix_append_cons {needle before after : Text} {c : Char} (hc : c ∉ needle) :
    needle <:+: before ++ c :: after ↔ needle <:+: before ∨ needle <:+: after := by
  constructor
  · intro h
    induction before with
    | nil =>
        rcases List.infix_cons_iff.1 h with h | h
        · exact .inl (@prefix_append_cons needle [] after c hc h).isInfix
        · exact .inr h
    | cons d before ih =>
        rcases List.infix_cons_iff.1 h with h | h
        · exact .inl (@prefix_append_cons needle (d :: before) after c hc h).isInfix
        · rcases ih h with h | h
          · exact .inl (List.infix_cons h)
          · exact .inr h
  · rintro (h | h)
    · exact h.trans (List.prefix_append ..).isInfix
    · exact h.trans ((List.suffix_cons ..).trans (List.suffix_append ..)).isInfix

-- ======================================================== list suffixes

/-- A type is what is left of it and its list suffixes. -/
theorem append_suffixes (t : Text) :
    (dropListSuffixes t).2 ++ TypeText.suffixes (dropListSuffixes t).1 = t := by
  have hreversed (u : Text) : (dropSuffixesReversed u).2.reverse
      ++ TypeText.suffixes (dropSuffixesReversed u).1 = u.reverse := by
    fun_induction dropSuffixesReversed u with
    | case1 rest n base hdrop ih =>
        rw [hdrop] at ih
        rw [TypeText.suffixes_succ, ← List.append_assoc, ih]
        simp [TypeText.listSuffix]
    | case2 u => exact List.append_nil _
  have h := hreversed t.reverse
  rw [List.reverse_reverse] at h
  exact h

/-- What is left of a type begins it. -/
theorem base_isPrefix (t : Text) : (dropListSuffixes t).2 <+: t :=
  ⟨_, append_suffixes t⟩

/-- Past a character that is no bracket no suffix is taken off. -/
theorem dropListSuffixes_append_cons {before after : Text} {c : Char} (hopen : c ≠ '[')
    (hclose : c ≠ ']') : dropListSuffixes (before ++ c :: after)
      = ((dropListSuffixes after).1, before ++ c :: (dropListSuffixes after).2) := by
  have hreversed (u w : Text) : dropSuffixesReversed (u ++ c :: w)
      = ((dropSuffixesReversed u).1, (dropSuffixesReversed u).2 ++ c :: w) := by
    fun_induction dropSuffixesReversed u with
    | case1 rest n base hdrop ih =>
        rw [List.cons_append, List.cons_append, dropSuffixesReversed, ih, hdrop]
    | case2 u hnone =>
        unfold dropSuffixesReversed
        split
        case h_1 rest heq =>
          -- the character would have to be one of the brackets
          match u with
          | [] => exact absurd (List.cons.inj heq).1 hclose
          | [_] => exact absurd (List.cons.inj (List.cons.inj heq).2).1 hopen
          | _ :: _ :: u =>
              obtain ⟨rfl, h⟩ := List.cons.inj heq
              obtain ⟨rfl, -⟩ := List.cons.inj h
              exact absurd rfl (hnone u)
        case h_2 => rfl
  unfold dropListSuffixes
  rw [List.reverse_append, List.reverse_cons, List.append_assoc]
  show ((dropSuffixesReversed (after.reverse ++ c :: before.reverse)).1,
    (dropSuffixesReversed (after.reverse ++ c :: before.reverse)).2.reverse) = _
  rw [hreversed]
  simp

/-- A type has no list suffix exactly when it does not end in one. -/
theorem dropListSuffixes_eq_zero_iff {t : Text} :
    (dropListSuffixes t).1 = 0 ↔ ¬ TypeText.listSuffix <:+ t := by
  constructor
  · rintro h ⟨before, rfl⟩
    have hreverse : (before ++ TypeText.listSuffix).reverse = ']' :: '[' :: before.reverse := by
      simp [TypeText.listSuffix]
    unfold dropListSuffixes at h
    rw [hreverse, dropSuffixesReversed] at h
    cases h
  · intro h
    have happend := append_suffixes t
    cases hn : (dropListSuffixes t).1 with
    | zero => rfl
    | succ n =>
        rw [hn, TypeText.suffixes_succ, ← List.append_assoc] at happend
        exact absurd ⟨_, happend⟩ h

-- ============================================================= trimming

/-- Around a character that is no blank each half is trimmed by itself. -/
theorem trim_append_cons {before after : Text} {c : Char} (hc : isBlank c = false) :
    Text.trim (before ++ c :: after) = Text.trimLeft before ++ c :: Text.trimRight after := by
  have keep {u w : Text} : (u ++ c :: w).dropWhile isBlank = u.dropWhile isBlank ++ c :: w := by
    rw [List.dropWhile_append, List.dropWhile_cons_of_neg (by simp [hc])]
    by_cases h : (u.dropWhile isBlank).isEmpty = true
    · rw [if_pos h, List.isEmpty_iff.1 h, List.nil_append]
    · rw [if_neg h]
  unfold Text.trim Text.trimLeft Text.trimRight
  rw [keep, List.reverse_append, List.reverse_cons, List.append_assoc]
  show ((after.reverse ++ c :: _).dropWhile isBlank).reverse = _
  rw [keep]
  simp

/-- A blank at the start changes none of the suffixes at the end. -/
theorem suffixes_blank_cons {t : Text} {c : Char} (hc : isBlank c = true) :
    (dropListSuffixes (Text.trimRight (c :: t))).1 = (dropListSuffixes (Text.trimRight t)).1 := by
  unfold Text.trimRight
  rw [List.reverse_cons, List.dropWhile_append]
  by_cases h : (t.reverse.dropWhile isBlank).isEmpty = true
  · rw [if_pos h, List.isEmpty_iff.1 h, List.dropWhile_cons_of_pos hc]
    rfl
  · have hopen : c ≠ '[' := by
      rintro rfl
      exact absurd hc (by decide)
    have hclose : c ≠ ']' := by
      rintro rfl
      exact absurd hc (by decide)
    rw [if_neg h, List.reverse_append, List.reverse_singleton]
    show (dropListSuffixes ([] ++ c :: (t.reverse.dropWhile isBlank).reverse)).1 = _
    rw [dropListSuffixes_append_cons hopen hclose]

/-- What is left after trimming is solid. -/
theorem solid_trim (t : Text) : Solid (Text.trim t) := by
  have hfirst (u : Text) : ∀ c ∈ (u.dropWhile isBlank).head?, isBlank c = false := by
    intro c hc
    have h := List.head?_dropWhile_not isBlank u
    rw [Option.mem_def.1 hc] at h
    exact h
  refine ⟨fun c hc => ?_, fun c hc => ?_⟩
  · refine hfirst t c ?_
    obtain ⟨after, happend⟩ := trimRight_isPrefix (Text.trimLeft t)
    change Text.trim t ++ after = _ at happend
    rw [Text.trimLeft] at happend
    rw [← happend, List.head?_append, Option.mem_def.1 hc]
    rfl
  · refine hfirst (Text.trimLeft t).reverse c ?_
    rwa [Text.trim, Text.trimRight, List.getLast?_reverse] at hc

/-- What is trimmed away at the end is blanks. -/
theorem exists_trimRight (t : Text) : ∃ b, Blanks b ∧ Text.trimRight t ++ b = t := by
  refine ⟨(t.reverse.takeWhile isBlank).reverse, fun c hc => ?_, ?_⟩
  · exact List.mem_takeWhile_imp (List.mem_reverse.1 hc)
  · rw [Text.trimRight, ← List.reverse_append, List.takeWhile_append_dropWhile,
      List.reverse_reverse]

/-- A text is what is left of it after trimming, with blanks around. -/
theorem exists_trim (t : Text) : ∃ l r, Blanks l ∧ Blanks r ∧ l ++ (Text.trim t ++ r) = t := by
  obtain ⟨r, hr, hright⟩ := exists_trimRight (Text.trimLeft t)
  refine ⟨t.takeWhile isBlank, r, fun c hc => List.mem_takeWhile_imp hc, hr, ?_⟩
  rw [Text.trim, hright]
  exact List.takeWhile_append_dropWhile

end TypeShape
