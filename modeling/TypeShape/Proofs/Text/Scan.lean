/-
Trimming, cutting and splitting a text, and joining parts.

A cut or a split is told by the text around its marks: before a mark that stands first a text is
cut (`cut?_append`), and from there its pieces go on (`pieces_append`). So the pieces of joined
parts are the parts (`pieces_join`), and every piece is a part of the text without the mark.
-/
import Mathlib.Data.List.TakeWhile
import TypeShape.Text.Basic

namespace TypeShape

-- ============================================================= trimming

/-- Trimming leaves a part of the text. -/
theorem trimRight_isPrefix (t : Text) : Text.trimRight t <+: t := by
  have h := List.dropWhile_suffix (l := t.reverse) isBlank
  rw [← List.reverse_prefix, List.reverse_reverse] at h
  exact h

theorem trim_isInfix (t : Text) : Text.trim t <:+: t :=
  (trimRight_isPrefix _).isInfix.trans (List.dropWhile_suffix _).isInfix

/-- Only blanks are trimmed away altogether. -/
theorem trim_eq_nil_iff {t : Text} : Text.trim t = [] ↔ ∀ c ∈ t, isBlank c = true := by
  constructor
  · intro htrim
    have hright : ∀ c ∈ Text.trimLeft t, isBlank c = true := by
      rw [Text.trim, Text.trimRight, List.reverse_eq_nil_iff, List.dropWhile_eq_nil_iff] at htrim
      exact fun c hc => htrim c (List.mem_reverse.2 hc)
    have hleft : Text.trimLeft t = [] := by
      rw [← List.head?_eq_none_iff]
      have hfirst := List.head?_dropWhile_not isBlank t
      cases hhead : (Text.trimLeft t).head? with
      | none => rfl
      | some c =>
          rw [Text.trimLeft] at hhead
          rw [hhead] at hfirst
          exact absurd (hright c (List.mem_of_mem_head? hhead)) (by simp [hfirst])
    exact List.dropWhile_eq_nil_iff.1 hleft
  · intro hblank
    rw [Text.trim, Text.trimLeft, List.dropWhile_eq_nil_iff.2 hblank]
    rfl

-- =============================================================== cutting

/-- A text is cut at the first mark in it. -/
theorem cut?_append {mark : Char} {t : Text} (h : mark ∉ t) (rest : Text) :
    Text.cut? mark (t ++ mark :: rest) = some (t, rest) := by
  induction t with
  | nil => rw [List.nil_append, Text.cut?, if_pos rfl]
  | cons c t ih =>
      obtain ⟨hc, ht⟩ := not_or.1 (mt List.mem_cons.2 h)
      rw [List.cons_append, Text.cut?, if_neg (Ne.symm hc), ih ht]
      rfl

/-- A mark that is missing cuts nothing. -/
theorem cut?_of_notMem {mark : Char} {t : Text} (h : mark ∉ t) : Text.cut? mark t = none := by
  induction t with
  | nil => rfl
  | cons c rest ih =>
      obtain ⟨hc, hrest⟩ := not_or.1 (mt List.mem_cons.2 h)
      rw [Text.cut?, if_neg (Ne.symm hc), ih hrest]
      rfl

/-- A text is cut where the mark stands first. -/
theorem cut?_eq_some {mark : Char} {t before after : Text}
    (h : Text.cut? mark t = some (before, after)) : t = before ++ mark :: after ∧ mark ∉ before := by
  induction t generalizing before with
  | nil => cases h
  | cons c rest ih =>
      unfold Text.cut? at h
      by_cases hc : c = mark
      · rw [if_pos hc] at h
        cases h
        exact ⟨by rw [hc, List.nil_append], List.not_mem_nil⟩
      · rw [if_neg hc] at h
        obtain ⟨⟨before', after'⟩, hcut, heq⟩ := Option.map_eq_some_iff.1 h
        cases heq
        obtain ⟨rfl, hbefore⟩ := ih hcut
        exact ⟨rfl, List.not_mem_cons_of_ne_of_not_mem (Ne.symm hc) hbefore⟩

-- ============================================================= splitting

/-- The pieces of a text whose first piece ends at a separator. -/
theorem pieces_append {mark : Char} {t : Text} (h : mark ∉ t) (rest : Text) :
    Text.pieces mark (t ++ mark :: rest) = t :: Text.pieces mark rest := by
  induction t with
  | nil => rw [List.nil_append, Text.pieces, if_pos rfl]
  | cons c t ih =>
      obtain ⟨hc, ht⟩ := not_or.1 (mt List.mem_cons.2 h)
      rw [List.cons_append, Text.pieces, if_neg (Ne.symm hc), ih ht]

/-- A text without the separator is in one piece. -/
theorem pieces_of_notMem {mark : Char} {t : Text} (h : mark ∉ t) : Text.pieces mark t = [t] := by
  induction t with
  | nil => rfl
  | cons c rest ih =>
      obtain ⟨hc, hrest⟩ := not_or.1 (mt List.mem_cons.2 h)
      rw [Text.pieces, if_neg (Ne.symm hc), ih hrest]

/-- What follows a text goes on with its last piece. -/
theorem exists_pieces (mark : Char) (t : Text) : ∃ init last, mark ∉ last
    ∧ Text.pieces mark t = init ++ [last]
    ∧ ∀ w, Text.pieces mark (t ++ w) = init ++ Text.pieces mark (last ++ w) := by
  induction t with
  | nil => exact ⟨[], [], List.not_mem_nil, rfl, fun w => rfl⟩
  | cons c t ih =>
      obtain ⟨init, last, hlast, hown, hpieces⟩ := ih
      by_cases hc : c = mark
      · refine ⟨[] :: init, last, hlast, ?_, fun w => ?_⟩
        · rw [Text.pieces, if_pos hc, hown, List.cons_append]
        · rw [List.cons_append, Text.pieces, if_pos hc, hpieces, List.cons_append]
      · cases init with
        | nil =>
            refine ⟨[], c :: last, List.not_mem_cons_of_ne_of_not_mem (Ne.symm hc) hlast, ?_,
              fun w => ?_⟩
            · rw [Text.pieces, if_neg hc, hown]
              rfl
            · rw [List.cons_append, Text.pieces, if_neg hc, hpieces, List.nil_append,
                List.nil_append, List.cons_append, Text.pieces, if_neg hc]
        | cons piece init =>
            refine ⟨(c :: piece) :: init, last, hlast, ?_, fun w => ?_⟩
            · rw [Text.pieces, if_neg hc, hown]
              rfl
            · rw [List.cons_append, Text.pieces, if_neg hc, hpieces]
              rfl

/-- Around a mark the pieces are those of both sides. -/
theorem pieces_append_cons (mark : Char) (t m : Text) :
    Text.pieces mark (t ++ mark :: m) = Text.pieces mark t ++ Text.pieces mark m := by
  obtain ⟨init, last, hlast, hown, hpieces⟩ := exists_pieces mark t
  rw [hpieces, hown, pieces_append hlast, List.append_assoc, List.singleton_append]

/-- The pieces of a text have its characters, without the mark. -/
theorem mem_pieces {mark : Char} {t piece : Text} (h : piece ∈ Text.pieces mark t) :
    mark ∉ piece ∧ piece ⊆ t := by
  induction t generalizing piece with
  | nil =>
      obtain rfl := List.mem_singleton.1 h
      exact ⟨List.not_mem_nil, List.nil_subset _⟩
  | cons c t ih =>
      by_cases hc : c = mark
      · rw [Text.pieces, if_pos hc] at h
        rcases List.mem_cons.1 h with rfl | h
        · exact ⟨List.not_mem_nil, List.nil_subset _⟩
        · obtain ⟨hmark, hsubset⟩ := ih h
          exact ⟨hmark, List.Subset.trans hsubset (List.subset_cons_self c t)⟩
      · rw [Text.pieces, if_neg hc] at h
        cases hpieces : Text.pieces mark t with
        | nil =>
            rw [hpieces] at h
            obtain rfl := List.mem_singleton.1 h
            exact ⟨List.not_mem_cons_of_ne_of_not_mem (Ne.symm hc) List.not_mem_nil,
              List.cons_subset_cons c (List.nil_subset t)⟩
        | cons first others =>
            rw [hpieces] at h ih
            rcases List.mem_cons.1 h with rfl | h
            · obtain ⟨hmark, hsubset⟩ := ih (List.mem_cons_self ..)
              exact ⟨List.not_mem_cons_of_ne_of_not_mem (Ne.symm hc) hmark,
                List.cons_subset_cons c hsubset⟩
            · obtain ⟨hmark, hsubset⟩ := ih (List.mem_cons_of_mem _ h)
              exact ⟨hmark, List.Subset.trans hsubset (List.subset_cons_self c t)⟩

-- =============================================================== joining

theorem join_singleton (separator t : Text) : Text.join separator [t] = t := by
  unfold Text.join List.intercalate
  exact List.append_nil t

theorem join_cons_cons (separator t u : Text) (more : List Text) :
    Text.join separator (t :: u :: more) = t ++ (separator ++ Text.join separator (u :: more)) := by
  unfold Text.join List.intercalate
  rw [List.intersperse_cons_cons]
  rfl

/-- Parts that are joined start with the first one. -/
theorem join_cons (separator t : Text) (more : List Text) :
    ∃ tail, Text.join separator (t :: more) = t ++ tail := by
  cases more with
  | nil => exact ⟨[], by rw [join_singleton, List.append_nil]⟩
  | cons u more => exact ⟨_, join_cons_cons separator t u more⟩

/-- What parts are joined to has their characters and those of the separator. -/
theorem mem_join {separator : Text} {parts : List Text} {c : Char}
    (h : c ∈ Text.join separator parts) : c ∈ separator ∨ ∃ part ∈ parts, c ∈ part := by
  induction parts with
  | nil => cases h
  | cons part parts ih =>
      cases parts with
      | nil =>
          rw [join_singleton] at h
          exact .inr ⟨part, List.mem_cons_self .., h⟩
      | cons next more =>
          rw [join_cons_cons] at h
          rcases List.mem_append.1 h with h | h
          · exact .inr ⟨part, List.mem_cons_self .., h⟩
          · rcases List.mem_append.1 h with h | h
            · exact .inl h
            · rcases ih h with h | ⟨other, hother, h⟩
              · exact .inl h
              · exact .inr ⟨other, List.mem_cons_of_mem _ hother, h⟩

/-- Parts without the mark are the pieces of what they are joined to. -/
theorem pieces_join {mark : Char} {parts : List Text} (hne : parts ≠ [])
    (h : ∀ part ∈ parts, mark ∉ part) : Text.pieces mark (Text.join [mark] parts) = parts := by
  induction parts with
  | nil => exact absurd rfl hne
  | cons part parts ih =>
      have hpart := h part (List.mem_cons_self ..)
      cases parts with
      | nil => rw [join_singleton, pieces_of_notMem hpart]
      | cons next more =>
          rw [join_cons_cons, List.singleton_append, pieces_append hpart,
            ih (by simp) fun p hp => h p (List.mem_cons_of_mem _ hp)]

end TypeShape
