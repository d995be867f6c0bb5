/-
How the lists of an inline object type come off again.

Such a type has one of two forms (`ObjectType`): the literal, which is the shortest text that
closes the first brace, with list suffixes after it, or the literal in a pair of brackets. Lists
are taken off without a look at braces. A bracket at the start is taken to end at the last
closing bracket, so there has to be one: `Unwraps` tells the rounds that find all they look for,
and every inline object type is taken apart by such (`ObjectType.unwraps`).
-/
import TypeShape.Proofs.TypeText.Occurrence

namespace TypeShape

-- ============================================================ list layers

/-- The layer of a bracket ends at the last closing bracket. -/
theorem listLayer?_bracket {inside after : Text} (h : ']' ∉ after) :
    listLayer? ('[' :: (inside ++ ']' :: after)) = some (Text.trim inside) := by
  have hskip : ∀ c ∈ after.reverse, (c != ']') = true := by
    intro c hc
    rw [bne_iff_ne]
    rintro rfl
    exact h (List.mem_reverse.1 hc)
  show some (Text.trim (((inside ++ ']' :: after).reverse.dropWhile (· != ']')).drop 1).reverse) = _
  rw [List.reverse_append, List.reverse_cons, List.append_assoc, List.dropWhile_append_of_pos hskip,
    List.singleton_append, List.dropWhile_cons_of_neg (by simp), List.drop_one, List.tail_cons,
    List.reverse_reverse]

/-- Without a bracket at the start the layer is the last list suffix. -/
theorem listLayer?_suffix {t : Text} (h : t.head? ≠ some '[') :
    listLayer? t = (Text.dropSuffix? t TypeText.listSuffix).map Text.trimRight := by
  unfold listLayer?
  split
  case h_1 => exact absurd rfl h
  case h_2 => rfl

/-- Lists come off round by round: a bracket at the start with what follows the last closing
one, or else a list suffix at the end. -/
inductive Unwraps : Text → Nat → Text → Prop
  | literal {t : Text} (first : t.head? ≠ some '[') (last : ¬ TypeText.listSuffix <:+ t) :
      Unwraps t 0 t
  | bracket {inside after literal : Text} {n : Nat} (closed : ']' ∉ after)
      (inner : Unwraps (Text.trim inside) n literal) :
      Unwraps ('[' :: (inside ++ ']' :: after)) (n + 1) literal
  | suffix {t literal : Text} {n : Nat} (first : (t ++ TypeText.listSuffix).head? ≠ some '[')
      (inner : Unwraps (Text.trimRight t) n literal) :
      Unwraps (t ++ TypeText.listSuffix) (n + 1) literal

/-- With enough rounds this is what the lists come to. -/
theorem Unwraps.unwrapLists {t literal : Text} {n rounds : Nat} (h : Unwraps t n literal)
    (hrounds : n < rounds) : unwrapLists rounds t = (n, literal) := by
  induction h generalizing rounds with
  | literal first last =>
      cases rounds with
      | zero => exact absurd hrounds (Nat.not_lt_zero _)
      | succ rounds =>
          unfold TypeShape.unwrapLists
          rw [listLayer?_suffix first, Text.dropSuffix?, if_neg (by simpa using last)]
          rfl
  | bracket closed inner ih =>
      cases rounds with
      | zero => exact absurd hrounds (Nat.not_lt_zero _)
      | succ rounds =>
          unfold TypeShape.unwrapLists
          rw [listLayer?_bracket closed]
          dsimp only
          rw [ih (Nat.lt_of_succ_lt_succ hrounds)]
  | @suffix t literal n first inner ih =>
      cases rounds with
      | zero => exact absurd hrounds (Nat.not_lt_zero _)
      | succ rounds =>
          unfold TypeShape.unwrapLists
          rw [listLayer?_suffix first, Text.dropSuffix?,
            if_pos (List.isSuffixOf_iff_suffix.2 (List.suffix_append ..)), List.length_append,
            Nat.add_sub_cancel, List.take_left', Option.map_some]
          · dsimp only
            rw [ih (Nat.lt_of_succ_lt_succ hrounds)]
          · rfl

namespace ObjectText

variable {t : Text}

/-- The lists of an inline object with suffixes are its suffixes. -/
theorem unwraps (ht : ObjectText t) (n : Nat) : Unwraps (t ++ TypeText.suffixes n) n t := by
  have hfirst (n : Nat) : (t ++ TypeText.suffixes n).head? ≠ some '[' := by
    rw [head?_append_of_ne_nil ht.ne_nil, ht.opened]
    simp
  induction n with
  | zero =>
      have hlast : ¬ TypeText.listSuffix <:+ t := by
        rintro ⟨before, rfl⟩
        have h := ht.getLast?
        rw [List.getLast?_append] at h
        cases h
      have hopen := hfirst 0
      rw [TypeText.suffixes, List.append_nil] at hopen ⊢
      exact .literal hopen hlast
  | succ n ih =>
      have hopen := hfirst (n + 1)
      rw [TypeText.suffixes_succ, ← List.append_assoc] at hopen ⊢
      refine .suffix hopen ?_
      rw [trimRight_solid (TypeText.solid_append_suffixes ht.solid ht.ne_nil n)]
      exact ih

/-- The list layers of an inline object are its suffixes. -/
theorem unwrapLists (ht : ObjectText t) {n rounds : Nat} (h : n < rounds) :
    TypeShape.unwrapLists rounds (t ++ TypeText.suffixes n) = (n, t) :=
  (ht.unwraps n).unwrapLists h

end ObjectText

-- ======================================================= inline objects

namespace TypeText

/-- An inline object type, the number of its lists, and its literal: so many suffixes, or one
pair of brackets, where only blanks may stand after the literal. -/
inductive ObjectType : Text → Nat → Text → Prop
  | suffixed {literal : Text} (object : ObjectText literal) (n : Nat) :
      ObjectType (literal ++ suffixes n) n literal
  | bracketed {literal blanks : Text} (object : ObjectText literal) (hblanks : Blanks blanks) :
      ObjectType ('[' :: (literal ++ blanks ++ [']'])) 1 literal

namespace ObjectType

variable {object literal : Text} {n : Nat}

/-- Every round finds the list that it takes off. -/
theorem unwraps (h : ObjectType object n literal) : Unwraps object n literal := by
  cases h with
  | suffixed hliteral n => exact hliteral.unwraps n
  | @bracketed _ blanks hliteral hblanks =>
      have htrim := trim_between (l := []) (fun _ h => nomatch h) hliteral.solid hblanks
      rw [List.nil_append] at htrim
      have hinner : Unwraps (Text.trim (literal ++ blanks)) 0 literal := by
        have h := hliteral.unwraps 0
        rw [suffixes, List.append_nil] at h
        rwa [htrim]
      exact .bracket List.not_mem_nil hinner

/-- There are fewer lists than characters. -/
theorem lt_length (h : ObjectType object n literal) : n < object.length := by
  cases h with
  | suffixed hliteral n => exact hliteral.lt_length n
  | bracketed hliteral hblanks => exact Nat.succ_lt_succ (List.length_pos_iff.2 (by simp))

/-- The lists of an inline object type, and its literal, are found. -/
theorem unwrapLists (h : ObjectType object n literal) :
    TypeShape.unwrapLists object.length object = (n, literal) :=
  h.unwraps.unwrapLists h.lt_length

end ObjectType

end TypeText

end TypeShape
