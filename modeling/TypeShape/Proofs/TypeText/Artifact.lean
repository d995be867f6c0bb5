/-
Removing artifacts looks at the text before the last closing brace only.

An artifact ends with a brace, and a removal joins what stands before the artifact with what
follows it. So a text without closing braces may stand after any other one without taking part
in its removals (`strip_append`). The bound on the rounds grows with the text, but a removal
makes the text shorter, and only a search from its very start can find an artifact that stays. So
the search comes to its end within the bound (`ends_stripFrom`), and beyond it there is nothing
more to do (`stripFrom_rounds`).
-/
import TypeShape.Proofs.TypeText.Occurrence

namespace TypeShape

-- ============================================================ searching

/-- What a search finds stands there. -/
theorem indexOf?_eq_some {needle t : Text} {i : Nat} (h : Text.indexOf? needle t = some i) :
    needle <+: t.drop i := by
  induction t generalizing i with
  | nil =>
      unfold Text.indexOf? at h
      split at h
      case isTrue empty =>
        cases h
        rw [List.isEmpty_iff.1 empty]
        exact List.nil_prefix
      case isFalse => cases h
  | cons c rest ih =>
      unfold Text.indexOf? at h
      split at h
      case isTrue here =>
        cases h
        exact List.isPrefixOf_iff_prefix.1 here
      case isFalse =>
        obtain ⟨j, found, rfl⟩ := Option.map_eq_some_iff.1 h
        exact ih found

/-- What is found from a place on stands there or later, inside of the text. -/
theorem indexFrom?_eq_some {needle t : Text} {start i : Nat}
    (h : Text.indexFrom? t needle start = some i) (hne : needle ≠ []) :
    start ≤ i ∧ i + needle.length ≤ t.length := by
  obtain ⟨j, found, rfl⟩ := Option.map_eq_some_iff.1 h
  have hlength := (indexOf?_eq_some found).length_le
  have hpos := List.length_pos_iff.2 hne
  rw [List.length_drop, List.length_drop] at hlength
  omega

/-- A word is not found after its last character has been seen for the last time. -/
theorem indexOf?_append {needle t after : Text} {c : Char} (hlast : needle.getLast? = some c)
    (hc : c ∉ after) : Text.indexOf? needle (t ++ after) = Text.indexOf? needle t := by
  have hne : needle ≠ [] := by
    intro h
    rw [h] at hlast
    cases hlast
  induction t with
  | nil =>
      have absent : ¬ needle <:+: after := fun h =>
        hc (h.subset (List.mem_of_getLast? hlast))
      have none := mt includes_iff.1 absent
      unfold Text.includes at none
      rw [List.nil_append, Option.not_isSome_iff_eq_none.1 none, Text.indexOf?,
        if_neg (by simpa using hne)]
  | cons d t ih =>
      have opening : needle.isPrefixOf (d :: (t ++ after)) = needle.isPrefixOf (d :: t) := by
        rw [Bool.eq_iff_iff, List.isPrefixOf_iff_prefix, List.isPrefixOf_iff_prefix]
        constructor
        · intro h
          rcases List.prefix_or_prefix_of_prefix h (List.prefix_append (d :: t) after)
            with h' | ⟨more, rfl⟩
          · exact h'
          · -- the word would end in what follows
            have hmore : more <+: after := (List.prefix_append_right_inj (d :: t)).1 h
            cases hm : more.getLast? with
            | none => simp [List.getLast?_eq_none_iff.1 hm]
            | some last =>
                rw [List.getLast?_append, hm] at hlast
                cases hlast
                exact absurd (hmore.subset (List.mem_of_getLast? hm)) hc
        · exact fun h => h.trans (List.prefix_append (d :: t) after)
      rw [List.cons_append, Text.indexOf?, Text.indexOf?, opening, ih]

namespace TypeText

variable {artifact t after : Text} {c : Char} {start rounds rounds' : Nat}

-- ============================================================== removal

/-- Nothing is removed from a text in which the artifact does not occur. -/
theorem stripOne_eq_self (h : ¬ artifact <:+: t) : stripOne t artifact = t := by
  have none := mt includes_iff.1 h
  unfold Text.includes at none
  unfold stripOne stripFrom Text.indexFrom?
  rw [List.drop_zero, Option.not_isSome_iff_eq_none.1 none]
  rfl

/-- A text without artifacts stays as it is. -/
theorem strip_eq_self (h : ∀ artifact ∈ artifacts, ¬ artifact <:+: t) : strip t = t := by
  obtain ⟨escaped, h⟩ := List.forall_mem_cons.1 h
  have broken := List.forall_mem_singleton.1 h
  unfold strip artifacts
  rw [List.foldl_cons, stripOne_eq_self escaped, List.foldl_cons, stripOne_eq_self broken,
    List.foldl_nil]

/-- What follows the last character of artifacts for the last time takes no part. -/
theorem stripFrom_append (hlast : artifact.getLast? = some c) (hc : c ∉ after)
    (hstart : start ≤ t.length) :
    stripFrom artifact rounds start (t ++ after) = stripFrom artifact rounds start t ++ after := by
  have hne : artifact ≠ [] := by
    intro h
    rw [h] at hlast
    cases hlast
  induction rounds generalizing start t with
  | zero => rfl
  | succ rounds ih =>
      have found : Text.indexFrom? (t ++ after) artifact start
          = Text.indexFrom? t artifact start := by
        unfold Text.indexFrom?
        rw [List.drop_append_of_le_length hstart, indexOf?_append hlast hc]
      unfold stripFrom
      rw [found]
      cases hi : Text.indexFrom? t artifact start with
      | none => rfl
      | some i =>
          obtain ⟨-, hlength⟩ := indexFrom?_eq_some hi hne
          cases i with
          | zero => exact ih (by omega)
          | succ i =>
              dsimp only
              rw [List.take_append_of_le_length (by omega), List.drop_append_of_le_length hlength,
                ← List.append_assoc]
              apply ih
              rw [List.length_append, List.length_take]
              omega

-- =============================================================== rounds

/-- The search goes on from a place in a text, round by round, until it finds nothing more, and
the text is this one by then. -/
inductive Ends (artifact : Text) : Nat → Text → Text → Prop
  | done {start : Nat} {t : Text} (none : t.indexFrom? artifact start = none) :
      Ends artifact start t t
  | kept {start : Nat} {t u : Text} (found : t.indexFrom? artifact start = some 0)
      (rest : Ends artifact artifact.length t u) : Ends artifact start t u
  | removed {start i : Nat} {t u : Text} (found : t.indexFrom? artifact start = some (i + 1))
      (rest : Ends artifact i (t.take i ++ t.drop (i + 1 + artifact.length)) u) :
      Ends artifact start t u

/-- The search ends in one way only. -/
theorem Ends.unique {u v : Text} (h : Ends artifact start t u) (g : Ends artifact start t v) :
    u = v := by
  induction h with
  | done none =>
      cases g with
      | done => rfl
      | kept found => cases none.symm.trans found
      | removed found => cases none.symm.trans found
  | kept found _ ih =>
      cases g with
      | done none => cases none.symm.trans found
      | kept _ rest => exact ih rest
      | removed found' => cases found.symm.trans found'
  | removed found _ ih =>
      cases g with
      | done none => cases none.symm.trans found
      | kept found' => cases found.symm.trans found'
      | removed found' rest =>
          cases found.symm.trans found'
          exact ih rest

/-- With a round for each two characters, and one for the very start, the search comes to its
end. -/
theorem ends_stripFrom (hne : artifact ≠ [])
    (h : 2 * t.length + (if start = 0 then 1 else 0) ≤ rounds) :
    Ends artifact start t (stripFrom artifact rounds start t) := by
  induction rounds generalizing start t with
  | zero =>
      have hnil : t = [] := List.length_eq_zero_iff.1 (by omega)
      have hempty : artifact.isEmpty = false := by simpa using hne
      subst hnil
      refine .done ?_
      rw [Text.indexFrom?, List.drop_nil, Text.indexOf?, hempty]
      rfl
  | succ rounds ih =>
      unfold stripFrom
      cases hi : Text.indexFrom? t artifact start with
      | none => exact .done hi
      | some i =>
          obtain ⟨hle, hlength⟩ := indexFrom?_eq_some hi hne
          have hpos := List.length_pos_iff.2 hne
          -- an artifact at the very start is kept, once; any other one goes with the character
          -- before
          cases i with
          | zero =>
              rw [if_pos (by omega)] at h
              refine .kept hi (ih ?_)
              rw [if_neg (by omega)]
              omega
          | succ i =>
              have shorter : (t.take i ++ t.drop (i + 1 + artifact.length)).length + 2
                  ≤ t.length := by
                rw [List.length_append, List.length_take, List.length_drop]
                omega
              refine .removed hi (ih ?_)
              split <;> omega

/-- More rounds than that change nothing. -/
theorem stripFrom_rounds (hne : artifact ≠ [])
    (h : 2 * t.length + (if start = 0 then 1 else 0) ≤ rounds)
    (h' : 2 * t.length + (if start = 0 then 1 else 0) ≤ rounds') :
    stripFrom artifact rounds start t = stripFrom artifact rounds' start t :=
  (ends_stripFrom hne h).unique (ends_stripFrom hne h')

/-- One artifact is searched from the very start to the end. -/
theorem ends_stripOne (hne : artifact ≠ []) (t : Text) :
    Ends artifact 0 t (stripOne t artifact) :=
  ends_stripFrom hne (by rw [if_pos rfl])

/-- Behind what an artifact ends with, its search changes nothing. -/
theorem stripOne_append (hlast : artifact.getLast? = some c) (hc : c ∉ after) :
    stripOne (t ++ after) artifact = stripOne t artifact ++ after := by
  have hne : artifact ≠ [] := by
    intro h
    rw [h] at hlast
    cases hlast
  unfold stripOne
  rw [stripFrom_append hlast hc (Nat.zero_le _)]
  congr 1
  apply stripFrom_rounds hne
  · rw [if_pos rfl, List.length_append]
    omega
  · rw [if_pos rfl]

/-- What follows the last closing brace takes no part in the removal of artifacts. -/
theorem strip_append (h : '}' ∉ after) : strip (t ++ after) = strip t ++ after := by
  unfold strip artifacts
  rw [List.foldl_cons, List.foldl_cons, List.foldl_nil, List.foldl_cons, List.foldl_cons,
    List.foldl_nil, stripOne_append (c := '}') rfl h, stripOne_append (c := '}') rfl h]

end TypeText

end TypeShape
