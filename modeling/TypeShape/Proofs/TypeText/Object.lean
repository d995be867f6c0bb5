/-
What is split off as an inline object type, and when nothing is.

The scan counts braces, so it stops at the shortest beginning that has as many closing ones as
opening ones, wherever these stand (`closeBraces?_eq_some_iff`), and finds none exactly if no
beginning has (`closeBraces?_eq_none_iff`). From there on the text is cut at the last suffix that
follows at once, or at the bracket that the next character which is no blank has to be. So a text
is split in one way only, and it can be told from the text whether it is (`splitObject?_exact`).
What is split off is an inline object type, whose lists come off again.
-/
import TypeShape.Proofs.TypeText.Split

namespace TypeShape.TypeText

variable {t p inside after object rest : Text}

-- ================================================================ braces

/-- The shortest beginning of a text in which the braces balance. -/
structure Balances (t p : Text) : Prop where
  isPrefix : p <+: t
  ne_nil : p ≠ []
  balanced : p.count '{' = p.count '}'
  shortest : ∀ q, q <+: t → q ≠ [] → q.count '{' = q.count '}' → p.length ≤ q.length

/-- There is only one. -/
theorem Balances.unique {q : Text} (hp : Balances t p) (hq : Balances t q) : p = q := by
  have hle := hp.shortest q hq.isPrefix hq.ne_nil hq.balanced
  have hge := hq.shortest p hp.isPrefix hp.ne_nil hp.balanced
  exact (List.prefix_of_prefix_length_le hp.isPrefix hq.isPrefix hle).eq_of_length_le hge

/-- Where the scan stops, the braces balance for the first time. -/
theorem balances_of_closeBraces? (h : closeBraces? 1 t = some (inside, after)) :
    Balances ('{' :: t) ('{' :: inside) := by
  have hobject := ObjectText.of_closeBraces? h
  have hstart : '{' :: inside <+: '{' :: t :=
    ⟨after, by rw [List.cons_append, closeBraces?_append h]⟩
  refine ⟨hstart, hobject.ne_nil, hobject.closed.symm, fun q hq hne hbalanced => ?_⟩
  by_contra hlt
  have hshort := Nat.lt_of_not_le hlt
  obtain ⟨more, happend⟩ := List.prefix_of_prefix_length_le hq hstart (Nat.le_of_lt hshort)
  have hmore : more ≠ [] := by
    rintro rfl
    rw [List.append_nil] at happend
    rw [happend] at hshort
    exact Nat.lt_irrefl _ hshort
  exact Nat.ne_of_gt (hobject.count_lt happend hne hmore) hbalanced

/-- A scan that does not stop leaves a brace open all along. -/
theorem count_of_closeBraces?_eq_none {depth : Nat} (hdepth : 0 < depth)
    (h : closeBraces? depth t = none) {q : Text} (hq : q <+: t) :
    q.count '}' < depth + q.count '{' := by
  induction t generalizing depth q with
  | nil =>
      rw [List.prefix_nil.1 hq]
      simpa using hdepth
  | cons c t ih =>
      rw [closeBraces?] at h
      split at h
      case isTrue => cases h
      case isFalse hend =>
        cases q with
        | nil => simpa using hdepth
        | cons d q =>
            obtain ⟨rfl, hmore⟩ := List.cons_prefix_cons.1 hq
            have hrest := ih (openAfter_pos hdepth hend) (Option.map_eq_none_iff.1 h) hmore
            have hcount := openAfter_count hend q
            omega

/-- A text of which no beginning balances. -/
def NeverBalances (t : Text) : Prop :=
  ∀ q, q <+: t → q ≠ [] → q.count '{' ≠ q.count '}'

/-- The scan fails just on these. -/
theorem closeBraces?_eq_none_iff : closeBraces? 1 t = none ↔ NeverBalances ('{' :: t) := by
  constructor
  · intro h q hq hne
    cases q with
    | nil => exact absurd rfl hne
    | cons c q =>
        obtain ⟨rfl, hmore⟩ := List.cons_prefix_cons.1 hq
        have hopen := count_of_closeBraces?_eq_none Nat.one_pos h hmore
        rw [List.count_cons_self, List.count_cons_of_ne (by decide)]
        omega
  · intro h
    cases hclose : closeBraces? 1 t with
    | none => rfl
    | some found =>
        have hfound := balances_of_closeBraces? hclose
        exact absurd hfound.balanced (h _ hfound.isPrefix hfound.ne_nil)

/-- Else it stops where a beginning first balances. -/
theorem closeBraces?_eq_some_iff : closeBraces? 1 t = some (inside, after)
    ↔ Balances ('{' :: t) ('{' :: inside) ∧ inside ++ after = t := by
  constructor
  · exact fun h => ⟨balances_of_closeBraces? h, closeBraces?_append h⟩
  · rintro ⟨hbalances, rfl⟩
    cases hclose : closeBraces? 1 (inside ++ after) with
    | none =>
        exact absurd hbalances.balanced
          (closeBraces?_eq_none_iff.1 hclose _ hbalances.isPrefix hbalances.ne_nil)
    | some found =>
        obtain ⟨inside', after'⟩ := found
        have hinside := (List.cons.inj ((balances_of_closeBraces? hclose).unique hbalances)).2
        have happend := closeBraces?_append hclose
        rw [hinside] at happend
        rw [hinside, List.append_cancel_left happend]

/-- It is an inline object. -/
theorem Balances.objectText (h : Balances ('{' :: t) ('{' :: inside)) :
    ObjectText ('{' :: inside) := by
  obtain ⟨after, happend⟩ := h.isPrefix
  exact .of_closeBraces? (closeBraces?_eq_some_iff.2 ⟨h, (List.cons.inj happend).2⟩)

-- ============================================================== suffixes

/-- The suffixes that are taken are suffixes. -/
theorem takeSuffixes_fst (t : Text) : ∃ n, (takeSuffixes t).1 = suffixes n := by
  fun_induction takeSuffixes t with
  | case1 rest taken after heq ih =>
      rw [heq] at ih
      obtain ⟨n, rfl⟩ := ih
      exact ⟨n + 1, rfl⟩
  | case2 t h => exact ⟨0, rfl⟩

/-- No suffix is left behind. -/
theorem takeSuffixes_snd (t : Text) : ¬ listSuffix <+: (takeSuffixes t).2 := by
  fun_induction takeSuffixes t with
  | case1 rest taken after heq ih =>
      rw [heq] at ih
      exact ih
  | case2 t h =>
      rintro ⟨after, rfl⟩
      exact h after rfl

/-- All suffixes are taken, if none follows them. -/
theorem takeSuffixes_append_suffixes {n : Nat} (h : ¬ listSuffix <+: rest) :
    takeSuffixes (suffixes n ++ rest) = (suffixes n, rest) := by
  induction n with
  | zero =>
      show takeSuffixes rest = ([], rest)
      unfold takeSuffixes
      split
      case h_1 after => exact absurd ⟨after, rfl⟩ h
      case h_2 => rfl
  | succ n ih =>
      show takeSuffixes ('[' :: ']' :: (suffixes n ++ rest)) = _
      rw [takeSuffixes, ih]
      rfl

-- ============================================================= splitting

/-- An inline object type at the beginning of a text, and what follows it: the shortest beginning
with balanced braces and as many list suffixes as follow it, or such a beginning in a bracket,
with nothing but blanks after it. -/
inductive Leading : Text → Text → Text → Prop
  | suffixed {t inside rest : Text} (closed : Balances ('{' :: t) ('{' :: inside)) (n : Nat)
      (most : ¬ listSuffix <+: rest) : Leading ('{' :: t) ('{' :: inside ++ suffixes n) rest
  | bracketed {t inside blanks rest : Text} (closed : Balances ('{' :: t) ('{' :: inside))
      (blank : Blanks blanks) :
      Leading ('[' :: '{' :: t) ('[' :: ('{' :: inside ++ blanks ++ [']'])) rest

/-- Why a text does not begin with an inline object type. -/
inductive Unled : Text → Prop
  | unopened {t : Text} (brace : ¬ ['{'] <+: t) (bracket : ¬ ['[', '{'] <+: t) : Unled t
  | unclosed {t : Text} (never : NeverBalances ('{' :: t)) : Unled ('{' :: t)
  | unclosedInside {t : Text} (never : NeverBalances ('{' :: t)) : Unled ('[' :: '{' :: t)
  | unbracketed {inside after : Text} (closed : Balances ('{' :: (inside ++ after)) ('{' :: inside))
      (next : after.find? (fun c => !isBlank c) ≠ some ']') :
      Unled ('[' :: '{' :: (inside ++ after))

/-- What is split off leads the text. -/
theorem leading_of_splitObject? (h : splitObject? t = some (object, rest)) :
    Leading t object rest := by
  unfold splitObject? at h
  split at h
  case h_1 t =>
    obtain ⟨⟨inside, after⟩, hclose, hsome⟩ := Option.bind_eq_some_iff.1 h
    cases hsome
    obtain ⟨n, hn⟩ := takeSuffixes_fst after
    rw [hn]
    exact .suffixed (balances_of_closeBraces? hclose) n (takeSuffixes_snd after)
  case h_2 t =>
    obtain ⟨⟨inside, after⟩, hclose, hsome⟩ := Option.bind_eq_some_iff.1 h
    dsimp only at hsome
    split at hsome
    case h_1 =>
      cases hsome
      exact .bracketed (balances_of_closeBraces? hclose) fun c hc => List.mem_takeWhile_imp hc
    case h_2 => cases hsome
  case h_3 => cases h

/-- So it is an inline object type. -/
theorem ObjectType.of_splitObject? (h : splitObject? t = some (object, rest)) :
    ∃ n literal, ObjectType object n literal := by
  cases leading_of_splitObject? h with
  | suffixed closed n => exact ⟨n, _, .suffixed closed.objectText n⟩
  | bracketed closed blank => exact ⟨1, _, .bracketed closed.objectText blank⟩

/-- What leads a text is split off from it. -/
theorem splitObject?_of_leading (happend : object ++ rest = t) (h : Leading t object rest) :
    splitObject? t = some (object, rest) := by
  cases h with
  | @suffixed t inside rest closed n most =>
      have hafter : inside ++ (suffixes n ++ rest) = t := by
        rw [List.append_assoc, List.cons_append] at happend
        exact (List.cons.inj happend).2
      have hclose : closeBraces? 1 t = some (inside, suffixes n ++ rest) :=
        closeBraces?_eq_some_iff.2 ⟨closed, hafter⟩
      show (closeBraces? 1 t).bind _ = _
      rw [hclose, Option.bind_some]
      dsimp only
      rw [takeSuffixes_append_suffixes most]
  | @bracketed t inside blanks rest closed blank =>
      have hafter : inside ++ (blanks ++ ']' :: rest) = t := by
        simpa using happend
      have hclose : closeBraces? 1 t = some (inside, blanks ++ ']' :: rest) :=
        closeBraces?_eq_some_iff.2 ⟨closed, hafter⟩
      have hend : isBlank ']' = false := by decide
      have hdrop : (blanks ++ ']' :: rest).dropWhile isBlank = ']' :: rest := by
        rw [List.dropWhile_append_of_pos blank, List.dropWhile_cons_of_neg (by simp [hend])]
      have htake : (blanks ++ ']' :: rest).takeWhile isBlank = blanks := by
        rw [List.takeWhile_append_of_pos blank, List.takeWhile_cons_of_neg (by simp [hend]),
          List.append_nil]
      show (closeBraces? 1 t).bind _ = _
      rw [hclose, Option.bind_some]
      dsimp only
      rw [hdrop, htake]
      rfl

/-- Nothing is split off for one of four reasons. -/
theorem unled_of_splitObject? (h : splitObject? t = none) : Unled t := by
  unfold splitObject? at h
  split at h
  case h_1 t =>
    refine .unclosed (closeBraces?_eq_none_iff.1 ?_)
    cases hclose : closeBraces? 1 t with
    | none => rfl
    | some found =>
        rw [hclose] at h
        cases h
  case h_2 t =>
    cases hclose : closeBraces? 1 t with
    | none => exact .unclosedInside (closeBraces?_eq_none_iff.1 hclose)
    | some found =>
        obtain ⟨inside, after⟩ := found
        obtain ⟨hbalances, rfl⟩ := closeBraces?_eq_some_iff.1 hclose
        refine .unbracketed hbalances fun hnext => ?_
        rw [List.find?_not_eq_head?_dropWhile, List.head?_eq_some_iff] at hnext
        obtain ⟨rest, hrest⟩ := hnext
        rw [hclose, Option.bind_eq_bind, Option.bind_some] at h
        dsimp only at h
        rw [hrest] at h
        cases h
  case h_3 hbrace hbracket =>
    refine .unopened (fun h => ?_) fun h => ?_
    · obtain ⟨after, rfl⟩ := h
      exact hbrace after rfl
    · obtain ⟨after, rfl⟩ := h
      exact hbracket after rfl

/-- For each of them nothing is. -/
theorem splitObject?_of_unled (h : Unled t) : splitObject? t = none := by
  cases h with
  | unopened brace bracket =>
      unfold splitObject?
      split
      case h_1 t => exact absurd ⟨t, rfl⟩ brace
      case h_2 t => exact absurd ⟨t, rfl⟩ bracket
      case h_3 => rfl
  | @unclosed t never =>
      show (closeBraces? 1 t).bind _ = none
      rw [closeBraces?_eq_none_iff.2 never, Option.bind_none]
  | @unclosedInside t never =>
      show (closeBraces? 1 t).bind _ = none
      rw [closeBraces?_eq_none_iff.2 never, Option.bind_none]
  | @unbracketed inside after closed next =>
      have hclose : closeBraces? 1 (inside ++ after) = some (inside, after) :=
        closeBraces?_eq_some_iff.2 ⟨closed, rfl⟩
      rw [List.find?_not_eq_head?_dropWhile] at next
      show (closeBraces? 1 (inside ++ after)).bind _ = none
      rw [hclose, Option.bind_some]
      dsimp only
      split
      case h_1 hdrop => exact absurd (by rw [hdrop]; rfl) next
      case h_2 => rfl

/-- A text is split into the inline object type that leads it and all that follows, and not at all
exactly if none does. -/
theorem splitObject?_exact (t : Text) :
    (∀ object rest, splitObject? t = some (object, rest)
      ↔ object ++ rest = t ∧ Leading t object rest)
    ∧ (splitObject? t = none ↔ Unled t) := by
  constructor
  · intro object rest
    constructor
    · exact fun h => ⟨splitObject?_append h, leading_of_splitObject? h⟩
    · rintro ⟨happend, h⟩
      exact splitObject?_of_leading happend h
  · exact ⟨unled_of_splitObject?, splitObject?_of_unled⟩

end TypeShape.TypeText
