/-
A whole number of few enough digits is read back as it was.

The text of a number has no end of its own: the reader stops where the digits stop and
looks for a fraction and an exponent behind them. `Apart` says of what follows a value
that it starts with none of these; every separator of the writer is such a text.
-/
import TypeShape.Json.Writer
import TypeShape.Json.Reader

namespace TypeShape.Json

-- ================================================================= digits

/-- The digits of a number spell it. -/
theorem digitsValue_toDigits (n : Nat) : digitsValue (Nat.toDigits 10 n) = n := by
  induction n using Nat.strongRecOn with
  | ind n ih =>
      rw [Nat.toDigits_eq_if (by omega)]
      split
      next small =>
        show 0 * 10 + (n.digitChar.toNat - 48) = n
        rw [Nat.toNat_digitChar_sub_48_of_lt_ten small]
        omega
      next large =>
        have front := ih (n / 10) (by omega)
        unfold digitsValue at front ⊢
        rw [List.foldl_append, front]
        show n / 10 * 10 + ((n % 10).digitChar.toNat - 48) = n
        rw [Nat.toNat_digitChar_sub_48_of_lt_ten (Nat.mod_lt _ (by omega))]
        omega

/-- Only the number zero is written with a leading zero. -/
theorem eq_zero_of_toDigits_zero {n : Nat} {rest : Text} (h : Nat.toDigits 10 n = '0' :: rest) :
    n = 0 := by
  induction n using Nat.strongRecOn generalizing rest with
  | ind n ih =>
      rw [Nat.toDigits_eq_if (by omega)] at h
      split at h
      next small => exact Nat.digitChar_eq_zero.1 (List.cons.inj h).1
      next large =>
        obtain ⟨first, others, front⟩ :=
          List.exists_cons_of_ne_nil (Nat.toDigits_ne_nil (b := 10) (n := n / 10))
        rw [front] at h
        have zero : first = '0' := (List.cons.inj h).1
        have := ih (n / 10) (by omega) (zero ▸ front)
        omega

/-- The digits are ten code points in a row. -/
theorem toNat_of_isDigit {c : Char} (h : c.isDigit = true) : 48 ≤ c.toNat ∧ c.toNat ≤ 57 := by
  unfold Char.isDigit at h
  rw [Bool.and_eq_true, decide_eq_true_eq, decide_eq_true_eq] at h
  exact ⟨UInt32.le_iff_toNat_le.1 h.1, UInt32.le_iff_toNat_le.1 h.2⟩

/-- What can follow a whole number without becoming part of it. -/
def Apart (rest : Text) : Prop :=
  ∀ c ∈ rest.head?, c.isDigit = false ∧ c ≠ '.' ∧ c ≠ 'e' ∧ c ≠ 'E'

theorem apart_nil : Apart [] :=
  fun _ h => (nomatch h)

theorem apart_cons {c : Char} (rest : Text)
    (h : c.isDigit = false ∧ c ≠ '.' ∧ c ≠ 'e' ∧ c ≠ 'E') : Apart (c :: rest) := by
  rintro d ⟨⟩
  exact h

/-- The digits are taken up to where they stop. -/
theorem spanDigits_append {digits rest : Text} (all : ∀ c ∈ digits, c.isDigit = true)
    (apart : Apart rest) : spanDigits (digits ++ rest) = (digits, rest) := by
  have stop : rest.takeWhile Char.isDigit = [] ∧ rest.dropWhile Char.isDigit = rest := by
    cases rest with
    | nil => exact ⟨rfl, rfl⟩
    | cons c rest =>
        have no := (apart c rfl).1
        exact ⟨by rw [List.takeWhile_cons, no]; rfl, by rw [List.dropWhile_cons, no]; rfl⟩
  unfold spanDigits
  rw [List.takeWhile_append_of_pos all, List.dropWhile_append_of_pos all, stop.1, stop.2,
    List.append_nil]

-- ================================================================ numbers

/-- No fraction and no exponent starts where a number ends. -/
theorem readFraction_apart {rest : Text} (apart : Apart rest) : readFraction rest = ([], rest) := by
  unfold readFraction
  split
  next => exact absurd rfl (apart '.' rfl).2.1
  next => rfl

theorem readExponent?_apart {rest : Text} (apart : Apart rest) : readExponent? rest = none := by
  cases rest with
  | nil => rfl
  | cons c rest =>
      obtain ⟨-, -, e, big⟩ := apart c rfl
      have no : ¬ (c == 'e' || c == 'E') = true := by
        simp only [Bool.or_eq_true, beq_iff_eq]
        exact fun h => h.elim e big
      rw [readExponent?.eq_def]
      exact if_neg no

/-- The digits of a number that can be written spell a number that can be read. -/
theorem wholeNumber_toDigits (negative : Bool) {n : Nat} (short : n < firstLong) :
    wholeNumber negative (Nat.toDigits 10 n) = .ok (if negative then -(n : Int) else n) := by
  have few : (Nat.toDigits 10 n).length ≤ maxDigits :=
    (Nat.length_toDigits_le_iff (by omega) (by decide)).2 short
  unfold wholeNumber
  rw [if_neg (Nat.not_lt.2 few), digitsValue_toDigits]

/-- A natural number is read up to where its digits stop. -/
theorem readNumber?_toDigits (negative : Bool) {n : Nat} (short : n < firstLong) {rest : Text}
    (apart : Apart rest) : readNumber? negative (Nat.toDigits 10 n ++ rest)
      = some (.ok (.int (if negative then -(n : Int) else n), rest)) := by
  have all : ∀ c ∈ Nat.toDigits 10 n, c.isDigit = true :=
    fun c h => Nat.isDigit_of_mem_toDigits (by omega) (by omega) h
  have spelled := wholeNumber_toDigits negative short
  obtain ⟨first, others, digits⟩ :=
    List.exists_cons_of_ne_nil (Nat.toDigits_ne_nil (b := 10) (n := n))
  have stop := spanDigits_append all apart
  unfold readNumber?
  refine Option.map_eq_some_iff.2 ⟨(Nat.toDigits 10 n, rest), ?_, ?_⟩
  · rw [digits] at all stop ⊢
    split
    next zero =>
      -- nothing follows a leading zero, so the one digit taken is all there is
      obtain ⟨rfl, rfl⟩ := List.cons.inj zero
      obtain rfl := eq_zero_of_toDigits_zero digits
      obtain rfl := (List.cons.inj digits).2
      rfl
    next h =>
      obtain ⟨rfl, rfl⟩ := List.cons.inj h
      rw [if_pos (all first (List.mem_cons_self ..))]
      exact congrArg some stop
    next h => exact nomatch h
  · simp only [readFraction_apart apart, readExponent?_apart apart, spelled, List.isEmpty_nil,
      if_true]

-- ========================================================== whole numbers

/-- Whether a text starts as a whole number does: with a digit, or a minus and a digit. -/
def startsNumber : Text → Bool
  | '-' :: c :: _ => c.isDigit
  | c :: _ => c.isDigit
  | [] => false

/-- The words that are values are told from numbers by two characters. -/
theorem words_not_number : ∀ w ∈ words, 2 ≤ w.1.length ∧ startsNumber w.1 = false := by
  decide +kernel

/-- A word of two characters at the start of a number starts a number. -/
theorem startsNumber_of_isPrefix {word t : Text} (two : 2 ≤ word.length) (h : word <+: t)
    (number : startsNumber t = true) : startsNumber word = true := by
  obtain ⟨rest, rfl⟩ := h
  match word, two with
  | c :: d :: word, _ =>
      cases Decidable.em (c = '-') with
      | inl minus =>
          subst minus
          exact number
      | inr digit =>
          have plain : ∀ rest, startsNumber (c :: rest) = c.isDigit := by
            intro rest
            rw [startsNumber]
            exact fun _ _ minus => absurd minus digit
          rw [plain]
          rw [List.cons_append, plain] at number
          exact number

/-- A text that starts a number is none of the words. -/
theorem words_none {t : Text} (number : startsNumber t = true) :
    words.findSome? (fun (word, value) => (afterWord? word t).map ((value, ·))) = none := by
  rw [List.findSome?_eq_none_iff]
  intro w known
  obtain ⟨two, other⟩ := words_not_number w known
  have no : ¬ w.1.isPrefixOf t = true := by
    intro h
    have := startsNumber_of_isPrefix two (List.isPrefixOf_iff_prefix.1 h) number
    rw [other] at this
    exact nomatch this
  show (afterWord? w.1 t).map _ = none
  rw [afterWord?, if_neg no]
  rfl

/-- The text of a whole number starts a number. -/
theorem startsNumber_intText (i : Int) (rest : Text) :
    startsNumber (intText i ++ rest) = true := by
  obtain ⟨first, others, digits⟩ :=
    List.exists_cons_of_ne_nil (Nat.toDigits_ne_nil (b := 10) (n := i.natAbs))
  have digit : first.isDigit = true :=
    Nat.isDigit_of_mem_toDigits (b := 10) (by omega) (by omega)
      (digits ▸ List.mem_cons_self ..)
  unfold intText
  rw [digits]
  dsimp only
  split
  next => exact digit
  next =>
    rw [List.cons_append, startsNumber]
    · exact digit
    · rintro _ _ rfl
      exact nomatch digit

/-- A whole number is read back when nothing that could belong to it follows. -/
theorem readScalar_intText {i : Int} (short : i.natAbs < firstLong) {rest : Text}
    (apart : Apart rest) : readScalar (intText i ++ rest) = .ok (.int i, rest) := by
  have digit : ∀ c others, Nat.toDigits 10 i.natAbs = c :: others → c ≠ '-' := by
    rintro _ others digits rfl
    have : '-'.isDigit = true :=
      Nat.isDigit_of_mem_toDigits (b := 10) (n := i.natAbs) (by omega) (by omega)
        (digits ▸ List.mem_cons_self ..)
    exact nomatch this
  unfold readScalar
  rw [words_none (startsNumber_intText i rest)]
  unfold intText
  dsimp only
  cases Decidable.em (i < 0) with
  | inl negative =>
      have value : -(i.natAbs : Int) = i := by omega
      have number := readNumber?_toDigits true short apart
      rw [if_pos rfl, value] at number
      rw [if_pos negative]
      simp only [List.cons_append, number]
  | inr positive =>
      have value : (i.natAbs : Int) = i := by omega
      have number := readNumber?_toDigits false short apart
      rw [if_neg Bool.false_ne_true, value] at number
      rw [if_neg positive]
      -- the sign is looked for first, and a digit is none
      obtain ⟨first, others, digits⟩ :=
        List.exists_cons_of_ne_nil (Nat.toDigits_ne_nil (b := 10) (n := i.natAbs))
      rw [digits] at number ⊢
      split
      next found h =>
        split at h
        next minus => exact absurd (List.cons.inj minus).1 (digit first others digits)
        next =>
          rw [number] at h
          rw [← Option.some.inj h]
      next h =>
        split at h
        next minus => exact absurd (List.cons.inj minus).1 (digit first others digits)
        next =>
          rw [number] at h
          cases h

end TypeShape.Json
