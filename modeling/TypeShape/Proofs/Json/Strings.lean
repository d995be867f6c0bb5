/-
A quoted text is read back as it was.

The writer turns every character into a letter escape, into itself, or into one or two
hexadecimal code units; the reader turns all of these into code units first and joins
them to characters at the end. So both sides meet at the code units of a character:
`readUnits_escape` says that the reader finds them, `joinUnits?_flatMap` that they are
the character again. A surrogate pair is the only place where two units make one
character, and no character is a surrogate by itself, so the pairing is never ambiguous.
-/
import TypeShape.Json.Writer
import TypeShape.Json.Reader

namespace TypeShape.Json

-- ===================================================== hexadecimal units

/-- A hexadecimal digit is read as its value. -/
theorem hexDigit?_hexChar {n : Nat} (h : n < 16) : hexDigit? (hexChar n) = some n := by
  have all : ∀ k : Fin 16, hexDigit? (hexChar k) = some k.val := by decide
  exact all ⟨n, h⟩

/-- The four digits of a code unit are read as the unit. -/
theorem hex4?_digits {n : Nat} (h : n < 0x10000) :
    hex4? (hexChar (n / 4096 % 16)) (hexChar (n / 256 % 16)) (hexChar (n / 16 % 16))
      (hexChar (n % 16)) = some n := by
  unfold hex4?
  rw [hexDigit?_hexChar (Nat.mod_lt _ (by omega)), hexDigit?_hexChar (Nat.mod_lt _ (by omega)),
    hexDigit?_hexChar (Nat.mod_lt _ (by omega)), hexDigit?_hexChar (Nat.mod_lt _ (by omega))]
  have sum : ((n / 4096 % 16 * 16 + n / 256 % 16) * 16 + n / 16 % 16) * 16 + n % 16 = n := by
    omega
  show some _ = some n
  rw [sum]

-- ================================================================ reading

/-- The code units of a character in UTF-16. -/
def unitsOf (c : Char) : List Nat :=
  if c.toNat < 0x10000 then [c.toNat]
  else [0xD800 + (c.toNat - 0x10000) / 0x400, 0xDC00 + (c.toNat - 0x10000) % 0x400]

/-- No character lies beyond the planes that surrogate pairs reach. -/
theorem toNat_lt (c : Char) : c.toNat < 0x110000 := by
  rcases c.valid with h | h
  · exact Nat.lt_trans h (by omega)
  · exact h.2

/-- No character is a surrogate. -/
theorem toNat_not_surrogate (c : Char) : c.toNat < 0xD800 ∨ 0xE000 ≤ c.toNat := by
  rcases c.valid with h | h
  · exact Or.inl h
  · exact Or.inr (by have := h.1; show 0xE000 ≤ c.toNat; unfold Char.toNat; omega)

variable (start : Text)

/-- An escape of a code unit that does not end the text is read as the unit. -/
theorem readUnits_unitEscape {n : Nat} (h : n < 0x10000) {rest left : Text} {units : List Nat}
    (some_left : rest ≠ []) (tail : readUnits start rest = .ok (units, left)) :
    readUnits start (unitEscape n ++ rest) = .ok (n :: units, left) := by
  obtain ⟨next, rest, rfl⟩ := List.exists_cons_of_ne_nil some_left
  unfold unitEscape
  show readUnits start ('\\' :: 'u' :: _ :: _ :: _ :: _ :: next :: rest) = _
  rw [readUnits, hex4?_digits h, tail]
  rfl

/-- A letter escape is read as its character. -/
theorem readUnits_letter {letter c : Char} (known : simpleEscape? letter = some c)
    {rest left : Text} {units : List Nat} (tail : readUnits start rest = .ok (units, left)) :
    readUnits start ('\\' :: letter :: rest) = .ok (c.toNat :: units, left) := by
  have not_u : letter ≠ 'u' := by
    rintro rfl
    exact nomatch known
  rw [readUnits, known, tail]
  · rfl
  · intro a b c d next rest is_u _
    exact not_u is_u
  · exact not_u

/-- A printable character that is neither a quote nor a backslash is read as itself. -/
theorem readUnits_plain {c : Char} (not_quote : c ≠ '"') (not_backslash : c ≠ '\\')
    (printable : 32 ≤ c.toNat) {rest left : Text} {units : List Nat}
    (tail : readUnits start rest = .ok (units, left)) :
    readUnits start (c :: rest) = .ok (c.toNat :: units, left) := by
  rw [readUnits, if_neg (Nat.not_lt.2 printable), tail]
  · rfl
  all_goals intros; contradiction

/-- Every character is read back as its code units. -/
theorem readUnits_escape (c : Char) {rest left : Text} {units : List Nat} (some_left : rest ≠ [])
    (tail : readUnits start rest = .ok (units, left)) :
    readUnits start (escape c ++ rest) = .ok (unitsOf c ++ units, left) := by
  have letter : ∀ {l : Char}, simpleEscape? l = some c → c.toNat < 0x10000 →
      readUnits start ('\\' :: l :: rest) = .ok (unitsOf c ++ units, left) := by
    intro l known small
    rw [readUnits_letter start known tail, unitsOf, if_pos small]
    rfl
  -- seven characters have a letter of their own, printable ones stand for themselves, and the rest
  -- is written as one code unit or as two
  unfold escape
  split
  next h => subst h; exact letter rfl (by decide)
  next not_quote =>
  split
  next h => subst h; exact letter rfl (by decide)
  next not_backslash =>
  split
  next h => subst h; exact letter rfl (by decide)
  split
  next h => subst h; exact letter rfl (by decide)
  split
  next h => subst h; exact letter rfl (by decide)
  split
  next h => subst h; exact letter rfl (by decide)
  split
  next h => subst h; exact letter rfl (by decide)
  split
  next printable =>
    rw [unitsOf, if_pos (by omega)]
    exact readUnits_plain start not_quote not_backslash printable.1 tail
  split
  next small =>
    rw [unitsOf, if_pos small]
    exact readUnits_unitEscape start small some_left tail
  next large =>
    have bound := toNat_lt c
    rw [unitsOf, if_neg large, List.append_assoc]
    have second := readUnits_unitEscape start (n := 0xDC00 + (c.toNat - 0x10000) % 0x400)
      (by omega) some_left tail
    exact readUnits_unitEscape start (by omega) (List.cons_ne_nil _ _) second

/-- What the writer puts between the quotes is read up to the closing one. -/
theorem readUnits_flatMap (t rest : Text) :
    readUnits start (t.flatMap escape ++ '"' :: rest) = .ok (t.flatMap unitsOf, rest) := by
  induction t with
  | nil => rfl
  | cons c t ih =>
      rw [List.flatMap_cons, List.flatMap_cons, List.append_assoc]
      exact readUnits_escape start c (List.append_ne_nil_of_right_ne_nil _ (List.cons_ne_nil _ _)) ih

-- ================================================================ joining

/-- A unit that is no surrogate is a character by itself. -/
theorem joinUnits?_cons {n : Nat} (high : isHighSurrogate n = false)
    (low : isLowSurrogate n = false) (units : List Nat) :
    joinUnits? (n :: units) = (joinUnits? units).map (Char.ofNat n :: ·) := by
  have alone : unitChar? n = some (Char.ofNat n) := by
    rw [unitChar?, high, low]
    rfl
  cases units with
  | nil =>
      show (unitChar? n).map _ = _
      rw [alone]
      rfl
  | cons next units =>
      rw [joinUnits?, high, Bool.false_and, if_neg Bool.false_ne_true, alone]
      cases joinUnits? (next :: units) <;> rfl

/-- The code units of a character are that character again. -/
theorem joinUnits?_unitsOf (c : Char) (units : List Nat) :
    joinUnits? (unitsOf c ++ units) = (joinUnits? units).map (c :: ·) := by
  have bound := toNat_lt c
  have apart := toNat_not_surrogate c
  unfold unitsOf
  split
  next small =>
    have high : isHighSurrogate c.toNat = false := by
      simp only [isHighSurrogate, Bool.and_eq_false_iff, decide_eq_false_iff_not]
      omega
    have low : isLowSurrogate c.toNat = false := by
      simp only [isLowSurrogate, Bool.and_eq_false_iff, decide_eq_false_iff_not]
      omega
    rw [List.singleton_append, joinUnits?_cons high low, Char.ofNat_toNat]
  next large =>
    have high : isHighSurrogate (0xD800 + (c.toNat - 0x10000) / 0x400) = true := by
      simp only [isHighSurrogate, Bool.and_eq_true, decide_eq_true_eq]
      omega
    have low : isLowSurrogate (0xDC00 + (c.toNat - 0x10000) % 0x400) = true := by
      simp only [isLowSurrogate, Bool.and_eq_true, decide_eq_true_eq]
      omega
    have whole : pairChar (0xD800 + (c.toNat - 0x10000) / 0x400)
        (0xDC00 + (c.toNat - 0x10000) % 0x400) = c := by
      have sum : 0x10000 + (0xD800 + (c.toNat - 0x10000) / 0x400 - 0xD800) * 0x400
          + (0xDC00 + (c.toNat - 0x10000) % 0x400 - 0xDC00) = c.toNat := by
        omega
      rw [pairChar, sum, Char.ofNat_toNat]
    show joinUnits? (_ :: _ :: units) = _
    rw [joinUnits?, high, low, Bool.and_self, if_pos rfl, whole]

/-- The code units of a text are that text again. -/
theorem joinUnits?_flatMap (t : Text) : joinUnits? (t.flatMap unitsOf) = some t := by
  induction t with
  | nil => rfl
  | cons c t ih =>
      rw [List.flatMap_cons, joinUnits?_unitsOf, ih]
      rfl

section Joined

variable {first t left : Text} {units : List Nat}

/-- A string is what its code units join to. -/
theorem readString_of_some {s : Text} (h : readUnits first t = .ok (units, left))
    (joined : joinUnits? units = some s) : readString first t = .ok (s, left) := by
  rw [readString, h]
  dsimp only [bind, Except.bind]
  rw [joined]
  rfl

/-- Without a partner for a surrogate the code units join to nothing. -/
theorem readString_of_none (h : readUnits first t = .ok (units, left))
    (unpaired : joinUnits? units = none) : readString first t = .error .unpaired := by
  rw [readString, h]
  dsimp only [bind, Except.bind]
  rw [unpaired]

end Joined

/-- A quoted text is read as the text, after its opening quote. -/
theorem readString_quoted (t rest : Text) :
    readString start (t.flatMap escape ++ '"' :: rest) = .ok (t, rest) :=
  readString_of_some (readUnits_flatMap start t rest) (joinUnits?_flatMap t)

end TypeShape.Json
