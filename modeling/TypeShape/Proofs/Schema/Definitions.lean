/-
The loop that gives the fields of a model their attribute names.

The loop is told by its steps, without a bound: a name that is taken is lengthened, a free one
is defined (`Lengthens`, `Defines`). The rounds of the program are enough for it, so it ends, and
in one way only (`Defines.ends`, `Defines.unique`). What its steps keep, it keeps: a lengthened
name ends with a digit, which neither a reserved word nor an attribute of all models does, so a
harmless name stays harmless (`Lengthens.safe`). Nothing is assumed of the keys, which may well be
spelled like the names that others are given.
-/
import TypeShape.Proofs.Json.Numbers
import TypeShape.Proofs.Schema.Attribute

namespace TypeShape.Attribute

-- ============================================================== safe names

/-- A name that can be the attribute of a model. -/
structure Safe (name : Text) : Prop where
  identifier : isIdentifier name = true
  unreserved : name ∉ reservedWords
  visible : name.head? ≠ some '_'
  unshared : name ∉ modelAttributes

/-- Exactly the keys with safe names ask for them. -/
theorem isPlain_iff {key : Text} : isPlain key = true ↔ Safe key := by
  unfold isPlain
  simp only [Bool.and_eq_true, Bool.not_eq_true', bne_iff_ne, List.elem_eq_mem,
    decide_eq_false_iff_not]
  exact ⟨fun ⟨⟨⟨h₁, h₂⟩, h₃⟩, h₄⟩ => ⟨h₁, h₂, h₃, h₄⟩, fun ⟨h₁, h₂, h₃, h₄⟩ => ⟨⟨⟨h₁, h₂⟩, h₃⟩, h₄⟩⟩

/-- Digits go on identifiers. -/
theorem isIdentifierContinue_of_isDigit {c : Char} (h : c.isDigit = true) :
    isIdentifierContinue c = true := by
  have hrange := Json.toNat_of_isDigit h
  have hascii : isAscii c = true := decide_eq_true (by omega)
  unfold isIdentifierContinue
  rw [if_pos hascii, Char.isAlphanum, h]
  simp

/-- A position is written in digits. -/
theorem isDigit_of_mem_positionText {index : Nat} {c : Char} (h : c ∈ positionText index) :
    c.isDigit = true :=
  Nat.isDigit_of_mem_toDigits (by decide) (by decide) h

/-- No word and no attribute that a name must not be ends with a digit. -/
theorem isDigit_of_getLast? {word : Text} (h : word ∈ reservedWords ++ modelAttributes) {c : Char}
    (hc : word.getLast? = some c) : c.isDigit = false := by
  -- a test, since `∀ c` may also be decided by running through all characters
  have hnone : (reservedWords ++ modelAttributes).all
      (fun word => word.getLast?.all (!Char.isDigit ·)) = true := by
    decide +kernel
  have hword := List.all_eq_true.1 hnone word h
  rw [hc] at hword
  simpa using hword

/-- An identifier with a position at its end is safe. -/
theorem safe_append_position {front : Text} (hidentifier : isIdentifier front = true)
    (hvisible : front.head? ≠ some '_') (index : Nat) : Safe (front ++ positionText index) := by
  have hne : positionText index ≠ [] := Nat.toDigits_ne_nil
  have hfree : front ++ positionText index ∉ reservedWords ++ modelAttributes := by
    intro h
    obtain ⟨c, hc⟩ := Option.isSome_iff_exists.1 (List.getLast?_isSome.2 hne)
    have hlast : (front ++ positionText index).getLast? = some c := by
      rw [List.getLast?_append_of_ne_nil _ hne, hc]
    have hword := isDigit_of_getLast? h hlast
    rw [isDigit_of_mem_positionText (List.mem_of_getLast? hc)] at hword
    cases hword
  obtain ⟨hreserved, hattribute⟩ := not_or.1 (mt List.mem_append.2 hfree)
  cases front with
  | nil => cases hidentifier
  | cons first front =>
      refine ⟨?_, hreserved, hvisible, hattribute⟩
      unfold isIdentifier at hidentifier
      rw [Bool.and_eq_true] at hidentifier
      rw [List.cons_append, isIdentifier, Bool.and_eq_true, List.all_append, Bool.and_eq_true]
      exact ⟨hidentifier.1, hidentifier.2, List.all_eq_true.2 fun c hc =>
        isIdentifierContinue_of_isDigit (isDigit_of_mem_positionText hc)⟩

/-- Every key asks for a safe name. -/
theorem safe_wanted (key : Text) (index : Nat) : Safe (wanted key index) := by
  unfold wanted
  split
  case isTrue h => exact isPlain_iff.1 h
  case isFalse => exact safe_append_position (by decide) (by decide) index

-- ================================================================= steps

/-- The loop that lengthens a name: it ends at the first one that is not taken. -/
inductive Lengthens (taken : List Text) (index : Nat) : Text → Text → Prop
  | free {name : Text} (h : name ∉ taken) : Lengthens taken index name name
  | taken {name final : Text} (h : name ∈ taken)
      (next : Lengthens taken index (name ++ '_' :: positionText index) final) :
      Lengthens taken index name final

namespace Lengthens

variable {taken : List Text} {index rounds : Nat} {name final final' : Text}

/-- It ends, within more rounds than there are rivals. -/
theorem ends (h : rivals taken name < rounds) :
    Lengthens taken index name (Attribute.free taken index rounds name) := by
  induction rounds generalizing name with
  | zero => exact absurd h (Nat.not_lt_zero _)
  | succ rounds ih =>
      unfold Attribute.free
      split
      case isTrue htaken =>
        have hmem := List.mem_of_elem_eq_true htaken
        have hlt := rivals_append_lt hmem (List.cons_ne_nil '_' (positionText index))
        exact .taken hmem (ih (by omega))
      case isFalse hfree => exact .free fun h => hfree (List.elem_eq_true_of_mem h)

/-- It ends in one way. -/
theorem unique (h : Lengthens taken index name final) (h' : Lengthens taken index name final') :
    final = final' := by
  induction h with
  | free hfree =>
      cases h' with
      | free => rfl
      | taken htaken => exact absurd htaken hfree
  | taken htaken next ih =>
      cases h' with
      | free hfree => exact absurd htaken hfree
      | taken _ next' => exact ih next'

theorem notMem (h : Lengthens taken index name final) : final ∉ taken := by
  induction h with
  | free hfree => exact hfree
  | taken htaken next ih => exact ih

/-- A safe name stays safe. -/
theorem safe (h : Lengthens taken index name final) (hname : Safe name) : Safe final := by
  induction h with
  | free => exact hname
  | @taken name final htaken next ih =>
      refine ih ?_
      have hidentifier := hname.identifier
      have hvisible := hname.visible
      cases name with
      | nil => cases hidentifier
      | cons first rest =>
          have hfront : isIdentifier (first :: rest ++ ['_']) = true := by
            unfold isIdentifier at hidentifier
            rw [Bool.and_eq_true] at hidentifier
            rw [List.cons_append, isIdentifier, List.all_append, hidentifier.1, hidentifier.2]
            decide
          have hsafe := safe_append_position hfront hvisible index
          rwa [List.append_assoc] at hsafe

end Lengthens

theorem names_set_of_notMem {α : Type} {table : Table α} {name : Text} (h : name ∉ table.names)
    (entry : α) : (table.set name entry).names = table.names ++ [name] := by
  rw [set_of_notMem h]
  exact List.map_append

/-- The loop over the fields, with what is defined so far and the position it has come to. -/
inductive Defines : Nat → Table (Field Schema) → List (Field Schema) → Table (Field Schema) → Prop
  | done (index : Nat) (table : Table (Field Schema)) : Defines index table [] table
  | next {index : Nat} {table all : Table (Field Schema)} {f : Field Schema}
      {fields : List (Field Schema)} {name : Text}
      (lengthened : Lengthens table.names index (wanted f.key index) name)
      (rest : Defines (index + 1) (table.set name f) fields all) :
      Defines index table (f :: fields) all

namespace Defines

variable {index : Nat} {table all all' : Table (Field Schema)} {fields : List (Field Schema)}

/-- The loop has one result. -/
theorem unique (h : Defines index table fields all) (h' : Defines index table fields all') :
    all = all' := by
  induction h with
  | done =>
      cases h'
      rfl
  | next lengthened rest ih =>
      cases h' with
      | next lengthened' rest' =>
          obtain rfl := lengthened.unique lengthened'
          exact ih rest'

/-- It ends, with the names that the rounds of the program come to. -/
theorem ends (index : Nat) (table : Table (Field Schema)) (fields : List (Field Schema)) :
    Defines index table fields
      (table ++ (namesFrom table.names index (fields.map (·.key))).zip fields) := by
  induction fields generalizing index table with
  | nil =>
      rw [List.zip_nil_right, List.append_nil]
      exact .done index table
  | cons f fields ih =>
      have lengthened : Lengthens table.names index (wanted f.key index)
          (free table.names index (table.names.length + 1) (wanted f.key index)) :=
        .ends (Nat.lt_succ_of_le List.countP_le_length)
      rw [List.map_cons, namesFrom]
      generalize free table.names index (table.names.length + 1) (wanted f.key index) = name
        at lengthened ⊢
      have rest := ih (index + 1) (table.set name f)
      rw [names_set_of_notMem lengthened.notMem, set_of_notMem lengthened.notMem,
        List.append_assoc] at rest
      refine .next lengthened ?_
      rw [set_of_notMem lengthened.notMem]
      exact rest

/-- What is defined stays, and every field comes to it once, in order. -/
theorem append (h : Defines index table fields all) :
    ∃ entries, all = table ++ entries ∧ entries.map (·.2) = fields := by
  induction h with
  | done => exact ⟨[], (List.append_nil _).symm, rfl⟩
  | @next index table all f fields name lengthened rest ih =>
      obtain ⟨entries, rfl, rfl⟩ := ih
      rw [set_of_notMem lengthened.notMem, List.append_assoc]
      exact ⟨(name, f) :: entries, rfl, rfl⟩

/-- No name comes twice. -/
theorem nodup (h : Defines index table fields all) (hnodup : table.names.Nodup) :
    all.names.Nodup := by
  induction h with
  | done => exact hnodup
  | next lengthened rest ih =>
      refine ih ?_
      rw [names_set_of_notMem lengthened.notMem]
      refine List.nodup_append.2 ⟨hnodup, List.pairwise_singleton .., fun a ha b hb => ?_⟩
      rintro rfl
      exact lengthened.notMem (List.mem_singleton.1 hb ▸ ha)

/-- All names are safe. -/
theorem safe (h : Defines index table fields all) (hsafe : ∀ name ∈ table.names, Safe name) :
    ∀ name ∈ all.names, Safe name := by
  induction h with
  | done => exact hsafe
  | @next index table all f fields name lengthened rest ih =>
      refine ih fun other hother => ?_
      rw [names_set_of_notMem lengthened.notMem] at hother
      rcases List.mem_append.1 hother with hother | hother
      · exact hsafe other hother
      · obtain rfl := List.mem_singleton.1 hother
        exact lengthened.safe (safe_wanted ..)

/-- A safe key that no field before has taken is the name of its field. -/
theorem own (h : Defines index table fields all) {before after : Table (Field Schema)}
    {name : Text} {f : Field Schema} (hall : all = before ++ (name, f) :: after)
    (hlength : table.length ≤ before.length) (hkey : Safe f.key)
    (hfree : f.key ∉ before.names) : name = f.key := by
  induction h with
  | done =>
      have h := congrArg List.length hall
      rw [List.length_append, List.length_cons] at h
      omega
  | @next index table all g fields name' lengthened rest ih =>
      by_cases hlater : table.length < before.length
      · refine ih hall ?_
        rw [set_of_notMem lengthened.notMem, List.length_append]
        exact hlater
      · -- the field is the one that is defined in this step
        obtain ⟨others, hothers, -⟩ := rest.append
        rw [set_of_notMem lengthened.notMem, List.append_assoc] at hothers
        obtain ⟨rfl, hsame⟩ := List.append_inj (hothers.symm.trans hall) (by omega)
        cases (List.cons.inj hsame).1
        rw [wanted, if_pos (isPlain_iff.2 hkey)] at lengthened
        exact lengthened.unique (.free hfree)

end Defines

-- ================================================================ the loop

/-- The loop ends, in one way only, with the definitions that the names of the keys make: one
for each field, in their order, under distinct and safe names. A field whose key is safe, and is
not the name of one before it, has its key for a name. -/
theorem defines_all (fields : List (Field Schema)) :
    ∃ table, (∀ table', Defines 0 [] fields table' ↔ table' = table)
      ∧ table = (names (fields.map (·.key))).zip fields
      ∧ table.map (·.2) = fields
      ∧ table.names.Nodup
      ∧ (∀ name ∈ table.names, Safe name)
      ∧ ∀ (before : Table (Field Schema)) name f after, table = before ++ (name, f) :: after →
          Safe f.key → f.key ∉ before.names → name = f.key := by
  have loop : Defines 0 [] fields ((names (fields.map (·.key))).zip fields) :=
    Defines.ends 0 [] fields
  refine ⟨_, fun table' => ⟨fun h => h.unique loop, fun h => h ▸ loop⟩, rfl, ?_, ?_, ?_, ?_⟩
  · obtain ⟨entries, hentries, hfields⟩ := loop.append
    rw [hentries]
    exact hfields
  · exact loop.nodup .nil
  · exact loop.safe fun _ h => (nomatch h)
  · exact fun before name f after hall => loop.own hall (Nat.zero_le _)

/-- Keys that are spelled like the names that others are given, before and after those. -/
example : names ["field_2".toList, "class".toList, "2".toList, "field_1".toList]
    = ["field_2".toList, "field_1".toList, "field_2_2".toList, "field_1_3".toList] := by
  decide +kernel

end TypeShape.Attribute
