/-
A value that is written is read back.

A reader with enough fuel stops exactly where the writer stopped (`ReadBack`); for lists
and objects that needs the same of each of their parts, so the proof is by induction on
the value with one lemma for the items of a list and one for the entries of an object.
The fuel that is needed is bounded by the length of the text: every call inside a list or
an object comes after at least one character has been taken.

Left out are floating-point numbers, objects in which a key comes twice, of which the
reader keeps one entry only, and whole numbers of too many digits: these are neither
written nor read.
-/
import TypeShape.Proofs.Json.Numbers
import TypeShape.Proofs.Json.Strings
import TypeShape.Proofs.Text.Scan

namespace TypeShape.Json

/-- A value with no floating-point number in it and no key twice in an object. -/
inductive Exact : Json → Prop
  | null : Exact .null
  | bool (b : Bool) : Exact (.bool b)
  | int (i : Int) : Exact (.int i)
  | str (s : Text) : Exact (.str s)
  | arr {items : List Json} (each : ∀ item ∈ items, Exact item) : Exact (.arr items)
  | obj {entries : List (Text × Json)} (keys : (entries.map (·.1)).Nodup)
      (each : ∀ entry ∈ entries, Exact entry.2) : Exact (.obj entries)

/-- The value is read back from its text, up to what follows. -/
def ReadBack (v : Json) : Prop :=
  ∀ fuel rest, (render v).length ≤ fuel → Apart rest →
    readValue fuel (render v ++ rest) = .ok (v, rest)

-- =============================================================== the limit

/-- A whole number can be written if it is below a power of ten. -/
theorem isWritable_int {i : Int} : (Json.int i).isWritable = true ↔ i.natAbs < firstLong := by
  rw [isWritable, decide_eq_true_eq]

/-- Each item of a list that can be written can be. -/
theorem areWritable_iff {items : List Json} :
    areWritable items = true ↔ ∀ item ∈ items, item.isWritable = true := by
  induction items with
  | nil => simp [areWritable]
  | cons item items ih => simp [areWritable, ih]

/-- So can the values of entries. -/
theorem haveWritable_iff {entries : List (Text × Json)} :
    haveWritable entries = true ↔ ∀ entry ∈ entries, entry.2.isWritable = true := by
  induction entries with
  | nil => simp [haveWritable]
  | cons entry entries ih => simp [haveWritable, ih]

-- ============================================================ separators

/-- What separates the parts of a list or an object, and what closes them. -/
theorem apart_comma (rest : Text) : Apart (',' :: rest) :=
  apart_cons rest (by decide)

theorem apart_bracket (rest : Text) : Apart (']' :: rest) :=
  apart_cons rest (by decide)

theorem apart_brace (rest : Text) : Apart ('}' :: rest) :=
  apart_cons rest (by decide)

/-- A text that starts with no blank is not skipped. -/
theorem skip_cons {c : Char} (h : isSpace c = false) (rest : Text) :
    skip (c :: rest) = c :: rest := by
  unfold skip
  rw [List.dropWhile_cons, h]
  rfl

-- ========================================================== where they start

/-- The text of a value starts with something that is neither a blank nor a closing
bracket nor the mark of a byte order. -/
theorem render_head {v : Json} (h : Exact v) :
    ∃ c tail, render v = c :: tail ∧ isSpace c = false ∧ c ≠ ']' ∧ c ≠ '\uFEFF' := by
  cases h with
  | null => exact ⟨'n', _, rfl, by decide, by decide, by decide⟩
  | bool b =>
      cases b with
      | true => exact ⟨'t', _, rfl, by decide, by decide, by decide⟩
      | false => exact ⟨'f', _, rfl, by decide, by decide, by decide⟩
  | int i =>
      -- a number starts with its sign or with its first digit
      obtain ⟨c, tail, digits⟩ :=
        List.exists_cons_of_ne_nil (Nat.toDigits_ne_nil (b := 10) (n := i.natAbs))
      have digit : c.isDigit = true :=
        Nat.isDigit_of_mem_toDigits (b := 10) (by omega) (by omega)
          (digits ▸ List.mem_cons_self ..)
      show ∃ c tail, intText i = c :: tail ∧ _
      unfold intText
      rw [digits]
      dsimp only
      split
      · exact ⟨'-', _, rfl, by decide, by decide, by decide⟩
      · refine ⟨c, tail, rfl, ?_, ?_, ?_⟩
        · unfold isSpace
          simp only [Bool.or_eq_false_iff, beq_eq_false_iff_ne]
          refine ⟨⟨⟨?_, ?_⟩, ?_⟩, ?_⟩ <;> (rintro rfl; exact nomatch digit)
        · rintro rfl
          exact nomatch digit
        · rintro rfl
          exact nomatch digit
  | str s => exact ⟨'"', _, rfl, by decide, by decide, by decide⟩
  | arr each => exact ⟨'[', _, rfl, by decide, by decide, by decide⟩
  | obj keys each => exact ⟨'{', _, rfl, by decide, by decide, by decide⟩

theorem skip_render {v : Json} (h : Exact v) (rest : Text) :
    skip (render v ++ rest) = render v ++ rest := by
  obtain ⟨c, tail, text, blank, -⟩ := render_head h
  rw [text]
  exact skip_cons blank _

-- ================================================================= lists

/-- The items of a list are read back up to the closing bracket. -/
theorem readItems_join {item : Json} {items : List Json}
    (each : ∀ v ∈ item :: items, Exact v ∧ ReadBack v) {fuel : Nat}
    (enough : (Text.join ", " (renderItems (item :: items))).length < fuel) (rest : Text) :
    readItems fuel (Text.join ", " (renderItems (item :: items)) ++ ']' :: rest)
      = .ok (item :: items, rest) := by
  obtain ⟨fuel, rfl⟩ : ∃ n, fuel = n + 1 := ⟨fuel - 1, by omega⟩
  induction items generalizing item fuel with
  | nil =>
      have back := (each item (List.mem_cons_self ..)).2
      rw [renderItems, renderItems, join_singleton] at enough ⊢
      rw [readItems, back fuel _ (by omega) (apart_bracket rest)]
      rfl
  | cons next items ih =>
      have back := (each item (List.mem_cons_self ..)).2
      have later : ∀ v ∈ next :: items, Exact v ∧ ReadBack v :=
        fun v h => each v (List.mem_cons_of_mem _ h)
      have split : Text.join ", " (renderItems (item :: next :: items))
          = render item ++ (',' :: ' ' :: Text.join ", " (renderItems (next :: items))) :=
        join_cons_cons ", " (render item) (render next) (renderItems items)
      rw [split] at enough ⊢
      rw [List.length_append, List.length_cons, List.length_cons] at enough
      have skipped : skip (Text.join ", " (renderItems (next :: items)) ++ ']' :: rest)
          = Text.join ", " (renderItems (next :: items)) ++ ']' :: rest := by
        obtain ⟨tail, start⟩ := join_cons ", " (render next) (renderItems items)
        rw [renderItems, start, List.append_assoc]
        exact skip_render (later next (List.mem_cons_self ..)).1 _
      obtain ⟨fuel, rfl⟩ : ∃ n, fuel = n + 1 := ⟨fuel - 1, by omega⟩
      have tail := ih later fuel (by omega)
      rw [List.append_assoc, List.cons_append, readItems, back (fuel + 1) _ (by omega) (apart_comma _)]
      show (readItems (fuel + 1)
        (skip (Text.join ", " (renderItems (next :: items)) ++ ']' :: rest)) >>= fun found =>
          pure (item :: found.1, found.2)) = _
      rw [skipped, tail]
      rfl

-- =============================================================== objects

/-- A key that is not there goes to the end. -/
theorem insert_of_not_mem {key : Text} (value : Json) {entries : List (Text × Json)}
    (new : key ∉ entries.map (·.1)) : insert key value entries = entries ++ [(key, value)] := by
  induction entries with
  | nil => rfl
  | cons entry entries ih =>
      rw [List.map_cons, List.mem_cons, not_or] at new
      have other : ¬ (entry.1 == key) = true := fun same => new.1 (eq_of_beq same).symm
      rw [insert, if_neg other, ih new.2]
      rfl

/-- One entry is read back; what follows it decides how it goes on. -/
theorem readEntries_entry {key : Text} {value : Json} (good : Exact value) (back : ReadBack value)
    {fuel : Nat} (enough : (render value).length ≤ fuel) (before : List (Text × Json)) {tail : Text}
    (apart : Apart tail) :
    readEntries (fuel + 1) before (quoted key ++ ": " ++ render value ++ tail)
      = (match skip tail with
        | '}' :: left => .ok (insert key value before, left)
        | ',' :: left => readEntries fuel (insert key value before) (skip left)
        | left => flawed .noComma left) := by
  have text : quoted key ++ ": " ++ render value ++ tail
      = '"' :: (key.flatMap escape ++ '"' :: ':' :: ' ' :: (render value ++ tail)) := by
    unfold quoted
    simp only [List.cons_append, List.append_assoc, List.nil_append, String.reduceToList]
  rw [text, readEntries, readString_quoted]
  show (readValue fuel (skip (render value ++ tail)) >>= fun found =>
    match skip found.2 with
    | '}' :: left => Except.ok (insert key found.1 before, left)
    | ',' :: left => readEntries fuel (insert key found.1 before) (skip left)
    | left => flawed .noComma left) = _
  rw [skip_render good, back fuel tail enough apart]
  rfl

/-- An entry of an object is under no key of those before it. -/
theorem key_notMem {entry : Text × Json} {before entries : List (Text × Json)}
    (keys : ((before ++ entry :: entries).map (·.1)).Nodup) : entry.1 ∉ before.map (·.1) := by
  rw [List.map_append, List.nodup_append] at keys
  exact fun h => keys.2.2 entry.1 h entry.1 (List.mem_cons_self ..) rfl

/-- No blank stands before the entries of an object. -/
theorem skip_entries (entry : Text × Json) (entries : List (Text × Json)) (rest : Text) :
    skip (Text.join ", " (renderEntries (entry :: entries)) ++ rest)
      = Text.join ", " (renderEntries (entry :: entries)) ++ rest := by
  obtain ⟨tail, start⟩ :=
    join_cons ", " (quoted entry.1 ++ ": " ++ render entry.2) (renderEntries entries)
  rw [renderEntries, start]
  exact skip_cons (by decide) _

/-- The entries of an object are read back after those before them, up to the closing
brace. -/
theorem readEntries_join {entry : Text × Json} {entries : List (Text × Json)}
    (each : ∀ e ∈ entry :: entries, Exact e.2 ∧ ReadBack e.2) (before : List (Text × Json))
    (keys : ((before ++ entry :: entries).map (·.1)).Nodup) {fuel : Nat}
    (enough : (Text.join ", " (renderEntries (entry :: entries))).length < fuel) (rest : Text) :
    readEntries fuel before (Text.join ", " (renderEntries (entry :: entries)) ++ '}' :: rest)
      = .ok (before ++ entry :: entries, rest) := by
  obtain ⟨fuel, rfl⟩ : ∃ n, fuel = n + 1 := ⟨fuel - 1, by omega⟩
  induction entries generalizing entry before fuel with
  | nil =>
      obtain ⟨key, value⟩ := entry
      obtain ⟨good, back⟩ : Exact value ∧ ReadBack value := each (key, value) (List.mem_cons_self ..)
      -- keys differ, so a new one goes to the end
      have new : key ∉ before.map (·.1) := key_notMem keys
      rw [renderEntries, renderEntries, join_singleton] at enough ⊢
      rw [readEntries_entry good back (by rw [List.length_append] at enough; omega) before
        (apart_brace rest), ← insert_of_not_mem value new]
      rfl
  | cons next entries ih =>
      obtain ⟨key, value⟩ := entry
      obtain ⟨good, back⟩ : Exact value ∧ ReadBack value := each (key, value) (List.mem_cons_self ..)
      have new : key ∉ before.map (·.1) := key_notMem keys
      have later : ∀ e ∈ next :: entries, Exact e.2 ∧ ReadBack e.2 :=
        fun e h => each e (List.mem_cons_of_mem _ h)
      have split : Text.join ", " (renderEntries ((key, value) :: next :: entries))
          = quoted key ++ ": " ++ render value
            ++ (',' :: ' ' :: Text.join ", " (renderEntries (next :: entries))) :=
        join_cons_cons ", " (quoted key ++ ": " ++ render value)
          (quoted next.1 ++ ": " ++ render next.2) (renderEntries entries)
      rw [split] at enough ⊢
      rw [List.length_append, List.length_append, List.length_cons, List.length_cons] at enough
      obtain ⟨fuel, rfl⟩ : ∃ n, fuel = n + 1 := ⟨fuel - 1, by omega⟩
      rw [List.append_cons] at keys
      have tail := ih later (before ++ [(key, value)]) keys fuel (by omega)
      rw [List.append_assoc, List.cons_append,
        readEntries_entry good back (by omega) before (apart_comma _), insert_of_not_mem value new]
      show readEntries (fuel + 1) (before ++ [(key, value)])
        (skip (Text.join ", " (renderEntries (next :: entries)) ++ '}' :: rest)) = _
      rw [skip_entries, tail, List.append_assoc]
      rfl

-- ================================================================ values

/-- A word or a number is read as such, whatever fuel is left. -/
theorem readValue_scalar {c : Char} (h : c ≠ '"' ∧ c ≠ '[' ∧ c ≠ '{') (fuel : Nat) (rest : Text) :
    readValue (fuel + 1) (c :: rest) = readScalar (c :: rest) := by
  rw [readValue]
  all_goals rintro more ⟨⟩
  · exact h.1 rfl
  · exact h.2.1 rfl
  · exact h.2.2 rfl

/-- A list that does not close at once has items. -/
theorem readValue_items {c : Char} (h : isSpace c = false ∧ c ≠ ']') (fuel : Nat) (rest : Text) :
    readValue (fuel + 1) ('[' :: c :: rest) = (do
      let (items, left) ← readItems fuel (c :: rest)
      return (.arr items, left)) := by
  rw [readValue, skip_cons h.1]
  split
  next same => exact absurd (List.cons.inj same).1 h.2
  next => rfl

/-- A text that is no shorter than the fuel leaves some. -/
theorem fuel_pos {v : Json} (h : Exact v) {fuel : Nat} (enough : (render v).length ≤ fuel) :
    ∃ n, fuel = n + 1 := by
  obtain ⟨c, tail, text, -⟩ := render_head h
  rw [text, List.length_cons] at enough
  exact ⟨fuel - 1, by omega⟩

/-- A whole number starts with a digit or a sign, so it is read as a number. -/
theorem readBack_int {i : Int} (short : i.natAbs < firstLong) : ReadBack (.int i) := by
  intro fuel rest enough apart
  obtain ⟨fuel, rfl⟩ := fuel_pos (.int i) enough
  have start := startsNumber_intText i rest
  have back := readScalar_intText short apart
  show readValue (fuel + 1) (intText i ++ rest) = _
  cases text : intText i ++ rest with
  | nil =>
      rw [text] at start
      exact nomatch start
  | cons c tail =>
      rw [text] at start back
      rw [readValue_scalar ?_ fuel tail]
      · exact back
      · refine ⟨?_, ?_, ?_⟩ <;> (rintro rfl; exact nomatch start)

/-- A text is read up to its closing quote. -/
theorem readBack_str (s : Text) : ReadBack (.str s) := by
  intro fuel rest enough _
  obtain ⟨fuel, rfl⟩ := fuel_pos (.str s) enough
  have text : quoted s ++ rest = '"' :: (s.flatMap escape ++ '"' :: rest) := by
    unfold quoted
    simp only [List.cons_append, List.append_assoc, List.nil_append]
  show readValue (fuel + 1) (quoted s ++ rest) = _
  rw [text, readValue, readString_quoted]
  rfl

/-- A list is read back if its items are. -/
theorem readBack_arr {items : List Json} (each : ∀ v ∈ items, Exact v ∧ ReadBack v) :
    ReadBack (.arr items) := by
  intro fuel rest enough _
  obtain ⟨fuel, rfl⟩ := fuel_pos (.arr fun v h => (each v h).1) enough
  have text : render (.arr items) ++ rest
      = '[' :: (Text.join ", " (renderItems items) ++ ']' :: rest) := by
    rw [render]
    simp only [List.cons_append, List.append_assoc, List.nil_append]
  rw [text]
  cases items with
  | nil => rfl
  | cons item items =>
      obtain ⟨c, more, first, blank, no_bracket, -⟩ :=
        render_head (each item (List.mem_cons_self ..)).1
      obtain ⟨tail, start⟩ := join_cons ", " (render item) (renderItems items)
      rw [render, List.length_append, List.length_cons] at enough
      have back : readItems fuel _ = _ := readItems_join each (Nat.lt_of_succ_lt_succ enough) rest
      rw [renderItems, start, first] at back ⊢
      show readValue (fuel + 1) ('[' :: c :: (more ++ tail ++ ']' :: rest)) = _
      rw [readValue_items ⟨blank, no_bracket⟩]
      show (readItems fuel (c :: more ++ tail ++ ']' :: rest) >>= fun found =>
        pure (Json.arr found.1, found.2)) = _
      rw [back]
      rfl

/-- An object with distinct keys is read back if the values of its entries are. -/
theorem readBack_obj {entries : List (Text × Json)} (keys : (entries.map (·.1)).Nodup)
    (each : ∀ e ∈ entries, Exact e.2 ∧ ReadBack e.2) : ReadBack (.obj entries) := by
  intro fuel rest enough _
  obtain ⟨fuel, rfl⟩ := fuel_pos (.obj keys fun e h => (each e h).1) enough
  have text : render (.obj entries) ++ rest
      = '{' :: (Text.join ", " (renderEntries entries) ++ '}' :: rest) := by
    rw [render]
    simp only [List.cons_append, List.append_assoc, List.nil_append]
  rw [text]
  cases entries with
  | nil => rfl
  | cons entry entries =>
      obtain ⟨tail, start⟩ :=
        join_cons ", " (quoted entry.1 ++ ": " ++ render entry.2) (renderEntries entries)
      rw [render, List.length_append, List.length_cons] at enough
      have back : readEntries fuel _ _ = _ :=
        readEntries_join each [] keys (Nat.lt_of_succ_lt_succ enough) rest
      rw [renderEntries, start] at back ⊢
      show (readEntries fuel []
        (quoted entry.1 ++ ": " ++ render entry.2 ++ tail ++ '}' :: rest) >>= fun found =>
          pure (Json.obj found.1, found.2)) = _
      rw [back]
      rfl

/-- Every value without floating-point numbers and repeated keys is read back, if it can be
written. -/
theorem readBack_of_exact {v : Json} (h : Exact v) (writable : v.isWritable = true) :
    ReadBack v := by
  induction h with
  | null =>
      intro fuel rest enough _
      obtain ⟨fuel, rfl⟩ := fuel_pos .null enough
      rfl
  | bool b =>
      intro fuel rest enough _
      obtain ⟨fuel, rfl⟩ := fuel_pos (.bool b) enough
      cases b <;> rfl
  | int i => exact readBack_int (isWritable_int.1 writable)
  | str s => exact readBack_str s
  | arr each ih =>
      exact readBack_arr fun v h => ⟨each v h, ih v h (areWritable_iff.1 writable v h)⟩
  | obj keys each ih =>
      exact readBack_obj keys fun e h => ⟨each e h, ih e h (haveWritable_iff.1 writable e h)⟩

/-- What can be written is read as what it was. -/
theorem read_render {v : Json} (h : Exact v) (writable : v.isWritable = true) :
    read (render v) = .ok v := by
  obtain ⟨c, tail, text, -, -, no_mark⟩ := render_head h
  have back := readBack_of_exact h writable (2 * (render v).length + 2) [] (by omega) apart_nil
  rw [List.append_nil] at back
  have all : readAll (render v) = .ok v := by
    unfold readAll
    split
    next mark => exact absurd (List.cons.inj (text.symm.trans mark)).1 no_mark
    next =>
      have skipped := skip_render h []
      rw [List.append_nil] at skipped
      rw [skipped, back]
      rfl
  unfold read
  rw [all]
  rfl

end TypeShape.Json
