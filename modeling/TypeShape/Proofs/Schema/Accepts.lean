/-
What a schema accepts, one case for each kind of schema.

A check collects violations; a value is accepted when there are none. Seen that way a
list accepts when its items are accepted, and a model when every key is known and every
field finds what it asks for.
-/
import Mathlib.Data.List.Forall2
import TypeShape.Schema.Check

namespace TypeShape.Schema

/-- A value passes the check of a schema. -/
def Accepts (s : Schema) (v : Json) : Prop :=
  ∃ c, s.check v = .ok c

/-- The entries of an object have what a field asks for: the field's schema accepts the
value of its key, which only an optional field may lack. -/
def FieldAccepts (f : Field Schema) (entries : List (Text × Json)) : Prop :=
  match Json.lookup? entries f.key with
  | none => f.required = false
  | some v => f.schema.Accepts v

/-- A field finds what it asks for if its key is there when it has to be, and has a value that
the field's schema accepts whenever it is there. -/
theorem fieldAccepts_iff {f : Field Schema} {entries : List (Text × Json)} :
    FieldAccepts f entries ↔ (f.required = true → (Json.lookup? entries f.key).isSome = true)
      ∧ ∀ v, Json.lookup? entries f.key = some v → f.schema.Accepts v := by
  unfold FieldAccepts
  cases Json.lookup? entries f.key <;> simp

-- the equations of a check, which the cases of a value are decided by
attribute [local simp] check

-- ============================================================== scalars

theorem accepts_any (v : Json) : any.Accepts v :=
  ⟨_, rfl⟩

theorem accepts_string {v : Json} : (string {}).Accepts v ↔ ∃ t, v = .str t := by
  cases v <;> simp [Accepts, checkLength, violated]

/-- Numbers have to be finite as doubles. -/
theorem accepts_number {v : Json} :
    (number {}).Accepts v ↔ (∃ n, v = .int n ∧ (Binary64.ofInt n).isFinite = true)
      ∨ ∃ x, v = .float x ∧ x.isFinite = true := by
  have hfinite (x : Binary64) : (∃ c, checkNumber {} x = .ok c) ↔ x.isFinite = true := by
    unfold checkNumber
    cases x.isFinite <;> simp [violated]
  cases v with
  | int n =>
      simp only [Accepts, check]
      cases h : (Binary64.ofInt n).isFinite with
      | true => simpa [h] using (hfinite _).2 h
      | false => simp [h, violated]
  | float x =>
      refine (hfinite x).trans ?_
      simp
  | _ => simp [Accepts, violated]

theorem accepts_boolean {v : Json} : boolean.Accepts v ↔ ∃ b, v = .bool b := by
  cases v <;> simp [Accepts, violated]

theorem accepts_object {v : Json} : object.Accepts v ↔ ∃ es, v = .obj es := by
  cases v <;> simp [Accepts, violated]

-- ================================================================ lists

/-- A length within its limits. -/
def Admits (limits : LengthLimits) (n : Nat) : Prop :=
  (∀ k ∈ limits.most, Int.ofNat n ≤ k) ∧ ∀ k ∈ limits.least, k ≤ Int.ofNat n

/-- The limits of a length are met when neither check finds a violation. -/
theorem admits_iff {limits : LengthLimits} {n : Nat} :
    Admits limits n ↔ limits.most.any (· < Int.ofNat n) = false
      ∧ limits.least.any (Int.ofNat n < ·) = false := by
  unfold Admits
  cases limits.most <;> cases limits.least <;> simp

/-- Items are collected exactly when none of them is refused. -/
theorem collectItems_eq_ok {i : Nat} {verdicts : List Verdict} {cs : List Checked} :
    collectItems i verdicts = .ok cs ↔ verdicts = cs.map .ok := by
  induction verdicts generalizing i cs with
  | nil => cases cs <;> simp [collectItems]
  | cons verdict rest ih =>
      have hrest := @ih (i + 1)
      rw [collectItems.eq_def]
      dsimp only
      cases verdict with
      | error e =>
          cases collectItems (i + 1) rest <;> cases cs <;> simp
      | ok c =>
          cases hcollect : collectItems (i + 1) rest with
          | error e =>
              rw [hcollect] at hrest
              cases cs with
              | nil => simp
              | cons c' others => simpa using fun _ h => nomatch hrest.2 h
          | ok others =>
              rw [hcollect] at hrest
              cases cs with
              | nil => simp
              | cons c' others' => simp [← hrest]

/-- The items are collected when each of them is accepted. -/
theorem exists_collectItems {item : Schema} {vs : List Json} :
    (∃ cs, collectItems 0 (vs.map item.check) = .ok cs) ↔ ∀ w ∈ vs, item.Accepts w := by
  simp only [collectItems_eq_ok]
  induction vs with
  | nil => exact ⟨fun _ _ h => (nomatch h), fun _ => ⟨[], rfl⟩⟩
  | cons v rest ih =>
      rw [List.forall_mem_cons, ← ih]
      constructor
      · rintro ⟨cs, h⟩
        cases cs with
        | nil => cases h
        | cons c cs =>
            obtain ⟨hc, hcs⟩ := List.cons.inj h
            exact ⟨⟨c, hc⟩, cs, hcs⟩
      · rintro ⟨⟨c, hc⟩, cs, hcs⟩
        exact ⟨c :: cs, by rw [List.map_cons, hc, hcs, List.map_cons]⟩

/-- A list accepts arrays of an admitted length whose items are all accepted. -/
theorem accepts_list {item : Schema} {limits : LengthLimits} {v : Json} :
    (list item limits).Accepts v ↔
      ∃ vs, v = .arr vs ∧ Admits limits vs.length ∧ ∀ w ∈ vs, item.Accepts w := by
  cases v with
  | arr vs =>
      have hitems : (∃ cs, collectItems 0 (vs.map item.check) = .ok cs) ↔ _ := exists_collectItems
      simp only [Json.arr.injEq, exists_eq_left', admits_iff]
      rw [← hitems, Accepts, check]
      cases limits.most.any (· < Int.ofNat vs.length) <;>
        cases limits.least.any (Int.ofNat vs.length < ·) <;>
        cases collectItems 0 (vs.map item.check) <;>
        simp [violated]
  | null => simp [Accepts, violated]
  | bool b => simp [Accepts, violated]
  | int n => simp [Accepts, violated]
  | float x => simp [Accepts, violated]
  | str s => simp [Accepts, violated]
  | obj es => simp [Accepts, violated]

-- =============================================================== models

/-- A model lists no unknown key when it knows all keys. -/
theorem unknownKeys_eq_nil {keys : List Text} {entries : List (Text × Json)} :
    unknownKeys keys entries = [] ↔ ∀ e ∈ entries, e.1 ∈ keys := by
  unfold unknownKeys
  rw [List.map_eq_nil_iff, List.filter_eq_nil_iff]
  simp

/-- Who refuses items says why, if everyone who refused one did. -/
theorem collectItems_ne_nil {i : Nat} {verdicts : List Verdict}
    (h : ∀ verdict ∈ verdicts, verdict ≠ .error []) : collectItems i verdicts ≠ .error [] := by
  induction verdicts generalizing i with
  | nil => simp [collectItems]
  | cons verdict rest ih =>
      obtain ⟨hfirst, hrest⟩ := List.forall_mem_cons.1 h
      have hrest := @ih (i + 1) hrest
      rw [collectItems.eq_def]
      dsimp only
      cases verdict with
      | ok c =>
          cases hcollect : collectItems (i + 1) rest with
          | ok cs => simp
          | error es => exact fun h => hrest (hcollect.trans h)
      | error e =>
          have he : within (.index i) e ≠ [] := fun h => hfirst (by rw [List.map_eq_nil_iff.1 h])
          cases collectItems (i + 1) rest with
          | ok cs => simpa using he
          | error es => simp [he]

/-- A violation is an issue. -/
@[simp] theorem violated_ne_nil (v : Violation) : violated v ≠ .error [] := by
  simp [violated]

/-- A moment outside of the calendar is refused with an issue. -/
theorem inCalendar_ne_nil (m : Moment) : inCalendar m ≠ .error [] := by
  unfold inCalendar
  split <;> simp

/-- What is no date is refused with an issue, whether it is text that cannot be read, a number
without a moment, or no text and no number. -/
theorem checkDate_ne_nil (v : Json) : checkDate v ≠ .error [] := by
  have hmoment (o : Option Moment) (x : Violation) :
      o.elim (violated x) inCalendar ≠ .error [] := by
    cases o with
    | none => exact violated_ne_nil x
    | some m => exact inCalendar_ne_nil m
  cases v with
  | str s =>
      unfold checkDate
      dsimp only
      split
      · exact inCalendar_ne_nil _
      · split
        · exact inCalendar_ne_nil _
        · exact violated_ne_nil _
  | int n => exact hmoment _ _
  | float x => exact hmoment _ _
  | null => exact violated_ne_nil _
  | bool b => exact violated_ne_nil _
  | arr vs => exact violated_ne_nil _
  | obj es => exact violated_ne_nil _

/-- Who refuses a number says why. -/
theorem checkNumber_ne_nil (limits : NumberLimits) (x : Binary64) :
    checkNumber limits x ≠ .error [] := by
  unfold checkNumber
  repeat' split
  all_goals simp

/-- Who refuses a list says why, if those who refuse its items do. -/
theorem check_list_ne_nil {item : Schema} {limits : LengthLimits}
    (hitem : ∀ w, item.check w ≠ .error []) (v : Json) :
    (list item limits).check v ≠ .error [] := by
  cases v with
  | arr vs =>
      have hitems : ∀ verdict ∈ vs.map item.check, verdict ≠ .error [] := by
        intro verdict hverdict
        obtain ⟨w, -, rfl⟩ := List.mem_map.1 hverdict
        exact hitem w
      have hcollect := collectItems_ne_nil (i := 0) hitems
      rw [check]
      split
      · simp
      · cases hitem : collectItems 0 (vs.map item.check) with
        | error issues => simpa [hitem] using hcollect
        | ok items =>
            dsimp only
            split <;> simp
  | _ => exact violated_ne_nil _

/-- Who refuses a model says why: the issues of its fields, or a key that is not known. -/
theorem check_model_ne_nil {name : Text} {fields : List (Field Schema)} (v : Json) :
    (model name fields).check v ≠ .error [] := by
  cases v with
  | obj entries =>
      rw [check]
      dsimp only
      split
      · simp
      case isFalse h => exact fun heq => h (by simpa using Except.error.inj heq)
  | _ => exact violated_ne_nil _

/-- Who refuses a value says why. -/
theorem check_ne_nil (s : Schema) (v : Json) : s.check v ≠ .error [] := by
  match s with
  | .any => simp
  | .string limits =>
      cases v with
      | str t =>
          rw [check]
          split <;> simp
      | _ => exact violated_ne_nil _
  | .number limits =>
      cases v with
      | int n =>
          rw [check]
          split
          · exact checkNumber_ne_nil limits _
          · exact violated_ne_nil _
      | float x => exact checkNumber_ne_nil limits x
      | _ => exact violated_ne_nil _
  | .boolean => cases v <;> simp
  | .object => cases v <;> simp
  | .date => exact checkDate_ne_nil v
  | .list item limits => exact check_list_ne_nil (fun w => check_ne_nil item w) v
  | .model name fields => exact check_model_ne_nil v
  | .reference name s => exact check_ne_nil s v
termination_by structural s

/-- The fields of a model find no issue when each of them has what it asks for. -/
theorem checkFields_issues {fields : List (Field Schema)} {entries : List (Text × Json)} :
    (checkFields fields entries).2 = [] ↔ ∀ f ∈ fields, FieldAccepts f entries := by
  induction fields with
  | nil => simp [checkFields]
  | cons f rest ih =>
      obtain ⟨key, required, schema⟩ := f
      rw [List.forall_mem_cons, ← ih, checkFields, FieldAccepts]
      dsimp only
      cases hvalue : Json.lookup? entries key with
      | none => cases required <;> simp
      | some v =>
          dsimp only
          unfold Accepts
          cases hc : schema.check v with
          | ok c => simp
          | error es =>
              have hes : es ≠ [] := fun h => schema.check_ne_nil v (h ▸ hc)
              simp [within, hes]

/-- A model accepts objects without unknown keys in which every field finds what it asks
for. -/
theorem accepts_model {name : Text} {fields : List (Field Schema)} {v : Json} :
    (model name fields).Accepts v ↔ ∃ entries, v = .obj entries
      ∧ (∀ e ∈ entries, e.1 ∈ fields.map (·.key)) ∧ ∀ f ∈ fields, FieldAccepts f entries := by
  cases v with
  | obj entries =>
      simp only [Json.obj.injEq, exists_eq_left']
      rw [← checkFields_issues, ← unknownKeys_eq_nil, Accepts, check]
      dsimp only
      cases (checkFields fields entries).2 <;>
        cases unknownKeys (fields.map (·.key)) entries <;> simp
  | _ => simp [Accepts, violated]

/-- What a field makes of the entries of an object: the value of its key as its schema
sees it, or null if there is none. -/
def FieldResult (entries : List (Text × Json)) (f : Field Schema) (result : Text × Checked) :
    Prop :=
  result.1 = f.key ∧ match Json.lookup? entries f.key with
    | none => result.2 = .given .null
    | some v => f.schema.check v = .ok result.2

/-- The results of fields stand under their keys. -/
theorem results_keys {fields : List (Field Schema)} {entries : List (Text × Json)}
    {record : List (Text × Checked)} (h : List.Forall₂ (FieldResult entries) fields record) :
    record.map (·.1) = fields.map (·.key) := by
  induction h with
  | nil => rfl
  | cons hfirst _ ih => rw [List.map_cons, List.map_cons, ih, hfirst.1]

/-- The result of a key that is left out is null. -/
theorem results_missing {fields : List (Field Schema)} {entries : List (Text × Json)}
    {record : List (Text × Checked)} (h : List.Forall₂ (FieldResult entries) fields record) :
    ∀ e ∈ record, Json.lookup? entries e.1 = none → e.2 = .given .null := by
  induction h with
  | nil => exact fun _ h => (nomatch h)
  | cons hfirst _ ih =>
      refine List.forall_mem_cons.2 ⟨fun hnone => ?_, ih⟩
      obtain ⟨hkey, hvalue⟩ := hfirst
      rw [hkey] at hnone
      rw [hnone] at hvalue
      exact hvalue

/-- Fields without issues have one result each, in their order. -/
theorem checkFields_results {fields : List (Field Schema)} {entries : List (Text × Json)}
    (h : (checkFields fields entries).2 = []) :
    List.Forall₂ (FieldResult entries) fields (checkFields fields entries).1 := by
  induction fields with
  | nil => exact .nil
  | cons f rest ih =>
      obtain ⟨key, required, schema⟩ := f
      rw [checkFields] at h ⊢
      dsimp only at h ⊢
      cases hvalue : Json.lookup? entries key with
      | none =>
          rw [hvalue] at h
          cases required with
          | true => cases h
          | false => exact .cons ⟨rfl, by rw [hvalue]⟩ (ih h)
      | some v =>
          rw [hvalue] at h
          dsimp only at h ⊢
          cases hc : schema.check v with
          | ok c =>
              rw [hc] at h
              exact .cons ⟨rfl, by rw [hvalue]; exact hc⟩ (ih h)
          | error es =>
              rw [hc] at h
              have hes : es = [] := List.map_eq_nil_iff.1 (List.append_eq_nil_iff.1 h).1
              exact absurd (hes ▸ hc) (schema.check_ne_nil v)

/-- What a model makes of an object it accepts: a record with a result for each field. -/
theorem check_model_ok {name : Text} {fields : List (Field Schema)}
    {entries : List (Text × Json)} {c : Checked}
    (h : (model name fields).check (.obj entries) = .ok c) :
    ∃ record, c = .record record ∧ List.Forall₂ (FieldResult entries) fields record := by
  rw [check] at h
  dsimp only at h
  split at h
  case isTrue hissues =>
    cases h
    have hnil := List.isEmpty_iff.1 hissues
    exact ⟨_, rfl, checkFields_results (List.append_eq_nil_iff.1 hnil).1⟩
  case isFalse => cases h

end TypeShape.Schema
