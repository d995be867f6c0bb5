/-
Checking values against schemas.

A check answers with the value as the schema sees it or with every violation, in the
order of the fields and items. Whole numbers become floating-point ones, dates become
moments, and a field that is left out becomes null.
-/
import TypeShape.Schema.Basic
import TypeShape.Time.Moment

namespace TypeShape

/-- What can be wrong with a value. -/
inductive Violation
  | notString | notNumber | notFinite | notBoolean | notObject | notList | notModel | notDate
  | badDate | badDateOrDay
  | stringTooShort | stringTooLong | listTooShort | listTooLong | belowLeast | aboveMost
  | missing | unknownKey
deriving DecidableEq

/-- A step from a value to a part of it. -/
inductive Step
  | key (k : Text)
  | index (i : Nat)
deriving DecidableEq

/-- A violation and the way to the part that has it. -/
structure Issue where
  violation : Violation
  path : List Step
deriving DecidableEq

/-- The name under which a violation is reported. -/
def Violation.code : Violation → Text
  | .notString => "string_type"
  | .notNumber => "float_type"
  | .notFinite => "finite_number"
  | .notBoolean => "bool_type"
  | .notObject => "dict_type"
  | .notList => "list_type"
  | .notModel => "model_type"
  | .notDate => "datetime_type"
  | .badDate => "datetime_parsing"
  | .badDateOrDay => "datetime_from_date_parsing"
  | .stringTooShort => "string_too_short"
  | .stringTooLong => "string_too_long"
  | .listTooShort => "too_short"
  | .listTooLong => "too_long"
  | .belowLeast => "greater_than_equal"
  | .aboveMost => "less_than_equal"
  | .missing => "missing"
  | .unknownKey => "extra_forbidden"

/-- A value as a schema sees it. -/
inductive Checked
  | given (value : Json)
  | number (value : Binary64)
  | moment (value : Moment)
  | list (items : List Checked)
  | record (fields : List (Text × Checked))
deriving Inhabited, BEq

/-- The outcome of a check. -/
abbrev Verdict := Except (List Issue) Checked

namespace Schema

-- ============================================================== scalars

/-- A violation of the value itself. -/
def violated (v : Violation) : Verdict :=
  .error [⟨v, []⟩]

/-- The upper limit is looked at before the lower one. -/
def checkLength (limits : LengthLimits) (n : Nat) (short long : Violation) :
    Option Violation :=
  if limits.most.any (· < Int.ofNat n) then some long
  else if limits.least.any (Int.ofNat n < ·) then some short
  else none

/-- The upper limit is looked at before the lower one. -/
def checkNumber (limits : NumberLimits) (x : Binary64) : Verdict :=
  if !x.isFinite then violated .notFinite
  else if limits.most.any (·.lt x) then violated .aboveMost
  else if limits.least.any x.lt then violated .belowLeast
  else .ok (.number x)

/-- A moment must lie in a year that calendars have. -/
def inCalendar (m : Moment) : Verdict :=
  if m.year = 0 then violated .badDate else .ok (.moment m)

/-- Dates are written, or counted on the Unix clock. -/
def checkDate : Json → Verdict
  | .str s =>
    match Moment.read? s with
    | some m => inCalendar m
    | none =>
      let counted := match Moment.count? s with
        | some (.inl n) => Moment.ofUnix? n 0
        | some (.inr x) => Moment.ofFloat? x
        | none => none
      match counted with
      | some m => inCalendar m
      | none => violated .badDateOrDay
  | .int n => (Moment.ofUnix? n 0).elim (violated .badDate) inCalendar
  | .float x => (Moment.ofFloat? x).elim (violated .badDate) inCalendar
  | _ => violated .notDate

-- ============================================================= composing

/-- The issues of a part, seen from the whole. -/
def within (step : Step) (issues : List Issue) : List Issue :=
  issues.map fun i => { i with path := step :: i.path }

/-- All items if all are accepted, else the issues of every item. -/
def collectItems (i : Nat) : List Verdict → Except (List Issue) (List Checked)
  | [] => .ok []
  | verdict :: rest =>
    match verdict, collectItems (i + 1) rest with
    | .ok v, .ok vs => .ok (v :: vs)
    | .ok _, .error es => .error es
    | .error e, .ok _ => .error (within (.index i) e)
    | .error e, .error es => .error (within (.index i) e ++ es)

/-- The keys of an object that no field has, in the order of the object. -/
def unknownKeys (keys : List Text) (entries : List (Text × Json)) : List Issue :=
  (entries.filter fun (k, _) => !keys.elem k).map fun (k, _) => ⟨.unknownKey, [.key k]⟩

mutual

/-- Check a value against a schema. -/
def check : Schema → Json → Verdict
  | .any, v => .ok (.given v)
  | .string limits, .str s =>
    match checkLength limits s.length .stringTooShort .stringTooLong with
    | some v => violated v
    | none => .ok (.given (.str s))
  | .string _, _ => violated .notString
  | .number limits, .int n =>
    let x := Binary64.ofInt n
    if x.isFinite then checkNumber limits x else violated .notNumber
  | .number limits, .float x => checkNumber limits x
  | .number _, _ => violated .notNumber
  | .boolean, .bool b => .ok (.given (.bool b))
  | .boolean, _ => violated .notBoolean
  | .object, .obj es => .ok (.given (.obj es))
  | .object, _ => violated .notObject
  | .date, v => checkDate v
  | .list item limits, .arr vs =>
    -- too long a list is refused before its items are looked at, too short a one after
    if limits.most.any (· < Int.ofNat vs.length) then violated .listTooLong
    else match collectItems 0 (vs.map (check item)) with
      | .error issues => .error issues
      | .ok items =>
        if limits.least.any (Int.ofNat vs.length < ·) then violated .listTooShort else .ok (.list items)
  | .list _ _, _ => violated .notList
  | .model _ fields, .obj entries =>
    let (accepted, issues) := checkFields fields entries
    let issues := issues ++ unknownKeys (fields.map (·.key)) entries
    if issues.isEmpty then .ok (.record accepted) else .error issues
  | .model _ _, _ => violated .notModel
  | .reference _ s, v => check s v
termination_by structural s => s

/-- Check the fields of a model in their order: what was accepted, and all issues. -/
def checkFields : List (Field Schema) → List (Text × Json) → List (Text × Checked) × List Issue
  | [], _ => ([], [])
  | ⟨key, required, schema⟩ :: rest, entries =>
    let (accepted, issues) := checkFields rest entries
    match Json.lookup? entries key with
    | none =>
      if required then (accepted, ⟨.missing, [.key key]⟩ :: issues)
      else ((key, .given .null) :: accepted, issues)
    | some v =>
      match check schema v with
      | .ok c => ((key, c) :: accepted, issues)
      | .error es => (accepted, within (.key key) es ++ issues)
termination_by structural fields => fields

end

end Schema

end TypeShape
