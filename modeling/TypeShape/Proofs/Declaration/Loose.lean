/-
Which loose data is a declaration.

Two entries may be missing: the properties of a declaration and the type of a property. What
stands there although it says nothing decides what is accepted, so the shape of a declaration is
told for any notion of a silent value. The values that count as no are silent
(`Declaration.ofJson_eq_ok_iff`), so that a property may well have the type false or zero. Where
no such value stands, the shape is the one in which only null is silent.
-/
import Mathlib.Data.List.Forall2
import TypeShape.Declaration.Loose
import TypeShape.Proofs.Sequence

namespace TypeShape

-- ======================================================== missing entries

namespace Json

/-- Nothing under a key, or a value that says nothing. -/
def Missing (silent : Json → Prop) (entry : Option Json) : Prop :=
  ∀ v ∈ entry, silent v

/-- A value that counts as no. -/
def Falsy (v : Json) : Prop :=
  v.isTruthy = false

/-- Only null is nothing. -/
def Null (v : Json) : Prop :=
  v = .null

variable {entry : Option Json}

theorem truthy?_eq_none_iff : truthy? entry = none ↔ Missing Falsy entry := by
  rw [truthy?, Option.filter_eq_none_iff]
  simp only [Missing, Falsy, Bool.not_eq_true, Option.mem_def]

theorem truthy?_eq_some_iff {v : Json} :
    truthy? entry = some v ↔ entry = some v ∧ v.isTruthy = true := by
  rw [truthy?, Option.filter_eq_some_iff]

theorem Missing.falsy (h : Missing Null entry) : Missing Falsy entry := by
  intro v hv
  rw [h v hv]
  rfl

/-- What counts as no under a key is null or the empty value of the kind asked for there. -/
def Frank (empty : Json) (entry : Option Json) : Prop :=
  ∀ v ∈ entry, v.Falsy → v = .null ∨ v = empty

/-- A frank entry that is missing is so by null, or is empty. -/
theorem Frank.missing {empty : Json} (frank : Frank empty entry) (h : Missing Falsy entry) :
    Missing Null entry ∨ entry = some empty := by
  cases entry with
  | none => exact .inl fun v hv => absurd hv (Option.not_mem_none v)
  | some v =>
      rcases frank v rfl (h v rfl) with hnull | rfl
      · exact .inl fun w hw => (Option.mem_some.1 hw).symm.trans hnull
      · exact .inr rfl

end Json

-- ============================================================= the shapes

section

variable (silent : Json → Prop)

/-- The type that an entry gives: its text, or any type if it is missing or empty. -/
inductive Property.GivesType : Option Json → Text → Prop
  | missing {entry : Option Json} (h : Json.Missing silent entry) : GivesType entry anyType
  | empty : GivesType (some (.str [])) anyType
  | text {t : Text} (h : t ≠ []) : GivesType (some (.str t)) t

/-- An object with a name and a type has the shape of a property. -/
inductive Property.Reads : Json → Property → Prop
  | object {entries : List (Text × Json)} {name type : Text}
      (named : Json.lookup? entries "name" = some (.str name))
      (typed : GivesType silent (Json.lookup? entries "type") type) :
      Reads (.obj entries) { name, type, isOptional := optionalMark entries }

/-- The properties that an entry gives: one for each item of a list, or none if it is missing. -/
inductive Declaration.GivesProperties : Option Json → List Property → Prop
  | missing {entry : Option Json} (h : Json.Missing silent entry) : GivesProperties entry []
  | list {items : List Json} {properties : List Property}
      (h : List.Forall₂ (Property.Reads silent) items properties) :
      GivesProperties (some (.arr items)) properties

/-- An object with a name and properties has the shape of a declaration. -/
inductive Declaration.Reads : Json → Declaration → Prop
  | object {entries : List (Text × Json)} {name : Text} {properties : List Property}
      (named : Json.lookup? entries "name" = some (.str name))
      (filled : GivesProperties silent (Json.lookup? entries "properties") properties) :
      Reads (.obj entries) {
        name
        kind := (Json.lookup? entries "kind").getD interfaceKind
        properties
        line := (Json.lookup? entries "line").getD .null }

end

-- =========================================================== what is read

namespace Property

/-- A type that counts as no is the default, and any other one has to be text. -/
theorem givesType_falsy_iff {entry : Option Json} {type : Text} :
    GivesType Json.Falsy entry type
      ↔ Json.truthy? entry = none ∧ type = anyType ∨ Json.truthy? entry = some (.str type) := by
  constructor
  · intro h
    cases h with
    | missing h => exact .inl ⟨Json.truthy?_eq_none_iff.2 h, rfl⟩
    | empty => exact .inl ⟨rfl, rfl⟩
    | text h => exact .inr (Json.truthy?_eq_some_iff.2 ⟨rfl, by simp [Json.isTruthy, h]⟩)
  · intro h
    rcases h with ⟨hnone, rfl⟩ | hsome
    · exact .missing (Json.truthy?_eq_none_iff.1 hnone)
    · obtain ⟨rfl, htruthy⟩ := Json.truthy?_eq_some_iff.1 hsome
      apply GivesType.text
      intro hnil
      rw [hnil] at htruthy
      cases htruthy

/-- A property is read exactly from its shape. -/
theorem ofJson_iff_reads {item : Json} {p : Property} :
    ofJson item = .ok p ↔ Reads Json.Falsy item p := by
  constructor
  · intro h
    unfold ofJson at h
    split at h
    case h_1 entries =>
      split at h
      case h_1 name hname =>
        have named : Json.lookup? entries "name" = some (.str name) := by
          cases hlookup : Json.lookup? entries "name" with
          | none =>
              rw [hlookup] at hname
              cases hname
          | some v =>
              rw [hlookup] at hname
              exact congrArg some hname
        split at h
        case h_1 htype =>
          cases h
          exact .object named (givesType_falsy_iff.2 (.inl ⟨htype, rfl⟩))
        case h_2 type htype =>
          cases h
          exact .object named (givesType_falsy_iff.2 (.inr htype))
        case h_3 => cases h
      case h_2 => cases h
    case h_2 => cases h
  · intro h
    cases h with
    | object named typed =>
        unfold ofJson
        simp only [named, Option.getD_some]
        rcases givesType_falsy_iff.1 typed with ⟨hnone, rfl⟩ | hsome
        · rw [hnone]
        · rw [hsome]

/-- What counts as no under the type of a property is null or an empty text. -/
def Frank (item : Json) : Prop :=
  ∀ entries, item = .obj entries → Json.Frank (.str []) (Json.lookup? entries "type")

/-- Where only null and the empty text count as no, the type is read as it is written. -/
theorem givesType_iff_of_frank {entry : Option Json} {type : Text}
    (frank : Json.Frank (.str []) entry) :
    GivesType Json.Falsy entry type ↔ GivesType Json.Null entry type := by
  constructor
  · intro h
    cases h with
    | missing h =>
        rcases frank.missing h with h | rfl
        · exact .missing h
        · exact .empty
    | empty => exact .empty
    | text h => exact .text h
  · intro h
    cases h with
    | missing h => exact .missing h.falsy
    | empty => exact .empty
    | text h => exact .text h

/-- In a frank property only null is silent. -/
theorem reads_iff_of_frank {item : Json} {p : Property} (frank : Frank item) :
    Reads Json.Falsy item p ↔ Reads Json.Null item p := by
  constructor
  · intro h
    cases h with
    | object named typed => exact .object named ((givesType_iff_of_frank (frank _ rfl)).1 typed)
  · intro h
    cases h with
    | object named typed => exact .object named ((givesType_iff_of_frank (frank _ rfl)).2 typed)

end Property

namespace Declaration

/-- Properties are read exactly if there is one for each item, in order. -/
theorem propertiesOfJson_eq_ok_iff {items : List Json} {properties : List Property} :
    propertiesOfJson items = .ok properties
      ↔ List.Forall₂ (Property.Reads Json.Falsy) items properties := by
  induction items generalizing properties with
  | nil =>
      constructor
      · intro h
        cases h
        exact .nil
      · intro h
        cases h
        rfl
  | cons item items ih =>
      constructor
      · intro h
        obtain ⟨p, hp, h⟩ := exists_of_bind_eq_ok h
        obtain ⟨more, hmore, h⟩ := exists_of_bind_eq_ok h
        cases h
        exact .cons (Property.ofJson_iff_reads.1 hp) (ih.1 hmore)
      · intro h
        cases h with
        | cons hp hmore =>
            rw [propertiesOfJson, Property.ofJson_iff_reads.2 hp, ih.2 hmore]
            rfl

/-- Properties that count as no are none, and any other ones have to be a list. -/
theorem givesProperties_falsy_iff {entry : Option Json} {properties : List Property} :
    GivesProperties Json.Falsy entry properties
      ↔ Json.truthy? entry = none ∧ properties = []
        ∨ ∃ items, Json.truthy? entry = some (.arr items)
          ∧ propertiesOfJson items = .ok properties := by
  constructor
  · intro h
    cases h with
    | missing h => exact .inl ⟨Json.truthy?_eq_none_iff.2 h, rfl⟩
    | @list items properties h =>
        cases items with
        | nil =>
            cases h
            exact .inl ⟨rfl, rfl⟩
        | cons item items =>
            exact .inr ⟨_, Json.truthy?_eq_some_iff.2 ⟨rfl, rfl⟩, propertiesOfJson_eq_ok_iff.2 h⟩
  · intro h
    rcases h with ⟨hnone, rfl⟩ | ⟨items, hsome, h⟩
    · exact .missing (Json.truthy?_eq_none_iff.1 hnone)
    · rw [(Json.truthy?_eq_some_iff.1 hsome).1]
      exact .list (propertiesOfJson_eq_ok_iff.1 h)

/-- The body of a declaration is read exactly from its properties. -/
theorem ofEntries_eq_ok_iff {name : Text} {entries : List (Text × Json)} {d : Declaration} :
    ofEntries name entries = .ok d
      ↔ ∃ properties,
          GivesProperties Json.Falsy (Json.lookup? entries "properties") properties
          ∧ d = {
              name
              kind := (Json.lookup? entries "kind").getD interfaceKind
              properties
              line := (Json.lookup? entries "line").getD .null } := by
  constructor
  · intro h
    unfold ofEntries at h
    split at h
    case h_1 hnone =>
      cases h
      exact ⟨[], givesProperties_falsy_iff.2 (.inl ⟨hnone, rfl⟩), rfl⟩
    case h_2 items hsome =>
      obtain ⟨properties, hitems, h⟩ := exists_of_bind_eq_ok h
      cases h
      exact ⟨properties, givesProperties_falsy_iff.2 (.inr ⟨items, hsome, hitems⟩), rfl⟩
    case h_3 => cases h
  · intro h
    obtain ⟨properties, filled, rfl⟩ := h
    unfold ofEntries
    rcases givesProperties_falsy_iff.1 filled with ⟨hnone, rfl⟩ | ⟨items, hsome, hitems⟩
    · rw [hnone]
      rfl
    · rw [hsome]
      simp only [hitems]
      rfl

/-- What counts as no under the properties of a declaration is null or an empty list, and in a
list every property is frank. -/
def Frank (item : Json) : Prop :=
  ∀ entries, item = .obj entries → Json.Frank (.arr []) (Json.lookup? entries "properties")
    ∧ ∀ items, Json.lookup? entries "properties" = some (.arr items) → ∀ i ∈ items, Property.Frank i

theorem forall₂_reads_iff_of_frank {items : List Json} {properties : List Property}
    (frank : ∀ i ∈ items, Property.Frank i) :
    List.Forall₂ (Property.Reads Json.Falsy) items properties
      ↔ List.Forall₂ (Property.Reads Json.Null) items properties := by
  induction items generalizing properties with
  | nil => rw [List.forall₂_nil_left_iff, List.forall₂_nil_left_iff]
  | cons item items ih =>
      obtain ⟨hitem, hitems⟩ := List.forall_mem_cons.1 frank
      simp only [List.forall₂_cons_left_iff, Property.reads_iff_of_frank hitem, ih hitems]

/-- Where only null and the empty list count as no, the properties are read as they are written.
-/
theorem givesProperties_iff_of_frank {entry : Option Json} {properties : List Property}
    (frank : Json.Frank (.arr []) entry)
    (hitems : ∀ items, entry = some (.arr items) → ∀ i ∈ items, Property.Frank i) :
    GivesProperties Json.Falsy entry properties ↔ GivesProperties Json.Null entry properties := by
  constructor
  · intro h
    cases h with
    | missing h =>
        rcases frank.missing h with h | rfl
        · exact .missing h
        · exact .list .nil
    | list h => exact .list ((forall₂_reads_iff_of_frank (hitems _ rfl)).1 h)
  · intro h
    cases h with
    | missing h => exact .missing h.falsy
    | list h => exact .list ((forall₂_reads_iff_of_frank (hitems _ rfl)).2 h)

/-- In a frank declaration only null is silent. -/
theorem reads_iff_of_frank {item : Json} {d : Declaration} (frank : Frank item) :
    Reads Json.Falsy item d ↔ Reads Json.Null item d := by
  constructor
  · intro h
    cases h with
    | object named filled =>
        obtain ⟨hentry, hitems⟩ := frank _ rfl
        exact .object named ((givesProperties_iff_of_frank hentry hitems).1 filled)
  · intro h
    cases h with
    | object named filled =>
        obtain ⟨hentry, hitems⟩ := frank _ rfl
        exact .object named ((givesProperties_iff_of_frank hentry hitems).2 filled)

/-- An object with a name that is text is read as its body is. -/
theorem ofJson_of_named {entries : List (Text × Json)} {name : Text}
    (named : Json.lookup? entries "name" = some (.str name)) :
    ofJson (.obj entries) = (ofEntries name entries).mapError (.body name) := by
  rw [ofJson, named]

/-- What has no name that is text is malformed as a whole. -/
theorem ofJson_of_unnamed {item : Json}
    (unnamed : ∀ entries name, item = .obj entries →
      Json.lookup? entries "name" ≠ some (.str name)) :
    ofJson item = .error (.declaration item) := by
  unfold ofJson
  split
  case h_1 entries =>
    split
    case h_1 name named => exact absurd named (unnamed entries name rfl)
    case h_2 => rfl
  case h_2 => rfl

/-- The shape in which the values that count as no are silent is what is read. -/
theorem ofJson_iff_reads {item : Json} {d : Declaration} :
    ofJson item = .ok d ↔ Reads Json.Falsy item d := by
  constructor
  · intro h
    unfold ofJson at h
    split at h
    case h_1 entries =>
      split at h
      case h_1 name named =>
        cases hbody : ofEntries name entries with
        | error fault =>
            rw [hbody] at h
            cases h
        | ok d' =>
            rw [hbody] at h
            cases h
            obtain ⟨properties, filled, rfl⟩ := ofEntries_eq_ok_iff.1 hbody
            exact .object named filled
      case h_2 => cases h
    case h_2 => cases h
  · intro h
    cases h with
    | object named filled =>
        rw [ofJson_of_named named, ofEntries_eq_ok_iff.2 ⟨_, filled, rfl⟩]
        rfl

/-- What fails has no name, or fails in the body of its name. -/
theorem ofJson_eq_error {item : Json} {fault : Malformed} (h : ofJson item = .error fault) :
    (∃ entries name shape, item = .obj entries
        ∧ Json.lookup? entries "name" = some (.str name) ∧ fault = .body name shape)
      ∨ (∀ entries name, item = .obj entries →
          Json.lookup? entries "name" ≠ some (.str name)) ∧ fault = .declaration item := by
  by_cases hnamed : ∃ entries name, item = .obj entries
      ∧ Json.lookup? entries "name" = some (.str name)
  · obtain ⟨entries, name, rfl, named⟩ := hnamed
    rw [ofJson_of_named named] at h
    cases hbody : ofEntries name entries with
    | error shape =>
        rw [hbody] at h
        cases h
        exact .inl ⟨entries, name, shape, rfl, named, rfl⟩
    | ok d =>
        rw [hbody] at h
        cases h
  · have unnamed : ∀ entries name, item = .obj entries →
        Json.lookup? entries "name" ≠ some (.str name) := by
      intro entries name hitem named
      exact hnamed ⟨entries, name, hitem, named⟩
    rw [ofJson_of_unnamed unnamed] at h
    cases h
    exact .inr ⟨unnamed, rfl⟩

/-- A declaration is read exactly from its shape in which the values that count as no are silent:
it has one property for each item of the list, in order, with its name and its type. Where such
a value stands for nothing only if it is null or empty itself, null alone is silent. Anything
else is malformed: as a whole if it has no name, and in the body of that name if it has one. -/
theorem ofJson_eq_ok_iff (item : Json) :
    (∀ d, ofJson item = .ok d ↔ Reads Json.Falsy item d)
      ∧ (Frank item → ∀ d, ofJson item = .ok d ↔ Reads Json.Null item d)
      ∧ ((¬ ∃ d, Reads Json.Falsy item d) → ∃ fault, ofJson item = .error fault
          ∧ ((∃ entries name shape, item = .obj entries
                ∧ Json.lookup? entries "name" = some (.str name) ∧ fault = .body name shape)
              ∨ (∀ entries name, item = .obj entries →
                  Json.lookup? entries "name" ≠ some (.str name)) ∧ fault = .declaration item)) := by
  refine ⟨fun d => ofJson_iff_reads, fun frank d => ?_, fun hnone => ?_⟩
  · rw [ofJson_iff_reads, reads_iff_of_frank frank]
  · cases h : ofJson item with
    | error fault => exact ⟨fault, rfl, ofJson_eq_error h⟩
    | ok d => exact absurd ⟨d, ofJson_iff_reads.1 h⟩ hnone

/-- Types that are empty or null are missing; a number is no type. -/
theorem ofJson_eq_ok_iff_missing :
    let item : Json := .obj [("name", .str "A"), ("properties", .arr [
      .obj [("name", .str "x"), ("type", .str [])],
      .obj [("name", .str "y"), ("type", .null), ("isOptional", .bool true)]])]
    let other : Json := .obj [("name", .str "A"), ("properties", .arr [
      .obj [("name", .str "x"), ("type", .int 1)]])]
    Frank item
      ∧ Reads Json.Null item {
          name := "A"
          kind := interfaceKind
          properties := [⟨"x", "any", false⟩, ⟨"y", "any", true⟩]
          line := .null }
      ∧ (¬ ∃ d, Reads Json.Falsy other d)
      ∧ ∃ fault, ofJson other = .error fault := by
  intro item other
  have frank : Frank item := by
    intro entries hentries
    unfold item at hentries
    cases hentries
    constructor
    · intro v hv hfalsy
      cases hv
      cases hfalsy
    · intro items hitems i hi entries hi'
      cases hitems
      rcases List.mem_pair.1 hi with rfl | rfl
      · cases hi'
        intro v hv _
        cases hv
        exact .inr rfl
      · cases hi'
        intro v hv _
        cases hv
        exact .inl rfl
  have hnone : ¬ ∃ d, Reads Json.Falsy other d := by
    intro h
    obtain ⟨d, h⟩ := h
    cases ((ofJson_eq_ok_iff other).1 d).2 h
  obtain ⟨fault, hfault, -⟩ := (ofJson_eq_ok_iff other).2.2 hnone
  exact ⟨frank, ((ofJson_eq_ok_iff item).2.1 frank _).1 rfl, hnone, fault, hfault⟩

/-- A property with the type false is read, and has any type. -/
theorem ofJson_falseType :
    let item : Json := .obj [("name", .str "A"), ("properties", .arr [
      .obj [("name", .str "x"), ("type", .bool false)]])]
    ofJson item = .ok {
        name := "A"
        kind := interfaceKind
        properties := [⟨"x", "any", false⟩]
        line := .null }
      ∧ ∀ d, ¬ Reads Json.Null item d := by
  intro item
  refine ⟨rfl, fun d h => ?_⟩
  unfold item at h
  obtain ⟨-, filled⟩ := h
  replace filled : GivesProperties Json.Null
    (some (.arr [.obj [("name", .str "x"), ("type", .bool false)]])) _ := filled
  cases filled with
  | missing hnull => cases hnull _ rfl
  | list hitems =>
      obtain ⟨p, more, hproperty, -⟩ := List.forall₂_cons_left_iff.1 hitems
      obtain ⟨-, typed⟩ := hproperty
      replace typed : Property.GivesType Json.Null (some (.bool false)) _ := typed
      cases typed with
      | missing hnull => cases hnull _ rfl

end Declaration

end TypeShape
