/-
Finding by key: in lists, in the entries of objects and in tables.

All three take the first element that has the key, so a key that stands once leads to its
element, and a table that only gets new names keeps what it leads to.
-/
import Mathlib.Data.List.Nodup
import TypeShape.Json.Basic
import TypeShape.Registry.Basic

namespace TypeShape

-- ================================================================= lists

/-- Of distinct keys each one leads to its element. -/
theorem find?_key {α : Type} (key : α → Text) {elements : List α}
    (keys : (elements.map key).Nodup) {a : α} (h : a ∈ elements) :
    elements.find? (key · == key a) = some a := by
  induction elements with
  | nil => exact nomatch h
  | cons first rest ih =>
      rw [List.map_cons, List.nodup_cons] at keys
      rw [List.find?_cons]
      rcases List.mem_cons.1 h with rfl | h
      · rw [beq_self_eq_true]
      · have other : key first ≠ key a := fun same => keys.1 (same ▸ List.mem_map_of_mem h)
        rw [beq_eq_false_iff_ne.2 other]
        exact ih keys.2 h

/-- A key that no element has leads nowhere. -/
theorem find?_key_eq_none {α : Type} {key : α → Text} {elements : List α} {k : Text} :
    elements.find? (key · == k) = none ↔ k ∉ elements.map key := by
  rw [List.find?_eq_none, List.mem_map]
  constructor
  · rintro h ⟨a, mem, rfl⟩
    exact h a mem (beq_self_eq_true (key a))
  · intro h a mem same
    exact h ⟨a, mem, eq_of_beq same⟩

-- =============================================================== objects

namespace Json

variable {entries : List (Text × Json)} {key : Text} {v : Json}

theorem lookup?_eq_none : lookup? entries key = none ↔ key ∉ entries.map (·.1) := by
  rw [← find?_key_eq_none]
  exact Option.map_eq_none_iff

theorem mem_of_lookup? (h : lookup? entries key = some v) : (key, v) ∈ entries := by
  obtain ⟨⟨k, w⟩, found, rfl⟩ := Option.map_eq_some_iff.1 h
  have same := List.find?_some found
  obtain rfl : k = key := eq_of_beq same
  exact List.mem_of_find?_eq_some found

theorem lookup?_of_mem (keys : (entries.map (·.1)).Nodup) (h : (key, v) ∈ entries) :
    lookup? entries key = some v := by
  have found : entries.find? (·.1 == key) = some (key, v) := find?_key (·.1) keys h
  exact Option.map_eq_some_iff.2 ⟨_, found, rfl⟩

/-- Entries that follow are looked at only for keys that are not there. -/
theorem lookup?_append (others : List (Text × Json)) :
    lookup? (entries ++ others) key = (lookup? entries key).or (lookup? others key) := by
  unfold lookup?
  rw [List.find?_append]
  cases entries.find? _ <;> rfl

/-- Setting a key changes nothing under other keys. -/
theorem lookup?_insert (entries : List (Text × Json)) (key other : Text) (v : Json) :
    lookup? (insert key v entries) other = if key = other then some v else lookup? entries other := by
  unfold lookup?
  induction entries with
  | nil =>
      rw [insert, List.find?_singleton]
      cases Decidable.em (key = other) with
      | inl same => simp [same]
      | inr different => simp [different]
  | cons entry rest ih =>
      obtain ⟨k, w⟩ := entry
      rw [insert]
      split
      case isTrue here =>
        obtain rfl : k = key := eq_of_beq here
        rw [List.find?_cons, List.find?_cons]
        cases Decidable.em (k = other) with
        | inl same => simp [same]
        | inr different => simp [beq_eq_false_iff_ne.2 different, different]
      case isFalse away =>
        rw [List.find?_cons, List.find?_cons]
        cases Decidable.em (k = other) with
        | inl same =>
            have different : key ≠ other := fun h => away (beq_iff_eq.2 (same.trans h.symm))
            simp [same, different]
        | inr different => simp only [beq_eq_false_iff_ne.2 different, ih]

end Json

-- ================================================================ tables

namespace Table

variable {α : Type}

/-- What a name leads to is there. -/
theorem mem_of_find? {t : Table α} {name : Text} {entry : α} (h : t.find? name = some entry) :
    (name, entry) ∈ t := by
  obtain ⟨⟨n, e⟩, found, rfl⟩ := Option.map_eq_some_iff.1 h
  have same := List.find?_some found
  obtain rfl : n = name := eq_of_beq same
  exact List.mem_of_find?_eq_some found

/-- Every name keeps its entry. -/
def Extends (t u : Table α) : Prop :=
  ∀ name entry, t.find? name = some entry → u.find? name = some entry

theorem Extends.refl (t : Table α) : Extends t t :=
  fun _ _ h => h

theorem Extends.trans {t u v : Table α} (h : Extends t u) (g : Extends u v) : Extends t v :=
  fun name entry found => g name entry (h name entry found)

theorem find?_append (t u : Table α) (name : Text) :
    find? (t ++ u) name = (t.find? name).or (u.find? name) := by
  unfold find?
  rw [List.find?_append]
  cases List.find? _ t <;> rfl

/-- A name that is added takes nothing from the others. -/
theorem extends_add (t : Table α) (name : Text) (entry : α) : Extends t (t.add name entry) := by
  intro other e found
  unfold add
  split
  case isTrue => exact found
  case isFalse =>
    rw [find?_append, found]
    rfl

/-- After an addition, what a name leads to was there or was added. -/
theorem find?_add {t : Table α} {name other : Text} {entry e : α}
    (h : (t.add name entry).find? other = some e) : t.find? other = some e ∨ e = entry := by
  unfold add at h
  split at h
  case isTrue => exact .inl h
  case isFalse =>
    rw [find?_append] at h
    cases found : t.find? other with
    | some e' =>
        rw [found] at h
        exact .inl h
    | none =>
        rw [found] at h
        cases List.mem_singleton.1 (mem_of_find? h)
        exact .inr rfl

end Table

end TypeShape
