/-
Tables that are filled one entry after another.

The first entry of a name stands and later ones are dropped, so a filled table is the table
before it, unchanged, and behind it the first entries of the new names. It does not matter
in how many goes a table is filled (`addAll_addAll`), and putting one suffix behind all names
changes nothing about which entries are first (`addAll_withSuffix`).
-/
import Mathlib.Data.List.Induction
import TypeShape.Proofs.Lookup

namespace TypeShape

namespace Table

variable {α : Type}

/-- Add entries one after another; those whose name is taken are dropped. -/
def addAll (t entries : Table α) : Table α :=
  entries.foldl (fun t e => t.add e.1 e.2) t

/-- The table with a suffix behind every name. -/
def withSuffix (suffix : Text) (t : Table α) : Table α :=
  t.map fun e => (e.1 ++ suffix, e.2)

-- ============================================================== one entry

/-- A name has an entry exactly when it is one of the names. -/
theorem isSome_find? {t : Table α} {name : Text} :
    (t.find? name).isSome = true ↔ name ∈ t.names := by
  rw [find?, Option.isSome_map, List.find?_isSome]
  simp [names]

theorem find?_eq_none {t : Table α} {name : Text} : t.find? name = none ↔ name ∉ t.names := by
  rw [← isSome_find?]
  simp

theorem add_of_mem {t : Table α} {name : Text} (h : name ∈ t.names) (entry : α) :
    t.add name entry = t := by
  rw [add, if_pos (isSome_find?.2 h)]

theorem add_of_notMem {t : Table α} {name : Text} (h : name ∉ t.names) (entry : α) :
    t.add name entry = t ++ [(name, entry)] := by
  rw [add, if_neg (mt isSome_find?.1 h)]

-- ============================================================ many entries

theorem addAll_cons (t : Table α) (e : Text × α) (entries : Table α) :
    t.addAll (e :: entries) = (t.add e.1 e.2).addAll entries := rfl

theorem addAll_append (t entries others : Table α) :
    t.addAll (entries ++ others) = (t.addAll entries).addAll others :=
  List.foldl_append

theorem addAll_concat (t entries : Table α) (e : Text × α) :
    t.addAll (entries ++ [e]) = (t.addAll entries).add e.1 e.2 :=
  t.addAll_append entries [e]

theorem names_append (t u : Table α) : names (t ++ u) = t.names ++ u.names :=
  List.map_append

/-- Behind the table as it was come the first entries of the names that it does not have. -/
theorem addAll_eq_append (t entries : Table α) :
    t.addAll entries = t ++ (addAll [] entries).filter fun e => e.1 ∉ t.names := by
  induction entries using List.reverseRecOn with
  | nil => simp [addAll]
  | append_singleton entries e ih =>
      rw [addAll_concat, addAll_concat, ih]
      by_cases taken : e.1 ∈ t.names
      · rw [add_of_mem (by rw [names_append]; exact List.mem_append_left _ taken)]
        by_cases known : e.1 ∈ (addAll [] entries).names
        · rw [add_of_mem known]
        · rw [add_of_notMem known]
          simp [List.filter_append, taken]
      · have same : e.1 ∈ names (t ++ (addAll [] entries).filter fun e => e.1 ∉ t.names)
            ↔ e.1 ∈ (addAll [] entries).names := by
          simp only [names, List.map_append, List.mem_append, List.mem_map, List.mem_filter]
          simp only [names, List.mem_map] at taken
          grind
        by_cases known : e.1 ∈ (addAll [] entries).names
        · rw [add_of_mem known, add_of_mem (same.2 known)]
        · rw [add_of_notMem known, add_of_notMem (mt same.1 known)]
          simp [List.filter_append, taken]

/-- The names of a table that is filled from nothing are the distinct names, in the order in
which they first come. -/
theorem names_addAll_nil (entries : Table α) :
    names (addAll [] entries) = (names entries).eraseDups := by
  induction entries using List.reverseRecOn with
  | nil => rfl
  | append_singleton entries e ih =>
      have mem : e.1 ∈ names (addAll [] entries) ↔ e.1 ∈ names entries := by
        rw [ih, List.mem_eraseDups]
      have last : [e.1].removeAll (names entries) = if e.1 ∈ names entries then [] else [e.1] := by
        by_cases known : e.1 ∈ names entries
        · rw [if_pos known]
          simpa [List.removeAll] using known
        · rw [if_neg known]
          simpa [List.removeAll] using known
      rw [addAll_concat, names_append, List.eraseDups_append, ← ih]
      show _ = _ ++ ([e.1].removeAll (names entries)).eraseDups
      rw [last]
      by_cases known : e.1 ∈ names entries
      · rw [add_of_mem (mem.2 known), if_pos known]
        exact (List.append_nil _).symm
      · rw [add_of_notMem (mt mem.1 known), names_append, if_neg known]
        rfl

/-- What a name leads to after an addition. -/
theorem find?_add_eq_or (t : Table α) (name other : Text) (entry : α) :
    (t.add name entry).find? other
      = (t.find? other).or (if name = other then some entry else none) := by
  by_cases taken : name ∈ t.names
  · rw [add_of_mem taken]
    by_cases same : name = other
    · obtain ⟨e, found⟩ := Option.isSome_iff_exists.1 (isSome_find?.2 taken)
      rw [← same, found]
      rfl
    · simp [same]
  · rw [add_of_notMem taken, find?_append]
    congr 1
    by_cases same : name = other
    · simp [find?, same]
    · simp [find?, same]

/-- In a filled table a name leads to what it led to before, or else to its first entry. -/
theorem find?_addAll (t entries : Table α) (name : Text) :
    (t.addAll entries).find? name = (t.find? name).or (find? entries name) := by
  induction entries generalizing t with
  | nil => simp [addAll, find?]
  | cons e entries ih =>
      have first : find? (e :: entries) name
          = (if e.1 = name then some e.2 else none).or (find? entries name) := by
        by_cases same : e.1 = name
        · simp [find?, same]
        · simp [find?, same]
      rw [addAll_cons, ih, find?_add_eq_or, first, Option.or_assoc]

/-- A name leads to its first entry. -/
theorem find?_first {earlier later : Table α} {name : Text} {entry : α}
    (h : name ∉ earlier.names) : find? (earlier ++ (name, entry) :: later) name = some entry := by
  rw [find?_append, find?_eq_none.2 h]
  simp [find?]

theorem mem_names_addAll {t entries : Table α} {name : Text} :
    name ∈ (t.addAll entries).names ↔ name ∈ t.names ∨ name ∈ entries.names := by
  rw [← isSome_find?, ← isSome_find?, ← isSome_find?, find?_addAll, Option.isSome_or,
    Bool.or_eq_true]

/-- A filled table holds nothing new. -/
theorem mem_addAll {t entries : Table α} {e : Text × α} (h : e ∈ t.addAll entries) :
    e ∈ t ∨ e ∈ entries := by
  induction entries generalizing t with
  | nil => exact .inl h
  | cons first rest ih =>
      rw [addAll_cons] at h
      rcases ih h with mem | mem
      · by_cases taken : first.1 ∈ t.names
        · rw [add_of_mem taken] at mem
          exact .inl mem
        · rw [add_of_notMem taken] at mem
          rcases List.mem_append.1 mem with mem | last
          · exact .inl mem
          · rw [List.mem_singleton.1 last]
            exact .inr (List.mem_cons_self ..)
      · exact .inr (List.mem_cons_of_mem _ mem)

/-- Filling a table with what another one was filled with comes to the same. -/
theorem addAll_addAll (t entries : Table α) : t.addAll (addAll [] entries) = t.addAll entries := by
  induction entries using List.reverseRecOn with
  | nil => rfl
  | append_singleton entries e ih =>
      rw [addAll_concat, addAll_concat]
      by_cases known : e.1 ∈ names entries
      · have here : e.1 ∈ names (addAll [] entries) := mem_names_addAll.2 (.inr known)
        have there : e.1 ∈ names (t.addAll entries) := mem_names_addAll.2 (.inr known)
        rw [add_of_mem here, add_of_mem there, ih]
      · have here : e.1 ∉ names (addAll [] entries) := by
          rw [mem_names_addAll]
          simp [names] at known ⊢
          exact known
        rw [add_of_notMem here, addAll_concat, ih]

-- ============================================================== suffixes

theorem withSuffix_append (suffix : Text) (t u : Table α) :
    withSuffix suffix (t ++ u) = t.withSuffix suffix ++ u.withSuffix suffix :=
  List.map_append

theorem names_withSuffix (suffix : Text) (t : Table α) :
    (t.withSuffix suffix).names = t.names.map (· ++ suffix) := by
  simp [names, withSuffix]

/-- A name with the suffix leads to what the name leads to. -/
theorem find?_withSuffix (suffix : Text) (t : Table α) (name : Text) :
    (t.withSuffix suffix).find? (name ++ suffix) = t.find? name := by
  induction t with
  | nil => rfl
  | cons e t ih =>
      by_cases same : e.1 = name
      · simp [find?, withSuffix, same]
      · simpa [find?, withSuffix, same] using ih

/-- Whether the suffix is put behind the names before or after the filling makes no
difference, since it keeps different names apart. -/
theorem addAll_withSuffix (suffix : Text) (t entries : Table α) :
    (t.withSuffix suffix).addAll (entries.withSuffix suffix)
      = (t.addAll entries).withSuffix suffix := by
  induction entries generalizing t with
  | nil => rfl
  | cons e entries ih =>
      have one : (t.withSuffix suffix).add (e.1 ++ suffix) e.2
          = (t.add e.1 e.2).withSuffix suffix := by
        unfold add
        rw [find?_withSuffix]
        split
        case isTrue => rfl
        case isFalse => simp [withSuffix]
      rw [addAll_cons, ← ih, ← one]
      rfl

/-- In a table that is filled from nothing a name leads to its first entry, also under a
suffix. -/
theorem find?_filled (suffix : Text) (entries : Table α) (name : Text) :
    ((addAll [] entries).withSuffix suffix).find? (name ++ suffix) = entries.find? name := by
  rw [find?_withSuffix, find?_addAll]
  rfl

/-- Tables that cannot be told apart by their names cannot be told apart under a suffix. -/
theorem find?_withSuffix_congr (suffix : Text) {t u : Table α}
    (h : ∀ name, t.find? name = u.find? name) (key : Text) :
    (t.withSuffix suffix).find? key = (u.withSuffix suffix).find? key := by
  by_cases hkey : suffix <:+ key
  · obtain ⟨name, rfl⟩ := hkey
    rw [find?_withSuffix, find?_withSuffix, h]
  · have absent : ∀ v : Table α, (v.withSuffix suffix).find? key = none := by
      intro v
      rw [find?_eq_none, names_withSuffix]
      intro mem
      obtain ⟨name, -, same⟩ := List.mem_map.1 mem
      exact hkey ⟨name, same⟩
    rw [absent, absent]

end Table

namespace Registry

variable {r : Registry} {schemas : Table Schema} {name : Text}

/-- Also know declarations, one after another. -/
def withInterfaces (r : Registry) (schemas : Table Schema) : Registry :=
  { r with interfaces := r.interfaces.addAll schemas }

theorem withInterfaces_append (r : Registry) (schemas others : Table Schema) :
    r.withInterfaces (schemas ++ others)
      = (r.withInterfaces schemas).withInterfaces others := by
  rw [withInterfaces, Table.addAll_append]
  rfl

/-- A name leads to what it led to, or else to the first schema under it. -/
theorem find?_withInterfaces (r : Registry) (schemas : Table Schema) (name : Text) :
    (r.withInterfaces schemas).interfaces.find? name
      = (r.interfaces.find? name).or (schemas.find? name) :=
  Table.find?_addAll ..

/-- A name that was not known leads to the first schema under it. -/
theorem find?_of_new (h : name ∉ r.interfaces.names) :
    (r.withInterfaces schemas).interfaces.find? name = schemas.find? name := by
  rw [find?_withInterfaces, Table.find?_eq_none.2 h]
  rfl

/-- A name that was known leads to what it led to. -/
theorem find?_of_known (h : name ∈ r.interfaces.names) :
    (r.withInterfaces schemas).interfaces.find? name = r.interfaces.find? name := by
  obtain ⟨s, found⟩ := Option.isSome_iff_exists.1 (Table.isSome_find?.2 h)
  rw [find?_withInterfaces, found]
  rfl

end Registry

end TypeShape
