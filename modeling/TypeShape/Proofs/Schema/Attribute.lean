/-
Attribute names are distinct.

A name that is taken grows until it is free. There are more rounds than taken names, and
a longer name cannot meet a shorter one again, so the last name is free.
-/
import Mathlib.Data.List.Basic
import TypeShape.Registry.Basic
import TypeShape.Schema.Attribute

namespace TypeShape.Attribute

/-- The taken names that are at least as long as a name. -/
def rivals (taken : List Text) (name : Text) : Nat :=
  taken.countP fun t => name.length ≤ t.length

/-- A longer name has one rival less than a name that is taken. -/
theorem rivals_append_lt {taken : List Text} {name more : Text} (hname : name ∈ taken)
    (hmore : more ≠ []) : rivals taken (name ++ more) < rivals taken name := by
  have hlength : name.length < (name ++ more).length := by
    rw [List.length_append]
    exact Nat.lt_add_of_pos_right (List.length_pos_iff.2 hmore)
  have hle (rest : List Text) : rivals rest (name ++ more) ≤ rivals rest name :=
    List.countP_mono_left fun t _ ht => by
      simp only [decide_eq_true_eq] at ht ⊢
      omega
  obtain ⟨before, after, rfl⟩ := List.append_of_mem hname
  have hbefore := hle before
  have hafter := hle after
  have hshorter : ¬ decide ((name ++ more).length ≤ name.length) = true := by
    rw [decide_eq_true_eq]
    omega
  have hself : decide (name.length ≤ name.length) = true :=
    decide_eq_true (Nat.le_refl name.length)
  unfold rivals at hbefore hafter ⊢
  rw [List.countP_append, List.countP_append, List.countP_cons, List.countP_cons,
    if_neg hshorter, if_pos hself]
  omega

/-- With more rounds than rivals, a free name is found. -/
theorem free_notMem {taken : List Text} {index rounds : Nat} {name : Text}
    (h : rivals taken name < rounds) : free taken index rounds name ∉ taken := by
  induction rounds generalizing name with
  | zero => exact absurd h (Nat.not_lt_zero _)
  | succ rounds ih =>
      unfold free
      split
      case isTrue htaken =>
        have hlt : rivals taken (name ++ '_' :: positionText index) < rivals taken name :=
          rivals_append_lt (List.mem_of_elem_eq_true htaken) (List.cons_ne_nil _ _)
        exact ih (by omega)
      case isFalse hfree => exact fun h => hfree (List.elem_eq_true_of_mem h)

/-- The names of further keys are distinct, and none of them was taken before. -/
theorem namesFrom_nodup (taken : List Text) (index : Nat) (keys : List Text) :
    (namesFrom taken index keys).Nodup ∧ ∀ name ∈ namesFrom taken index keys, name ∉ taken := by
  induction keys generalizing taken index with
  | nil => exact ⟨.nil, fun _ h => (nomatch h)⟩
  | cons key rest ih =>
      have hfree : free taken index (taken.length + 1) (wanted key index) ∉ taken :=
        free_notMem (Nat.lt_succ_of_le List.countP_le_length)
      unfold namesFrom
      dsimp only
      generalize free taken index (taken.length + 1) (wanted key index) = name at hfree ⊢
      obtain ⟨hnodup, hnew⟩ := ih (taken ++ [name]) (index + 1)
      refine ⟨List.nodup_cons.2 ⟨fun hmem => ?_, hnodup⟩, ?_⟩
      · exact hnew name hmem (List.mem_append_right _ (List.mem_singleton.2 rfl))
      · rw [List.forall_mem_cons]
        exact ⟨hfree, fun other hmem htaken => hnew other hmem (List.mem_append_left _ htaken)⟩

/-- Every key gets a name. -/
theorem namesFrom_length (taken : List Text) (index : Nat) (keys : List Text) :
    (namesFrom taken index keys).length = keys.length := by
  induction keys generalizing taken index with
  | nil => rfl
  | cons key rest ih =>
      unfold namesFrom
      dsimp only
      rw [List.length_cons, ih, List.length_cons]

/-- Different keys never share an attribute name. -/
theorem names_nodup (keys : List Text) : (names keys).Nodup :=
  (namesFrom_nodup [] 0 keys).1

theorem names_length (keys : List Text) : (names keys).length = keys.length :=
  namesFrom_length [] 0 keys

-- ========================================================= definitions

/-- The definitions of a model's fields under their attribute names: of two under one name
only the later one would be left. -/
def definitions (fields : List (Field Schema)) : Table (Field Schema) :=
  ((names (fields.map (·.key))).zip fields).foldl (fun table (name, f) => table.set name f) []

/-- What gets a new name comes last. -/
theorem set_of_notMem {α : Type} {name : Text} {entry : α} {table : Table α}
    (h : name ∉ table.names) : table.set name entry = table ++ [(name, entry)] := by
  induction table with
  | nil => rfl
  | cons first rest ih =>
      obtain ⟨n, e⟩ := first
      obtain ⟨hne, hrest⟩ := not_or.1 (mt List.mem_cons.2 h)
      unfold Table.set
      rw [if_neg (by simpa using Ne.symm hne), ih hrest]
      rfl

/-- Entries under distinct names are all kept, in their order. -/
theorem foldl_set {α : Type} {entries table : Table α}
    (h : (table ++ entries).names.Nodup) :
    entries.foldl (fun table (name, e) => table.set name e) table = table ++ entries := by
  induction entries generalizing table with
  | nil => exact (List.append_nil table).symm
  | cons entry rest ih =>
      obtain ⟨name, e⟩ := entry
      have hname : name ∉ table.names := by
        rw [Table.names, List.map_append, List.map_cons] at h
        exact fun hmem => (List.nodup_append.1 h).2.2 name hmem name (List.mem_cons_self ..) rfl
      rw [List.foldl_cons]
      dsimp only
      rw [set_of_notMem hname, ih (by rwa [List.append_assoc]), List.append_assoc]
      rfl

/-- No definition of a field is lost. -/
theorem definitions_eq (fields : List (Field Schema)) :
    definitions fields = (names (fields.map (·.key))).zip fields := by
  refine (foldl_set ?_).trans (List.nil_append _)
  show (((names (fields.map (·.key))).zip fields).map Prod.fst).Nodup
  have hlength : (names (fields.map (·.key))).length = fields.length := by
    rw [names_length, List.length_map]
  rw [List.map_fst_zip (Nat.le_of_eq hlength)]
  exact names_nodup _

end TypeShape.Attribute
