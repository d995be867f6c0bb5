/-
Models from fields with repeated keys.

A key that comes again keeps its place and takes the later field. So the keys of a model
are the distinct keys in the order of their first occurrence, and its fields are the last
ones of their keys.
-/
import Mathlib.Data.List.Induction
import TypeShape.Proofs.Schema.Accepts

namespace TypeShape

variable {σ : Type}

/-- The field is there and no later one has its key. -/
def Latest (fields : List (Field σ)) (f : Field σ) : Prop :=
  ∃ before after, fields = before ++ f :: after ∧ f.key ∉ after.map (·.key)

namespace Latest

variable {fields : List (Field σ)} {f g : Field σ}

theorem mem (h : Latest fields f) : f ∈ fields := by
  obtain ⟨before, after, rfl, -⟩ := h
  exact List.mem_append_right _ (List.mem_cons_self ..)

/-- Another field at the end is the last one of its key and of no other. -/
theorem concat_iff : Latest (fields ++ [g]) f ↔ f = g ∨ Latest fields f ∧ f.key ≠ g.key := by
  constructor
  · rintro ⟨before, after, h, hafter⟩
    rcases List.eq_nil_or_concat after with rfl | ⟨after, last, rfl⟩
    · obtain ⟨-, hlast⟩ := List.append_inj' h rfl
      exact .inl (List.cons.inj hlast).1.symm
    · rw [List.concat_eq_append] at h hafter
      rw [← List.cons_append, ← List.append_assoc] at h
      obtain ⟨hfields, hlast⟩ := List.append_inj' h rfl
      rw [List.map_append, List.mem_append, not_or] at hafter
      cases (List.cons.inj hlast).1
      exact .inr ⟨⟨before, after, hfields, hafter.1⟩, fun hkey => hafter.2 (by simp [hkey])⟩
  · rintro (rfl | ⟨⟨before, after, rfl, hafter⟩, hkey⟩)
    · exact ⟨fields, [], rfl, List.not_mem_nil⟩
    · refine ⟨before, after ++ [g], by simp, ?_⟩
      rw [List.map_append, List.mem_append, not_or]
      exact ⟨hafter, fun h => hkey (List.mem_singleton.1 h)⟩

/-- A field is the last one of its key if it is so in what follows, or stands first and
its key does not come again. -/
theorem cons_iff : Latest (g :: fields) f ↔ f = g ∧ g.key ∉ fields.map (·.key) ∨ Latest fields f := by
  constructor
  · rintro ⟨before, after, h, hafter⟩
    cases before with
    | nil =>
        cases h
        exact .inl ⟨rfl, hafter⟩
    | cons first before => exact .inr ⟨before, after, (List.cons.inj h).2, hafter⟩
  · rintro (⟨rfl, hkey⟩ | ⟨before, after, rfl, hafter⟩)
    · exact ⟨[], fields, rfl, hkey⟩
    · exact ⟨g :: before, after, rfl, hafter⟩

end Latest

/-- Fields that are related one by one, with the same keys. -/
theorem keys_of_forall₂ {τ : Type} {R : Field σ → Field τ → Prop} {fields : List (Field σ)}
    {others : List (Field τ)} (hkey : ∀ f g, R f g → g.key = f.key)
    (h : List.Forall₂ R fields others) : others.map (·.key) = fields.map (·.key) := by
  induction h with
  | nil => rfl
  | cons hfirst _ ih => rw [List.map_cons, List.map_cons, hkey _ _ hfirst, ih]

/-- Of fields that are related one by one, the last ones of the keys are related. -/
theorem Latest.of_forall₂ {τ : Type} {R : Field σ → Field τ → Prop} {fields : List (Field σ)}
    {others : List (Field τ)} {g : Field τ} (hkey : ∀ f g, R f g → g.key = f.key)
    (h : List.Forall₂ R fields others) (hg : Latest others g) :
    ∃ f, Latest fields f ∧ R f g := by
  induction h with
  | nil => cases hg.mem
  | cons hfirst hrest ih =>
      rcases Latest.cons_iff.1 hg with ⟨rfl, hnew⟩ | hg
      · rw [keys_of_forall₂ hkey hrest, hkey _ _ hfirst] at hnew
        exact ⟨_, Latest.cons_iff.2 (.inl ⟨rfl, hnew⟩), hfirst⟩
      · obtain ⟨f, hf, hR⟩ := ih hg
        exact ⟨f, Latest.cons_iff.2 (.inr hf), hR⟩

namespace Schema

variable {fields : List (Field Schema)} {f g : Field Schema}

/-- The fields of a model, each key once. -/
def fieldsOf (fields : List (Field Schema)) : List (Field Schema) :=
  fields.foldl (fun read f => insertField f read) []

theorem modelOf_eq (name : Text) (fields : List (Field Schema)) :
    modelOf name fields = model name (fieldsOf fields) := rfl

theorem fieldsOf_concat (fields : List (Field Schema)) (f : Field Schema) :
    fieldsOf (fields ++ [f]) = insertField f (fieldsOf fields) := by
  rw [fieldsOf, List.foldl_append]
  rfl

/-- A field takes the place of the one with its key, or the last place. -/
theorem insertField_keys (f : Field Schema) (fields : List (Field Schema)) :
    (insertField f fields).map (·.key)
      = fields.map (·.key) ++ if f.key ∈ fields.map (·.key) then [] else [f.key] := by
  induction fields with
  | nil => rfl
  | cons g rest ih =>
      unfold insertField
      by_cases hkey : g.key = f.key
      · simp [hkey]
      · rw [if_neg (by simpa using hkey), List.map_cons, ih]
        simp [Ne.symm hkey]

/-- The keys of a model are the distinct keys in the order in which they first come. -/
theorem fieldsOf_keys (fields : List (Field Schema)) :
    (fieldsOf fields).map (·.key) = (fields.map (·.key)).eraseDups := by
  induction fields using List.reverseRecOn with
  | nil => rfl
  | append_singleton fields f ih =>
      rw [fieldsOf_concat, insertField_keys, ih, List.map_append, List.eraseDups_append]
      simp only [List.mem_eraseDups]
      generalize fields.map (·.key) = keys
      rw [List.map_cons, List.map_nil, List.removeAll]
      by_cases hkey : f.key ∈ keys <;> simp [hkey, List.eraseDups_cons]

/-- No key of a model comes twice. -/
theorem fieldsOf_nodup (fields : List (Field Schema)) :
    ((fieldsOf fields).map (·.key)).Nodup := by
  induction fields using List.reverseRecOn with
  | nil => exact .nil
  | append_singleton fields f ih =>
      rw [fieldsOf_concat, insertField_keys]
      split
      · rwa [List.append_nil]
      case isFalse hkey =>
        refine List.nodup_append.2 ⟨ih, List.pairwise_singleton .., ?_⟩
        rintro key hmem _ hlast rfl
        exact hkey (List.mem_singleton.1 hlast ▸ hmem)

/-- With distinct keys, a field that is put in displaces the one with its key. -/
theorem mem_insertField (hnodup : (fields.map (·.key)).Nodup) :
    f ∈ insertField g fields ↔ f = g ∨ f ∈ fields ∧ f.key ≠ g.key := by
  induction fields with
  | nil => simp [insertField]
  | cons first rest ih =>
      obtain ⟨hfirst, hrest⟩ := List.nodup_cons.1 hnodup
      unfold insertField
      have hmem {key : Text} (h : f ∈ rest) (hkey : first.key = key) : f.key ≠ key := by
        rintro rfl
        exact hfirst (List.mem_map.2 ⟨f, h, hkey.symm⟩)
      by_cases hkey : first.key = g.key
      · rw [if_pos (by simpa using hkey), List.mem_cons, List.mem_cons]
        constructor
        · rintro (h | h)
          · exact .inl h
          · exact .inr ⟨.inr h, hmem h hkey⟩
        · rintro (h | ⟨rfl | h, hne⟩)
          · exact .inl h
          · exact absurd hkey hne
          · exact .inr h
      · rw [if_neg (by simpa using hkey), List.mem_cons, List.mem_cons, ih hrest]
        constructor
        · rintro (rfl | h | ⟨h, hne⟩)
          · exact .inr ⟨.inl rfl, hkey⟩
          · exact .inl h
          · exact .inr ⟨.inr h, hne⟩
        · rintro (h | ⟨rfl | h, hne⟩)
          · exact .inr (.inl h)
          · exact .inl rfl
          · exact .inr (.inr ⟨h, hne⟩)

/-- The fields of a model are the last ones of their keys. -/
theorem mem_fieldsOf : f ∈ fieldsOf fields ↔ Latest fields f := by
  induction fields using List.reverseRecOn with
  | nil => exact ⟨fun h => (nomatch h), fun h => (nomatch h.mem)⟩
  | append_singleton fields g ih =>
      rw [fieldsOf_concat, mem_insertField (fieldsOf_nodup fields), ih, Latest.concat_iff]

/-- A model made of fields accepts objects whose keys are all among theirs, and in which
the last field of every key finds what it asks for. -/
theorem accepts_modelOf {name : Text} {v : Json} :
    (modelOf name fields).Accepts v ↔ ∃ entries, v = .obj entries
      ∧ (∀ e ∈ entries, e.1 ∈ fields.map (·.key))
      ∧ ∀ f, Latest fields f → FieldAccepts f entries := by
  rw [modelOf_eq, accepts_model]
  simp only [fieldsOf_keys, List.mem_eraseDups, mem_fieldsOf]

end Schema

end TypeShape
