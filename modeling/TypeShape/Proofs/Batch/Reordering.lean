/-
The order of a batch decides only whether it succeeds.

A declaration can only refer to what comes before it, so a batch that succeeds in one order
may fail in another one. But it never comes to something else: whatever a declaration refers
to has the same schema in both orders. This is shown along one order, one declaration after
another; the other order is known as a whole from the start (`find?_definitions`).
-/
import TypeShape.Proofs.Batch.Pass
import TypeShape.Proofs.Resolve.Agreement

namespace TypeShape.Batch

variable {read : LiteralReader} {suffix : Text} {r : Registry}

/-- Two parts of orders leave registries that agree, if what the one part defines has the
same schemas in the whole that the other part begins. -/
theorem agrees_withInterfaces {earlier earlier' later' : Table Schema}
    (h : ∀ e ∈ earlier, (earlier' ++ later').find? e.1 = some e.2) :
    (r.withInterfaces earlier).Agrees (r.withInterfaces earlier') := by
  refine ⟨rfl, rfl, ?_⟩
  intro name s s' found found'
  rw [Registry.find?_withInterfaces] at found found'
  cases known : r.interfaces.find? name with
  | some target =>
      rw [known] at found found'
      exact Option.some.inj (found.symm.trans found')
  | none =>
      rw [known] at found found'
      have whole : (earlier' ++ later').find? name = some s := h _ (Table.mem_of_find? found)
      rw [Table.find?_append, show earlier'.find? name = some s' from found'] at whole
      exact (Option.some.inj whole).symm

/-- Declarations of a batch with distinct names have the same schemas in the whole batch,
in whichever order it comes. -/
theorem find?_definitions {ds ds' : List Declaration} {defs defs' : Table Schema}
    (distinct : (ds'.map (·.name)).Nodup) (subset : ∀ d ∈ ds, d ∈ ds')
    (hdefs : (definitions read r ds).result = .ok defs)
    (hdefs' : (definitions read r ds').result = .ok defs') :
    ∀ e ∈ defs, defs'.find? e.1 = some e.2 := by
  induction ds using List.reverseRecOn generalizing defs with
  | nil =>
      cases hdefs
      exact fun e he => nomatch he
  | append_singleton ds d ih =>
      obtain ⟨earlier, s, later, rfl, hearlier, hs, hlater⟩ := definitions_split.1 hdefs
      cases hlater
      have before : ∀ e ∈ earlier, defs'.find? e.1 = some e.2 :=
        ih (fun d' hd' => subset d' (List.mem_append_left _ hd')) hearlier
      -- where the declaration stands in the other order
      obtain ⟨front, back, rfl⟩ :=
        List.append_of_mem (subset d (List.mem_append_right _ (List.mem_singleton_self d)))
      obtain ⟨earlier', s', later', rfl, hearlier', hs', -⟩ := definitions_split.1 hdefs'
      have same : s = s' := agree_resolve read (agrees_withInterfaces before) d s s' hs hs'
      have first : d.name ∉ earlier'.names := by
        rw [names_definitions hearlier']
        rw [List.map_append, List.map_cons] at distinct
        exact fun mem => (List.nodup_append.1 distinct).2.2 _ mem _ (List.mem_cons_self ..) rfl
      intro e he
      rcases List.mem_append.1 he with he | he
      · exact before e he
      · rw [List.mem_singleton.1 he, same]
        exact Table.find?_first first

/-- A name leads to the same definition in both orders of a batch. -/
theorem find?_definitions_perm {ds ds' : List Declaration} {defs defs' : Table Schema}
    (perm : ds.Perm ds') (distinct : (ds.map (·.name)).Nodup)
    (hdefs : (definitions read r ds).result = .ok defs)
    (hdefs' : (definitions read r ds').result = .ok defs') (name : Text) :
    defs.find? name = defs'.find? name := by
  have distinct' : (ds'.map (·.name)).Nodup := (perm.map _).nodup_iff.1 distinct
  cases found : defs.find? name with
  | some s =>
      have h := find?_definitions distinct' (fun d hd => perm.mem_iff.1 hd) hdefs hdefs'
      exact (h _ (Table.mem_of_find? found)).symm
  | none =>
      have absent : name ∉ defs'.names := by
        rw [names_definitions hdefs', ← (perm.map _).mem_iff, ← names_definitions hdefs]
        exact Table.find?_eq_none.1 found
      exact (Table.find?_eq_none.2 absent).symm

/-- Two orders of a batch with distinct new names that both succeed come to the same: every
declared name has one schema, in the validators and the registry of both, and neither the
two maps of validators nor the two final registries can be told apart by any name. -/
theorem convert_reordered {files files' : List ParsedFile} {o o' : Outcome}
    (perm : (files.flatMap (·.declarations)).Perm (files'.flatMap (·.declarations)))
    (distinct : ((files.flatMap (·.declarations)).map (·.name)).Nodup)
    (new : ∀ d ∈ files.flatMap (·.declarations), d.name ∉ r.interfaces.names)
    (ok : (convert read suffix r (files.map .parsed)).result = .ok o)
    (ok' : (convert read suffix r (files'.map .parsed)).result = .ok o') :
    (∀ d ∈ files.flatMap (·.declarations), ∃ s,
      o.validators.find? (d.name ++ suffix) = some s
        ∧ o'.validators.find? (d.name ++ suffix) = some s
        ∧ o.registry.interfaces.find? d.name = some s
        ∧ o'.registry.interfaces.find? d.name = some s)
    ∧ (∀ key, o.validators.find? key = o'.validators.find? key)
    ∧ ∀ name, o.registry.interfaces.find? name = o'.registry.interfaces.find? name := by
  obtain ⟨defs, hdefs, hvalidators, hregistry⟩ := definitions_of_convert ok
  obtain ⟨defs', hdefs', hvalidators', hregistry'⟩ := definitions_of_convert ok'
  -- names are distinct, so every definition is found under its name in both orders
  have same : ∀ name, defs.find? name = defs'.find? name :=
    find?_definitions_perm perm distinct hdefs hdefs'
  refine ⟨?_, ?_, ?_⟩
  · intro d hd
    have mem : d.name ∈ defs.names := by
      rw [names_definitions hdefs]
      exact List.mem_map_of_mem hd
    obtain ⟨s, found⟩ := Option.isSome_iff_exists.1 (Table.isSome_find?.2 mem)
    have found' : defs'.find? d.name = some s := (same d.name).symm.trans found
    refine ⟨s, ?_, ?_, ?_, ?_⟩
    · rw [hvalidators, Table.find?_filled, found]
    · rw [hvalidators', Table.find?_filled, found']
    · rw [hregistry, Registry.find?_of_new (new d hd), found]
    · rw [hregistry', Registry.find?_of_new (new d hd), found']
  · rw [hvalidators, hvalidators']
    apply Table.find?_withSuffix_congr
    intro name
    rw [Table.find?_addAll, Table.find?_addAll, same]
  · intro name
    rw [hregistry, hregistry', Registry.find?_withInterfaces, Registry.find?_withInterfaces, same]

/-- Two orders of a declaration with a registered type and a modifier, one that refers to it
and one that does neither. -/
theorem convert_reordered_rotation :
    let read : LiteralReader := fun _ literal => .error (.noDeclaration literal)
    let r : Registry :=
      { types := [("Id<>", fun parameters => .ok (some (.model (parameters.headD []) [])))],
        modifiers := [("Short", fun s _ => .ok (some (s.constrain (.mostLength 3))))],
        interfaces := [("K", .string {})] }
    let a : Declaration := ⟨"A", .null, [⟨"id", "Id<K>", false⟩, ⟨"x", "K[] & Short", true⟩], .null⟩
    let b : Declaration := ⟨"B", .null, [⟨"a", "A[]", false⟩], .null⟩
    let c : Declaration := ⟨"C", .null, [⟨"y", "number", true⟩], .null⟩
    let files : List ParsedFile := [⟨"p.ts", [a, b]⟩, ⟨"q.ts", [c]⟩]
    let files' : List ParsedFile := [⟨"p.ts", [c, a, b]⟩]
    ∃ o o', (convert read "S" r (files.map .parsed)).result = .ok o
      ∧ (convert read "S" r (files'.map .parsed)).result = .ok o'
      ∧ o.validators.names = ["AS", "BS", "CS"].map String.toList
      ∧ o'.validators.names = ["CS", "AS", "BS"].map String.toList
      ∧ (∀ key, o.validators.find? key = o'.validators.find? key)
      ∧ ∀ name, o.registry.interfaces.find? name = o'.registry.interfaces.find? name := by
  intro read r a b c files files'
  have ok : (convert read "S" r (files.map .parsed)).result.toOption.map (·.validators.names)
      = some (["AS", "BS", "CS"].map String.toList) := by
    decide +kernel
  have ok' : (convert read "S" r (files'.map .parsed)).result.toOption.map (·.validators.names)
      = some (["CS", "AS", "BS"].map String.toList) := by
    decide +kernel
  obtain ⟨o, ok, names⟩ := Option.map_eq_some_iff.1 ok
  obtain ⟨o', ok', names'⟩ := Option.map_eq_some_iff.1 ok'
  have ok := toOption_eq_some_iff.1 ok
  have ok' := toOption_eq_some_iff.1 ok'
  have perm : (files.flatMap (·.declarations)).Perm (files'.flatMap (·.declarations)) :=
    (List.perm_append_comm : ([a, b] ++ [c]).Perm ([c] ++ [a, b]))
  have same := convert_reordered perm (by decide) (by decide) ok ok'
  exact ⟨o, o', ok, ok', names, names', same.2⟩

end TypeShape.Batch
