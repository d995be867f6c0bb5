/-
A batch is one pass over its declarations.

Files only say where one stretch of declarations ends and the next one begins. What a batch
makes, which is all of its outcome except the warnings, can be told from the definitions
alone: the schemas of all declarations, one after another, each resolved in the registry
that the ones before it leave (`made_convert`). Whatever is true of the order in which
declarations come is proved of the definitions and read off here.
-/
import TypeShape.Batch.Basic
import TypeShape.Proofs.Registry.Filling
import TypeShape.Proofs.Resolve.Traced

namespace TypeShape

/-- What a batch makes. The warnings are left out: they tell apart a name that comes again
in a file from one that comes again in another file. -/
def Outcome.made (o : Outcome) : Table Schema × Registry :=
  (o.validators, o.registry)

namespace Batch

variable (read : LiteralReader) (suffix : Text)

-- ========================================================== definitions

/-- The schemas of declarations under their names, in order: each declaration is resolved in
the registry that the ones before it leave, and a name that comes again is listed again. -/
def definitions (r : Registry) : List Declaration → Traced (Table Schema)
  | [] => pure []
  | d :: rest => do
    let schema ← resolve read r d
    let others ← definitions (r.withInterface d.name schema) rest
    return (d.name, schema) :: others

variable {read}

/-- Declarations that follow are resolved in the registry that the others leave. -/
theorem definitions_append (r : Registry) (ds es : List Declaration) :
    definitions read r (ds ++ es) = do
      let earlier ← definitions read r ds
      let later ← definitions read (r.withInterfaces earlier) es
      return earlier ++ later := by
  induction ds generalizing r with
  | nil =>
      simp only [List.nil_append, definitions, pure_bind, bind_pure]
      rfl
  | cons d ds ih =>
      simp only [List.cons_append, definitions, ih, bind_assoc, pure_bind]
      rfl

/-- Every declaration is listed under its name. -/
theorem names_definitions {r : Registry} {ds : List Declaration} {defs : Table Schema}
    (h : (definitions read r ds).result = .ok defs) : defs.names = ds.map (·.name) := by
  induction ds generalizing r defs with
  | nil =>
      cases h
      rfl
  | cons d ds ih =>
      obtain ⟨schema, -, h⟩ := Traced.result_bind_eq_ok_iff.1 h
      obtain ⟨others, hothers, h⟩ := Traced.result_bind_eq_ok_iff.1 h
      cases h
      show d.name :: others.names = d.name :: ds.map (·.name)
      rw [ih hothers]

/-- The definitions of some declarations, and those of the ones that follow. -/
theorem definitions_append_eq_ok_iff {r : Registry} {before after : List Declaration}
    {defs : Table Schema} :
    (definitions read r (before ++ after)).result = .ok defs ↔
      ∃ earlier later, defs = earlier ++ later
        ∧ (definitions read r before).result = .ok earlier
        ∧ (definitions read (r.withInterfaces earlier) after).result = .ok later := by
  rw [definitions_append]
  constructor
  · intro h
    obtain ⟨earlier, hearlier, h⟩ := Traced.result_bind_eq_ok_iff.1 h
    obtain ⟨later, hlater, h⟩ := Traced.result_bind_eq_ok_iff.1 h
    cases h
    exact ⟨earlier, later, rfl, hearlier, hlater⟩
  · intro h
    obtain ⟨earlier, later, rfl, hearlier, hlater⟩ := h
    apply Traced.result_bind_eq_ok_iff.2 ⟨earlier, hearlier, ?_⟩
    exact Traced.result_bind_eq_ok_iff.2 ⟨later, hlater, rfl⟩

/-- The definitions up to a declaration, its own, and those after it. -/
theorem definitions_split {r : Registry} {before after : List Declaration} {d : Declaration}
    {defs : Table Schema} :
    (definitions read r (before ++ d :: after)).result = .ok defs ↔
      ∃ earlier schema later, defs = earlier ++ (d.name, schema) :: later
        ∧ (definitions read r before).result = .ok earlier
        ∧ (resolve read (r.withInterfaces earlier) d).result = .ok schema
        ∧ (definitions read ((r.withInterfaces earlier).withInterface d.name schema) after).result
            = .ok later := by
  rw [definitions_append_eq_ok_iff]
  constructor
  · intro h
    obtain ⟨earlier, rest, rfl, hearlier, hrest⟩ := h
    obtain ⟨schema, hschema, hrest⟩ := Traced.result_bind_eq_ok_iff.1 hrest
    obtain ⟨later, hlater, hrest⟩ := Traced.result_bind_eq_ok_iff.1 hrest
    cases hrest
    exact ⟨earlier, schema, later, rfl, hearlier, hschema, hlater⟩
  · intro h
    obtain ⟨earlier, schema, later, rfl, hearlier, hschema, hlater⟩ := h
    refine ⟨earlier, (d.name, schema) :: later, rfl, hearlier, ?_⟩
    apply Traced.result_bind_eq_ok_iff.2 ⟨schema, hschema, ?_⟩
    exact Traced.result_bind_eq_ok_iff.2 ⟨later, hlater, rfl⟩

/-- Definitions fail with the fault of the first declaration that is not resolved. -/
theorem definitions_eq_error {r : Registry} {ds : List Declaration} {e : Fault}
    (failed : (definitions read r ds).result = .error e) :
    ∃ before d after earlier, ds = before ++ d :: after
      ∧ (definitions read r before).result = .ok earlier
      ∧ (resolve read (r.withInterfaces earlier) d).result = .error e := by
  induction ds generalizing r with
  | nil => cases failed
  | cons d ds ih =>
      rcases Traced.result_bind_eq_error_iff.1 failed with here | ⟨schema, hschema, rest⟩
      · exact ⟨[], d, ds, [], rfl, rfl, here⟩
      · rcases Traced.result_bind_eq_error_iff.1 rest with rest | ⟨others, -, last⟩
        · obtain ⟨before, d', after, earlier, rfl, hearlier, there⟩ := ih rest
          refine ⟨d :: before, d', after, (d.name, schema) :: earlier, rfl, ?_, there⟩
          apply Traced.result_bind_eq_ok_iff.2 ⟨schema, hschema, ?_⟩
          exact Traced.result_bind_eq_ok_iff.2 ⟨earlier, hearlier, rfl⟩
        · cases last

-- ================================================================ files

variable {suffix}

theorem validators_collect (path name : Text) (schema : Schema) (o : Outcome) :
    (collect suffix path name schema o).validators = o.validators.add (name ++ suffix) schema := by
  unfold collect Table.add
  dsimp only
  split
  case isTrue => rfl
  case isFalse => rfl

theorem registry_collect (path name : Text) (schema : Schema) (o : Outcome) :
    (collect suffix path name schema o).registry = o.registry.withInterface name schema := by
  unfold collect
  dsimp only
  split
  case isTrue => rfl
  case isFalse => rfl

/-- The declarations of a file add their definitions to what there is. -/
theorem made_resolveAll (path : Text) (ds : List Declaration) (o : Outcome) :
    Outcome.made <$> resolveAll read suffix path (ds.map .ok) o
      = (fun defs => (o.validators.addAll (defs.withSuffix suffix), o.registry.withInterfaces defs))
          <$> definitions read o.registry ds := by
  induction ds generalizing o with
  | nil => rfl
  | cons d ds ih =>
      have item : Traced.ofResult ((Except.ok d : Except Malformed Declaration).mapError .malformed)
          = pure d := rfl
      simp only [List.map_cons, resolveAll, item, pure_bind, definitions, map_bind, map_pure]
      apply bind_congr
      intro schema
      rw [ih, validators_collect, registry_collect]
      simp only [map_eq_pure_bind]
      rfl

theorem made_resolveFile (r : Registry) (f : ParsedFile) :
    Outcome.made <$> resolveFile read suffix r (.parsed f)
      = (fun defs => (Table.addAll [] (defs.withSuffix suffix), r.withInterfaces defs))
          <$> definitions read r f.declarations :=
  made_resolveAll f.path f.declarations { validators := [], registry := r, warnings := [] }

-- ============================================================== merging

theorem mergeInto_eq (validators file : Table Schema) :
    (mergeInto validators file).1 = validators.addAll file := by
  induction file generalizing validators with
  | nil => rfl
  | cons e file ih =>
      obtain ⟨key, schema⟩ := e
      rw [mergeInto, Table.addAll_cons, Table.add]
      split
      case isTrue => exact ih validators
      case isFalse => exact ih _

/-- Merging fills one table with the entries of all files. -/
theorem merge_eq (validators : Table Schema) (files : List (Table Schema)) :
    (merge validators files).1 = validators.addAll files.flatten := by
  induction files generalizing validators with
  | nil => rfl
  | cons file files ih =>
      rw [List.flatten_cons, Table.addAll_append, ← mergeInto_eq validators file]
      exact ih _

-- ============================================================ one pass

/-- The validators of several files, on top of those that there are, and the registry that
the files leave. -/
def gather (validators : Table Schema) (x : Registry × List Outcome) : Table Schema × Registry :=
  (validators.addAll (x.2.map (·.validators)).flatten, x.1)

theorem gather_cons (validators : Table Schema) (r : Registry) (o : Outcome)
    (others : List Outcome) :
    gather validators (r, o :: others) = gather (validators.addAll o.validators) (r, others) := by
  simp [gather, Table.addAll_append]

theorem made_convert_eq_gather (r : Registry) (files : List BatchFile) :
    Outcome.made <$> convert read suffix r files = gather [] <$> resolveFiles read suffix r files := by
  simp only [convert, map_bind, map_pure]
  rw [map_eq_pure_bind]
  apply bind_congr
  intro x
  obtain ⟨registry, outcomes⟩ := x
  show pure ((merge [] _).1, registry) = pure (gather [] (registry, outcomes))
  rw [merge_eq]
  rfl

/-- Files that are gathered on top of what there is are one pass over their declarations. -/
theorem gather_resolveFiles (validators : Table Schema) (r : Registry) (files : List ParsedFile) :
    gather validators <$> resolveFiles read suffix r (files.map .parsed)
      = (fun defs => (validators.addAll (defs.withSuffix suffix), r.withInterfaces defs))
          <$> definitions read r (files.flatMap (·.declarations)) := by
  induction files generalizing validators r with
  | nil => rfl
  | cons f files ih =>
      calc gather validators <$> resolveFiles read suffix r (.parsed f :: files.map .parsed)
          = (do
              let o ← resolveFile read suffix r (.parsed f)
              gather (validators.addAll o.validators)
                <$> resolveFiles read suffix o.registry (files.map .parsed)) := by
            simp only [resolveFiles, map_bind, map_pure, gather_cons]
            simp only [map_eq_pure_bind]
        _ = (do
              let made ← Outcome.made <$> resolveFile read suffix r (.parsed f)
              gather (validators.addAll made.1)
                <$> resolveFiles read suffix made.2 (files.map .parsed)) := by
            simp only [bind_map_left]
            rfl
        _ = _ := by
            rw [made_resolveFile, List.flatMap_cons, definitions_append]
            simp only [bind_map_left, map_bind, map_pure, ih, Table.addAll_addAll,
              Table.withSuffix_append, Table.addAll_append, Registry.withInterfaces_append]
            simp only [map_eq_pure_bind]

/-- What a batch makes is told from its definitions: every name with the suffix has its first
schema, and the registry knows all declarations besides what it knew before. -/
theorem made_convert (r : Registry) (files : List ParsedFile) :
    Outcome.made <$> convert read suffix r (files.map .parsed)
      = (fun defs => ((Table.addAll [] defs).withSuffix suffix, r.withInterfaces defs))
          <$> definitions read r (files.flatMap (·.declarations)) := by
  rw [made_convert_eq_gather, gather_resolveFiles]
  simp only [← Table.addAll_withSuffix]
  rfl

/-- A batch makes what its definitions say, and nothing without them. -/
theorem convert_made_iff {r : Registry} {files : List ParsedFile} {m : Table Schema × Registry} :
    (∃ o, (convert read suffix r (files.map .parsed)).result = .ok o ∧ o.made = m)
      ↔ ∃ defs, (definitions read r (files.flatMap (·.declarations))).result = .ok defs
          ∧ ((Table.addAll [] defs).withSuffix suffix, r.withInterfaces defs) = m := by
  rw [← Traced.result_map_eq_ok_iff, made_convert, Traced.result_map_eq_ok_iff]

/-- The outcome of a batch that succeeds comes from definitions. -/
theorem definitions_of_convert {r : Registry} {files : List ParsedFile} {o : Outcome}
    (ok : (convert read suffix r (files.map .parsed)).result = .ok o) :
    ∃ defs, (definitions read r (files.flatMap (·.declarations))).result = .ok defs
      ∧ o.validators = (Table.addAll [] defs).withSuffix suffix
      ∧ o.registry = r.withInterfaces defs := by
  obtain ⟨defs, hdefs, made⟩ := convert_made_iff.1 ⟨o, ok, rfl⟩
  obtain ⟨hvalidators, hregistry⟩ := Prod.ext_iff.1 made
  exact ⟨defs, hdefs, hvalidators.symm, hregistry.symm⟩

/-- A batch fails as its definitions do. -/
theorem convert_eq_error_iff {r : Registry} {files : List ParsedFile} {e : Fault} :
    (convert read suffix r (files.map .parsed)).result = .error e
      ↔ (definitions read r (files.flatMap (·.declarations))).result = .error e := by
  rw [← Traced.result_map_eq_error_iff (f := Outcome.made), made_convert,
    Traced.result_map_eq_error_iff]

end Batch

end TypeShape
