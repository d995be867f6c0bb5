/-
Every definition of a batch is a validator or is warned about, and none is both.

Keys are collected in two loops, over the declarations of a file and over the tables that the
files leave, and either loop keeps a key or warns about it. The invariant of both is that the
keys so far are balanced (`Balanced`): the keys of the table and of the warnings together are
the keys that came, each as often as it came, and every key that came is in the table, once.
Balanced files that are merged are a balanced batch, so a key that came `n` times is warned about
`n - 1` times (`convert_balanced`).
-/
import Mathlib.Data.List.Perm.Basic
import TypeShape.Proofs.Batch.Pass

namespace TypeShape

-- ============================================================== messages

namespace Warning

/-- The key that is warned about. -/
def key : Warning → Text
  | inFile key _ => key
  | acrossFiles key => key

/-- Where it is defined again. -/
def place : Warning → Text
  | inFile _ path => path
  | acrossFiles _ => "selected files"

/-- A warning names its key and a place. -/
theorem message_eq (w : Warning) :
    w.message = "Multiple definition of \"" ++ w.key ++ "\" in " ++ w.place := by
  cases w with
  | inFile key path => rfl
  | acrossFiles key =>
      have hplace : "\" in selected files".toList = "\" in ".toList ++ "selected files".toList := by
        decide +kernel
      exact (congrArg (_ ++ ·) hplace).trans (List.append_assoc ..).symm

end Warning

-- =============================================================== balance

/-- The keys that came are accounted for by a table and warnings. -/
structure Balanced (came : List Text) (table : Table Schema) (warnings : List Warning) : Prop where
  /-- Each key is in the table or in a warning as often as it came. -/
  all : (warnings.map Warning.key ++ table.names).Perm came
  /-- The table has every key that came. -/
  kept : came ⊆ table.names
  /-- It has none of them twice. -/
  once : table.names.Nodup

namespace Balanced

variable {came : List Text} {table : Table Schema} {warnings ws : List Warning}

theorem nil : Balanced [] [] [] :=
  ⟨.nil, List.nil_subset _, List.nodup_nil⟩

/-- A key that is in the table is warned about. -/
theorem warn (h : Balanced came table warnings) {w : Warning} (known : w.key ∈ table.names) :
    Balanced (came ++ [w.key]) table (warnings ++ [w]) where
  all := by
    rw [List.map_append, List.append_assoc]
    exact (List.perm_append_comm.append_left _).trans (by
      rw [← List.append_assoc]
      exact h.all.append_right _)
  kept := List.append_subset.2 ⟨h.kept, List.cons_subset.2 ⟨known, List.nil_subset _⟩⟩
  once := h.once

/-- A new key comes into the table. -/
theorem keep (h : Balanced came table warnings) {key : Text} (new : key ∉ table.names)
    (schema : Schema) : Balanced (came ++ [key]) (table ++ [(key, schema)]) warnings where
  all := by
    rw [Table.names_append, ← List.append_assoc]
    exact h.all.append_right _
  kept := by
    rw [Table.names_append]
    exact List.append_subset.2 ⟨List.subset_append_of_subset_left _ h.kept,
      List.subset_append_right _ _⟩
  once := by
    rw [Table.names_append]
    exact h.once.append (List.nodup_singleton key) (List.disjoint_singleton.2 new)

/-- As many keys came as there are warnings and entries. -/
theorem length_eq (h : Balanced came table warnings) :
    warnings.length + table.length = came.length := by
  have hlength := h.all.length_eq
  rwa [List.length_append, List.length_map, Table.names, List.length_map] at hlength

/-- A key is warned about each time it comes but the first. -/
theorem count_eq (h : Balanced came table warnings) (key : Text) :
    (warnings.map Warning.key).count key = came.count key - 1 := by
  have hcount := h.all.count_eq key
  rw [List.count_append] at hcount
  by_cases hcame : key ∈ came
  · rw [List.count_eq_one_of_mem h.once (h.kept hcame)] at hcount
    omega
  · rw [List.count_eq_zero.2 hcame] at hcount ⊢
    omega

end Balanced

-- ============================================================== declaring

/-- The name and the declarations of a file, all of which are well-formed. -/
def BatchFile.Declares (file : BatchFile) (declared : Text × List Declaration) : Prop :=
  file.contents = .ok (declared.1, declared.2.map .ok)

namespace Batch

variable {read : LiteralReader} {suffix : Text}

/-- The keys of declarations. -/
def keys (suffix : Text) (ds : List Declaration) : List Text :=
  ds.map fun d => d.name ++ suffix

/-- One more declaration of a file. -/
theorem balanced_collect {came : List Text} {o : Outcome}
    (h : Balanced came o.validators o.warnings) (path name : Text) (schema : Schema) :
    Balanced (came ++ [name ++ suffix]) (collect suffix path name schema o).validators
      (collect suffix path name schema o).warnings := by
  unfold collect
  dsimp only
  split
  case isTrue known => exact h.warn (w := .inFile _ path) (Table.isSome_find?.1 known)
  case isFalse new => exact h.keep (mt Table.isSome_find?.2 new) schema

/-- The declarations of a file, on top of what there is. -/
theorem balanced_resolveAll {path : Text} {items : List (Except Malformed Declaration)}
    {came : List Text} {o o' : Outcome} (h : Balanced came o.validators o.warnings)
    (ok : (resolveAll read suffix path items o).result = .ok o') :
    ∃ ds, items = ds.map .ok ∧ Balanced (came ++ keys suffix ds) o'.validators o'.warnings := by
  induction items generalizing came o with
  | nil =>
      cases ok
      exact ⟨[], rfl, by rwa [keys, List.map_nil, List.append_nil]⟩
  | cons item items ih =>
      obtain ⟨d, hd, ok⟩ := Traced.result_bind_eq_ok_iff.1 ok
      obtain ⟨schema, -, ok⟩ := Traced.result_bind_eq_ok_iff.1 ok
      have hitem : item = .ok d := by
        cases item with
        | error e => cases hd
        | ok d' =>
            cases hd
            rfl
      obtain ⟨ds, rfl, hds⟩ := ih (balanced_collect h path d.name schema) ok
      refine ⟨d :: ds, by rw [hitem, List.map_cons], ?_⟩
      rwa [List.append_assoc] at hds

/-- The keys of one file are balanced with what it warns about. -/
theorem balanced_resolveFile {r : Registry} {file : BatchFile} {o : Outcome}
    (ok : (resolveFile read suffix r file).result = .ok o) :
    ∃ declared, file.Declares declared
      ∧ Balanced (keys suffix declared.2) o.validators o.warnings := by
  obtain ⟨⟨path, items⟩, hcontents, ok⟩ := Traced.result_bind_eq_ok_iff.1 ok
  obtain ⟨ds, rfl, hds⟩ := balanced_resolveAll Balanced.nil ok
  refine ⟨(path, ds), ?_, hds⟩
  unfold BatchFile.Declares
  cases h : file.contents with
  | error e =>
      rw [h] at hcontents
      cases hcontents
  | ok contents =>
      rw [h] at hcontents
      cases hcontents
      rfl

/-- Each file on its own is balanced. -/
theorem balanced_resolveFiles {r r' : Registry} {files : List BatchFile} {outcomes : List Outcome}
    (ok : (resolveFiles read suffix r files).result = .ok (r', outcomes)) :
    ∃ declared, List.Forall₂ BatchFile.Declares files declared
      ∧ List.Forall₂ (fun d o => Balanced (keys suffix d.2) o.validators o.warnings)
          declared outcomes := by
  induction files generalizing r outcomes with
  | nil =>
      cases ok
      exact ⟨[], .nil, .nil⟩
  | cons file files ih =>
      obtain ⟨o, ho, ok⟩ := Traced.result_bind_eq_ok_iff.1 ok
      obtain ⟨⟨r'', others⟩, hothers, ok⟩ := Traced.result_bind_eq_ok_iff.1 ok
      cases ok
      obtain ⟨d, hd, hbalanced⟩ := balanced_resolveFile ho
      obtain ⟨ds, hds, hrest⟩ := ih hothers
      exact ⟨d :: ds, .cons hd hds, .cons hbalanced hrest⟩

-- =============================================================== merging

/-- One more table. -/
theorem balanced_mergeInto {came : List Text} {table : Table Schema} {warnings : List Warning}
    (h : Balanced came table warnings) (file : Table Schema) :
    Balanced (came ++ file.names) (mergeInto table file).1
      (warnings ++ (mergeInto table file).2) := by
  induction file generalizing came table warnings with
  | nil => simpa [mergeInto, Table.names] using h
  | cons e file ih =>
      obtain ⟨key, schema⟩ := e
      rw [mergeInto]
      split
      case isTrue known =>
        have hrest := ih (h.warn (w := .acrossFiles key) (Table.isSome_find?.1 known))
        rwa [List.append_assoc, List.append_assoc] at hrest
      case isFalse new =>
        have hrest := ih (h.keep (mt Table.isSome_find?.2 new) schema)
        rwa [List.append_assoc] at hrest

theorem balanced_merge {came : List Text} {table : Table Schema} {warnings : List Warning}
    (h : Balanced came table warnings) (files : List (Table Schema)) :
    Balanced (came ++ files.flatMap Table.names) (merge table files).1
      (warnings ++ (merge table files).2) := by
  induction files generalizing came table warnings with
  | nil => simpa [merge] using h
  | cons file files ih =>
      have hrest := ih (balanced_mergeInto h file)
      rw [merge, List.flatMap_cons]
      simpa only [List.append_assoc] using hrest

variable {declared : List (Text × List Declaration)} {outcomes : List Outcome}

theorem keys_flatMap (declared : List (Text × List Declaration)) :
    keys suffix (declared.flatMap (·.2)) = declared.flatMap fun d => keys suffix d.2 :=
  List.map_flatMap

/-- What the files keep and warn about are the declared keys. -/
theorem all_files
    (files : List.Forall₂ (fun d o => Balanced (keys suffix d.2) o.validators o.warnings)
      declared outcomes) :
    ((outcomes.flatMap (·.warnings)).map Warning.key
      ++ outcomes.flatMap (·.validators.names)).Perm (keys suffix (declared.flatMap (·.2))) := by
  have hfiles : List.Forall₂ List.Perm
      (outcomes.map fun o => o.warnings.map Warning.key ++ o.validators.names)
      (declared.map fun d => keys suffix d.2) := by
    rw [List.forall₂_map_left_iff, List.forall₂_map_right_iff]
    exact files.flip.imp fun o d h => h.all
  rw [List.map_flatMap, keys_flatMap]
  exact (List.flatMap_append_perm ..).trans (List.Perm.flatten_congr hfiles)

/-- Every declared key is kept by a file. -/
theorem kept_files
    (files : List.Forall₂ (fun d o => Balanced (keys suffix d.2) o.validators o.warnings)
      declared outcomes) :
    keys suffix (declared.flatMap (·.2)) ⊆ outcomes.flatMap (·.validators.names) := by
  rw [keys_flatMap]
  induction files with
  | nil => exact List.nil_subset _
  | cons hfile _ ih =>
      rw [List.flatMap_cons, List.flatMap_cons]
      exact List.append_subset.2 ⟨List.subset_append_of_subset_left _ hfile.kept,
        List.subset_append_of_subset_right _ ih⟩

/-- Whenever a batch succeeds, its validators and warnings balance its declarations. -/
theorem convert_balanced {r : Registry} {files : List BatchFile} {o : Outcome}
    (ok : (convert read suffix r files).result = .ok o) :
    ∃ declared, List.Forall₂ BatchFile.Declares files declared
      ∧ Balanced (keys suffix (declared.flatMap (·.2))) o.validators o.warnings := by
  obtain ⟨⟨registry, outcomes⟩, houtcomes, ok⟩ := Traced.result_bind_eq_ok_iff.1 ok
  cases ok
  obtain ⟨declared, hdeclared, hfiles⟩ := balanced_resolveFiles houtcomes
  have hmerged := balanced_merge .nil (outcomes.map (·.validators))
  rw [List.nil_append, List.nil_append, List.flatMap_map] at hmerged
  have hkept := List.Subset.trans (kept_files hfiles) hmerged.kept
  refine ⟨declared, hdeclared, ?_, hkept, hmerged.once⟩
  rw [List.map_append, List.append_assoc]
  exact (hmerged.all.append_left _).trans (all_files hfiles)

/-- Whenever a batch succeeds, there are as many warnings as there are declarations in its files
without a validator of their own, and each key is warned about as often as its name is declared
again. -/
theorem convert_warnings {r : Registry} {files : List BatchFile} {o : Outcome}
    (ok : (convert read suffix r files).result = .ok o) :
    ∃ declared : List (Text × List Declaration), List.Forall₂ BatchFile.Declares files declared
      ∧ o.warnings.length = (declared.flatMap (·.2)).length - o.validators.length
      ∧ o.validators.length ≤ (declared.flatMap (·.2)).length
      ∧ (∀ name, o.warnings.countP (·.key = name ++ suffix)
          = (declared.flatMap (·.2)).countP (·.name = name) - 1)
      ∧ ∀ w ∈ o.warnings, (∃ d ∈ declared.flatMap (·.2), w.key = d.name ++ suffix)
        ∧ w.message = "Multiple definition of \"" ++ w.key ++ "\" in " ++ w.place := by
  obtain ⟨declared, hdeclared, hbalanced⟩ := convert_balanced ok
  have hlength := hbalanced.length_eq
  rw [keys, List.length_map] at hlength
  refine ⟨declared, hdeclared, by omega, by omega, ?_, ?_⟩
  · intro name
    have hcount := hbalanced.count_eq (name ++ suffix)
    simpa only [keys, List.count_eq_countP, List.countP_map, Function.comp_def, beq_eq_decide,
      List.append_left_inj] using hcount
  · intro w hw
    have hkey := hbalanced.all.subset (List.mem_append_left _ (List.mem_map_of_mem hw))
    obtain ⟨d, hd, heq⟩ := List.mem_map.1 hkey
    exact ⟨⟨d, hd, heq.symm⟩, w.message_eq⟩

/-- A name that comes again in its file, in another file, and again in that one. -/
theorem convert_warnings_again :
    let read : LiteralReader := fun _ literal => .error (.noDeclaration literal)
    let first : List Declaration := [⟨"A", .null, [], .null⟩, ⟨"A", .null, [], .null⟩]
    let second : List Declaration :=
      [⟨"A", .null, [], .null⟩, ⟨"B", .null, [⟨"a", "A", false⟩], .null⟩, ⟨"A", .null, [], .null⟩]
    let files : List BatchFile := [.parsed ⟨"p.ts", first⟩, .parsed ⟨"q.ts", second⟩]
    ∃ o, (convert read "S" Registry.empty files).result = .ok o
      ∧ o.warnings = [.inFile "AS" "p.ts", .inFile "AS" "q.ts", .acrossFiles "AS"]
      ∧ o.validators.length = 2
      ∧ ∃ declared : List (Text × List Declaration),
          List.Forall₂ BatchFile.Declares files declared
          ∧ 3 = (declared.flatMap (·.2)).length - 2
          ∧ 3 = (declared.flatMap (·.2)).countP (·.name = "A".toList) - 1 := by
  intro read first second files
  have ok : ∃ o, (convert read "S" Registry.empty files).result = .ok o
      ∧ o.warnings = [.inFile "AS" "p.ts", .inFile "AS" "q.ts", .acrossFiles "AS"]
      ∧ o.validators.length = 2 := ⟨_, rfl, rfl, rfl⟩
  obtain ⟨o, ok, hwarnings, hvalidators⟩ := ok
  refine ⟨o, ok, hwarnings, hvalidators, ?_⟩
  obtain ⟨declared, hdeclared, hlength, -, hcount, -⟩ := convert_warnings ok
  rw [hwarnings, hvalidators] at hlength
  refine ⟨declared, hdeclared, hlength, ?_⟩
  rw [← hcount "A", hwarnings]
  decide

end Batch

end TypeShape
