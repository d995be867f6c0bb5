/-
Of every name the first definition counts.

Validators are told apart by their keys and declarations by their names, and two tables are
filled, one of them from nothing and the other on top of what is known already. They stay in
step: for a name that is new both hold the schema of its first declaration, whatever comes
under that name later, and a later reference to the name leads there. A name that is known
already keeps its schema in the registry, but the batch still makes a validator for it.
-/
import TypeShape.Proofs.Batch.Pass
import TypeShape.Proofs.Resolve.Known

namespace TypeShape

namespace Batch

variable (read : LiteralReader) (suffix : Text) (r : Registry)

/-- The registry that declarations leave: the one with which a batch over them ends. -/
def Leaves (ds : List Declaration) (r' : Registry) : Prop :=
  ∃ o, (convert read suffix r [.parsed { path := [], declarations := ds }]).result = .ok o
    ∧ o.registry = r'

/-- Of every name in a batch the first definition counts. -/
structure FirstDefinitions (ds : List Declaration) (o : Outcome) : Prop where
  /-- There is one validator for each name, in the order in which the names first come. -/
  keys : o.validators.names = (ds.map (·.name)).eraseDups.map (· ++ suffix)
  /-- It is the schema of the first declaration of the name, in the registry that the
  declarations before it leave. -/
  values : ∀ before d after, ds = before ++ d :: after → d.name ∉ before.map (·.name) →
    ∃ r' s, Leaves read suffix r before r' ∧ (resolve read r' d).result = .ok s
      ∧ o.validators.find? (d.name ++ suffix) = some s
  /-- The registry knows what it knew before, and then the new names. -/
  table : ∃ added, o.registry.interfaces = r.interfaces ++ added
    ∧ added.names = (ds.map (·.name)).eraseDups.filter (· ∉ r.interfaces.names)
  /-- For a new name the registry and the validators have the same schema. -/
  fresh : ∀ d ∈ ds, d.name ∉ r.interfaces.names →
    ∃ s, o.registry.interfaces.find? d.name = some s
      ∧ o.validators.find? (d.name ++ suffix) = some s
  /-- A name that was known before keeps its schema in the registry. -/
  known : ∀ name ∈ r.interfaces.names,
    o.registry.interfaces.find? name = r.interfaces.find? name
  types : o.registry.types = r.types
  modifiers : o.registry.modifiers = r.modifiers
  /-- Wherever a new name leads to an earlier declaration, this is the first one of the
  name. -/
  references : ∀ before after r', ds = before ++ after → Leaves read suffix r before r' →
    ∀ t s, r.types.find? (TypeText.Applied.read t).name = none →
      (TypeText.Applied.read t).name ∉ r.interfaces.names →
      (r'.resolveNamed t).result = .ok (some s) →
      ∃ target, s = .reference (TypeText.Applied.read t).name target
        ∧ o.validators.find? ((TypeText.Applied.read t).name ++ suffix) = some target

variable {read suffix r}

/-- Declarations leave the registry with what they define. -/
theorem leaves_iff {ds : List Declaration} {r' : Registry} :
    Leaves read suffix r ds r'
      ↔ ∃ defs, (definitions read r ds).result = .ok defs ∧ r.withInterfaces defs = r' := by
  let file : ParsedFile := { path := [], declarations := ds }
  have flat : [file].flatMap (·.declarations) = ds := List.append_nil ds
  have made := @convert_made_iff read suffix r [file]
  simp only [flat] at made
  constructor
  · intro h
    obtain ⟨o, ok, rfl⟩ := h
    obtain ⟨defs, hdefs, hmade⟩ := made.1 ⟨o, ok, rfl⟩
    exact ⟨defs, hdefs, (Prod.ext_iff.1 hmade).2⟩
  · intro h
    obtain ⟨defs, hdefs, rfl⟩ := h
    obtain ⟨o, ok, hmade⟩ := made.2 ⟨defs, hdefs, rfl⟩
    exact ⟨o, ok, (Prod.ext_iff.1 hmade).2⟩

-- ================================================= what a batch leaves

/-- Behind the names that were known come the new ones. -/
theorem interfaces_withInterfaces (r : Registry) (defs : Table Schema) :
    ∃ added, (r.withInterfaces defs).interfaces = r.interfaces ++ added
      ∧ added.names = defs.names.eraseDups.filter (· ∉ r.interfaces.names) := by
  refine ⟨_, Table.addAll_eq_append r.interfaces defs, ?_⟩
  rw [← Table.names_addAll_nil]
  show _ = ((Table.addAll [] defs).map (·.1)).filter (· ∉ r.interfaces.names)
  rw [List.filter_map]
  rfl

/-- Whenever a batch succeeds, of every name in it the first definition counts: in the
validators, in the registry and for the references to the name. -/
theorem convert_firstDefinitions {files : List ParsedFile} {o : Outcome}
    (ok : (convert read suffix r (files.map .parsed)).result = .ok o) :
    FirstDefinitions read suffix r (files.flatMap (·.declarations)) o := by
  obtain ⟨defs, hdefs, hvalidators, hregistry⟩ := definitions_of_convert ok
  have hnames := names_definitions hdefs
  -- keys differ from names by the suffix alone, so both tables are told by the definitions
  have hvalidator : ∀ name, o.validators.find? (name ++ suffix) = defs.find? name := by
    intro name
    rw [hvalidators, Table.find?_filled]
  constructor
  case keys => rw [hvalidators, Table.names_withSuffix, Table.names_addAll_nil, hnames]
  case values =>
    intro before d after hsplit hfirst
    rw [hsplit] at hdefs
    -- `earlier` is what the declarations before `d` define, and has no definition of its name
    obtain ⟨earlier, s, later, rfl, hearlier, hs, -⟩ := definitions_split.1 hdefs
    refine ⟨r.withInterfaces earlier, s, leaves_iff.2 ⟨earlier, hearlier, rfl⟩, hs, ?_⟩
    rw [hvalidator]
    apply Table.find?_first
    rw [names_definitions hearlier]
    exact hfirst
  case table =>
    rw [hregistry, ← hnames]
    exact interfaces_withInterfaces r defs
  case fresh =>
    intro d hd hnew
    have hmem : d.name ∈ defs.names := by
      rw [hnames]
      exact List.mem_map_of_mem hd
    obtain ⟨s, found⟩ := Option.isSome_iff_exists.1 (Table.isSome_find?.2 hmem)
    refine ⟨s, ?_, ?_⟩
    · rw [hregistry, Registry.find?_of_new hnew, found]
    · rw [hvalidator, found]
  case known =>
    intro name hknown
    rw [hregistry, Registry.find?_of_known hknown]
  case types => rw [hregistry, Registry.withInterfaces]
  case modifiers => rw [hregistry, Registry.withInterfaces]
  case references =>
    intro before after r' hsplit hleaves t s htypes hnew hresolved
    rw [hsplit] at hdefs
    obtain ⟨earlier, later, rfl, hearlier, -⟩ := definitions_append_eq_ok_iff.1 hdefs
    obtain ⟨earlier', hearlier', rfl⟩ := leaves_iff.1 hleaves
    rw [hearlier] at hearlier'
    cases hearlier'
    -- no factory has the name, so it is looked up among the interfaces; there it is new, hence
    -- among the definitions, and of these the first one is found on both sides
    rw [Registry.resolveNamed_of_notRegistered (r := r.withInterfaces earlier) htypes] at hresolved
    obtain ⟨target, found, rfl⟩ := Option.map_eq_some_iff.1 (Except.ok.inj hresolved)
    refine ⟨target, rfl, ?_⟩
    rw [Registry.find?_of_new hnew] at found
    rw [hvalidator, Table.find?_append, found]
    rfl

/-- A name that comes again in its file and in another one, a name that was known before, and
references to both. -/
theorem convert_firstDefinitions_again :
    let read : LiteralReader := fun _ literal => .error (.noDeclaration literal)
    let r : Registry := { Registry.empty with interfaces := [("K", .string {})] }
    let first : List Declaration := [⟨"A", .null, [⟨"x", "K", false⟩], .null⟩,
      ⟨"K", .null, [⟨"k", "A[]", true⟩], .null⟩, ⟨"A", .null, [], .null⟩]
    let second : List Declaration := [⟨"B", .null, [⟨"a", "A", false⟩], .null⟩,
      ⟨"A", .null, [⟨"b", "B", false⟩], .null⟩]
    let files : List ParsedFile := [⟨"p.ts", first⟩, ⟨"q.ts", second⟩]
    ∃ o, (convert read "S" r (files.map .parsed)).result = .ok o
      ∧ FirstDefinitions read "S" r (first ++ second) o
      ∧ o.validators.names = ["AS", "KS", "BS"].map String.toList
      ∧ o.registry.interfaces.names = ["K", "A", "B"].map String.toList := by
  intro read r first second files
  have ok : ∃ o, (convert read "S" r (files.map .parsed)).result = .ok o := ⟨_, rfl⟩
  obtain ⟨o, ok⟩ := ok
  have counts : FirstDefinitions read "S" r (first ++ second) o := convert_firstDefinitions ok
  refine ⟨o, ok, counts, ?_, ?_⟩
  · rw [counts.keys]
    decide
  · obtain ⟨added, happend, hadded⟩ := counts.table
    rw [happend, Table.names_append, hadded]
    decide

end Batch

end TypeShape
