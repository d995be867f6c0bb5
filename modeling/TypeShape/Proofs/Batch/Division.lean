/-
How a batch is divided.

A name that comes again is dropped by one rule inside a file and by another one between
files. Except for their warnings the two rules can never be told apart: it does not matter
where one file ends and the next one begins. A batch may also be stopped between two files
and taken up again in the registry that it leaves.
-/
import TypeShape.Proofs.Batch.Pass

namespace TypeShape.Batch

variable {read : LiteralReader} {suffix : Text}

/-- Files that follow are resolved in the registry that the others leave. -/
theorem resolveFiles_append (r : Registry) (files others : List BatchFile) :
    resolveFiles read suffix r (files ++ others) = do
      let x ← resolveFiles read suffix r files
      let y ← resolveFiles read suffix x.1 others
      return (y.1, x.2 ++ y.2) := by
  induction files generalizing r with
  | nil =>
      simp only [List.nil_append, resolveFiles, pure_bind]
      exact (bind_pure _).symm
  | cons file files ih =>
      simp only [List.cons_append, resolveFiles, ih, bind_assoc, pure_bind]

/-- Files that follow are gathered on top of what the others make. -/
theorem gather_append (validators : Table Schema) (x y : Registry × List Outcome) :
    gather validators (y.1, x.2 ++ y.2)
      = ((gather validators x).1.addAll (gather [] y).1, (gather [] y).2) := by
  simp [gather, Table.addAll_append, Table.addAll_addAll]

/-- A batch that is taken up again in the registry that it leaves. -/
theorem made_convert_append (r : Registry) (files others : List BatchFile) :
    Outcome.made <$> convert read suffix r (files ++ others) = do
      let first ← Outcome.made <$> convert read suffix r files
      let second ← Outcome.made <$> convert read suffix first.2 others
      return (first.1.addAll second.1, second.2) := by
  simp only [made_convert_eq_gather, resolveFiles_append, map_bind, map_pure, bind_map_left,
    gather_append]
  rfl

/-- The validators of a batch are a table that was filled from nothing. -/
theorem addAll_validators {r : Registry} {files : List BatchFile} {o : Outcome}
    (ok : (convert read suffix r files).result = .ok o) :
    Table.addAll [] o.validators = o.validators := by
  obtain ⟨x, -, hx⟩ := Traced.result_bind_eq_ok_iff.1 ok
  cases hx
  dsimp only
  rw [merge_eq, Table.addAll_addAll]

variable (read suffix) in
/-- What a batch makes is the same for all divisions of its declarations into files, also
with empty files: the same validators in the same order and the same registry, or the same
fault, after the same events. Of two parts of a batch, the first one fails for the whole
batch; and if it succeeds, the batch comes to the second part in the registry that the first
one leaves, the validators of the first part before the new ones of the second. -/
theorem convert_divided (r : Registry) :
    (∀ files others : List ParsedFile,
      files.flatMap (·.declarations) = others.flatMap (·.declarations) →
        Outcome.made <$> convert read suffix r (files.map .parsed)
          = Outcome.made <$> convert read suffix r (others.map .parsed))
    ∧ ∀ first second : List BatchFile,
      (∀ e, (convert read suffix r first).result = .error e →
        (convert read suffix r (first ++ second)).result = .error e)
      ∧ ∀ o, (convert read suffix r first).result = .ok o →
        (convert read suffix r (first ++ second)).result.map Outcome.made
          = (convert read suffix o.registry second).result.map fun o' =>
              (o.validators ++ o'.validators.filter fun e => e.1 ∉ o.validators.names,
                o'.registry) := by
  -- both laws are those of the definitions of a batch, which only see one declaration after another
  refine ⟨fun files others same => ?_, fun first second => ⟨fun e failed => ?_, fun o ok => ?_⟩⟩
  · rw [made_convert, made_convert, same]
  · rw [← Traced.result_map_eq_error_iff (f := Outcome.made)] at failed ⊢
    rw [made_convert_append, Traced.bind_of_error _ failed]
  · have ok' : (Outcome.made <$> convert read suffix r first).result = .ok o.made := by
      rw [Traced.result_map, ok]
      rfl
    rw [← Traced.result_map, made_convert_append, Traced.bind_of_ok _ ok', Outcome.made]
    cases h : (convert read suffix o.registry second).result with
    | error e =>
        rw [Traced.bind_of_error _ (Traced.result_map_eq_error_iff.2 h)]
        rfl
    | ok o' =>
        have ok'' : (Outcome.made <$> convert read suffix o.registry second).result
            = .ok o'.made := by
          rw [Traced.result_map, h]
          rfl
        rw [Traced.bind_of_ok _ ok'']
        show Except.ok (o.validators.addAll o'.validators, o'.registry) = _
        rw [Table.addAll_eq_append, addAll_validators h]
        rfl

/-- A name that comes again, divided so that it comes again in another file, and a part that
refers to what comes later. -/
theorem convert_divided_twice :
    let read : LiteralReader := fun _ literal => .error (.noDeclaration literal)
    let one : Declaration := ⟨"A", .null, [⟨"x", "string", false⟩], .null⟩
    let two : Declaration := ⟨"B", .null, [⟨"a", "A[]", true⟩], .null⟩
    let again : Declaration := ⟨"A", .null, [⟨"b", "B", false⟩], .null⟩
    let whole : List ParsedFile := [⟨"w.ts", [one, two, again]⟩]
    let parts : List ParsedFile := [⟨"p.ts", [one]⟩, ⟨"q.ts", []⟩, ⟨"r.ts", [two, again]⟩]
    let first : List BatchFile := [.parsed ⟨"p.ts", [one]⟩]
    let second : List BatchFile := [.parsed ⟨"r.ts", [two, again]⟩]
    whole.flatMap (·.declarations) = parts.flatMap (·.declarations)
    ∧ Outcome.made <$> convert read "S" .empty (whole.map .parsed)
        = Outcome.made <$> convert read "S" .empty (parts.map .parsed)
    ∧ (convert read "S" .empty second).result = .error (.unresolvable "A")
    ∧ (convert read "S" .empty (second ++ first)).result = .error (.unresolvable "A")
    ∧ ∃ o, (convert read "S" .empty first).result = .ok o ∧ o.validators.names = ["AS".toList]
      ∧ (convert read "S" .empty (first ++ second)).result.map Outcome.made
          = (convert read "S" o.registry second).result.map fun o' =>
              (o.validators ++ o'.validators.filter fun e => e.1 ∉ o.validators.names,
                o'.registry) := by
  intro read one two again whole parts first second
  have failed : (convert read "S" .empty second).result = .error (.unresolvable "A") := by
    rfl
  have ok : ∃ o, (convert read "S" .empty first).result = .ok o
      ∧ o.validators.names = ["AS".toList] := ⟨_, rfl, rfl⟩
  obtain ⟨o, ok, names⟩ := ok
  exact ⟨rfl, (convert_divided read "S" .empty).1 whole parts rfl, failed,
    ((convert_divided read "S" .empty).2 second first).1 _ failed, o, ok, names,
    ((convert_divided read "S" .empty).2 first second).2 o ok⟩

end TypeShape.Batch
