/-
Which faults a batch ends with.

What is registered may fail in any way. With nothing registered only the steps of generation are
left: data that is no declaration, a literal that cannot be read, and a base type that is not
known. All of these are faults of generation, and the queue passes on no others.
-/
import TypeShape.Proofs.Batch.Regular
import TypeShape.Proofs.Queue.Faults
import TypeShape.Proofs.Sequence
import TypeShape.Source.Program

namespace TypeShape

/-- A reader of literals whose faults are those of generation. -/
def LiteralReader.Reports (read : LiteralReader) : Prop :=
  ∀ name literal e, read name literal = .error e → e.isGeneration = true

/-- The parser of literals reports syntax faults, and texts without declarations. -/
theorem Source.reports_readLiteral : LiteralReader.Reports readLiteral := by
  intro name literal e h
  rcases bind_eq_error h with h | ⟨file, -, h⟩
  · unfold Source.read at h
    cases hparse : parseText ("interface " ++ name ++ ' ' :: literal) literalPath with
    | error line =>
        rw [hparse] at h
        cases h
        rfl
    | ok file =>
        rw [hparse] at h
        cases h
  · split at h
    case h_1 => cases h
    case h_2 =>
      cases h
      rfl

section

variable {read : LiteralReader} {r : Registry}

-- ================================================================= types

namespace Plan

/-- With nothing registered, the parts of a type fail in generation. -/
theorem failsOnly_generation (hread : read.Reports) (plain : r.Plain) (depth : Nat)
    (name t : Text) :
    (ofType read r depth name t).FailsOnly fun e => e.isGeneration = true := by
  induction depth generalizing name t with
  | zero =>
      apply FailsOnly.settled
      intro e failed
      cases failed
      rfl
  | succ depth ih =>
      apply FailsOnly.ofType_succ
      case expression =>
        intro _ e failed
        obtain ⟨-, rfl⟩ :=
          (Registry.resolveExpression_eq_error_iff plain.types plain.modifiers).1 failed
        rfl
      case unread => exact fun _ _ _ e failed => hread _ _ _ failed
      case finishing =>
        intro object modifiers _ m e failed
        rw [Registry.applyModifiers_eq_pure plain.modifiers] at failed
        cases failed
      case parts => exact fun _ _ _ d _ p _ => ih (inlineName d.name p.name) p.type

end Plan

-- =============================================================== batches

namespace Batch

/-- With nothing registered, a declaration fails in generation. -/
theorem resolve_generation (hread : read.Reports) (plain : r.Plain) {d : Declaration} {e : Fault}
    (failed : (resolve read r d).result = .error e) : e.isGeneration = true := by
  apply Plan.fault_run (P := fun e => e.isGeneration = true)
    (Plan.waits_ofDeclaration read r d) ?_ failed
  exact .ofDeclaration fun p _ => Plan.failsOnly_generation hread plain _ _ _

/-- Loose data that has not the right shape is a fault of generation. -/
theorem malformed_generation {α : Type} {x : Except Malformed α} {e : Fault}
    (failed : (Traced.ofResult (x.mapError .malformed)).result = .error e) :
    e.isGeneration = true := by
  cases x with
  | ok a => cases failed
  | error what =>
      cases failed
      rfl

/-- The declarations of one file fail only so, if the reader does. -/
theorem resolveAll_generation {suffix : Text} (hread : read.Reports) {path : Text}
    {items : List (Except Malformed Declaration)} {o : Outcome} (good : Good o) {e : Fault}
    (failed : (resolveAll read suffix path items o).result = .error e) : e.isGeneration = true := by
  induction items generalizing o with
  | nil => cases failed
  | cons item items ih =>
      rw [resolveAll] at failed
      rcases Traced.result_bind_eq_error_iff.1 failed with failed | ⟨d, -, failed⟩
      · exact malformed_generation failed
      · rcases Traced.result_bind_eq_error_iff.1 failed with failed | ⟨s, resolved, failed⟩
        · exact resolve_generation hread good.plain failed
        · exact ih (good.collect path d.name (settled_resolve good.plain resolved)).1 failed

/-- And so do all files, one after the other. -/
theorem resolveFiles_generation {suffix : Text} (hread : read.Reports) (plain : r.Plain)
    {files : List BatchFile} {e : Fault}
    (failed : (resolveFiles read suffix r files).result = .error e) : e.isGeneration = true := by
  induction files generalizing r with
  | nil => cases failed
  | cons file files ih =>
      have start : Good { validators := [], registry := r, warnings := [] } :=
        ⟨plain, List.forall_mem_nil _⟩
      rw [resolveFiles] at failed
      rcases Traced.result_bind_eq_error_iff.1 failed with failed | ⟨o, resolved, failed⟩
      · unfold resolveFile at failed
        rcases Traced.result_bind_eq_error_iff.1 failed with failed | ⟨⟨path, items⟩, -, failed⟩
        · exact malformed_generation failed
        · exact resolveAll_generation hread start failed
      · unfold resolveFile at resolved
        obtain ⟨⟨path, items⟩, -, resolved⟩ := Traced.result_bind_eq_ok_iff.1 resolved
        rcases Traced.result_bind_eq_error_iff.1 failed with failed | ⟨⟨r', others⟩, -, failed⟩
        · exact ih (start.resolveAll resolved).1.plain failed
        · cases failed

/-- With nothing registered, a batch fails in generation. -/
theorem convert_generation {suffix : Text} (hread : read.Reports) (plain : r.Plain)
    {files : List BatchFile} {e : Fault}
    (failed : (convert read suffix r files).result = .error e) : e.isGeneration = true := by
  unfold convert at failed
  rcases Traced.result_bind_eq_error_iff.1 failed with failed | ⟨found, -, failed⟩
  · exact resolveFiles_generation hread plain failed
  · cases failed

end Batch

end

end TypeShape
