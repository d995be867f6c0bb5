import TypeShape.Generate
import TypeShape.Registry.Stock
import TypeShape.Schema.Attribute
import TypeShape.Schema.Check
import TypeShape.Session
import TypeShape.Proofs.Batch.Export
import TypeShape.Proofs.Batch.Warnings
import TypeShape.Proofs.Batch.Division
import TypeShape.Proofs.Declaration.Exchange
import TypeShape.Proofs.Declaration.Loose
import TypeShape.Proofs.Resolve.Concurrent
import TypeShape.Proofs.Resolve.Shape
import TypeShape.Proofs.Batch.FirstDefinitions
import TypeShape.Proofs.Batch.Reordering
import TypeShape.Proofs.Queue.Faults
import TypeShape.Proofs.Resolve.Reach
import TypeShape.Proofs.Batch.Known
import TypeShape.Proofs.Resolve.Extension
import TypeShape.Proofs.Resolve.Meaning
import TypeShape.Proofs.Resolve.FirstFault
import TypeShape.Proofs.Source.Comments
import TypeShape.Proofs.Resolve.Composite
import TypeShape.Proofs.Resolve.InlineObject
import TypeShape.Proofs.Resolve.QuotedKey
import TypeShape.Proofs.Resolve.ObjectType
import TypeShape.Proofs.Schema.Definitions
import TypeShape.Proofs.Parameter.Patterns
import TypeShape.Proofs.Files.Brace
import TypeShape.Proofs.Config.History
import TypeShape.Proofs.Config.Limit
import TypeShape.Proofs.TypeText.Object
import TypeShape.Proofs.TypeText.Leftover
import TypeShape.Proofs.Resolve.InlineName
import TypeShape.Proofs.Registry.Operations
