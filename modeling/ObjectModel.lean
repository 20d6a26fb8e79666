import ObjectModel.Attribute
import ObjectModel.Builtins
import ObjectModel.Call
import ObjectModel.Cells
import ObjectModel.Compare
import ObjectModel.Comparison
import ObjectModel.Completion
import ObjectModel.Construction
import ObjectModel.Descriptor
import ObjectModel.Engine
import ObjectModel.Error
import ObjectModel.Eval
import ObjectModel.Hash
import ObjectModel.Iteration
import ObjectModel.Limits
import ObjectModel.Number.Binary64
import ObjectModel.Number.Decimal
import ObjectModel.Number.Word
import ObjectModel.Ownership
import ObjectModel.Registry
import ObjectModel.Repr
import ObjectModel.Script.Attributes
import ObjectModel.Script.Calls
import ObjectModel.Script.Expr
import ObjectModel.Script.Inspect
import ObjectModel.Script.Interpreter
import ObjectModel.Script.Iterators
import ObjectModel.Script.Report
import ObjectModel.Script.Session
import ObjectModel.Script.Stores
import ObjectModel.Script.System
import ObjectModel.Script.Types
import ObjectModel.Script.Values
import ObjectModel.Sequence
import ObjectModel.Slice
import ObjectModel.Table
import ObjectModel.Text.Blank
import ObjectModel.Text.Digest
import ObjectModel.Text.Escaped
import ObjectModel.Text.Interner
import ObjectModel.Text.Quoted
import ObjectModel.Text.Visible
import ObjectModel.Truth
import ObjectModel.Tuple
import ObjectModel.TypeObject
import ObjectModel.Value.Basic
import ObjectModel.Value.Identity
import ObjectModel.World
import ObjectModel.Proofs.Extension
import ObjectModel.Proofs.Lineage
import ObjectModel.Proofs.Precedence
import ObjectModel.Proofs.Suspension
import ObjectModel.Proofs.Operations
import ObjectModel.Proofs.Preservation
import ObjectModel.Proofs.Construction
import ObjectModel.Proofs.Locality
import ObjectModel.Proofs.RoundTrip
import ObjectModel.Proofs.Numbers
import ObjectModel.Proofs.Coherence
import ObjectModel.Proofs.HashAgreement
import ObjectModel.Proofs.ExactNumbers
import ObjectModel.Proofs.CheckedIteration
import ObjectModel.Proofs.Calling
import ObjectModel.Proofs.Writes
import ObjectModel.Proofs.Lexicographic
import ObjectModel.Proofs.Registration
import ObjectModel.Proofs.LastingNumbers
import ObjectModel.Proofs.Slicing
import ObjectModel.Proofs.Reading
import ObjectModel.Proofs.Draining
import ObjectModel.Proofs.ExactTuples
import ObjectModel.Proofs.PlainIteration
import ObjectModel.Proofs.Searching
import ObjectModel.Proofs.HashStability
import ObjectModel.Proofs.BoundCalls
import ObjectModel.Proofs.SpecialMethods
import ObjectModel.Proofs.Rebuilding
import ObjectModel.Proofs.Allocation
import ObjectModel.Proofs.Exactness
import ObjectModel.Proofs.Inequality
import ObjectModel.Proofs.TruthAndLength
import ObjectModel.Proofs.Budgets
import ObjectModel.Proofs.Nesting
import ObjectModel.Proofs.DispatchEnds
