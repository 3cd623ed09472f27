import JsonQuery.Cache
import JsonQuery.Json.Reader
import JsonQuery.Selection.NodeList
import JsonQuery.Settings
import JsonQuery.Proofs.Cache.Refinement
import JsonQuery.Proofs.Cache.Transparency
import JsonQuery.Proofs.Evaluation.Lattice
import JsonQuery.Proofs.Evaluation.Reuse
import JsonQuery.Proofs.Evaluation.Truthiness
import JsonQuery.Proofs.Query.ChainShape
import JsonQuery.Proofs.Query.RoundTrip
import JsonQuery.Proofs.Query.Canonical
import JsonQuery.Proofs.Cache.Misses
import JsonQuery.Proofs.Query.Locality
import JsonQuery.Proofs.Query.Nesting
import JsonQuery.Proofs.Query.Composition
import JsonQuery.Proofs.Selection.Positions
import JsonQuery.Proofs.Evaluation.Distinctness
import JsonQuery.Proofs.Evaluation.Memo
import JsonQuery.Proofs.Evaluation.DocumentOrder
import JsonQuery.Proofs.Evaluation.Exploration
import JsonQuery.Proofs.Query.SliceRange
import JsonQuery.Proofs.Query.SliceRecognition
import JsonQuery.Proofs.Evaluation.Concatenation
import JsonQuery.Proofs.Query.Refusal
import JsonQuery.Proofs.Evaluation.Reexploring
import JsonQuery.Proofs.Query.PartedOperators
import JsonQuery.Proofs.Query.PlainFilters
import JsonQuery.Proofs.Selection.SetAlgebra
import JsonQuery.Proofs.Query.Paths
import JsonQuery.Proofs.Query.OrderOperators
import JsonQuery.Proofs.Query.FoldingInPlace
import JsonQuery.Proofs.Query.SliceArithmetic
import JsonQuery.Proofs.Selection.Interchange
