import GuardedNet.Guard.Clause
import GuardedNet.Indexed
import GuardedNet.Main
import GuardedNet.Proofs.Dictionary
import GuardedNet.Proofs.Number.Saturation
import GuardedNet.Proofs.Text.Sorted
import GuardedNet.Proofs.Net.Validity
import GuardedNet.Proofs.Net.ById
import GuardedNet.Proofs.Net.Faults
import GuardedNet.Proofs.Net.Variation
import GuardedNet.Proofs.Net.Drawing
import GuardedNet.Proofs.Run.Key
import GuardedNet.Proofs.Run.Firing
import GuardedNet.Proofs.Run.Path
import GuardedNet.Proofs.Run.History
import GuardedNet.Proofs.Run.Refusal
import GuardedNet.Proofs.Run.Independence
import GuardedNet.Proofs.Run.Levels
import GuardedNet.Proofs.Run.Search
import GuardedNet.Proofs.Structure.Matrix
import GuardedNet.Proofs.Structure.Incidence
import GuardedNet.Proofs.Structure.WeightedSum
import GuardedNet.Proofs.Guard.Grammar
import GuardedNet.Proofs.Guard.Completeness
import GuardedNet.Proofs.Guard.Evaluation
import GuardedNet.Proofs.Guard.Depth
import GuardedNet.Proofs.Guard.Lexing
import GuardedNet.Proofs.Guard.Pieces
import GuardedNet.Proofs.Guard.RoundTrip
import GuardedNet.Proofs.Guard.Clauses
import GuardedNet.Proofs.Guard.Interchange
import GuardedNet.Proofs.Guard.Arithmetic
import GuardedNet.Proofs.Guard.Dependence
import GuardedNet.Proofs.Structure.Nullspace
import GuardedNet.Proofs.Structure.Basis
import GuardedNet.Proofs.Structure.IntegerBasis
import GuardedNet.Proofs.Structure.Correspondence
import GuardedNet.Proofs.Structure.Signature
import GuardedNet.Proofs.Structure.Partition
import GuardedNet.Proofs.Structure.Discovery
import GuardedNet.Proofs.Structure.Reordering
import GuardedNet.Proofs.Structure.Components
import GuardedNet.Proofs.Structure.Relabelling
import GuardedNet.Proofs.Structure.InvariantText
import GuardedNet.Proofs.Value
import GuardedNet.Proofs.Run.Transfer
import GuardedNet.Proofs.Run.Reading
import GuardedNet.Proofs.Run.Statistics
import GuardedNet.Proofs.Run.Starvation
import GuardedNet.Proofs.Dynamics.Trajectory
import GuardedNet.Proofs.Sensitivity.Orphans
import GuardedNet.Proofs.Guard.Aggregates
import GuardedNet.Proofs.Dynamics.Stoichiometry
import GuardedNet.Proofs.Sensitivity.Sampling
