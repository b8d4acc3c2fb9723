import CodeMetrics.Main
import CodeMetrics.Session
import CodeMetrics.Failure.Given
import CodeMetrics.Proofs.Analysis
import CodeMetrics.Proofs.Stream
import CodeMetrics.Proofs.Timeline
import CodeMetrics.Proofs.Batch
import CodeMetrics.Proofs.Deriving
import CodeMetrics.Proofs.Escaping
import CodeMetrics.Proofs.Log
import CodeMetrics.Proofs.Content
import CodeMetrics.Proofs.Interruption
import CodeMetrics.Proofs.Precedence
import CodeMetrics.Proofs.Precision
import CodeMetrics.Proofs.Objects
import CodeMetrics.Proofs.Reordering
import CodeMetrics.Proofs.Rendering
import CodeMetrics.Proofs.Runs
import CodeMetrics.Proofs.Listing
import CodeMetrics.Proofs.Independence
import CodeMetrics.Proofs.Kinds
import CodeMetrics.Proofs.Classes
import CodeMetrics.Proofs.LogLines
import CodeMetrics.Proofs.Placement
import CodeMetrics.Proofs.Overrides
import CodeMetrics.Proofs.Fence
import CodeMetrics.Proofs.Renaming
import CodeMetrics.Proofs.Dependencies
import CodeMetrics.Proofs.ReadBack
import CodeMetrics.Proofs.Export
