import TensorKit.Exchange.Surroundings
import TensorKit.Exchange.Workloads
import TensorKit.Main
import TensorKit.Package
import TensorKit.Proofs.Engine.Accounting
import TensorKit.Proofs.Data.Rings
import TensorKit.Proofs.Data.Rows
import TensorKit.Proofs.Script.Columns
import TensorKit.Script.Answer
import TensorKit.Suite.Benchmarks
import TensorKit.Suite.Validation
import TensorKit.Proofs.Script.Exchange
import TensorKit.Proofs.Autodiff.CleanUp
import TensorKit.Proofs.Weights.Levels
import TensorKit.Proofs.Flow.FoldedValues
import TensorKit.Proofs.Script.Selecting
import TensorKit.Proofs.Flow.FusedConvs
import TensorKit.Proofs.Graph.Contexts
import TensorKit.Proofs.Graph.Plans
import TensorKit.Proofs.Layers.Depths
import TensorKit.Proofs.Layers.Leftovers
import TensorKit.Proofs.Layers.Lives
import TensorKit.Proofs.Layers.Loading
import TensorKit.Proofs.Layers.Masks
import TensorKit.Proofs.Layers.Reports
import TensorKit.Proofs.Layers.Spelling
import TensorKit.Proofs.Layers.Stacked
import TensorKit.Proofs.Layers.Stacks
import TensorKit.Proofs.Ops.Adjoints
import TensorKit.Proofs.Ops.Windows
import TensorKit.Proofs.Ops.Sums
import TensorKit.Proofs.Tensor.RowMajor
