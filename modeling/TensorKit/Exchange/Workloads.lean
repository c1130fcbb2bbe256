import TensorKit.Workload.Models

/-! # Written notes -/
namespace TensorKit.Exchange
open Workload
def noteJson (word : Cause → String) : Note → Json
  | .nothing => .null
  | .truth b => b
  | .count n => .int n
  | .text s => s
  | .refused cause => word cause
  | .list notes => .arr (notes.map (noteJson word))

def workloadJson (word : Cause → String) (input : Json) : Option (Checked Json) := do
  let (size,kind) ← catalogue.lookup (input "name").strD
  let n := (input "params" size).int?.getD 0
  let runs := (input "runs").int?.getD 1
  return (kind.run n.toNat runs.toNat).map fun notes => .arr (notes.map (noteJson word))
end TensorKit.Exchange
