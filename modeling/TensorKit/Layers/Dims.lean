import TensorKit.Decimal.Text

/-! # Shapes with unknown dimensions

Dimensions are numbers as they come from a configuration, so a wrong one may be anything.
-/
namespace TensorKit.Layers
abbrev Dim := Option Float
abbrev Dims := List Dim

inductive Form where
  | one (dims : Dims)
  | many (list : List Dims)
deriving Inhabited

variable (d : Dims)
namespace Dims
def ofShape (shape : Nats) : Dims := shape.map fun n => some (.ofNat n)
def text : String := ",".intercalate (d.map (·.elim "" Decimal.text))
def number (d : Dim) : Float := d.getD 0
def given (axis : Nat) : Dim := (d[axis]?).getD none
def dim (axis : Nat) : Dim := (d[axis]?).getD (some (0.0 / 0.0))
def dimAt (axis : Int) : Dim :=
  if axis < 0 then
    let i := d.length + axis
    if i < 0 then some (0.0 / 0.0) else dim d i.toNat
  else dim d axis.toNat
end Dims
namespace Form
def list : Form → List Dims
  | one [] => []
  | one d => [d]
  | many ds => ds
def shapes : Form → List Dims
  | one d => [d]
  | many ds => ds
def ofList : List Dims → Form
  | [d] => one d
  | ds => many ds
def text : Form → String
  | one d => d.text
  | many ds => ",".intercalate (ds.map Dims.text)
end Form

def windowLength (length : Dim) (filter : Float) (padsSame : Bool) (stride dilation : Float) : Dim :=
  length.map fun n =>
    let dilated := filter + (filter - 1) * (dilation - 1)
    let out := if padsSame then n else n - dilated + 1
    ((out + stride - 1) / stride).floor
end TensorKit.Layers
