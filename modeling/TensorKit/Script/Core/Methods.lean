import TensorKit.Script.Core.Tensors
import TensorKit.Script.Core.Numeric
import TensorKit.Script.Core.Utilities
import TensorKit.Script.Core.Optimizers
import TensorKit.Script.Core.Weights

/-! # Functions on tensors, and methods of tensors -/
namespace TensorKit.Script
open Engine List
def coreTable : Handlers :=
  unaryTable ++ binaryTable ++ createTable ++ layoutTable ++ windowedTable ++ reduceTable ++
    productTable ++ normalizeTable ++ lossTable ++ signalTable ++ measureTable ++ scopeTable ++
    shapeTable ++ windowTable ++ expectTable ++ numberTable ++ weightTable ++ bufferTable ++
    optimizerTable
def notAFunction {α : Type} (name : String) : Script α := throw (.badType s!"{name} is not a function")
variable (t : Tensor) (name : String)
def callIn (table : Handlers) : Handler := (table.lookup name).getD fun _ => notAFunction name
def core : Handler := callIn name coreTable
variable (x y : Value)
def plus : Reply := core "add" [x,y]
def minus : Reply := core "sub" [x,y]
def times : Reply := core "mul" [x,y]
def per : Reply := core "div" [x,y]
def renamedMethods : Named String :=
  [ ("depthwiseConv2D","depthwiseConv2d"),("resizeBilinear","image.resizeBilinear"),
    ("resizeNearestNeighbor","image.resizeNearestNeighbor"),("fft","spectral.fft"),
    ("ifft","spectral.ifft"),("rfft","spectral.rfft"),("irfft","spectral.irfft"),
    ("asType","cast") ]
def uncheckedMethods : Strings := ["expandDims","cumsum","stack","unstack","pad","localResponseNormalization"]
def reshapeTo (dims : Values) : Reply := core "reshape" [t,dims]
def tensorBytes : Eng Value := do
  let toArray bs := .typed .uint8 (bs.map UInt8.toFloat).toArray
  match ← elementsOf t with
  | .texts ts => return ts.map toArray
  | e => return toArray e.toBytes
def tensorBuffer : Reply := do makeBuffer (.ofShape t.shape) t.dtype.name (← tensorData t)

def ownMethods : Named (Tensor → Handler) :=
  [ ("flatten",fun t _ => reshapeTo t [t.size]),
    ("as1D",fun t _ => reshapeTo t [t.size]),
    ("asScalar",fun t _ => do
      if t.size != 1 then fail "The array must have only 1 element."
      reshapeTo t []),
    ("as2D",fun t a => reshapeTo t ((range 2).map (argAt a))),
    ("as3D",fun t a => reshapeTo t ((range 3).map (argAt a))),
    ("as4D",fun t a => reshapeTo t ((range 4).map (argAt a))),
    ("as5D",fun t a => reshapeTo t ((range 5).map (argAt a))),
    ("toFloat",fun t _ => core "cast" [t,"float32"]),
    ("toInt",fun t _ => core "cast" [t,"int32"]),
    ("toBool",fun t _ => core "cast" [t,"bool"]),
    ("reshapeAs",fun t a => reshapeTo t (((a 0).tensor?.map (·.shape.map .ofNat)).getD [])),
    ("buffer",fun t _ => tensorBuffer t),("bufferSync",fun t _ => tensorBuffer t),
    ("array",fun t _ => return ← (tensorArray t)),
    ("arraySync",fun t _ => return ← (tensorArray t)),
    ("data",fun t _ => return ← (tensorData t)),
    ("dataSync",fun t _ => return ← (tensorData t)),
    ("bytes",fun t _ => return ← (tensorBytes t)),
    ("toString",fun t a => return .str (← (tensorText t (boolOr (a 0) false) : Eng String))),
    ("print",fun t _ => do
      let _ ← tensorText t false
      return .absent),
    ("where",fun t a => core "where" [a 0,t,a 1]),
    ("concat",fun t a => core "concat" [.tensor t :: asList (a 0),a 1]),
    ("batchNormalization",fun t a => core "batchNorm" [t,a 0,a 1,a 4,a 3,a 2]),
    ("variable",fun t a => return .tensor (← newVariableOf t (boolOr (a 0) true) (a 1) (a 2))),
    ("assign",fun t a => do
      let .tensor x := a 0 | notAFunction "assign"
      silent <| assign t x) ]

def tensorMethod (args : Values) : Reply := do
  if name == "dispose" then
    dispose t
    return .absent
  if name == "stack" then core "stack" [.list [t,args 0],args 1]
  else
    if !(uncheckedMethods.contains name || name == "assign") then requireLive t
    (ownMethods.lookup name).elim (core ((renamedMethods.lookup name).getD name) (t :: args)) (· t args)
def cloneOf : Value → Reply
  | .tensor t => tensorMethod t "clone" []
  | _ => throw (.noMember "clone")

def tensorField : Reply := do
  match name with
  | "shape" => return .ofShape t.shape
  | "dtype" => return t.dtype.name
  | "size" => return t.size
  | "rank" => return t.rank
  | "id" => return t.id
  | "isDisposed" => isDisposed t
  | "kept" => return (← (cell t)).kept
  | "strides" => return .ofNats (t.shape.strides.take (t.rank - 1))
  | "name" => return (← (variableInfo t)).elim .absent (·.name)
  | "trainable" => return (← (variableInfo t)).elim .absent (·.trainable)
  | _ => return .absent
end TensorKit.Script
