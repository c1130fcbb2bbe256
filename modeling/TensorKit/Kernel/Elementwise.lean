import TensorKit.Tensor.NDArray

/-! # Elementwise kernels -/
namespace TensorKit
inductive UnaryOp where
  | neg | ceil | floor | sign | isNaN | isInf | isFinite | round | exp | expm1 | log | log1p
  | sqrt | rsqrt | square | reciprocal | abs | sigmoid | logSigmoid | softplus
  | sin | cos | tan | asin | acos | atan | sinh | cosh | tanh | asinh | acosh | atanh
  | erf | relu | relu6 | elu | selu
  | step (alpha : Float)
  | clip (low high : Float)

inductive BinaryOp where
  | add | sub | mul | div | floorDiv | pow | mod | minimum | maximum | squaredDifference | atan2
  | notEqual | equal | less | lessEqual | greater | greaterEqual
  | logicalAnd | logicalOr | prelu
deriving DecidableEq

namespace Kernel
def erf (x : Float) : Float :=
  let v := x.abs
  let t := 1.0 / (1.0 + 0.3275911 * v)
  Number.signum x * (1.0 -
    (((((1.061405429 * t + -1.453152027) * t) + 1.421413741) * t + -0.284496736) * t + 0.254829592) * t * (-v * v).exp)
def softplus (x : Float) : Float :=
  let threshold := (1.1920928955078125e-7).log + 2.0
  let e := x.exp
  if x < threshold then e
  else if x > -threshold then x
  else (1.0 + e).log
def seluScaleAlpha : Float := 1.7580993408473768599402175208123
def seluScale : Float := 1.0507009873554804934193349852946
end Kernel
namespace UnaryOp
def eval : UnaryOp → Float → Float
  | .neg => (-1.0 * ·) | .ceil => .ceil | .floor => .floor | .sign => Number.sign
  | .isNaN => (Number.ofBool ·.isNaN) | .isInf => (Number.ofBool ·.isInf) | .isFinite => (Number.ofBool ·.isFinite)
  | .round => Number.roundEven | .exp => .exp | .expm1 => Number.expm1 | .log => .log | .log1p => Number.log1p
  | .sqrt => .sqrt | .rsqrt => (1.0 / ·.sqrt) | .square => fun x => x * x | .reciprocal => (1.0 / ·) | .abs => .abs
  | .sigmoid => fun x => 1.0 / (1.0 + (-x).exp)
  | .logSigmoid => fun x => -1.0 * Number.toSingle (Kernel.softplus (Number.toSingle (-1.0 * x)))
  | .softplus => Kernel.softplus | .sin => .sin | .cos => .cos | .tan => .tan | .asin => .asin | .acos => .acos
  | .atan => .atan | .sinh => .sinh | .cosh => .cosh | .tanh => .tanh | .asinh => .asinh | .acosh => .acosh
  | .atanh => .atanh | .erf => Kernel.erf | .relu => Number.max 0.0 | .relu6 => fun x => Number.min (Number.max 0.0 x) 6.0
  | .elu => fun x => if x ≥ 0 then x else x.exp - 1.0
  | .selu => fun x => if x ≥ 0 then Kernel.seluScale * x else Kernel.seluScaleAlpha * (x.exp - 1.0)
  | .step alpha => fun x => if x.isNaN then x else if x > 0 then 1.0 else alpha
  | .clip low high => fun x => if x > high then high else if x < low then low else x

def outType : UnaryOp → DType → DType
  | .isNaN, _ | .isInf, _ | .isFinite, _ => .bool
  | .relu, t | .relu6, t => t
  | _, _ => .float32

def name : UnaryOp → String
  | .neg => "neg" | .ceil => "ceil" | .floor => "floor" | .sign => "sign" | .isNaN => "isNaN"
  | .isInf => "isInf" | .isFinite => "isFinite" | .round => "round" | .exp => "exp"
  | .expm1 => "expm1" | .log => "log" | .log1p => "log1p" | .sqrt => "sqrt" | .rsqrt => "rsqrt"
  | .square => "square" | .reciprocal => "reciprocal" | .abs => "abs" | .sigmoid => "sigmoid"
  | .logSigmoid => "logSigmoid" | .softplus => "softplus" | .sin => "sin" | .cos => "cos"
  | .tan => "tan" | .asin => "asin" | .acos => "acos" | .atan => "atan" | .sinh => "sinh"
  | .cosh => "cosh" | .tanh => "tanh" | .asinh => "asinh" | .acosh => "acosh" | .atanh => "atanh"
  | .erf => "erf" | .relu => "relu" | .relu6 => "relu6" | .elu => "elu" | .selu => "selu"
  | .step _ => "step" | .clip _ _ => "clipByValue"

def kernelName : UnaryOp → String
  | .sign | .isNaN | .isInf | .isFinite => "x"
  | .relu6 => "relu"
  | .clip _ _ => "clip"
  | u => u.name
end UnaryOp
namespace BinaryOp
def eval : BinaryOp → Float → Float → Float
  | .add => (· + ·) | .sub => (· - ·) | .mul => (· * ·) | .div => (· / ·) | .floorDiv => fun a b => (a / b).floor
  | .pow => Number.pow | .minimum => Number.min | .maximum => Number.max | .atan2 => .atan2
  | .mod => fun a b =>
    let r := Number.remainder a b
    if (a < 0 && b < 0) || (a ≥ 0 && b ≥ 0) then r else Number.remainder (r + b) b
  | .squaredDifference => fun a b => (a - b) * (a - b)
  | .notEqual => (Number.ofBool <| · != ·) | .equal => (Number.ofBool <| · == ·)
  | .less => (Number.ofBool <| · < ·) | .lessEqual => (Number.ofBool <| · ≤ ·)
  | .greater => (Number.ofBool <| · > ·) | .greaterEqual => (Number.ofBool <| · ≥ ·)
  | .logicalAnd => fun a b => if Number.truthy a then b else a
  | .logicalOr => fun a b => if Number.truthy a then a else b
  | .prelu => fun a b => if a < 0 then b * a else a

def name : BinaryOp → String
  | .add => "add" | .sub => "sub" | .mul => "mul" | .div => "div" | .floorDiv => "floorDiv"
  | .pow => "pow" | .mod => "mod" | .minimum => "minimum" | .maximum => "maximum"
  | .squaredDifference => "squaredDifference" | .atan2 => "atan2" | .notEqual => "notEqual"
  | .equal => "equal" | .less => "less" | .lessEqual => "lessEqual" | .greater => "greater"
  | .greaterEqual => "greaterEqual" | .logicalAnd => "logicalAnd" | .logicalOr => "logicalOr"
  | .prelu => "prelu"
end BinaryOp
namespace Kernel
variable {α β γ : Type} [Scalar α] [Scalar β]
def operandCoords (shape : Shape) (stretched : Nats) (loc : Nats) : Nats :=
  let own := loc.drop (loc.length - shape.length)
  own.zipIdx.map fun (c,i) => if stretched.contains i then 0 else c

@[specialize] def broadcast (op : α → β → γ) (a : NDArray α) (b : NDArray β) (out : Shape) : NDArray γ :=
  let aDims := Broadcast.dims a.shape out
  let bDims := Broadcast.dims b.shape out
  if aDims.isEmpty && bDims.isEmpty then
    let n := a.data.size
    let m := b.data.size
    .ofIndex out fun i => op (readAt a.data (i % n)) (readAt b.data (i % m))
  else
    .ofCoords out fun loc => op (a.get (operandCoords a.shape aDims loc)) (b.get (operandCoords b.shape bDims loc))
end Kernel
end TensorKit
