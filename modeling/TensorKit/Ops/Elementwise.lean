import TensorKit.Ops.Basic

/-! # Elementwise operations -/
namespace TensorKit.Ops
open Engine
inductive SavedPart where
  | nothing | input | output
deriving DecidableEq

def savedPart : UnaryOp → SavedPart
  | .neg | .ceil | .floor | .sign | .isNaN | .isInf | .isFinite | .round | .step _ => .nothing
  | .exp | .sigmoid | .tanh | .elu => .output
  | _ => .input
def unaryData (u : UnaryOp) (x : Tensor) : Op := do
  requireReal [x] u.kernelName
  store (u.outType x.dtype) ((← read x).map u.eval)
def unary (u : UnaryOp) (x : Tensor) : Op := inScope u.name do
  runKernel [("$x",x)] (some (.unary u)) do
    let y ← unaryData u x
    return (y,match savedPart u with
      | .nothing => []
      | .input => [x]
      | .output => [y])
abbrev neg := unary .neg
abbrev exp := unary .exp
abbrev log := unary .log
abbrev sqrt := unary .sqrt
abbrev rsqrt := unary .rsqrt
abbrev square := unary .square
abbrev sigmoid := unary .sigmoid
def tanh := unary .tanh
abbrev floor := unary .floor
abbrev step (x : Tensor) (alpha : Float) : Op := unary (.step alpha) x

def abs (x : Tensor) : Op :=
  if x.dtype == .complex64 then
    inScope "abs" do
      runKernel [("$x",x)] none do
        let vs ← numbers x
        let y ← store .float32 (.ofIndex x.shape fun i => Number.hypot (readAt vs (2 * i)) (readAt vs (2 * i + 1)))
        return (y,[])
  else unary .abs x

def erf (x : Tensor) : Op := inScope "erf" do
  if x.dtype != .int32 && x.dtype != .float32 then fail "Input dtype must be `int32` or `float32`."
  let x ← if x.dtype == .int32 then toFloat x else pure x
  unary .erf x

variable (op : BinaryOp) (a b : Tensor) (x : Tensor)
def clipByValue (low high : Float) : Op := inScope "clipByValue" do
  if !(low ≤ high) then fail s!"Error in clip: min ({num low}) must be less than or equal to max ({num high})."
  unary (.clip low high) x
def relu (x : Tensor) : Op := inScope "relu" do if x.dtype == .bool then toInt x else unary .relu x
def relu6 (x : Tensor) : Op := inScope "relu6" do if x.dtype == .bool then toInt x else unary .relu6 x
abbrev ComplexFn := Float → Float → Float → Float → Float × Float
def complexFn? : BinaryOp → Option ComplexFn
  | .add => some fun ar ai br bi => (ar + br,ai + bi)
  | .sub => some fun ar ai br bi => (ar - br,ai - bi)
  | .mul => some fun ar ai br bi => (ar * br - ai * bi,ar * bi + ai * br)
  | _ => none

def complexPart (f : ComplexFn) (a b out : Shape) (ar ai br bi : NDArray Float) (part : Float × Float → Float) :
    NDArray Float :=
  let aDims := Broadcast.dims a out
  let bDims := Broadcast.dims b out
  let place s dims k :=
    if aDims.isEmpty && bDims.isEmpty then k % (2 * s.size)
    else s.index (Kernel.operandCoords s dims (out.coords k))
  .ofIndex out fun k =>
    let i := place a aDims k
    let j := place b bDims k
    part (f (ar.item i) (ai.item i) (br.item j) (bi.item j))

def complexData (f : ComplexFn) (a b : Tensor) : Op := do
  let a ← castData a .complex64
  let b ← castData b .complex64
  let out ← Broadcast.shape a.shape b.shape
  let (ar,ai) ← parts a
  let (br,bi) ← parts b
  let part := complexPart f a.shape b.shape out (← read ar) (← read ai) (← read br) (← read bi)
  makeComplex (← store .float32 (part (·.1))) (← store .float32 (part (·.2)))

def binaryType (a b : DType) : Tried DType := match op with
  | .add | .sub | .mul => DType.upcast a b
  | .div => .ok .float32
  | .floorDiv => .ok .int32
  | .pow | .mod | .minimum | .maximum | .squaredDifference | .atan2 | .prelu => .ok a
  | _ => .ok .bool

def binaryData : Op := do
  let isComplex := a.dtype == .complex64 || b.dtype == .complex64
  match complexFn? op, isComplex with
  | some f, true => complexData f a b
  | _, _ =>
    requireReal [a,b] (if op == .div then "realDivide" else op.name)
    let t ← binaryType op a.dtype b.dtype
    let out ← Broadcast.shape a.shape b.shape
    store t (Kernel.broadcast op.eval (← read a) (← read b) out)

def binaryKernel (names : String × String) (saves : Bool) (a b : Tensor) : Op := do
  let out ← Broadcast.shape a.shape b.shape
  runKernel [(names.1,a),(names.2,b)] (some (.binary op out)) do
    return (← binaryData op a b,if saves then [a,b] else [])
def arithmetic (saves : Bool) (a b : Tensor) : Op := inScope op.name do
  let (a,b) ← matchTypes a b
  binaryKernel op ("$a","$b") saves a b
abbrev add := arithmetic .add false
abbrev sub := arithmetic .sub false
abbrev mul := arithmetic .mul true
abbrev floorDiv := arithmetic .floorDiv true
def mod := arithmetic .mod true
def squaredDifference := arithmetic .squaredDifference true
def atan2 := arithmetic .atan2 true
def div (a b : Tensor) : Op := inScope "div" do
  let (a,b) ← matchTypes a b
  if a.dtype == .int32 && b.dtype == .int32 then floorDiv a b
  else binaryKernel .div ("$a","$b") true a b
def extreme : Op := inScope op.name do
  let (a,b) ← matchTypes a b
  let (a,b) ← if a.dtype == .bool then pure (← toInt a,← toInt b) else pure (a,b)
  binaryKernel op ("$a","$b") true a b
def minimum := extreme .minimum
def maximum := extreme .maximum

def pow (base exponent : Tensor) : Op := inScope "pow" do
  let out ← Broadcast.shape base.shape exponent.shape
  let t ← DType.upcast base.dtype exponent.dtype
  let _ ← cast base t
  let _ ← cast exponent t
  runKernel [("$base",base),("$exp",exponent)] (some (.binary .pow out)) do
    let y ← binaryData .pow base exponent
    return (y,[base,exponent,y])

def compare : Op := inScope op.name do
  let (a,b) ← matchTypes a b
  let _ ← Broadcast.shape a.shape b.shape
  let rule := if op == .greaterEqual then some .savedZeros else none
  runKernel [("$a",a),("$b",b)] rule do return (← binaryData op a b,if op == .greaterEqual then [a,b] else [])
abbrev equal := compare .equal
def notEqual := compare .notEqual
abbrev less := compare .less
abbrev lessEqual := compare .lessEqual
abbrev greater := compare .greater
abbrev greaterEqual := compare .greaterEqual
def connective : Op := inScope op.name do
  let _ ← Broadcast.shape a.shape b.shape
  runKernel [("$a",a),("$b",b)] none do return (← binaryData op a b,[])
def logicalAnd := connective .logicalAnd
def logicalOr := connective .logicalOr
def logicalNot : Op := inScope "logicalNot" do
  kernel1 x none do
    requireReal [x] "logicalNot"
    store .bool ((← read x).map fun v => Number.ofBool (!Number.truthy v))
def logicalXor : Op := inScope "logicalXor" do
  let _ ← Broadcast.shape a.shape b.shape
  logicalAnd (← logicalOr a b) (← logicalNot (← logicalAnd a b))
def strict (op : Tensor → Tensor → Op) (name label : String) (a b : Tensor) : Op := inScope name do
  requireSameShape a.shape b.shape s!"Error in {label}: "
  op a b
def mulStrict := strict mul "mulStrict" "multiplyStrict"
def addStrict := strict add "addStrict" "addStrict"
def divStrict := strict div "divStrict" "divideStrict"
def chosen (rank : Nat) (shape : Shape) (cs xs ys : Array Float) : NDArray Float :=
  let run := if rank != 1 then 1 else shape.getD 1 1
  .ofIndex shape fun k =>
    let i := k / run
    if i < cs.size then if readAt cs i == 1 then readAt xs i else readAt ys i else 0

def select (condition a b : Tensor) : Op := inScope "where" do
  requireSameShape a.shape b.shape "Error in where: "
  if condition.rank == 1 then
    if some (condition.dim 0) != a.shape.head? then
      fail "The first dimension of `a` must match the size of `condition`."
  else requireSameShape condition.shape b.shape "Error in where: "
  runKernel [("$condition",condition),("$a",a),("$b",b)] (some .select) do
    requireReal [condition,a,b] "select"
    let cs ← numbers condition
    let xs ← numbers a
    let ys ← numbers b
    let t ← DType.upcast a.dtype b.dtype
    return (← store t (chosen condition.rank a.shape cs xs ys),[condition])

def leakyRelu (alpha : Float) : Op := inScope "leakyRelu" do maximum (← mul (← scalar alpha) x) x
def prelu (x alpha : Tensor) : Op := inScope "prelu" do
  runKernel [("$x",x),("$alpha",alpha)] (some (.binary .prelu x.shape)) do
    return (← binaryData .prelu x alpha,[x,alpha])

def addN (xs : Tensors) : Op := inScope "addN" do
  let first := xs.headD default
  if xs.any (·.dtype != first.dtype) then fail "All tensors passed to tf.addN() must have the same dtype"
  if xs.any (·.shape != first.shape) then fail "All tensors passed to tf.addN() must have the same shape"
  runKernel (xs.zipIdx.map fun (t,i) => (toString i,t)) (some (.addN xs.length)) do
    requireReal xs "addN"
    let t := first.dtype
    let start := .replicate first.size 0.0
    let total ← xs.foldlM (fun acc x => do
      let vs ← numbers x
      return acc.mapIdx fun i v => t.store (v + readAt vs i)) start
    return (← ofNumbers first.shape t total,[])
end TensorKit.Ops
