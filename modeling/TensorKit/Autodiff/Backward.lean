import TensorKit.Ops.Image
import TensorKit.Ops.Indexed
import TensorKit.Ops.Normalize

/-! # Gradients of elementwise operations

A rule takes the gradient of a result to the gradients of the inputs. These are actions, so that one nobody asks for is
never computed.
-/
namespace TensorKit
abbrev InputGradients := List (String × Op)

namespace Autodiff
open Engine Ops
variable (n : TapeNode) (g : Tensor) (shape out : Shape)
def saved1 : Tensor := n.saved.headD default
def saved2 : Tensor := n.saved.getD 1 default
def saved3 : Tensor := n.saved.getD 2 default
def shapeOf (name : String) : Shape := (n.inputs.lookup name).elim [] (·.shape)
def oneMinus (x : Tensor) : Op := do sub (← scalar 1) x

/-- The gradient of a function of one number; `s` is the saved input or output. -/
def unaryGradient (op : UnaryOp) (s dy : Tensor) : Eng Op := match op with
  | .neg => pure (neg dy)
  | .ceil | .floor | .sign | .isNaN | .isInf | .isFinite | .round | .step _ => pure (zerosLike dy)
  | .exp => pure (mulStrict dy s)
  | .expm1 => pure do mul dy (← exp s)
  | .log => pure do div dy (← toFloat s)
  | .log1p => pure do div dy (← add s (← scalar 1))
  | .sqrt => pure do div dy (← mul (← sqrt (← toFloat s)) (← scalar 2))
  | .rsqrt => pure do neg (← div dy (← mul (← pow s (← scalar 1.5)) (← scalar 2)))
  | .square => pure do mul dy (← mul (← toFloat s) (← scalar 2))
  | .reciprocal => pure do div dy (← neg (← square s))
  | .abs => pure do mul dy (← step (← toFloat s) (-1))
  | .clip low high => pure do
    let above ← greaterEqual s (← scalar low)
    let below ← lessEqual s (← scalar high)
    select (← logicalAnd above below) dy (← zerosLike dy)
  | .sigmoid => pure do mul dy (← mul s (← oneMinus s))
  | .logSigmoid => pure do mul dy (← sigmoid (← neg s))
  | .softplus => pure do mul dy (← sigmoid s)
  | .sin => pure do mul (← unary .cos (← toFloat s)) dy
  | .cos => pure do mul (← neg (← unary .sin (← toFloat s))) dy
  | .tan => pure do div dy (← square (← unary .cos s))
  | .asin => pure do divStrict dy (← sqrt (← oneMinus (← square (← toFloat s))))
  | .acos => pure do neg (← divStrict dy (← sqrt (← oneMinus (← square (← toFloat s)))))
  | .atan => pure do div dy (← add (← square (← toFloat s)) (← scalar 1))
  | .sinh => pure do mulStrict (← unary .cosh (← toFloat s)) dy
  | .cosh => pure do mulStrict (← unary .sinh (← toFloat s)) dy
  | .tanh => pure do mulStrict (← oneMinus (← square s)) dy
  | .asinh => pure do divStrict dy (← sqrt (← add (← scalar 1) (← square (← toFloat s))))
  | .acosh => pure do divStrict dy (← sqrt (← sub (← square (← toFloat s)) (← scalar 1)))
  | .atanh => pure do div dy (← oneMinus (← square (← toFloat s)))
  | .erf => pure do mul dy (← mul (← exp (← neg (← square s))) (← scalar (2.0 / Number.pi.sqrt)))
  | .relu => pure do mulStrict dy (← toFloat (← step s 0))
  | .relu6 => do
    let mask ← mul (← lessEqual s (← scalar 6)) (← step s 0)
    pure do mulStrict dy (← toFloat mask)
  | .elu => pure do
    runKernel [("dy",dy),("y",s)] none do
      let d ← numbers dy
      let y ← numbers s
      return (← store .float32 ⟨s.shape,y.mapIdx fun i v => if v >= 1 then readAt d i else readAt d i * (v + 1.0)⟩,[])
  | .selu => pure do
    let mask ← greater s (← scalar 0)
    let scaleAlpha ← scalar Kernel.seluScaleAlpha
    let scale ← scalar Kernel.seluScale
    let whereAbove ← mul dy scale
    let whereBelow ← mul (← mul dy scaleAlpha) (← exp (← toFloat s))
    select mask whereAbove whereBelow

def foldStretched : Op :=
  let axes := Broadcast.reductionAxes shape out
  if axes.isEmpty then pure g else sumAxes g axes false
def foldToShape : Op := do
  let axes := Broadcast.reductionAxes shape out
  if axes.isEmpty then pure g else reshapeTo (← sumAxes g axes false) shape

def binaryGradient (op : BinaryOp) (out : Shape) (n : TapeNode) (dy : Tensor) : InputGradients :=
  let a := saved1 n
  let b := saved2 n
  match op with
  | .add =>
    let side k : Op := do reshapeTo (← foldStretched dy (shapeOf n k) out) (shapeOf n k)
    [("$a",side "$a"),("$b",side "$b")]
  | .sub =>
    let sa := shapeOf n "$a"
    let sb := shapeOf n "$b"
    [("$a",do reshapeTo (← foldStretched dy sa out) sa),("$b",do reshapeTo (← neg (← foldStretched dy sb out)) sb)]
  | .mul =>
    [("$a",do foldToShape (← mul dy (← toFloat b)) a.shape out),
     ("$b",do foldToShape (← mul dy (← toFloat a)) b.shape out)]
  | .div | .floorDiv =>
    [("$a",do foldToShape (← div dy (← toFloat b)) a.shape out),
     ("$b",do
       let r ← foldToShape (← mul dy (← toFloat a)) b.shape out
       neg (← div r (← toFloat (← square b))))]
  | .mod =>
    [("$a",foldToShape dy a.shape out),("$b",do foldToShape (← mul dy (← neg (← floor (← div a b)))) b.shape out)]
  | .minimum => [("$a",do mul dy (← toFloat (← lessEqual a b))),("$b",do mul dy (← toFloat (← greater a b)))]
  | .maximum => [("$a",do mul dy (← toFloat (← greaterEqual a b))),("$b",do mul dy (← toFloat (← less a b)))]
  | .squaredDifference =>
    [("$a",do mul dy (← mul (← sub a b) (← scalar 2))),("$b",do mul dy (← mul (← sub b a) (← scalar 2)))]
  | .atan2 =>
    let ratio x : Op := do
      let d ← add (← square a) (← square b)
      mul dy (← div x d)
    [("$a",do reshapeTo (← foldStretched (← ratio b) a.shape out) a.shape),
     ("$b",do reshapeTo (← foldStretched (← neg (← ratio a)) b.shape out) b.shape)]
  | .pow =>
    [("$base",do
       let e ← toFloat b
       let r ← mul dy (← mul e (← pow a (← sub e (← scalar 1))))
       reshapeTo (← foldStretched r a.shape out) a.shape),
     ("$exp",do
       let positive ← greater a (← scalar 0)
       let logBase ← select positive (← log a) (← zerosLike a)
       let r ← mul dy (← mul (saved3 n) logBase)
       reshapeTo (← foldStretched r b.shape out) b.shape)]
  | .prelu =>
    let mask := do greater a (← scalar 0)
    [("$x",do
       let m ← mask
       select m dy (← mul dy b)),
     ("$alpha",do
       let m ← mask
       let r ← select m (← zerosLike dy) (← mul dy a)
       reshapeTo (← foldStretched r b.shape dy.shape) b.shape)]
  | _ => []
end Autodiff
end TensorKit

/-! # Gradient rules of all operations -/
namespace TensorKit.Autodiff
open Engine Ops
def tileGradient (x dy : Tensor) (reps : Nats) : Op := do
  if x.rank == 0 || 4 < x.rank then
    fail s!"Gradient for tile operation is not implemented for rank-{x.rank} tensors yet."
  (List.range (Shape.size reps)).foldlM (fun g k => do
    let start := (Shape.coords reps k).zipWith (· * ·) x.shape
    add g (← sliceNat dy start x.shape)) (← zerosLike x)

/-- Slices for the indices that are not negative, zeros for the others. -/
def gatherOrZero (x indices : Tensor) : Op := do
  let clipped ← maximum indices (← zerosLike indices)
  let gathered ← gather x clipped 0
  let positive ← greaterEqual indices (← scalarOf .int32 0)
  let positive ← (List.range (gathered.rank - positive.rank)).foldlM (fun t i => expandDims t (.ofNat i + 1)) positive
  let positive ← logicalAnd positive (← ones gathered.shape .bool)
  select positive gathered (← zerosLike gathered)

def gatherGradient (indices dy : Tensor) (axis : Nat) (shape : Shape) : Op := do
  let inner := shape.length - axis - 1
  let values ← reshapeTo dy (shape.take axis ++ [indices.size] ++ shape.drop (axis + 1))
  let flat ← reshapeTo indices [indices.size]
  let perm := axis :: (.range axis ++ (List.range inner).map (· + axis + 1))
  let g ← unsortedSegmentSum (← transposeBy values perm) flat (shape.getD axis 0)
  transposeBy g (Axes.undo perm)
def productGradients (transposeA transposeB : Bool) (a b dy : Tensor) : Op × Op := match transposeA, transposeB with
  | false, false => (matMul dy b false true,matMul a dy true false)
  | false, true => (matMul dy b false false,matMul dy a true false)
  | true, false => (matMul b dy false true,matMul a dy false false)
  | true, true => (matMul b dy true true,matMul dy a true true)

variable (p : WindowParams)
def requireUndilated (start : String) : Eng Unit := do
  if !p.dilations.isOne then fail s!"{start} Got dilations '{p.dilations.text}'"
def activationGradient (activation : String) (dy y : Tensor) : Op := match activation with
  | "linear" | "" => pure dy
  | "relu" => do mul dy (← step y 0)
  | a => fail s!"Gradient for activation {a} has not been implemented yet."
def biasGradient (bias : Option Shape) (dy : Tensor) : InputGradients := match bias with
  | none => []
  | some s => [("$bias",do reshapeTo (← foldStretched dy s dy.shape) s)]
def formatName : String := if p.channelsLast then "NHWC" else "NCHW"
def conv2dGradients (x f dy : Tensor) : InputGradients :=
  let p := { p with rounding := .none }
  [("x",conv2dInput x.shape dy f p),("$filter",conv2dFilter x dy f.shape p)]
def sharedGradient (mean : Tensor) (axes : Nats) (g : Tensor) : Op := do
  let g ← if mean.rank == 1 then sumAxes g axes false else pure g
  reshapeTo g mean.shape
def normalisedGradient (x mean inverse scaleValue dy : Tensor) (images : Shape) : Op := do
  let spread ← if mean.rank == 1 then tile (← reshapeTo inverse [1,1,1,mean.dim 0]) (images.dropLast ++ [1])
    else pure inverse
  reshapeTo (← mul (← mul dy spread) scaleValue) x.shape

def batchNormGradients (epsilon : Float) (n : TapeNode) (dy : Tensor) : Eng InputGradients := do
  let x := saved1 n
  let mean := saved2 n
  let variance := saved3 n
  let images := List.replicate (4 - x.rank) 1 ++ x.shape
  let scaleValue ← match n.saved[3]? with
    | some s => pure s
    | none => scalar 1
  let centred ← sub x mean
  let dyScaled ← mul dy scaleValue
  let inverse ← rsqrt (← add variance (← scalar epsilon))
  let halfCube ← mul (← mul (← mul inverse inverse) inverse) (← scalar (-0.5))
  let collect := sharedGradient mean (Broadcast.reductionAxes mean.shape images)
  return [
    ("$x",normalisedGradient x mean inverse scaleValue dy images),
    ("$mean",do collect (← mul (← mul inverse (← scalar (-1))) dyScaled)),
    ("$variance",do collect (← mul (← mul halfCube centred) dyScaled)),
    ("$scale",do collect (← mul dy (← mul centred inverse))),
    ("$offset",collect dy)]

/-- Gradients of a recorded operation for its inputs, from those of its results. Functions of the user
have none here. -/
def backward (n : TapeNode) (rule : Rule) (dys : Tensors) : Eng InputGradients := do
  let dy := dys.headD default
  let x := saved1 n
  let one g := return [("$x",g)]
  match rule with
  | .clone => return [((n.inputs.head?.map (·.1)).getD "$x",toFloat dy)]
  | .cast => one (clone dy)
  | .reshape s => one (reshapeTo dy s)
  | .constant => one (zerosLike dy)
  | .savedZeros =>
    match n.saved with
    | [a,b] => return [("$a",zerosLike a),("$b",zerosLike b)]
    | _ => one (zerosLike x)
  | .unary op => one (← unaryGradient op x dy)
  | .binary op out => return binaryGradient op out n dy
  | .addN k => return (List.range k).map fun i => (toString i,clone dy)
  | .select => return [
      ("$condition",do toFloat (← zerosLike x)),
      ("$a",do mul dy (← cast x dy.dtype)),
      ("$b",do mul dy (← cast (← logicalNot x) dy.dtype))]
  | .sum s axes =>
    let g ← mul (← reshapeTo dy (axes.foldl (·.set · 1) s)) (← ones s .float32)
    return [("0",pure g)]
  | .mean s axes count =>
    let g ← mul (← reshapeTo dy (axes.foldl (·.set · 1) s)) (← ones s .float32)
    let g ← div g (← scalar (.ofNat count))
    return [("0",pure g)]
  | .extremum axes perm => one do
    let y := saved2 n
    let y ← if y.rank < x.rank then reshapeTo y (Axes.keepDims y.shape axes) else pure y
    let dy ← if dy.rank < x.rank then reshapeTo dy (Axes.keepDims dy.shape axes) else pure dy
    let g ← mul dy (← cast (← equal x y) dy.dtype)
    let some p := perm | pure g
    transposeBy g p
  | .zeros s => return [("$indices",zeros s .float32)]
  | .tile reps => one (tileGradient x dy reps)
  | .pad start s => one (slice dy start (some (nat s)))
  | .batchToSpace block crops => one (spaceToBatchND dy block crops)
  | .spaceToBatch block paddings => one (batchToSpaceND dy block paddings)
  | .unstack axis => one (stack dys axis)
  | .cumsum axis exclusive reversed => return [("permutedX",cumsum dy axis exclusive (!reversed))]
  | .slice start size s =>
    let after := (s.zip (start.zip size)).map fun (d,b,k) => d - b - k
    one (pad dy (start.zip after) 0)
  | .concat sizes axis =>
    let parts ← split dy (.sizes (nat sizes)) axis
    return parts.zipIdx.map fun (t,i) => (toString i,pure t)
  | .split axis => one (concat dys axis)
  | .transpose perm => one (transposeBy dy (Axes.undo perm))
  | .reverse axes => one (reverse dy (some (nat axes)))
  | .segmentSum => one (gatherOrZero dy x)
  | .gather axis s => one (gatherGradient x dy axis s)
  | .matMul tA tB =>
    let (ga,gb) := productGradients tA tB x (saved2 n) dy
    return [("$a",ga),("$b",gb)]
  | .conv2d p =>
    requireUndilated p ("Error in gradient of conv2D: dilation rates greater than 1 " ++
      "are not yet supported in gradients.")
    return conv2dGradients p (saved2 n) x dy
  | .conv2dInput p => return [
      ("dy4D",conv2d dy x p (formatName p)),
      ("filter",conv2dFilter dy (saved2 n) x.shape p)]
  | .depthwise w p =>
    requireUndilated p "Error in gradient of depthwiseConv2d: dilation rates greater than 1 are not yet supported."
    return [("x",depthwiseInput dy (saved2 n) w),("$filter",depthwiseFilter x dy w)]
  | .conv3d p =>
    requireUndilated p ("Error in gradient of conv3D: dilation rates greater than 1 are " ++
      "not yet supported in gradients.")
    return [("x",conv3dInput x.shape dy (saved2 n) p),("$filter",conv3dFilter x dy (saved2 n).shape p)]
  | .maxPool filter p => return [("x",poolGradient maxPool2dSpec dy x.shape (some x) filter p)]
  | .avgPool filter p s => return [("x",poolGradient avgPool2dSpec dy s none filter p)]
  | .maxPool3d filter p => return [("x",poolGradient maxPool3dSpec dy x.shape (some x) filter p)]
  | .avgPool3d filter p s => return [("x",poolGradient avgPool3dSpec dy s none filter p)]
  | .resizeBilinear align => return [("batchImages",resizeBilinearGradient dy x align)]
  | .resizeNearest align => return [("batchImages",resizeNearestGradient dy x align)]
  | .batchNorm epsilon => batchNormGradients epsilon n dy
  | .localResponse radius bias alpha beta =>
    return [("x4D",localResponseGradient dy x (saved2 n) radius bias alpha beta)]
  | .softmax dim =>
    let t ← mul dy x
    let g ← sub t (← mul (← sumAxes t [dim] true) x)
    return [("0",pure g)]
  | .logSoftmax axis =>
    let s ← exp x
    let g ← sub dy (← mul (← sumAxes dy [axis] true) s)
    return [("0",pure g)]
  | .softmaxCrossEntropy dim =>
    let logResult := saved2 n
    let s := Axes.keepDims dy.shape [dim]
    let labels ← mul (← reshapeTo dy s) (← sub (← toFloat x) (← exp logResult))
    let logits ← mul (← reshapeTo dy s) (← sub (← exp logResult) (← toFloat x))
    return [("0",pure labels),("1",pure logits)]
  | .fusedMatMul tA tB act bias =>
    let d ← activationGradient act dy (saved3 n)
    let (ga,gb) := productGradients tA tB x (saved2 n) d
    return [("$a",ga),("$b",gb)] ++ biasGradient bias d
  | .fusedConv2d p act bias =>
    let d ← activationGradient act dy (saved3 n)
    requireUndilated p ("Error in gradient of fused conv2D: dilation rates greater than 1 are not yet supported " ++
      "in gradients.")
    return conv2dGradients p (saved2 n) x d ++ biasGradient bias d
  | .fusedDepthwise w p act bias =>
    requireUndilated p ("Error in gradient of fused depthwiseConv2d: dilation rates " ++
      "greater than 1 are not yet supported.")
    let d ← activationGradient act dy (saved3 n)
    return [("x",depthwiseInput d (saved2 n) w),("$filter",depthwiseFilter x d w)] ++ biasGradient bias d
  | .custom _ => return []
end TensorKit.Autodiff
