import TensorKit.Kernel.Conv
import TensorKit.Ops.Reduce

/-! # Convolutions -/
namespace TensorKit
def WindowParams.undilated (p : WindowParams) : WindowParams := { p with dilations := .one 1 }
end TensorKit
namespace TensorKit.Ops
section
open Engine
variable (rank : Nat) (fn : String) (x f : Tensor) (p : WindowParams)
def withBatch : Eng (Tensor × Bool) := do
  if x.rank + 1 == rank then
    requireLive x
    return (← reshapeTo x (1 :: x.shape),true)
  else return (x,false)
def dropBatch (y : Tensor) (added : Bool) : Op := if added then reshapeTo y (y.shape.drop 1) else pure y
def requireWholePad (label : String) (p : WindowParams) : Eng Unit := match p.rounding with
  | .none => pure ()
  | r => do
    if !p.pad.isNumber then
      fail s!"Error in {label}: pad must be an integer when using, dimRoundingMode {r.text} but got pad {p.pad.text}."
def requireOneOf : Eng Unit := do
  if !(p.strides.isOne || p.dilations.isOne) then
    fail (s!"Error in {fn}: Either strides or dilations must be 1. Got strides {p.strides.text} and " ++
      s!"dilations '{p.dilations.text}'")
def layout (format : String) : Tried Bool := match format with
  | "NHWC" => .ok true
  | "NCHW" => .ok false
  | f => .error (.failure s!"Unknown dataFormat {f}")
def convWindow (x f : Shape) (p : WindowParams) (depthwise : Bool) : Tried Window :=
  let n := x.length - 2
  Window.conv (nat x) (nat f) (p.strides.dims n) (p.dilations.dims n) p.pad p.rounding depthwise p.channelsLast
def channelAxis (rank : Nat) : Nat := if p.channelsLast then rank - 1 else 1
def requireRank (fn what : String) (t : Tensor) (stop : String := ".") : Eng Unit := do
  if t.rank != rank then fail s!"Error in {fn}: {what} must be rank {rank}, but got rank {t.rank}{stop}"
def requireDepth (fn side : String) (found wanted : Nat) : Eng Unit := do
  if found != wanted then fail s!"Error in {fn}: depth of {side} ({found}) must match {side} depth for filter {wanted}."
def requireFormat (only fn format : String) : Eng Unit := do
  if format != only then fail s!"Error in {fn}: got dataFormat of {format} but only {only} is currently supported."
def requireChannels : Eng Unit := do
  if x.dim 3 != f.dim 2 then
    fail (s!"Error in {fn}: number of input channels ({x.dim 3}) must match the inChannels dimension in " ++
      s!"filter {f.dim 2}.")

variable (inShape : Shape) (outShape : Shape) (w : Window)
def convData : Op := do
  w.requireOut
  ofArray x.dtype (Kernel.conv x.dtype.store w (Kernel.convView w (← read x)) (← read f))

def conv2d (format : String) : Op := inScope "conv2d" do
  let (x4,added) ← withBatch 4 x
  requireRank 4 "conv2d" "input" x4
  requireRank 4 "conv2d" "filter" f
  requireWholePad "conv2d" p
  requireDepth "conv2d" "input" (x4.dim (if format == "NHWC" then 3 else 1)) (f.dim 2)
  requireOneOf "conv2D" p
  let p := { p with channelsLast := ← layout format }
  let w ← convWindow x4.shape f.shape p false
  let y ← runKernel [("x",x4),("$filter",f)] (some (.conv2d p)) do
    requireReal [x4,f] "conv2d"
    return (← convData x4 f w,[f,x4])
  dropBatch y added

variable (dy : Tensor)
/-- The shape and the gradient with a batch, after all checks. -/
def gradientArgs (f : Tensor) (axis : Nat) : Eng (Shape × Tensor × Bool) := do
  if inShape.length != dy.rank then fail s!"Length of inShape ({inShape.length}) and rank of dy ({dy.rank}) must match"
  let (batched,added) ← withBatch rank dy
  let inShape := if added then 1 :: inShape else inShape
  if inShape.length != rank then fail s!"Error in {fn}: inShape must be length {rank}, but got length {inShape.length}."
  requireRank rank fn "dy" batched ""
  requireRank rank fn "filter" f ""
  requireDepth fn "input" (inShape.getD axis 0) (f.dim (rank - 2))
  requireDepth fn "output" (batched.dim axis) (f.dim (rank - 1))
  return (inShape,batched,added)

def conv2dInput (f : Tensor) (p : WindowParams) : Op := inScope "conv2dDerInput" do
  let (inShape,dy4,added) ← gradientArgs 4 "conv2dDerInput" inShape dy f (channelAxis p 4)
  requireWholePad "conv2dDerInput" p
  let p := p.undilated
  let w ← convWindow inShape f.shape p false
  let y ← runKernel [("dy4D",dy4),("filter",f)] (some (.conv2dInput p)) do
    requireReal [dy4,f] "conv2dDerInput"
    return (← store .float32 (Kernel.convInputGradient w (← read dy4) (← read f)),[f,dy4])
  dropBatch y added

variable (filterShape : Shape)
def conv2dFilter (p : WindowParams) : Op := inScope "conv2dDerFilter" do
  let (x4,_) ← withBatch 4 x
  let (dy4,_) ← withBatch 4 dy
  for (what,t) in [("input",x4),("dy",dy4)] do
    if t.rank != 4 then fail s!"Error in conv2dDerFilter: {what} must be rank 4, but got shape {t.shape.text}."
  let inDepth := x4.dim (channelAxis p 4)
  let outDepth := dy4.dim (channelAxis p 4)
  if inDepth != filterShape.getD 2 0 then
    fail (s!"Error in conv2dDerFilter: depth of input {inDepth}) must match input depth in filter " ++
      s!"({filterShape.getD 2 0}.")
  if outDepth != filterShape.getD 3 0 then
    fail (s!"Error in conv2dDerFilter: depth of dy ({outDepth}) must match output depth for filter " ++
      s!"({filterShape.getD 3 0}).")
  requireWholePad "conv2dDerFilter" p
  let w ← convWindow x4.shape filterShape p.undilated false
  runKernel [("x4D",x4),("dy4D",dy4)] none do
    requireReal [x4,dy4] "conv2dDerFilter"
    return (← store .float32 (Kernel.convFilterGradient w (← read x4) (← read dy4)),[])

variable (p : WindowParams)
def conv2dTranspose : Op := inScope "conv2dTranspose" do conv2dInput outShape x f p
def depthwiseData : Op := do
  requireReal [x,f] "depthwiseConv2D"
  w.requireOut
  ofArray x.dtype (Kernel.depthwise x.dtype.store w (Kernel.convView w (← read x)) (← read f))

def depthwiseConv2d : Op := inScope "depthwiseConv2d" do
  let (x4,added) ← withBatch 4 x
  requireRank 4 "depthwiseConv2d" "input" x4
  requireRank 4 "depthwiseConv2d" "filter" f
  requireChannels "depthwiseConv2d" x4 f
  requireOneOf "depthwiseConv2d" p
  requireWholePad "depthwiseConv2d" p
  let p := { p with channelsLast := true }
  let w ← convWindow x4.shape f.shape p true
  let y ← runKernel [("x",x4),("$filter",f)] (some (.depthwise w p)) do return (← depthwiseData x4 f w,[x4,f])
  dropBatch y added

def depthwiseInput (f : Tensor) (w : Window) : Op := inScope "depthwiseConv2dDerInput" do
  let (dy4,added) ← withBatch 4 dy
  let y ← runKernel [("dy4D",dy4)] none do
    requireReal [dy4,f] "depthwiseConv2DDerInput"
    return (← store .float32 (Kernel.depthwiseInputGradient w (← read dy4) (← read f)),[])
  dropBatch y added
def depthwiseFilter (w : Window) : Op := inScope "depthwiseConv2dDerFilter" do
  let (x4,_) ← withBatch 4 x
  let (dy4,_) ← withBatch 4 dy
  runKernel [("x4D",x4),("dy4D",dy4)] none do
    requireReal [x4,dy4] "depthwiseConv2DDerFilter"
    return (← store .float32 (Kernel.depthwiseFilterGradient w (← read x4) (← read dy4)),[])

def separableConv2d (depthwise pointwise : Tensor) (p : WindowParams) (format : String) :
    Op := inScope "separableConv2d" do
  let (x4,added) ← withBatch 4 x
  if format == "NCHW" then fail "separableConv2d currently does not support dataFormat NCHW; only NHWC is supported"
  requireRank 4 "separableConv2d" "input" x4
  requireRank 4 "separableConv2d" "depthwise filter" depthwise
  if pointwise.rank != 4 then
    fail s!"Error in separableConv2d: pointwise filter must be rank 4, but got rank {depthwise.rank}."
  let dims := [("first"," ",1),("second","",1),("third","",depthwise.dim 2 * depthwise.dim 3)]
  for ((place,space,size),i) in dims.zipIdx do
    if pointwise.dim i != size then
      fail (s!"Error in separableConv2d: the {place} dimension of pointwise filter {space}must be {size}, " ++
        s!"but got {pointwise.dim i}.")
  let d ← depthwiseConv2d x4 depthwise p
  let y ← conv2d d pointwise ⟨.one 1,.each [1,1],.valid,.none,true⟩ format
  dropBatch y added

def conv1d (stride dilation : Int) (pad : Window.Pad) (rounding : Window.Rounding)
    (format : String) : Op := inScope "conv1d" do
  let (x3,added) ← withBatch 3 x
  requireRank 3 "conv1d" "input" x3
  requireRank 3 "conv1d" "filter" f
  requireWholePad "conv1d" ⟨.one stride,.one dilation,pad,rounding,true⟩
  requireDepth "conv1d" "input" (x3.dim 2) (f.dim 1)
  if !(stride == 1 || dilation == 1) then
    fail s!"Error in conv1D: Either stride or dilation must be 1. Got stride {stride} and dilation '{dilation}'"
  requireFormat "NWC" "conv1d" format
  let f4 ← reshapeTo f (1 :: f.shape)
  let x4 ← reshapeTo x3 [x3.dim 0,1,x3.dim 1,x3.dim 2]
  let y ← conv2d x4 f4 ⟨.each [1,stride],.each [1,dilation],pad,rounding,true⟩ "NHWC"
  if added then reshapeTo y [y.dim 2,y.dim 3] else reshapeTo y [y.dim 0,y.dim 2,y.dim 3]

def conv3d (format : String) : Op := inScope "conv3d" do
  let (x5,added) ← withBatch 5 x
  requireRank 5 "conv3d" "input" x5
  requireRank 5 "conv3d" "filter" f
  requireDepth "conv3d" "input" (x5.dim 4) (f.dim 3)
  requireOneOf "conv3D" p
  requireFormat "NDHWC" "conv3d" format
  let w ← convWindow x5.shape f.shape p false
  let y ← runKernel [("x",x5),("$filter",f)] (some (.conv3d p)) do return (← convData x5 f w,[x5,f])
  dropBatch y added

def conv3dInput (f : Tensor) (p : WindowParams) : Op := do
  let (inShape,dy5,added) ← gradientArgs 5 "conv3dDerInput" inShape dy f 4
  let w ← convWindow inShape f.shape p.undilated false
  let y ← runKernel [("dy5D",dy5)] none do
    return (← store .float32 (Kernel.convInputGradient w (← read dy5) (← read f)),[])
  dropBatch y added
def conv3dFilter (p : WindowParams) : Op := do
  let (x5,_) ← withBatch 5 x
  let (dy5,_) ← withBatch 5 dy
  let w ← convWindow x5.shape filterShape p.undilated false
  runKernel [("x5D",x5),("dy5D",dy5)] none do
    return (← store .float32 (Kernel.convFilterGradient w (← read x5) (← read dy5)),[])
def conv3dTranspose : Op := inScope "conv3dTranspose" do conv3dInput outShape x f p
end

/-! # Operations with bias and activation -/
open Engine
structure Epilogue where
  bias : Option Tensor
  activation : String
  prelu : Option Tensor

def epilogueData (y : Tensor) (e : Epilogue) : Op := do
  let y ← e.bias.elim (pure y) (binaryData .add y)
  match e.activation with
  | "linear" | "" => pure y
  | "relu" => unaryData .relu y
  | "elu" => unaryData .elu y
  | "relu6" => unaryData .relu6 y
  | "prelu" => binaryData .prelu y (e.prelu.getD default)
  | a => fail s!"Activation {a} has not been implemented for the CPU backend."

def matchedBias (bias : Option Tensor) (x : Tensor) (out : Shape) : Eng (Option Tensor) := do
  let some b := bias | return none
  let (b,_) ← matchTypes b x
  let _ ← Broadcast.shape out b.shape
  return some b
def epilogueInputs (e : Epilogue) : Named Tensor :=
  (e.bias.toList.map (("$bias",·))) ++ (e.prelu.toList.map (("$preluActivationWeights",·)))
def biasShape (e : Epilogue) : Option Shape := e.bias.map (·.shape)

def fusedMatMul (a b : Tensor) (transposeA transposeB : Bool) (e : Epilogue) : Op := inScope "matMul" do
  let (a,b) ← matchTypes a b
  let s ← productShapes "fused matMul" a b transposeA transposeB
  requireLive a
  requireLive b
  let a3 ← reshapeTo a s.a
  let b3 ← reshapeTo b s.b
  let e := { e with bias := ← matchedBias e.bias a s.out }
  let rule := .fusedMatMul transposeA transposeB e.activation (biasShape e)
  let y ← runKernel ([("$a",a3),("$b",b3)] ++ epilogueInputs e) (some rule) do
    let y ← epilogueData (← productData a3 b3 transposeA transposeB) e
    return (y,[a3,b3,y])
  reshapeTo y s.out

def fusedConv2d (x f : Tensor) (p : WindowParams) (format : String) (e : Epilogue) : Op := inScope "conv2d" do
  let (x4,added) ← withBatch 4 x
  requireRank 4 "fused conv2d" "input" x4
  requireRank 4 "fused conv2d" "filter" f
  requireWholePad "fused conv2d" p
  requireDepth "conv2d" "input" (x4.dim 3) (f.dim 2)
  requireOneOf "conv2D" p
  requireFormat "NHWC" "conv2d" format
  let w ← convWindow x4.shape f.shape p false
  let e := { e with bias := ← matchedBias e.bias x w.out }
  let rule := .fusedConv2d p e.activation (biasShape e)
  let y ← runKernel ([("x",x4),("$filter",f)] ++ epilogueInputs e) (some rule) do
    requireReal [x4,f] "conv2d"
    let y ← epilogueData (← convData x4 f w) e
    return (y,[f,x4,y])
  dropBatch y added

def fusedDepthwiseConv2d (x f : Tensor) (p : WindowParams) (e : Epilogue) : Op := inScope "depthwiseConv2d" do
  let (x4,added) ← withBatch 4 x
  requireRank 4 "fused depthwiseConv2d" "input" x4
  requireRank 4 "fused depthwiseConv2d" "filter" f
  requireChannels "fused depthwiseConv2d" x4 f
  requireOneOf "fused depthwiseConv2d" p
  match p.rounding with
  | .none => pure ()
  | r =>
    if !p.pad.isNumber then
      fail (s!"Error in fused depthwiseConv2d: pad must be an integer when " ++
        s!"using dimRoundingMode {r.text} but got pad {p.pad.text}.")
  let p := { p with channelsLast := true }
  let w ← convWindow x4.shape f.shape p true
  let e := { e with bias := ← matchedBias e.bias x w.out }
  let rule := .fusedDepthwise w p e.activation (biasShape e)
  let y ← runKernel ([("x",x4),("$filter",f)] ++ epilogueInputs e) (some rule) do
    let y ← epilogueData (← depthwiseData x4 f w) e
    return (y,[x4,f,y])
  dropBatch y added
end TensorKit.Ops
