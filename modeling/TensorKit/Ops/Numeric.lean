import TensorKit.Kernel.Fourier
import TensorKit.Ops.Normalize
import TensorKit.Ops.Indexed

/-! # Orthogonal bases and factorisations -/
namespace TensorKit.Ops
open Engine Number
def orthonormalNext (before : Tensors) (x : Tensor) : Op := inScope unnamed do
  let rest ← before.foldlM (fun x y => do sub x (← mul (← sumAll (← mulStrict y x)) y)) x
  div rest (← norm rest (.named "euclidean") .all false)

def gramSchmidt (xs : Tensors) : Eng Tensors := do
  let first :: _ := xs | fail "Gram-Schmidt process: input must not be null, undefined, or empty"
  let dim := first.dim 0
  for t in xs do
    if t.dim 0 != dim then fail s!"Gram-Schmidt: Non-unique lengths found in the input vectors: ({t.dim 0} vs. {dim})"
  if dim < xs.length then fail s!"Gram-Schmidt: Number of vectors ({xs.length}) exceeds number of dimensions ({dim})."
  xs.foldlM (fun ys x => return ys ++ [← orthonormalNext ys x]) []

def gramSchmidtRows (x : Tensor) : Op := do
  let rows ← split x (.parts (x.dim 0)) 0
  stack (← gramSchmidt (← rows.mapM (squeeze · (some [0])))) 0

structure Factors where
  (w r q : Tensor)

instance : HasTensors Factors := ⟨fun f => [f.w,f.r,f.q]⟩

def reflect (one : Tensor) (m n j : Nat) (f : Factors) : Eng Factors := inScope unnamed do
  let column ← sliceNat f.r [j,j] [m - j,1]
  let length ← norm column (.named "euclidean") .all false
  let pivot ← sliceNat f.r [j,j] [1,1]
  let minus ← ofNumbers [1,1] .float32 #[-1]
  let plus ← ofNumbers [1,1] .float32 #[1]
  let s ← select (← greater pivot (← scalar 0)) minus plus
  let u1 ← sub pivot (← mul s length)
  let wPre ← div column u1
  let w ← if wPre.dim 0 == 1 then clone one
    else concat [one,← sliceNat wPre [1,0] [wPre.dim 0 - 1,wPre.dim 1]] 0
  let tau ← neg (← div (← matMul s u1 false false) length)
  let rows ← sliceNat f.r [j,0] [m - j,n]
  let tauW ← mul tau w
  let wT ← transpose w none
  let r ← sub rows (← matMul tauW (← matMul wT rows false false) false false)
  let r ← if j == 0 then pure r else concat [← sliceNat f.r [0,0] [j,n],r] 0
  let cols ← sliceNat f.q [0,j] [m,f.q.dim 1 - j]
  let q ← sub cols (← matMul (← matMul cols w false false) (← transpose tauW none) false false)
  let q ← if j == 0 then pure q else concat [← sliceNat f.q [0,0] [m,j],q] 1
  return ⟨w,r,q⟩

def qrMatrix (x : Tensor) (full : Bool) : Eng (Tensor × Tensor) := inScope unnamed do
  let m := x.dim 0
  let n := x.dim 1
  let q ← eye m m none .float32
  let r ← clone x
  let one ← ofNumbers [1,1] .float32 #[1]
  let w ← clone one
  let f ← (List.range (.min m n)).foldlM (fun f j => do
    let g ← reflect one m n j f
    dispose f.r
    dispose f.w
    dispose f.q
    return g) (⟨w,r,q⟩)
  if !full && n < m then return (← sliceNat f.q [0,0] [m,n],← sliceNat f.r [0,0] [n,n])
  return (f.q,f.r)

def qr (x : Tensor) (full : Bool) : Eng (Tensor × Tensor) := inScope "qr" do
  if x.rank < 2 then fail s!"qr() requires input tensor to have a rank >= 2, but got rank {x.rank}"
  else if x.rank == 2 then qrMatrix x full
  else
    let k := x.rank
    let outer : Shape := x.shape.take (k - 2)
    let flat ← reshapeTo x ([outer.size] ++ x.shape.drop (k - 2))
    let fs ← (← unstack flat 0).mapM (qrMatrix · full)
    let q ← reshapeTo (← stack (fs.map (·.1)) 0) x.shape
    let r ← reshapeTo (← stack (fs.map (·.2)) 0) x.shape
    return (q,r)

/-! # Signals and spectra -/

variable (length : Nat) (x : Tensor) (signal : Tensor) (name : String)
def cosineWindow (a b : Float) : Op :=
  let n := .ofInt (length + (1 - length % 2) - 1)
  ofNumbers [length] .float32 (.ofFn fun i : Fin length => toSingle (a - b * ((2.0 * pi * .ofNat i.val) / n).cos))
def hannWindow : Op := inScope "hannWindow" (cosineWindow length 0.5 0.5)
def hammingWindow : Op := inScope "hammingWindow" (cosineWindow length 0.54 0.46)

def frame (length step : Nat) (padEnd : Bool) (padValue : Float) : Op := inScope "frame" do
  let n := signal.size
  let starts := (List.range (n + 1)).map (· * step)
  let whole := starts.filter (· + length ≤ n)
  let pieces ← whole.mapM fun s => sliceNat signal [s] [length]
  let rest := if padEnd then starts.filter fun s => n < s + length && s < n else []
  let padded ← rest.mapM fun s => do
    let missing := s + length - n
    let tail ← sliceNat signal [s] [length - missing]
    concat [tail,← runKernel [] none (do return (← full [missing] padValue .float32,[]))] 0
  let out := pieces ++ padded
  if out.isEmpty then ofNumbers [0,length] .float32 #[]
  else reshapeTo (← concat out 0) [out.length,length]

def fourierData (batch inner : Nat) (inverse : Bool) : Op := do
  let (re,im) ← parts x
  let a ← numbers re
  let b ← numbers im
  let rows := (List.range batch).flatMap fun r =>
    Kernel.fourier .single inverse ((List.range inner).map fun c => ⟨readAt a (r * inner + c),readAt b (r * inner + c)⟩)
  let y ← makeComplex (← ofNumbers [batch,inner] .float32 (rows.map (·.re)).toArray)
    (← ofNumbers [batch,inner] .float32 (rows.map (·.im)).toArray)
  reshapeTo y [batch,inner]

def fourier (inverse : Bool) (x : Tensor) : Op := inScope name do
  if x.dtype != .complex64 then fail s!"The dtype for tf.spectral.{name}() must be complex64 but got {x.dtype.name}."
  let inner := x.dim (x.rank - 1)
  let batch := x.size / inner
  let flat ← reshapeTo x [batch,inner]
  let y ← runKernel [("input",x)] none do return (← fourierData flat batch inner inverse,[])
  reshapeTo y x.shape
def fft := fourier "fft" false
def ifft := fourier "ifft" true

def rfft (length : Option Nat) : Op := inScope "rfft" do
  if x.dtype != .float32 then fail s!"The dtype for rfft() must be real value but got {x.dtype.name}"
  let last := x.rank - 1
  let inner := x.dim last
  let batch := x.size / inner
  let n := length.getD inner
  let y ← if n < inner then sliceNat x (x.shape.map fun _ => 0) (x.shape.set last n)
    else if inner < n then concat [x,← zeros (x.shape.set last (n - inner)) .float32] last
    else pure x
  let z ← fft (← reshapeTo (← complex y (← zerosLike y)) [batch,n])
  let half := n / 2 + 1
  let sizes := .sizes [half,n - half]
  let re ← split (← real z) sizes 1
  let im ← split (← imag z) sizes 1
  reshapeTo (← complex (re.headD default) (im.headD default)) (y.shape.set last half)

def irfft : Op := inScope "irfft" do
  let inner := x.dim (x.rank - 1)
  let batch := x.size / inner
  if inner ≤ 2 then real (← ifft (← reshapeTo x [batch,inner]))
  else
    let re ← reshapeTo (← real x) [batch,inner]
    let im ← reshapeTo (← imag x) [batch,inner]
    let back t : Op := do reverse (← sliceNat t [0,1] [batch,inner - 2]) (some [1])
    let reBack ← back re
    let imBack ← mul (← back im) (← scalar (-1))
    let r ← concat [re,reBack] 1
    let i ← concat [im,imBack] 1
    real (← ifft (← reshapeTo (← complex r i) [batch,2 * (inner - 1)]))

def enclosingPower (n : Nat) : Nat := (2.0.pow ((Float.ofNat n).log / 2.0.log).ceil).floor.toUInt64.toNat
def stft (length step : Nat) (fftLength : Option Nat) (window : Nat → Op) : Op := inScope "stft" do
  let n := fftLength.getD (enclosingPower length)
  let framed ← frame signal length step false 0
  let windowed ← mul framed (← window length)
  let rows ← (List.range (framed.dim 0)).mapM fun i => do rfft (← sliceNat windowed [i,0] [1,length]) (some n)
  concat rows 0

/-! # Losses -/

inductive Reduction where
  | none | mean | sum | sumByNonzeroWeights
  | unknown (text : String)

def weightedLoss (losses : Tensor) (weights : Option Tensor) (reduction : Reduction) : Op :=
  inScope "computeWeightedLoss" do
    let weighted ← weights.elim (pure losses) (mul losses)
    match reduction, weights with
    | .none, _ => pure weighted
    | .sum, _ => sumAll weighted
    | .mean, none => mean weighted none false
    | .mean, some w =>
      let factor := .ofNat losses.size / .ofNat w.size
      let r ← div (← sumAll weighted) (← sumAll w)
      if factor > 1 then div r (← scalar factor) else pure r
    | .sumByNonzeroWeights, none => div (← sumAll weighted) (← scalar (.ofNat losses.size))
    | .sumByNonzeroWeights, some w =>
      let spread ← mul w (← ones losses.shape .float32)
      let count ← toFloat (← sumAll (← notEqual spread (← scalar 0)))
      div (← sumAll weighted) count
    | .unknown t, _ => fail s!"Unknown reduction: {t}"

def lossOf (labels predictions : Tensor) (weights : Option Tensor)
    (reduction : Reduction) (losses : Op) : Op := inScope name do
  requireSameShape labels.shape predictions.shape s!"Error in {name}: "
  weightedLoss (← losses) weights reduction

variable (labels predictions : Tensor) (weights : Option Tensor) (reduction : Reduction)
def absoluteDifference : Op := lossOf "absoluteDifference" labels predictions weights reduction do
  abs (← sub labels predictions)
def meanSquaredError : Op :=
  lossOf "meanSquaredError" labels predictions weights reduction (squaredDifference labels predictions)
def cosineDistance (axes : Option Ints) (weights : Option Tensor)
    (reduction : Reduction) : Op := lossOf "cosineDistance" labels predictions weights reduction do
  sub (← scalar 1) (← sum (← mul labels predictions) axes true)
def hingeLoss : Op := lossOf "hingeLoss" labels predictions weights reduction do
  let one ← scalar 1
  let signed ← sub (← mul (← scalar 2) labels) one
  relu (← sub one (← mul signed predictions))
def logLoss (epsilon : Float) (reduction : Reduction) : Op := lossOf "logLoss" labels predictions weights reduction do
  let one ← scalar 1
  let eps ← scalar epsilon
  let hit ← neg (← mul labels (← log (← add predictions eps)))
  let miss ← mul (← sub one labels) (← log (← add (← sub one predictions) eps))
  sub hit miss
def huberLoss (delta : Float) (reduction : Reduction) : Op := lossOf "huberLoss" labels predictions weights reduction do
  let d ← scalar delta
  let error ← abs (← sub predictions labels)
  let quadratic ← minimum error d
  let linear ← sub error quadratic
  add (← mul (← scalar 0.5) (← square quadratic)) (← mul d linear)
variable (logits : Tensor)
def sigmoidCrossEntropyWithLogits : Op := do
  requireSameShape labels.shape logits.shape "Error in sigmoidCrossEntropyWithLogits: "
  let top ← relu logits
  let product ← mul logits labels
  let rest ← unary .log1p (← exp (← neg (← abs logits)))
  add (← sub top product) rest
def smoothed (smoothing : Float) (rest : Tensor → Op) : Op := do
  if smoothing > 0 then
    let s ← scalar smoothing
    let one ← scalar 1
    add (← mul labels (← sub one s)) (← rest s)
  else pure labels
variable (weights : Option Tensor)
def sigmoidCrossEntropy (smoothing : Float)
    (reduction : Reduction) : Op := lossOf "sigmoidCrossEntropy" labels logits weights reduction do
  let labels ← smoothed labels smoothing fun s => do mul (← scalar 0.5) s
  sigmoidCrossEntropyWithLogits labels logits
def softmaxCrossEntropyWithLogits : Op := do
  let dim := (logits.rank : Int) - 1
  runKernel [("0",labels),("1",logits)] (some (.softmaxCrossEntropy dim.toNat)) do
    let lse ← logSumExp logits (some [dim]) true
    let logResult ← sub (← toFloat logits) lse
    let cost ← neg (← mul logResult labels)
    return (← sum cost (some [dim]) false,[labels,logResult])
def softmaxCrossEntropy (smoothing : Float)
    (reduction : Reduction) : Op := lossOf "softmaxCrossEntropy" labels logits weights reduction do
  let labels ← smoothed labels smoothing fun s => do
    div s (← scalar (if 1 < labels.rank then .ofNat (labels.dim 1) else nan))
  softmaxCrossEntropyWithLogits labels logits

/-! # Recurrent cells and measures of predictions -/

def lstmCell (forgetBias kernel bias data c h : Tensor) : Eng (Tensor × Tensor) := inScope "basicLSTMCell" do
  let combined ← concat [data,h] 1
  let res ← add (← matMul combined kernel false false) bias
  let width := res.dim 1 / 4
  let part k := sliceNat res [0,width * k] [res.dim 0,width]
  let i ← part 0
  let j ← part 1
  let f ← part 2
  let o ← part 3
  let kept ← mulStrict c (← sigmoid (← add forgetBias f))
  let newC ← addStrict (← mulStrict (← sigmoid i) (← tanh j)) kept
  return (newC,(← mulStrict (← tanh newC) (← sigmoid o)))

def confusionMatrix (classes : Nat) : Op := do
  let a ← oneHot (← toInt labels) classes 1 0
  let b ← oneHot (← toInt predictions) classes 1 0
  toInt (← matMul (← transpose a none) b false false)

def booleanMask (x mask : Tensor) (axis : Nat) : Op := do
  if mask.rank == 0 then fail "mask cannot be scalar"
  requireSameShape ((x.shape.drop axis).take mask.rank) mask.shape
    "mask's shape must match the first K dimensions of tensor's shape,"
  let lead := Shape.size ((x.shape.drop axis).take mask.rank)
  let shape : Shape := x.shape.take axis ++ [lead] ++ x.shape.drop (axis + mask.rank)
  let flat ← reshapeTo x shape
  let flatMask ← reshape mask [-1]
  let places ← wherePlaces flatMask
  let indices ← squeeze places (some [1])
  let r ← gather flat indices axis
  dispose indices
  dispose flat
  dispose flatMask
  dispose places
  return r

def inTopK (targets : Tensor) (k : Float) : Eng (Array Float) := do
  if predictions.rank < 2 then
    fail s!"inTopK() expects the predictions to be of rank 2 or higher, but got {predictions.rank}"
  if predictions.rank - 1 != targets.rank then
    fail (s!"predictions rank should be 1 larger than targets rank, but got predictions rank {predictions.rank} " ++
      s!"and targets rank {targets.rank}")
  requireSameShape predictions.shape.dropLast targets.shape
    ("predictions's shape should be align with the targets' shape, except the last dimension.")
  let last := predictions.dim (predictions.rank - 1)
  if !(k > 0 && k <= .ofNat last) then
    fail s!"'k' passed to inTopK() must be > 0 && <= the predictions last dimension ({last}), but got {num k}"
  let ps ← numbers predictions
  let ts ← numbers targets
  let count := (wholePart k.ceil).toNat
  return .ofFn fun b : Fin (ps.size / last) =>
    let row := (List.range last).map fun i => readAt ps (b.val * last + i)
    ofBool (((descending row).take count).any fun p => .ofNat p.2 == readAt ts b.val)
end TensorKit.Ops
