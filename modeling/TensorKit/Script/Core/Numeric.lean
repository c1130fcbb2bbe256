import TensorKit.Script.Arguments
import TensorKit.Ops.Numeric

/-! # Reductions, products, losses and spectra in programs -/
namespace TensorKit.Script
open Engine Ops
variable (name : String)
def reduceHandler (expected : Expected) (f : Tensor → Option Ints → Bool → Op) : Route :=
  opHandler name name <| on3 fun y z w => do
    let x ← toTensor y "x" name expected
    f x (← axesArg z x.rank) (boolOr w false)
def argHandler (f : Tensor → Int → Op) : Route :=
  opOn name "x" fun x a => do f x (← axisArg (if (a 1).isNil then .num 0 else a 1) 0 x.rank)
variable (v : Value)
def normOrder : NormOrder := match v with
  | .absent => .named "euclidean"
  | .num x => .number x
  | v => .named v.text
def normAxes : NormAxes := match v with
  | .absent | .null => .all
  | .list _ => .many v.ints
  | v => .one (Number.wholePart v.toNumber)

def reduceTable : Handlers :=
  ([ ("sum",sum),("prod",prod),("mean",mean),("min",min),("max",max),
    ("logSumExp",logSumExp) ].map fun (name,f) => reduceHandler name .numeric f) ++
  [ reduceHandler "all" (.dtype .bool) all,reduceHandler "any" (.dtype .bool) any,
    argHandler "argMin" argMin,argHandler "argMax" argMax,
    ("moments",fun a => inOp "moments" do
      let m ← (do
        let x ← tensorAt a 0 "x" "moments"
        moments x (← axesArg (a 1) x.rank) (boolOr (a 2) false) : Eng Moments)
      return .record [("mean",m.mean),("variance",m.variance)]),
    opOn "norm" "x" fun x a => norm x (normOrder (a 1)) (normAxes (a 2)) (boolOr (a 3) false) ]

def productTable : Handlers :=
  [ opOnTwo "matMul" "a" "b" fun x y a => matMul x y (boolOr (a 2) false) (boolOr (a 3) false),
    opOnTwo "outerProduct" "v1" "v2" fun x y _ => outerProduct x y,
    opOnTwo "dot" "t1" "t2" fun x y _ => dot x y,
    ("linalg.gramSchmidt",on1 fun y => inOp "gramSchmidt" do
      match y with
      | .tensor t => gramSchmidtRows t
      | v =>
        let ts ← (v.items.mapM fun x => toTensor x "xs" "gramSchmidt" .numeric : Eng Tensors)
        return .list ((← gramSchmidt ts).map .tensor)),
    ("linalg.qr",on2 fun x y => inOp "qr" do
      match x with
      | .tensor t =>
        let (q,r) ← qr t (boolOr y false)
        return .list [q,r]
      | _ => fail "qr() requires a tensor") ]

def batchNormHandler (key : String) (rank : Option Nat) (old : Bool) : Route := op key fun a => do
  let (offset,epsilon) := if old then (a 5,a 3) else (a 3,a 5)
  let x ← tensorAt a 0 "x" "batchNorm"
  let m ← tensorAt a 1 "mean" "batchNorm"
  let v ← tensorAt a 2 "variance" "batchNorm"
  let s ← toTensor? (a 4) "scale" "batchNorm" .numeric
  let o ← toTensor? offset "offset" "batchNorm" .numeric
  let e := if epsilon.isNil then 0.001 else epsilon.toNumber
  let some r := rank | batchNorm x m v o s e
  batchNormOfRank r x m v o s e

def normalizeTable : Handlers :=
  ([ ("",none),("2d",some 2),("3d",some 3),("4d",some 4) ].flatMap fun (dims,rank) =>
    [batchNormHandler ("batchNorm" ++ dims) rank false,batchNormHandler ("batchNormalization" ++ dims) rank true]) ++
  [ opOn "localResponseNormalization" "x" fun x a => localResponseNormalization x (numOr (a 1) 5)
      (numOr (a 2) 1) (numOr (a 3) 1) (numOr (a 4) 0.5),
    opOn "softmax" "logits" fun x a => softmax x (intOr (a 1) (-1)),
    opOn "logSoftmax" "logits" fun x a => logSoftmax x (intOr (a 1) (-1)),
    opOnTwo "movingAverage" "v" "x" fun v x a => do
      let decay ← tensorAt a 2 "decay" "movingAverage"
      let debias := boolOr (a 4) true
      let step ← if debias then toTensor? (a 3) "step" "movingAverage" .numeric else pure none
      movingAverage v x decay step debias,
    opOn "dropout" "x" fun x a => do
      if x.dtype != .float32 then
        fail ("x has to be a floating point tensor since it's going to be scaled, but got a " ++
          s!"{x.dtype.name} tensor instead.")
      let rate := (a 1).toNumber
      if !(rate >= 0 && rate < 1) then fail s!"rate must be a float in the range [0, 1), but got {num rate}."
      if (a 0).tensor?.isSome then clone x else pure x ]

def reductionArg : Reduction := match v with
  | .absent => .sumByNonzeroWeights
  | .num x =>
    if x == 0 then .none else if x == 1 then .mean else if x == 2 then .sum
    else if x == 3 then .sumByNonzeroWeights else .unknown (num x)
  | v => .unknown v.text
def lossHandler (first second : String) (weights : Nat)
    (f : Tensor → Tensor → Option Tensor → Values → Op) : Route :=
  opHandler s!"losses.{name}" name fun a => do
    let l ← tensorAt a 0 first name
    let p ← tensorAt a 1 second name
    f l p (← toTensor? (a weights) "weights" name .numeric) a

def lossTable : Handlers :=
  ([ ("absoluteDifference",absoluteDifference),("meanSquaredError",meanSquaredError),
    ("hingeLoss",hingeLoss) ].map fun (name,f) =>
      lossHandler name "labels" "predictions" 2 fun l p w a => f l p w (reductionArg (a 3))) ++
  ([ ("logLoss","labels","predictions",1e-7,logLoss),("huberLoss","labels","predictions",1,huberLoss),
    ("sigmoidCrossEntropy","multiClassLabels","logits",0,sigmoidCrossEntropy),
    ("softmaxCrossEntropy","onehotLabels","logits",0,
      softmaxCrossEntropy) ].map fun (name,first,second,default,f) =>
        lossHandler name first second 2 fun l p w a => f l p w (numOr (a 3) default) (reductionArg (a 4))) ++
  [ opHandler "losses.computeWeightedLoss" "computeWeightedLoss" fun a => do
      let l ← tensorAt a 0 "losses" "computeWeightedLoss"
      weightedLoss l (← toTensor? (a 1) "weights" "computeWeightedLoss" .numeric) (reductionArg (a 2)),
    lossHandler "cosineDistance" "labels" "predictions" 3 fun l p w a => do
      requireSameShape l.shape p.shape "Error in cosineDistance: "
      cosineDistance l p (← axesArg (a 2) l.rank) w (reductionArg (a 4)) ]

def givenTensor : Op := match v with
  | .tensor t => pure t
  | v => toTensor v "input" "input" .numeric
def stftArgs : Handler := fun a => inOp "stft" do
  let x ← (givenTensor (a 0))
  let length := natOr (a 1) 0
  let window ← if (a 4).isAbsent then pure hannWindow else do
    let w ← call (a 4) [Float.ofNat length]
    pure fun _ => givenTensor w
  stft x length (natOr (a 2) 0) ((a 3).some?.map (natOr · 0)) window

/-- An operation under its own name and that of its group. -/
def bothNames (group name : String) (f : Handler) : Handlers := [(s!"{group}.{name}",f),(name,f)]

def signalTable : Handlers :=
  bothNames "signal" "stft" stftArgs ++
  ([ ("signal","hannWindow",on1 fun x => hannWindow (natOr x 0)),
    ("signal","hammingWindow",on1 fun x => hammingWindow (natOr x 0)),
    ("signal","frame",fun a => do
      let x ← toTensor (a 0) "x" "slice" .numeric
      frame x (natOr (a 1) 0) (natOr (a 2) 0) (boolOr (a 3) false) (numOr (a 4) 0)),
    ("spectral","fft",on1 fun x => do fft (← givenTensor x)),
    ("spectral","ifft",on1 fun x => do ifft (← givenTensor x)),
    ("spectral","rfft",on2 fun x y => do rfft (← givenTensor x) (y.some?.map (natOr · 0))),
    ("spectral","irfft",on1 fun x => do irfft (← givenTensor x)) ].flatMap fun (group,name,f) =>
      bothNames group name (op name f).2) ++
  [ opOnTwo "complex" "real" "imag" fun x y _ => complex x y,
    opOn "real" "input" fun x _ => real x,opOn "imag" "input" fun x _ => imag x ]

def measureTable : Handlers :=
  [ opHandler "math.confusionMatrix" "confusionMatrix" fun a => do
      let l ← tensorAt a 0 "labels" "confusionMatrix"
      let p ← tensorAt a 1 "predictions" "confusionMatrix"
      let n := a 2
      let whole := match n with
        | .num x => x > 0 && Number.isWhole x
        | _ => false
      if n.isPresent && !whole then fail s!"If provided, numClasses must be a positive integer, but got {n.text}"
      if l.rank != 1 then fail s!"Expected the rank of labels to be 1, but got {l.rank}"
      if p.rank != 1 then fail s!"Expected the rank of predictions to be 1, but got {p.rank}"
      if l.dim 0 != p.dim 0 then
        fail (s!"Mismatch in the number of examples: {l.dim 0} vs. {p.dim 0}. " ++
          "Labels and predictions should have the same number of elements.")
      if !whole then fail s!"numClasses is required to be a positive integer, but got {n.text}"
      if n.toNumber < 2 then fail s!"Error in oneHot: depth must be >=2, but it is {n.text}"
      confusionMatrix l p (natOr n 0),
    plainHandler "booleanMaskAsync" fun a => do
      let x ← tensorAt a 0 "tensor" "boolMask"
      let m ← toTensor (a 1) "mask" "boolMask" (.dtype .bool)
      let r ← booleanMask x m (natOr (if (a 2).isNil then .num 0 else a 2) 0)
      if (a 0).tensor?.isNone then dispose x
      if (a 1).tensor?.isNone then dispose m
      return r,
    plainHandler "inTopKAsync" fun a => do
      let p ← tensorAt a 0 "predictions" "inTopK"
      let t ← tensorAt a 1 "targets" "inTopK"
      let hits ← inTopK p t (numOr (a 2) 1)
      if (a 0).tensor?.isNone then dispose p
      if (a 1).tensor?.isNone then dispose t
      ofNumbers t.shape .bool hits,
    plainHandler "whereAsync" <| on1 fun x => do
      let c ← toTensor x "condition" "whereAsync" (.dtype .bool)
      let r ← wherePlaces c
      if x.tensor?.isNone then dispose c
      return r,
    ("setdiff1dAsync",fun a => do
      let (values,places) ← (do
        let x ← tensorAt a 0 "x" "setdiff1d"
        setDifference x (← tensorAt a 1 "y" "setdiff1d") : Eng (Tensor × Tensor))
      return .list [values,places]),
    ("basicLSTMCell",fun a => inOp "basicLSTMCell" do
      let at' i what := tensorAt a i what "basicLSTMCell"
      let (c,h) ← (do
        let fb ← at' 0 "forgetBias"
        let k ← at' 1 "lstmKernel"
        let b ← at' 2 "lstmBias"
        let d ← at' 3 "data"
        let c ← at' 4 "c"
        lstmCell fb k b d c (← at' 5 "h") : Eng (Tensor × Tensor))
      return .list [c,h]),
    ("multiRNNCell",fun a => inOp "multiRNNCell" do
      let fn := "multiRNNCell"
      let data ← tensorAt a 1 "data" fn
      let cs ← (toTensors (a 2) "c" fn)
      let states := cs.zip (← (toTensors (a 3) "h" fn))
      let (_,outs) ← (a 0).items.zipIdx.foldlM (fun (input,outs) (cell,i) => do
        let (c,h) := states.getD i default
        let r ← call cell [input,c,h]
        return (r.items 1,outs ++ [r])) (.tensor data,[])
      return .list [(outs.map (·.items 0)),(outs.map (·.items 1))]) ]
end TensorKit.Script
