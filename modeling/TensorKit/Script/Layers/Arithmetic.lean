import TensorKit.Script.Data.Datasets
/-! # Values in models -/
namespace TensorKit.Script
open Engine Layers List Number
variable {α : Type} (message : String)
def badValue : Script α := throw (.badValue message)
def unsupported : Script α := throw (.unsupported message)
def tidied (x : Reply) : Reply := scopedWith Value.tensors unnamed x
variable (name : String) (v : Value)
def opTensor (args : Values) : Script Tensor := do
  let .tensor t ← core name args | fail s!"{name} gave no tensor"
  return t
def Value.orElse (default : Value) : Value := if v.isNil then default else v
def Value.toDim : Value → Dim
  | .null => none
  | v => some v.toNumber
def Value.toDims : Dims := v.items.map toDim
def dimValue (d : Dim) : Value := d.elim .null .num
def dimsValue (d : Dims) : Value := .list (d.map dimValue)
def Value.toForm : Form := match v with
  | .list (.list x :: rest) => .many ((.list x :: rest).map toDims)
  | v => .one v.toDims
def formValue : Form → Value
  | .one d => dimsValue d
  | .many ds => .list (ds.map dimsValue)
def oneShape (f : Form) : Script Dims := do
  match f with
  | .one d => return d
  | .many [d] => return d
  | .many ds => badValue s!"Expected exactly 1 Shape; got {ds.length}"
def shapeOne (f : Nat → Dims → Script Dims) (id : Nat) (form : Form) : Script Form :=
  return .one (← f id (← oneShape form))
def shapeOfFirst (f : Nat → Dims → Script Dims) (id : Nat) (form : Form) : Script Form :=
  return .one (← f id (form.list.headD []))
def oneTensor : Reply := do
  match v with
  | .list [x] => return x
  | .list xs => badValue s!"Expected Tensor length to be 1; got {xs.length}"
  | v => return v
def oneOrList : Values → Value
  | [x] => x
  | xs => .list xs

def jsonText : Value → String
  | .bool b => if b then "true" else "false"
  | .num x => if x.isNaN || x.isInf then "null" else Decimal.text x
  | .str s => Json.render s
  | .list xs => "[" ++ ",".intercalate (xs.map jsonText) ++ "]"
  | .record fs | .item _ fs => "\x7b" ++ ",".intercalate ((fs.filter fun f => !(f.2.isAbsent || f.2.isFunction)).map fun f =>
      Json.render f.1 ++ ":" ++ jsonText f.2) ++ "\x7d"
  | .typed _ xs => "\x7b" ++ ",".intercalate (xs.toList.zipIdx.map fun (x,i) =>
      "\"" ++ toString i ++ "\":" ++ Decimal.text x) ++ "\x7d"
  | .object .. | .promise _ | .bytes _ => "\x7b\x7d"
  | _ => "null"
decreasing_by all_goals grind [→ List.sizeOf_lt_of_mem]

def jsonOrUndefined : Value → String
  | .absent => "undefined"
  | v => jsonText v
def typeName : Value → String
  | .absent => "undefined"
  | .bool _ => "boolean"
  | .num _ => "number"
  | .str _ => "string"
  | .closure .. | .native .. | .classRef _ => "function"
  | _ => "object"
def requireWord (known : Strings) (label : String) (v : Value) : Act := do
  if v.isPresent && !(match v with | .str s => known.contains s | _ => false) then
    badValue (v.text ++ s!" is not a valid {label}.  Valid values are " ++ ",".intercalate known ++
      " or null/undefined.")
def requireDataFormat : Value → Act := requireWord ["channelsFirst","channelsLast"] "DataFormat"
def requirePadding : Value → Act := requireWord ["valid","same","causal"] "PaddingMode"
def requirePoolMode : Value → Act := requireWord ["max","avg"] "PoolMode"
def friendlyText : Value → String
  | .str s => "\"" ++ s ++ "\""
  | .list xs => "[" ++ ",".intercalate (xs.map friendlyText) ++ "]"
  | v => v.text
def isPositiveWhole : Value → Bool
  | .num x => isWhole x && x > 0
  | _ => false

mutual
def requirePositive (v : Value) (name : String) : Act := match v with
  | .list xs => do
    if xs.isEmpty then fail s!"{name} is unexpectedly an empty array."
    requireAllPositive xs name 1
  | v => do
    if !isPositiveWhole v then fail (s!"Expected {name} to be a positive integer, but got " ++ friendlyText v ++ ".")
def requireAllPositive (xs : Values) (name : String) (i : Nat) : Act := match xs with
  | [] => return
  | x :: xs => do
    requirePositive x s!"element {i} of {name}"
    requireAllPositive xs name (i + 1)
end

def requireName : Act := do if !isValidName name then fail ("Not a valid tensor name: '" ++ name ++ "'")
def scopedName : Script String := do
  requireName name
  return (← get).names.within name
def uniqueName : Script String := do
  requireName name
  modifyGet fun w =>
    let (n,names) := w.names.unique name
    (n,{ w with names })
def nextName (stem : String) : Script String := modifyGet fun w =>
  let (n,names) := w.names.next stem
  (n,{ w with names })

def inNameScope (scope : String) (x : Script α) : Script α := do
  modify fun w => { w with names := w.names.opened scope }
  try x finally modify fun w => { w with names := w.names.closed }

def draw : Script Float := modifyGet fun w =>
  let n := w.draws + 1
  (.ofNat (n * 7919 % 104729 + 1) / 104731,{ w with draws := n })
def drawMany : Nat → Script Floats
  | 0 => return []
  | n + 1 => do
    let x ← draw
    return x :: (← drawMany n)

/-! # Arithmetic of layers -/

/-! ## Numbers that describe lists

They are found with tensors, which stay behind in the scope.
-/

variable (x : Value) (xs : Floats) (v : Value) (start size : Value) (n : Value)
def numbersTensor : Reply := core "tensor1d" [.typed .float32 (xs.map toSingle).toArray]
def scalarNumber : Script Float := do
  let .tensor t := v | return v.toNumber
  return (← (numbers t)).getD 0 nan
def reduceNumbers (op : String) (xs : Floats) : Script Float := do scalarNumber (← core op [← numbersTensor xs])
def smallestOf : Floats → Script Float := reduceNumbers "min"
def largestOf : Floats → Script Float := reduceNumbers "max"
def totalOf : Floats → Script Float := reduceNumbers "sum"
def meanOf : Script Float := return (← totalOf xs) / .ofNat xs.length
def varianceOf : Script Float := do
  let t ← numbersTensor xs
  let m ← core "scalar" [(← meanOf xs)]
  let d ← minus t m
  let s ← scalarNumber (← core "sum" [← core "mulStrict" [d,d]])
  return s / .ofNat xs.length
def medianOf : Value :=
  let sorted := xs.mergeSort fun a b => a <= b
  let n := sorted.length
  if n == 0 then nan
  else
    let (low,high) := ((n - 1) / 2,n / 2)
    if low == high then .num (sorted.getD low 0) else .num ((sorted.getD low 0 + sorted.getD high 0) / 2)

def smallNumber : Float := Optimizer.epsilon
def shapeOf : Shape := (v.tensor?.map (·.shape)).getD []
def rankOf : Nat := (shapeOf v).length
def shapeText (s : Shape) : String := s.text
def countElements (dims : Values) : Value := match dims with
  | [] => .num 1
  | [d] => d
  | d :: ds => .num (ds.foldl (fun p x => p * x.toNumber) d.toNumber)
def widen (axis : Int) : Reply :=
  let shape := shapeOf x
  let at' := if axis < 0 then shape.length + axis + 1 else axis
  -- An axis before the first counts from the end, one behind the last stands for the end.
  let place := if at' < 0 then (shape.length + at').toNat else min at'.toNat shape.length
  core "reshape" [x,.ofNats (shape.take place ++ [1] ++ shape.drop place)]
def tileBy : Reply := do
  let reps := asList n
  if rankOf x != reps.length then
    badValue s!"The length of input n ({reps.length}) does not match the number of dimensions in input x ({rankOf x})"
  core "tile" [x,reps]
def repeatRows : Reply := tidied do
  if rankOf x != 2 then badValue s!"repeat() expects a rank-2 tensor, but received a rank-{rankOf x} tensor."
  tileBy (← widen x 1) ([1,n,1])
def flattenValue : Reply := core "reshape" [x,.ofNats [(shapeOf x).size]]
def flattenBatch : Reply := do
  if rankOf x ≤ 1 then badValue s!"batchFlatten requires a minimum rank of 2. Got rank: {rankOf x}."
  let shape := shapeOf x
  core "reshape" [x,.ofNats [shape.headD 0,Shape.size shape.tail]]

def sliceAt (axis : Nat) : Reply :=
  let shape := shapeOf x
  let rank := shape.length
  let starts := (range rank).map fun i => if i == axis then start else .num 0
  let sizes := shape.zipIdx.map fun (d,i) => if i == axis then size else d
  match rank with
  | 1 => core "slice1d" [x,start,size]
  | _ => core s!"slice{rank}d" [x,starts,sizes]

def slicedRank (place : String) (x : Value) : Script Nat := do
  let rank := rankOf x
  if rank < 1 || rank > 4 then badValue s!"sliceAlong{place}Axis() received an unsupported tensor rank: {rank}"
  return rank
def sliceFirst : Reply := tidied do
  let _ ← slicedRank "First" x
  sliceAt x start size 0
def sliceLast : Reply := tidied do sliceAt x start size ((← slicedRank "Last" x) - 1)
def sliceAxis (start size axis : Value) : Reply := tidied do
  let rank ← slicedRank "Last" x
  if rank == 1 then core "slice1d" [x,start,size]
  else
    match (range rank).find? fun i => axis.num? == some (.ofNat (i + 1)) with
    | some i => sliceAt x start size i
    | none => badValue ("The axis is not within the rank of the tensor " ++ axis.text)
def joinTensors (xs : Values) (axis : Float) : Reply := do
  let rank := rankOf (xs 0)
  core "concat" [xs,(if axis < 0 || axis == .ofNat rank then -1 else axis : Float)]
def joinFirst (a b : Value) : Reply := do
  match rankOf a with
  | 1 => core "concat1d" [[a,b]]
  | r@2 | r@3 | r@4 => core s!"concat{r}d" [[a,b],0]
  | r => badValue s!"concatAlongFirstAxis() received an unsupported tensor rank: {r}"

def alignBias (rank : Nat) (bias : Value) (format : String) : Reply := do
  let shape := shapeOf bias
  let n := shape.length
  if n != 1 && n != rank then badValue s!"Unexpected bias dimensions: {n}; expected it to be 1 or {rank}"
  if rank < 3 then return bias
  if rank > 5 then badValue s!"Unsupported input rank by biasAdd: {n}"
  let d i : Value := shape[i]?.elim .absent .ofNat
  let ones k : Values := replicate k 1
  let shape ← match format with
    | "channelsFirst" =>
      pure (if n == 1 then 1 :: d 0 :: ones (rank - 2) else 1 :: d (rank - 2) :: (range (rank - 2)).map d)
    | "channelsLast" => pure (if n == 1 then ones (rank - 1) ++ [d 0] else 1 :: (range n).map d)
    | _ => badValue s!"Unsupported input rank by biasAdd: {n}"
  core "reshape" [bias,.list shape]

def addBias (bias format : Value) : Reply := tidied do
  let format := format.orElse "channelsLast"
  requireDataFormat format
  plus x (← alignBias (rankOf x) bias format.text)

def dotProduct (a b activation bias : Value) : Reply := do
  let sa := shapeOf a
  let sb := shapeOf b
  if sa.length < 2 || sb.length < 2 then
    unsupported s!"dot requires both inputs to be rank >= 2 but got x shape = {sa.text} and y shape = {sb.text}"
  if sb.length ≥ 3 && sa.getLast? != sb.dropLast.getLast? then
    unsupported ("If rank y >= 3, then the second last dim of y must equal the last dim of x but got x shape = " ++
      s!"{sa.text} and  y shape = {sb.text}")
  let product (a b) : Reply := do
    let bias ← if bias.isPresent then alignBias (rankOf a) bias "channelsLast" else pure .null
    core "fused.matMul" [.record [("a",a),("b",b),("transposeA",false),
      ("transposeB",false),("bias",bias),("activation",activation)]]
  if sa.length == 2 && sb.length == 2 then product a b
  else
    let last s : Value := s.getLast?.getD 0
    let a ← core "reshape" [a,.list [.num (-1),last sa]]
    let inner := sb.dropLast.getLast?.getD 0
    let perm := (range sb.length).map fun i =>
      if i == 0 then sb.length - 2 else if i ≤ sb.length - 2 then i - 1 else i
    let b ← core "transpose" [b,.ofNats perm]
    let b ← core "reshape" [b,.list [.ofNat inner,.num (-1)]]
    core "reshape" [← product a b,.ofNats (sa.dropLast ++ sb.dropLast.dropLast ++ [sb.getLast?.getD 0])]

def signOf : Reply := tidied do
  let zeros ← core "zerosLike" [x]
  let ones ← core "onesLike" [x]
  let isZero ← core "equal" [x,zeros]
  let isPositive ← core "greater" [x,← core "zerosLike" [x]]
  core "where" [isZero,zeros,← core "where" [isPositive,ones,← times (.num (-1)) ones]]
def oneHotOf (indices classes : Value) : Reply := tidied do
  if rankOf indices != 1 then fail "Only 1D one-hot tensors are supported in the deeplearn backend, at present."
  let whole ← core "cast" [indices,"int32"]
  core "cast" [← core "oneHot" [whole,classes],"float32"]
def gatherOf (indices axis : Value) : Reply := tidied do
  let indices ← match indices with
    | .list _ => core "tensor1d" [indices,"int32"]
    | v => core "cast" [v,"int32"]
  core "gather" [x,indices,axis]
def squareOf : Reply := core "mulStrict" [x,x]

def powerOf (a : Value) : Reply := tidied do
  let a ← match a with
    | .num n => core "scalar" [round n,"int32"]
    | v => pure v
  match a.tensor? with
  | some t => if t.dtype != .int32 then unsupported s!"Non-int32 dtype ({t.dtype.name}) is not supported by pow() yet"
  | none => pure ()
  core "pow" [x,a]

def eluOf (alpha : Value) : Reply := do
  let alpha := if alpha.isAbsent then .num 1 else alpha
  if alpha.num? != some 1 then
    unsupported ("Support for alpha values other than 1 (" ++ alpha.text ++ ") is not implemented yet.")
  core "elu" [x]
def softsignOf : Reply := tidied do
  let size ← core "abs" [x]
  per x (← plus size 1)
def hardSigmoidOf : Reply := tidied do
  let y ← plus 0.5 (← times 0.2 x)
  core "clipByValue" [y,0,1]
end TensorKit.Script
