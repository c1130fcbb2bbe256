import TensorKit.Script.Core.Create

/-! # Small functions on shapes, axes and numbers -/
namespace TensorKit.Script
open Engine List
def sumOf (xs : Floats) : Float := xs.foldl (· + ·) 0
def ofFloats (xs : Floats) : Value := .list (xs.map .num)
def divisorFrom (size : Nat) : Nat → Nat → Nat
  | 0, _ => size
  | fuel + 1, i => if i ≥ size then size else if size % i == 0 then i else divisorFrom size fuel (i + 1)
def nearestDivisor (size start : Nat) : Nat := divisorFrom size size start
def wholeReduction : Nat := 30
def windowSize (n : Nat) : Nat :=
  if n ≤ wholeReduction then n else nearestDivisor n (Float.ofNat n).sqrt.floor.toUInt64.toNat

def squeezeDims (shape : Floats) (axes : Option Nats) : Tried (Floats × Nats) := do
  let mut dims := #[]
  let mut kept := #[]
  let mut left := axes.getD []
  for (d,i) in shape.zipIdx do
    if axes.isSome then
      if left.head? == some i && d != 1 then
        fail (s!"Can't squeeze axis {i} since its dim '" ++ Decimal.text d ++ "' is not 1")
      if (left.head?.all fun a => i < a) && d == 1 then
        dims := dims.push d
        kept := kept.push i
      if left.head?.any fun a => a ≤ i then left := left.drop 1
    if d != 1 then
      dims := dims.push d
      kept := kept.push i
  return (dims.toList,kept.toList)

def sortAsText (axes : Nats) : Nats := axes.mergeSort fun a b => !Text.less (toString b) (toString a)
variable (v : Value) (name : Value) (strings : Bool)
def normalAxes (rank : Nat) : Tried Nats := do
  let some axes ← axesArg v rank | return range rank
  return axes.map fun a => (if a < 0 then a + (rank : Int) else a).toNat

def kindByName : Tried (Option ArrayKind) := match name with
  | .absent | .null | .str "float32" => .ok (some .float32)
  | .str "int32" => .ok (some .int32)
  | .str "bool" => .ok (some .uint8)
  | v =>
    if strings && v.str? == some "string" then .ok none
    else fail s!"Unknown data type {v.text}"

def filled (name n : Value) (x : Float) : Tried Value := do
  let some k ← kindByName name strings | return .list (replicate (natOr n 0) .absent)
  return .typed k (.replicate (natOr n 0) x)
def realName : Value := if name.str? == some "complex64" then .absent else name
def losesOn (old new : String) : Bool :=
  !(new == "complex64" || (new == "float32" && old != "complex64") ||
    (new == "int32" && old != "float32" && old != "complex64") || (new == "bool" && old == "bool"))

def upcastNames (a b : String) : Tried Value :=
  if a == "string" || b == "string" then
    if a == b then .ok "string"
    else fail s!"Can not upcast {a} with {b}"
  else
    match DType.ofName? a, DType.ofName? b with
    | some x, some y => return (← DType.upcast x y).name
    | _, _ => .ok .absent

def shapeTable : Handlers :=
  under "shape" [ fn1 "size" fun x => return productOf x.numsD,
    fn1 "isScalar" fun x => return x.items.isEmpty,
    fn1 "strides" fun x => do
      let s := x.numsD
      return ofFloats ((range (s.length - 1)).map fun i => productOf (s.drop (i + 1))),
    fn1 "squarish" fun x => do
      let n := x.toNumber
      let w := n.sqrt.ceil
      return ofFloats [w,(n / w).ceil],
    fn2 "fillIn" fun x y => return ofFloats (← fillIn x y.toNumber),
    fn2 "squeeze" fun x axis => do
      let shape := x.numsD
      let axes ← if axis.isNil || (axis.isList && axis.items.isEmpty) then pure none
        else pure (some (sortAsText (← normalAxes axis shape.length)))
      let (dims,kept) ← squeezeDims shape axes
      return .record [("newShape",ofFloats dims),("keptDims",.ofNats kept)],
    fn1 "requireDims" fun x => silent <| requireDims x.numsD,
    fn3 "requireSame" fun x y u => silent do
      if x.numsD != y.numsD then fail (strOr u "" ++ s!" Shapes {x.text} and {y.text} must match") ] ++
  under "axes" [ fn2 "normalize" fun x y => return .ofNats (← normalAxes x y.items.length),
    fn2 "areInnermost" fun x y => return Axes.innermost x.nats (natOr y 0),
    fn3 "requireInnermost" fun x axes z => silent do
      let rank := natOr z 0
      if !Axes.innermost axes.nats rank then
        fail s!"{x.text} supports only inner-most axes for now. Got axes {axes.text} and rank-{rank} input.",
    fn3 "combine" fun x y z => return .ofNats (Axes.combine x.nats y.nats z.nats),
    fn2 "outAndReduced" fun x y => do
      let (out,reduced) := Axes.outAndReduced x.nats y.nats
      return .list [.ofShape out,.ofShape reduced],
    fn2 "keepDims" fun x y => return .ofShape (Axes.keepDims x.nats y.nats),
    fn2 "permutation" fun x y => return .ofOption .ofNats (Axes.permutation? x.nats (natOr y 0)),
    fn1 "undo" fun x => return .ofNats (Axes.undo x.nats),
    fn2 "last" fun x y => return .ofNats (Axes.lastAxes (natOr x 0) (natOr y 0)) ] ++
  [ fn2 "broadcast.shape" fun x y => return .ofShape (← Broadcast.shape x.nats y.nats),
    fn2 "broadcast.dims" fun x y => return .ofNats (Broadcast.dims x.nats y.nats),
    fn2 "broadcast.reductionAxes" fun x y => return .ofNats (Broadcast.reductionAxes x.nats y.nats),
    fn3 "slice.isContiguous" fun x y z => do
      let shape := x.numsD
      let start := y.numsD
      let size := z.numsD
      let first := (size.findIdx? (· > 1)).getD size.length
      return ((range size.length).all fun i => i ≤ first || !(start.getD i 0 > 0 || size[i]? != shape[i]?)),
    ("dropout.noiseShape",on2 fun y noise => do
      let some x := y.tensor? | return .absent
      if noise.isNil then return .ofShape x.shape
      if noise.items.length == x.rank then
        return .list ((noise.items.zip x.shape).map fun (n,d) => if n.isNil then d else n)
      return noise) ]

def axisFields (labels : Strings) (axes : List Window.Axis) : Fields :=
  (labels.zip axes).flatMap fun (p,a) =>
    [("in" ++ p,.ofInt a.input),("out" ++ p,.ofInt a.out),("stride" ++ p,.ofInt a.stride),
     ("filter" ++ p,.ofInt a.filter),("effectiveFilter" ++ p,.ofInt a.effective),
     ("dilation" ++ p,.ofInt a.dilation)]

def windowRecord (w : Window) : Value :=
  let spatial := if w.axes.length == 2 then ["Height","Width"] else ["Depth","Height","Width"]
  let sides := if w.axes.length == 2 then [("top","bottom"),("left","right")]
    else [("front","back"),("top","bottom"),("left","right")]
  let amount n := .num (.ofInt n - if w.between then 0.5 else 0)
  let padInfo := (sides.zip w.axes).flatMap fun ((b,e),a) => [(b,amount a.before),(e,amount a.after)]
  .record ([("batchSize",.ofInt w.batch),
    ("dataFormat",.str (if w.channelsLast then "channelsLast" else "channelsFirst")),
    ("inChannels",.ofInt w.inChannels),("outChannels",.ofInt w.outChannels),
    ("padInfo",.record (padInfo ++ [("type",.str w.padType)])),
    ("inShape",.ofInts w.inShape),("outShape",.ofInts w.outShape),
    ("filterShape",.ofInts w.filterShape)] ++ axisFields spatial w.axes)

def channelsLastArg (first last : String) : Tried Bool := match v with
  | .absent => .ok true
  | v =>
    if v.str? == some last then .ok true
    else if v.str? == some first then .ok false
    else fail s!"Unknown dataFormat {v.text}"
def sizesArg (n : Nat) (v : Value) : Ints := (extentArg v (.one 1)).dims n

def windowTable : Handlers :=
  under "window" (([ ("conv2d",2,5,6,7),("conv3d",3,7,5,6) ].map fun (key,n,rounding,depthwise,format) =>
    pureHandler key fun a => do
      let last ← channelsLastArg (a format) "channelsFirst" "channelsLast"
      return windowRecord (← Window.conv (a 0).ints (a 1).ints (sizesArg n (a 2))
        (sizesArg n (a 3)) (padArg (a 4)) (roundingArg (a rounding))
        (boolOr (a depthwise) false) last)) ++
  ([ ("pool2d",2,"channelsFirst","channelsLast"),
    ("pool3d",3,"NCDHW","NDHWC") ].map fun (key,n,first,last) =>
    pureHandler key fun a => do
      let last ← channelsLastArg (a 6) first last
      return windowRecord (← Window.pool (a 0).ints (sizesArg n (a 1)) (sizesArg n (a 2))
        (sizesArg n (a 3)) (padArg (a 4)) (roundingArg (a 5)) last)) ++
  [ fn4 "defaultPad" fun x y z w =>
      return .ofInt (Window.defaultPad (x.ints.headD 0) (intOr y 0) (intOr z 0) (intOr w 1)),
    fn1 "dataFormat" fun x => do
      match x with
      | .str "NHWC" => return "channelsLast"
      | .str "NCHW" => return "channelsFirst"
      | v => fail s!"Unknown dataFormat {v.text}",
    fn2 "oneIsOne" fun x y => do
      let one v := (extentArg v (.one 1)).isOne
      return (one x || one y) ]) ++
  [ fn2 "join.require" fun x y => silent <| Ops.requireConcat (x.items.map Value.nats) (intOr y 0),
    fn2 "join.shape" fun x y => do
      let shapes := x.items.map Value.nats
      let axis := natOr y 0
      let first := shapes.headD []
      return .ofNats (first.set axis ((shapes.map (·.getD axis 0)).foldl (· + ·) 0)) ]

def flatNumbers : Values := flatValues false v
def isTextFirst : Bool := match v with
  | .str _ => true
  | .list (.str _ :: _) => true
  | _ => false
def looselyEqual (a b : Value) : Bool := match a, b with
  | .str x, .str y => x == y
  | x, y => if x.isNil || y.isNil then x.isNil && y.isNil else x.toNumber == y.toNumber
def areClose (epsilon : Float) (a b : Value) : Bool :=
  let x := a.toNumber
  let y := b.toNumber
  if !x.isFinite && !y.isFinite then true
  else !(x.isNaN || y.isNaN || (x - y).abs > epsilon)

def arrayClass : String := match v with
  | .list _ => "Array"
  | .typed k _ => k.title
  | .num _ => "Number"
  | .bool _ => "Boolean"
  | .str _ => "String"
  | .tensor _ => "Tensor"
  | v => className v

def isTyped : Bool := v matches .typed ..

def requireAlike (actual expected : Value) (alike : Value → Value → Bool) : Tried Value := silent do
  if isTyped actual == isTyped expected && arrayClass actual != arrayClass expected then
    fail s!"Arrays are of different type. Actual: {arrayClass actual}. Expected: {arrayClass expected}"
  if actual.isList && expected.isList then
    let s := inferShapeOf actual false
    let t := inferShapeOf expected false
    if s != t then fail s!"Arrays have different shapes. Actual: [{s.text}]. Expected: [{t.text}]"
  let xs := flatNumbers actual
  let ys := flatNumbers expected
  let both := "Actual:   " ++ (Value.list xs).text ++ ".\nExpected: " ++ (Value.list ys).text ++ "."
  if xs.length != ys.length then
    fail (s!"Arrays have different lengths actual: {xs.length} vs expected: {ys.length}.\n" ++ both)
  for ((x,y),i) in (xs.zip ys).zipIdx do
    if !alike x y then fail (s!"Arrays differ: actual[{i}] = {x.text}, expected[{i}] = {y.text}.\n" ++ both)

def closeness : Float := 1e-3

def expectTable : Handlers := under "expect"
  [ fn3 "close" fun x y z => do requireAlike x y (areClose (if z.isNil then closeness else z.toNumber)),
    fn2 "equal" fun actual expected => do
      if isTextFirst actual || isTextFirst expected then
        let expected := match expected with
          | .str _ | .num _ | .bool _ => [expected]
          | v => v
        requireAlike actual expected looselyEqual
      else requireAlike actual expected (areClose 0),
    fn3 "numbersClose" fun x y z => silent do
      let e := if z.isNil then closeness else z.toNumber
      if !areClose e x y then fail s!"Numbers differ: actual === {x.text}, expected === {y.text}",
    fn3 "inRange" fun x low high => silent do
      for v in x.items do
        if v.toNumber < low.toNumber || v.toNumber > high.toNumber then
          fail (s!"Value out of range:{v.text} low: {low.text}, high: {high.text}") ]

def distinctTensors : Tensors := v.tensors.foldl (fun acc t => if acc.any (·.id == t.id) then acc else acc ++ [t]) []

def numberTable : Handlers :=
  under "number" [ fn3 "clamp" fun x y z => return .num (Number.max x.toNumber (Number.min y.toNumber z.toNumber)),
    fn1 "nextEven" fun y => do
      let x := y.toNumber
      return .num (if Number.remainder x 2 == 0 then x else x + 1),
    fn1 "sum" fun x => return .num (sumOf x.numsD),
    fn2 "distanceSquared" fun y z => do
      let xs := y.items.map Value.toNumber
      let ys := z.items.map Value.toNumber
      return .num (xs.zipIdx.foldl (fun acc (x,i) =>
        let d := x - ys.getD i Number.nan
        acc + d * d) 0),
    fn1 "isWhole" fun x => return .bool (Number.remainder x.toNumber 1 == 0),
    fn1 "tanh" fun x => return .num x.toNumber.tanh,
    fn2 "divisorFrom" fun x y => return .ofNat (nearestDivisor (natOr x 0) (natOr y 0)),
    fn1 "windowSize" fun x => return .ofNat (windowSize (natOr x 0)) ] ++
  [ fn2 "list.equal" fun x y => do
      if x.isNil || y.isNil then return .same x y
      return .bool (x.items.length == y.items.length && (x.items.zip y.items).all fun (p,q) => Value.same p q),
    fn3 "list.flatten" fun x y z => return .list (y.items ++ flatValues (boolOr z false) x),
    fn2 "list.nest" fun x y => do nested x.nats y.items.toArray,
    fn1 "value.requirePresent" fun x => silent do
      if x.isNil then fail "The input to the tensor constructor must be a non-null value.",
    fn2 "value.requireFinite" fun x y => silent do
      for v in x.items do
        if !v.toNumber.isFinite then fail s!"A tensor of type {y.text} being uploaded contains {v.text}.",
    fn1 "text.totalBytes" fun x => do
      return .ofNat ((x.items.map fun
        | .str s => Text.units s
        | v => v.items.length).foldl (· + ·) 0),
    fn2 "text.padRight" fun x y => return .str (Text.padRight x.text (natOr y 0)),
    fn2 "text.encode" fun x y => do
      let encoding := strOr y "utf-8"
      if encoding != "utf-8" && encoding != "utf8" && !encoding.isEmpty && encoding != "null" then
        fail s!"Node built-in encoder only supports utf-8, but got {encoding}"
      return .typed .uint8 ((utf8 x.text).toList.map UInt8.toFloat).toArray,
    fn2 "text.decode" fun x y => do
      let bs := x.items.map (·.toNumber.toUInt8)
      let encoding := if y.truthy then y.text else "utf-8"
      match Text.decodeAs? encoding bs with
      | some s => return s
      | none => throw ⟨.outOfRange,s!"The \"{encoding}\" encoding is not supported"⟩ ] ++
  under "dtype" [ fn1 "bytes" fun x => do
      match x with
      | .str "float32" | .str "int32" => return 4
      | .str "complex64" => return 8
      | .str "bool" => return 1
      | v => fail s!"Unknown dtype {v.text}",
    fn1 "isKnown" fun x => return .bool (x.str?.any fun s => (DType.ofName? s).isSome),
    fn2 "losesOn" fun x y => return .bool (losesOn x.text y.text),
    fn1 "infer" fun x => return .str (inferDType x).name,
    fn2 "newNumbers" fun x n => filled false x n 0,
    fn2 "newArray" fun x n => filled true x n 0,
    fn2 "zeros" fun n x => filled false (realName x) n 0,
    fn2 "ones" fun n x => filled false (realName x) n 1,
    fn2 "upcast" fun x y => upcastNames x.text y.text,
    fn1 "sum" fun x => upcastNames x.text "int32" ] ++
  [ fn1 "query.params" fun x => do return .record ((Query.params x.text).foldl (fun fs (k,v) => fs.put k v) []),
    fn2 "tensors.requireSameType" fun z w => do
      match z,w with
      | .tensor x,.tensor y => silent do
        if x.dtype != y.dtype then
          fail s!"The dtypes of the first({x.dtype.name}) and second({y.dtype.name}) input must match"
      | _,_ => return .absent,
    fn1 "tensors.within" fun x => return .list ((distinctTensors x).map .tensor),
    fn2 "tensors.isMember" fun x y => return .bool (y.items.any (Value.same x)),
    ("tensors.matchTypes",on2 fun z w => do
      match z,w with
      | .tensor x,.tensor y =>
        if x.dtype == y.dtype then return .list [x,y]
        let (x,y) ← (do
          let t ← DType.upcast x.dtype y.dtype
          requireLive x
          let p ← Ops.cast x t
          requireLive y
          return (p,← Ops.cast y t) : Eng (Tensor × Tensor))
        return .list [x,y]
      | _,_ => return .absent) ]
end TensorKit.Script
