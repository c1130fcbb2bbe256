import TensorKit.Script.Layers.Convolution
import TensorKit.Script.Layers.Models
/-! # Small functions around layers -/
namespace TensorKit.Script
open Layers List

/-! ## Operations on tensors -/

def backendTable : Handlers := under "backend"
  [ ("set",on1 fun x => silent <| modify fun w => { w with computeName := x.text }),
    ("get",fun _ => return (← get).computeName),
    ("countParams",on1 fun x => return countElements (dimsValue (← dimsOf x)).items),
    ("cast",on2 fun x y => do tensorMethod (← asTensor x "asType") "asType" [y]),
    ("expandDims",on2 fun x y => widen x (intOr y (-1))),
    ("repeat",on2 repeatRows),
    ("flatten",on1 flattenValue),
    ("batchFlatten",on1 flattenBatch),
    ("sliceFirst",on3 sliceFirst),
    ("sliceLast",on3 sliceLast),
    ("sliceAxis",on4 sliceAxis),
    ("concatenate",on2 fun x y => joinTensors x.items (numOr y (-1))),
    ("joinFirst",on2 joinFirst),
    ("tile",on2 tileBy),
    ("dot",on4 dotProduct),
    ("sign",on1 signOf),
    ("oneHot",on2 oneHotOf),
    ("gather",on3 gatherOf),
    ("square",on1 squareOf),
    ("pow",on2 powerOf),
    ("biasAdd",on3 addBias),
    ("elu",on2 eluOf),
    ("softsign",on1 softsignOf),
    ("dropout",on4 fun x y z w => tidied do core "dropout" [x,y,z,w]),
    ("hardSigmoid",on1 hardSigmoidOf) ]

/-! ## Names -/

def nameTable : Handlers := under "names"
  [ ("requireDataFormat",on1 fun x => silent <| requireDataFormat x),
    ("requirePadding",on1 fun x => silent <| requirePadding x),
    ("requirePoolMode",on1 fun x => silent <| requirePoolMode x),
    ("inScope",on2 fun x y => inNameScope x.text (call y [])),
    ("scoped",on1 fun x => return (← scopedName x.text)),
    ("unique",on1 fun x => return (← uniqueName x.text)),
    ("isValid",on1 fun x => return isValidName x.text) ]

/-! ## Lists, texts and numbers -/

def firstOfEach : Values → Values
  | [] => []
  | x :: xs => x :: (firstOfEach xs).filter fun y => !x.same y
def compareNumbers (a b : Value) : Float :=
  let (x,y) := (a.toNumber,b.toNumber)
  if x < y then -1 else if x > y then 1 else 0

def listsSame (a b : Value) : Bool :=
  if a.isNil || b.isNil then
    match a, b with
    | .null, .null | .absent, .absent => true
    | _, _ => false
  else
    let (xs,ys) := (a.items,b.items)
    xs.length == ys.length && (xs.zip ys).all fun (x,y) => x.same y

variable (v : Value)
def repeated (n : Value) : Value :=
  let k := natOr n 0
  match v with
  | .list xs => .list (replicate k xs).flatten
  | v => .list (replicate k v)

def isListOfType (a : Values) : Reply := do
  let least := numOr (a 2) 0
  let most := numOr (a 3) Number.infinity
  if !(least >= 0) || !(most >= least) then throw ⟨.assertion,""⟩
  let .list xs := a 0 | return false
  let n := .ofNat xs.length
  return n >= least && n <= most && xs.all fun x => typeName x == (a 1).text

def isEmptyObject : Reply := do
  match v with
  | .absent | .null => badValue ("Invalid value in obj: " ++ jsonOrUndefined v)
  | .list xs => return xs.isEmpty
  | .str s => return s.isEmpty
  | .typed _ xs => return xs.isEmpty
  | .record fs | .item _ fs => return fs.isEmpty
  | .tensor _ | .object .. => return false
  | _ => return true

def numbersFrom (start stop : Value) : Reply := do
  let (a,b) := (start.toNumber,stop.toNumber)
  if b < a then badValue ("end (" ++ stop.text ++ ") < begin (" ++ start.text ++ ") is forbidden.")
  let count := (b - a).ceil.toUInt64.toNat
  return .list ((range count).map fun i => .num (a + .ofNat i))
def productBetween (xs : Values) (start stop : Value) : Value :=
  let a := natOr start 0
  let b := natOr stop xs.length
  .num ((range (b - a)).foldl (fun p i => p * (xs (a + i)).toNumber) 1)
def isWholeText : Bool := match v with
  | .num x => x == x.floor && !x.isInf && x.abs < 1e21
  | _ => false
def floatItems : Floats := v.items.map Value.toNumber

def listTable : Handlers :=
  under "list" ([ ("repeat",on2 fun x y => return repeated x y),
    ("count",on2 fun y z => return .ofNat ((y.items.filter (·.same z)).length)),
    ("oneOrAll",on1 fun y => return oneOrList (asList y)),
    ("ofValue",on1 fun x => return .list (asList x)),
    ("same",on2 fun x y => return .bool (listsSame x y)),
    ("unique",on1 fun x => do
      if x.isNil then return x
      return .list (firstOfEach x.items)),
    ("isOfType",isListOfType),
    ("product",on3 fun x y z => return productBetween x.items y z),
    ("median",on1 fun x => return medianOf (floatItems x)),
    ("range",on2 numbersFrom) ] ++
  [("min",smallestOf),("max",largestOf),("sum",totalOf),("mean",meanOf),("variance",varianceOf)].map
    fun (name,f) => (name,on1 fun x => return .num (← f (floatItems x)))) ++
  [ ("text.toSnake",on1 fun x => return .str (Casing.toSnake x.text)),
    ("text.toCamel",on1 fun x => return .str (Casing.toCamel x.text)),
    ("text.friendly",on1 fun x => return .str (friendlyText x)),
    ("text.requireOneOf",on3 fun x y z => silent <| requireWord (x.items.map Value.text) y.text z),
    ("number.compare",on2 fun x y => return .num (compareNumbers x y)),
    ("number.compareReverse",on2 fun x y => return .num (-1 * compareNumbers x y)),
    ("number.requirePositive",on2 fun x y => silent <| requirePositive x y.text),
    ("number.isWholeText",on1 fun x => return .bool (isWholeText x)),
    ("record.isEmpty",on1 isEmptyObject) ]

/-! ## Shapes and configurations -/

def layerShapeTable : Handlers :=
  [ ("shapes.normalize",on1 fun y => do
      match y with
      | .list [] => return .list []
      | .list (.list x :: rest) => return .list x :: rest
      | v => return [v]),
    ("shapes.one",on1 fun y => do
      match y with
      | .list [.list x] => return x
      | .list (.list x :: rest) => badValue s!"Expected exactly 1 Shape; got {(Value.list x :: rest).length}"
      | v => return v),
    ("config.toCamel",on2 fun x y => camelConfig x (strOr y "")),
    ("config.toSnake",on2 fun x y => return snakeConfig x (strOr y "")),
    ("data.isPlain",on1 fun x => return isPlainData x),
    ("variables.countParams",on1 fun x => return (← countValues (variableIds x))),
    ("optimizers.get",on1 (optimizerOfName ·.text)),
    ("window.listOf",on3 fun x y z => forEachDimOf x (natOr y 0) z.text),
    ("window.outputLength",fun a => do
      if (a 0).isNil then return a 0
      return outputLength (a 0) (a 1) (a 2) (a 3) (a 4)),
    ("window.inputLength",on4 inputLength) ]
where
  forEachDimOf (v : Value) (n : Nat) (name : String) : Reply := do
    let .num _ := v | requireWholes v isWholeText v.items.length n name
    return replicate n v
  outputLength (input size padding stride dilation : Value) : Value :=
    let k := size.toNumber
    let wide := k + (k - 1) * (numOr dilation 1 - 1)
    let n := if padding.str? == some "same" then input.toNumber else input.toNumber - wide + 1
    ((n + stride.toNumber - 1) / stride.toNumber).floor
  inputLength (n stride size padding : Value) : Reply := do
    if n.isNil then return .null
    match padding.str? with
    | some "valid" => return n.toNumber * stride.toNumber + (← largestOf [size.toNumber - stride.toNumber,0])
    | some "same" => return n.toNumber * stride.toNumber
    | _ => badValue ("Unsupport padding mode: " ++ padding.text ++ ".")

def layerUtilities : Handlers := backendTable ++ nameTable ++ listTable ++ layerShapeTable
end TensorKit.Script
