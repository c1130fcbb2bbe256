import TensorKit.Script.Layers.Network
import TensorKit.Script.Layers.Losses

/-! # Data for models

Data is given in several forms and is brought to lists with one entry for each input or output of a model.
-/
namespace TensorKit.Script
open Engine Layers

/-! ## Inputs and targets -/

variable (v : Value)
def holdsData : Bool := match v with
  | .list xs => !xs.isEmpty
  | .tensor _ => true
  | v => !v.fields.isEmpty

def atLeastRank2 : Reply := do
  match v with
  | .tensor t =>
    if t.rank == 1 then widen v 1
    else if t.rank == 0 then fail "Expected tensor to be at least 1D, but received a 0D tensor (scalar)."
    else return v
  | v =>
    let _ ← memberOf v "rank"
    return v

def atLeastRank2All : Script Values := (asList v).mapM atLeastRank2
variable (vs : Values) (data : Value) (names : Strings)
def shapesOf : List Shape := vs.map shapeOf

def requireFitting (arrays : Values) (shapes : List (Option Dims)) (checkBatch : Bool) (counts : Float → Bool)
    (badRank badShape : String → Shape → Dims → String) : Act := do
  for ((name,v),want) in (names.zip arrays).zip shapes do
    let held := shapeOf v
    if let some want := want then
      if held.length != want.length then badValue (badRank name held want)
      for ((w,d),j) in (want.zip held).zipIdx do
        if (checkBatch || j != 0) && w.any fun w => counts w && w != .ofNat d then badValue (badShape name held want)

def standardData (shapes : Option (List (Option Dims))) (checkBatch : Bool)
    (label : String) : Script Values := do
  if names.isEmpty then
    if data.isPresent && holdsData data then
      badValue (s!"Error when checking model {label} expected no data, but got " ++ (← displayText data))
    return []
  if data.isNil then return names.map fun _ => .null
  let arrays ← match data with
    | .tensor t =>
      if names.length > 1 then
        badValue (s!"The model {label} expects {names.length} Tensor(s), " ++
          s!"but only received one Tensor. Found: Tensor with shape {t.shape.text}")
      pure [data]
    | .list xs =>
      if xs.length != names.length then
        badValue (s!"Error when checking model {label}: the Array of Tensors that you are passing to your model " ++
          s!"is not the size the model expected. Expected to see {names.length} Tensor(s), but instead got the " ++
          "following list of Tensor(s): " ++ (← displayText data))
      pure xs
    | data =>
      names.mapM fun name => do
        let v := data name
        if v.isNil then
          badValue (s!"No data provided for \"{name}\". Need data for each key in: " ++ ",".intercalate names)
        return v
  let arrays ← arrays.mapM atLeastRank2
  shapes.forM (requireFitting names arrays · checkBatch (· >= 0)
    (fun name held want => s!"Error when checking {label}: expected {name} to have {want.length} dimension(s). but " ++
      s!"got array with shape {held.text}")
    fun name held want => s!"Error when checking {label}: expected {name} to have shape [{want.text}], but got " ++
      s!"array with shape [{held.text}].")
  return arrays

def countText (n : Option Nat) : String := n.elim "undefined" toString
def sampleCounts : List (Option Nat) :=
  let sizes := (vs.map fun v => (shapeOf v).head?).eraseDups
  sizes.mergeSort fun a b => !Text.less (countText b) (countText a)

def requireSameCounts (inputs targets : Values) : Act := do
  let xs := sampleCounts inputs
  let ys := sampleCounts targets
  let shapesText vs := jsonText ((shapesOf vs).map Value.ofShape)
  if xs.length > 1 then
    badValue ("All input Tensors (x) should have the same number of samples. Got array shapes: " ++ shapesText inputs)
  if ys.length > 1 then
    badValue ("All target Tensors (y) should have the same number of samples. " ++
      "Got array shapes: " ++ shapesText targets)
  match xs, ys with
  | [x], [y] =>
    if x != y then
      badValue (s!"Input Tensors should have the same number of samples as target Tensors. Found {countText x} input " ++
        s!"sample(s) and {countText y} target sample(s).")
  | _, _ => pure ()

def nativeName : String := match v with
  | .native name _ => name
  | _ => ""

def requireTargetsFit (targets losses : Values) (shapes : List Dims) : Act := do
  for ((y,loss),shape) in (targets.zip losses).zip shapes do
    let name := nativeName loss
    let s := shapeOf y
    if name == "categoricalCrossentropy" && s.getLast? == some 1 then
      badValue (s!"You are passing a target array of shape {s.text} while using a loss " ++
        "'categorical_crossentropy'. 'categorical_crossentropy'expects targets to be binary matrices (1s and 0s) " ++
        "of shape [samples, classes].")
    if ["meanSquaredError","binaryCrossentropy","categoricalCrossentropy"].contains name then
      for (d,j) in (s.drop 1).zipIdx do
        let some (some out) := (shape.drop 1)[j]? | pure ()
        if !(.ofNat d == out) then
          badValue (s!"A target Tensor with shape {s.text} was passed for an output of shape {shape.text}, " ++
            "while using a loss function that expects targets to have the same shape as the output.")

def requireInputData (shapes : List Dims) (checkBatch : Bool) : Act := do
  let arrays ← match data with
    | .list xs =>
      if xs.length != names.length then
        badValue ("Error when checking model : the Array of Tensors that you are passing to your model is not the " ++
          s!"size the the model expected. Expected to see {names.length} Tensor(s), but instead got {xs.length} " ++
          "Tensors(s).")
      pure xs
    | v =>
      if names.length > 1 then
        badValue (s!"The model expects {names.length}  Tensors, " ++
          "but only received one Tensor. Found: array with shape " ++ jsonText (.ofShape (shapeOf v)) ++ ".")
      pure [v]
  requireFitting names arrays (shapes.map some) checkBatch (fun _ => true)
    (fun name s want => s!"Error when checking : expected {name} to have {want.length} dimension(s), but got array with" ++
      " shape " ++ jsonText (.ofShape s))
    fun name s want => s!"Error when checking : expected {name} to have shape " ++ jsonText (dimsValue want) ++
      " but got array with shape " ++ jsonText (.ofShape s) ++ "."

def disposeNew (tensors : Values) (given : Value) : Act := do
  let old := given.tensors.map (·.id)
  (for v in tensors do
    if let some t := v.tensor? then if !old.contains t.id then dispose t : Eng Unit)

/-! ## Batches -/

def isPositiveCount : Bool := match v with
  | .num x => x > 0 && x == x.floor && !x.isInf
  | _ => false
def rowCount : Nat := (shapeOf (vs.headD .null)).headD 0
def requireBatchSize : Act := do
  if !isPositiveCount v then fail ("batchSize is required to be a positive integer, but got " ++ v.text)
def sliceRows (arrays : Value) (start stop : Float) : Reply := do
  let slice v := sliceFirst v start (stop - start)
  match arrays with
  | .absent | .null => return .list [.null]
  | .list xs => xs.mapM slice
  | v => slice v
def pickRow (indices : Value) (v : Value) : Reply := tidied do
  match v, indices with
  | .absent, _ | .null, _ => return .null
  | v, .tensor t =>
    let at' ← if t.dtype == .int32 then pure indices else tensorMethod t "toInt" []
    gatherOf v at' .absent
  | v, _ => gatherOf v indices .absent
def pickRows (arrays indices : Value) : Reply := match arrays with
  | .list xs => tidied do xs.mapM (pickRow indices)
  | v => pickRow indices v

/-! ## Metrics -/

def collectMetrics (metrics : Value) (names : Strings) : Script (List Values) := do
  match metrics with
  | .absent | .null | .list [] => return names.map fun _ => []
  | .str _ => return names.map fun _ => [metrics]
  | .list xs => return names.map fun _ => xs
  | .num _ | .bool _ =>
    throw (.badType ("Type of metrics argument not understood. Expected an string," ++
      "function, Array, or Object, found: " ++ metrics.text))
  | v =>
    if v.isFunction then return names.map fun _ => [v]
    return names.map fun name => if v.fields.any (·.1 == name) then asList (v name) else []

/-! ## Weights of classes -/

def isRecordLike : Bool := v matches .null | .list _ | .record _ | .tensor _ | .typed .. | .object .. | .item ..

def standardClassWeights : Script Values := do
  let count := names.length
  match v with
  | .absent | .null | .list [] => return names.map fun _ => .null
  | v =>
    if count == 1 then
      match v with
      | .list [x] => return [x]
      | v =>
        let name := names.headD ""
        if v.fields.any (·.1 == name) then return [v name] else return [v]
    match v with
    | .list xs =>
      if xs.length != count then
        fail (s!"Provided classWeight is an array of {xs.length} element(s), but the model has {count} outputs. " ++
          "Make sure a set of weights is provided for each model output.")
      return xs
    | v =>
      if (Value.orderFields v.fields).head?.any (isRecordLike ·.2) then
        return names.map fun n => if v.fields.any (·.1 == n) then v n else .null
      fail (s!"The model has multiple ({count}) outputs, so classWeight must be either an array with {count} " ++
        "elements or an object with " ++ ",".intercalate names ++ " keys. " ++
        "Provided classWeight not understood: " ++ jsonText v)

def targetClasses (y : Tensor) : Reply := tidied do
  match y.shape with
  | [_] => core "clone" [y]
  | [n,k] =>
    if k > 1 then tensorMethod y "argMax" [1]
    else if k == 1 then tensorMethod y "reshape" [.ofNats [n]]
    else
      fail (s!"Encountered unexpected last-dimension size ({k}) during handling of class weights. The size is " ++
        "expected to be >= 1.")
  | s =>
    fail (s!"Unexpected rank of target (y) tensor ({s.length}) during " ++
      "handling of class weights. The rank is expected to be 1 or 2.")

def standardWeights (y sampleWeight classWeight mode : Value) : Reply := do
  if sampleWeight.isPresent || mode.isPresent then fail "Support sampleWeight is not implemented yet"
  if classWeight.isNil then return .null
  let classes ← targetClasses (← asTensor y "shape")
  let indices ← classes.tensor?.elim (pure #[]) fun t => numbers t
  disposeAll classes
  let weights ← indices.toList.mapM fun c => do
    let key := Decimal.text c
    let w := classWeight key
    if w.isNil then
      fail (s!"classWeight must contain all classes in the training data. The class {key} exists in the data but " ++
        "not in classWeight")
    return w
  core "tensor1d" [weights,"float32"]

/-! ## Programs -/

def dimsOption : Option Dims := if v.isNil then none else some v.toDims

def dataTools : Handlers :=
  [ ("data.standard",fun a => do
      let shapes := if (a 2).isNil then none else some ((a 2).items.map dimsOption)
      let names := (a 1).items.map Value.text
      .list <$> standardData (a 0) names shapes (boolOr (a 3) true) (strOr (a 4) "")),
    ("data.requireSameCounts",on2 fun x y => silent <| requireSameCounts x.items y.items),
    ("metrics.collect",on2 fun x y => do return .list ((← collectMetrics x (y.items.map Value.text)).map .list)),
    ("batches.requireSize",on1 fun x => silent <| requireBatchSize x),
    ("batches.make",on2 fun x y => do
      let size := x.toNumber
      let step := y.toNumber
      let bound := (size / step).ceil.toUInt64.toNat + 1
      return .list ((batchesFrom size step bound 0).map fun (s,e) => .list [s,e])),
    ("batches.slice",on3 fun x y z => sliceRows x y.toNumber z.toNumber),
    ("batches.pick",on2 pickRows),
    ("loss.weighted",on2 fun x y => times x y),
    ("classWeights.standard",on2 fun x y => .list <$> standardClassWeights x (y.items.map Value.text)),
    ("classWeights.perSample",on4 fun x y z w => .promise <$> standardWeights x y z w) ]
end TensorKit.Script
