import TensorKit.Script.Layers.Callbacks
import TensorKit.Script.Layers.Standardize
import TensorKit.Script.Data.Datasets

/-! # Training and testing of models -/
namespace TensorKit.Script
open Engine Layers Autodiff List

/-! ## Compilation -/

def optimizerOfName (name : String) : Reply := do
  let e := smallNumber
  let known := [("Adagrad",[0.01]),("Adadelta",[1,0.95,e]),("Adam",[0.001,0.9,0.999,e]),
    ("Adamax",[0.002,0.9,0.999,e,0]),("RMSProp",[0.001,0.9,0,e]),("SGD",[0.01])]
  let some (kind,args) := known.find? fun (k,_) => k == name || k.toLower == name
    | badValue ("Unknown Optimizer " ++ name)
  makeOptimizer kind (args.map .num)

variable (id : Nat) (data : Values) (v : Value) (dataset args : Value)
def chosenOptimizer : Script (Nat × Bool) := do
  match v with
  | .str name =>
    let .object _ id ← optimizerOfName name | return (0,true)
    return (id,true)
  | .object .optimizer id => return (id,false)
  | _ => badValue "User-defined optimizer must be an instance of tf.Optimizer."

def chosenLosses (loss : Value) (names : Strings) : Script Values := do
  match loss with
  | .list ls =>
    if ls.length != names.length then
      badValue ("When passing an Array as loss, it should have one entry per model output. The model has " ++
        s!"{names.length} output(s), but you passed loss=" ++ loss.text ++ ".")
    ls.mapM getLoss
  | .str _ =>
    let f ← getLoss loss
    return names.map fun _ => f
  | v =>
    if v.isFunction then return names.map fun _ => v
    for (k,_) in Value.orderFields v.fields do
      if !names.contains k then
        badValue (s!"Unknown entry in loss dictionary: \"{k}\". " ++
          "Only expected the following keys: " ++ ",".intercalate names)
    names.mapM fun n => getLoss (v n)

def generalMetric (word : String) (shape : Dims) (loss : Value) : Option (String × Value) :=
  let accuracy := ["accuracy","acc"].contains word
  if !accuracy && !(["crossentropy","ce"].contains word) then none
  else
    let stem := if shape.getLast? == some (some 1) || nativeName loss == "binaryCrossentropy" then "binary"
      else if nativeName loss == "sparseCategoricalCrossentropy" then "sparseCategorical"
      else "categorical"
    let name := if accuracy then stem ++ "Accuracy" else stem ++ "Crossentropy"
    some (if accuracy then "acc" else "ce",measureOf name)

def chosenMetric (metric : Value) (shape : Dims) (loss : Value) : Script (String × Value) := do
  (metric.str?.bind (generalMetric · shape loss)).getDM do
    let f ← getMetric metric
    return (← measureName metric,f)

def compileModel : Act := do
  let loss := (← memberOf args "loss").orElse (.list [])
  let (optimizer,ownsOptimizer) ← chosenOptimizer (args "optimizer")
  let n ← networkAt id
  let names := n.outputNames
  let losses ← chosenLosses loss names
  let shapes ← n.outputs.mapM dimsOfId
  let nested ← collectMetrics (args "metrics") names
  let metrics ← nested.zipIdx.mapM fun (ms,i) => ms.mapM fun m => chosenMetric m (shapes.getD i []) (losses i)
  let collected ← trainablesOf id
  let training :=
    { optimizer, ownsOptimizer, loss, measures := .of names losses metrics, metrics := args "metrics",
      collected := some collected }
  modifyLayer id fun l => { l with training := some training }

variable (ins : Values) (p : FitPlan) (names : Strings) (what : String) (x y : Value) {α : Type}
def reportLabels : Strings := names.zipIdx.map fun (n,i) =>
  if names.count n > 1 then s!"{n}_{(names.take i).count n}" else n

/-! ## Data -/

def notCompiled : Script α :=
  throw (.runtime "You must compile a model before training/testing. Use LayersModel.compile(modelCompileArgs).")
def trainingOf : Script Training := do (← layerAt id).training.getDM notCompiled

def standardPair (batchSize : Option Nat) : Script (Values × Values) := do
  let t ← trainingOf id
  let n ← networkAt id
  let shapes ← n.outputs.mapM dimsOfId
  let wanted := (shapes.zip t.measures.losses).map fun (s,f) =>
    if nativeName f == "sparseCategoricalCrossentropy" then s.dropLast ++ [some 1] else s
  let xs ← standardData x n.inputNames (some (n.feedShapes.map some)) false "input"
  let ys ← standardData y n.outputNames (some (wanted.map some)) false "target"
  requireSameCounts xs ys
  requireTargetsFit ys t.measures.losses shapes
  if let some b := batchSize then
    if b > 0 && (← isStateful id) then
      let count := rowCount xs
      if count % b != 0 then
        badValue ("In a stateful network, you should only pass inputs with a number of samples that is divisible " ++
          s!"by the batch size {b}. Found: {count} sample(s).")
  return (xs,ys)

def weightsBy (classWeight : Value) (ys : Values) : Script Values := do
  let weights ← standardClassWeights classWeight (← networkAt id).outputNames
  weights.zipIdx.mapM fun (w,i) => standardWeights (ys.getD i .null) .null w .absent
def standardTriple (y sampleWeight classWeight : Value) (batchSize : Option Nat) :
    Script (Values × Values × Option Values) := do
  let (xs,ys) ← standardPair id x y batchSize
  if sampleWeight.isPresent then fail "sample weight is not supported yet."
  if classWeight.isNil then return (xs,ys,none)
  return (xs,ys,some (← weightsBy id classWeight ys))
def sampleCount (batchSize steps : Value) (label : String) : Script Nat := do
  if steps.isPresent && batchSize.isPresent then
    badValue (s!"If {label} is set, batchSize must be null or undefined.Got batchSize = " ++ batchSize.text)
  return rowCount ins
def ensuring (x : Script α) (after : Act) : Script α := do
  let r ← attempt x
  after
  r

/-! ## Prediction -/

def tidiedList (x : Script Values) : Script Values := return (← tidied do return .list (← x)).items

def predictAll (batchSize : Nat) : Reply := tidied do
  let samples ← sampleCount ins .null .null "steps"
  let n ← networkAt id
  let outs ← predictBatches tidiedList
    (fun start stop => ins.mapM fun v => sliceFirst v start (stop - start))
    (runModel n · .absent)
    (fun parts => core "concat" [parts,0]) n.outputs.length samples batchSize
  return oneOrList outs

def checkedBatchSize : Script Nat := do
  let size := (args "batchSize").orElse 32
  requireBatchSize size
  return natOr size 32

def predictModel (args : Value) : Reply := do
  let xs ← atLeastRank2All x
  let n ← networkAt id
  requireInputData xs n.inputNames n.feedShapes false
  ensuring (do predictAll id xs (← checkedBatchSize args)) (disposeNew xs x)

def predictOnBatch : Reply := do
  let n ← networkAt id
  requireInputData x n.inputNames n.feedShapes true
  let xs := asList x
  predictAll id xs (rowCount xs)

/-! ## Reports -/

def lossOps : LossOps Script Value where
  mean x := core "mean" [x]
  add := plus
  keep x := keepTensors x

def judged : Script (Judged Script Value Value Value) := do
  let n ← networkAt id
  let t ← trainingOf id
  return {
    inputs := n.inputs.length
    outputs := n.outputs.length
    measures := t.measures
    forward := fun training ins => runModel n ins (if training then .record [("training",true)] else .absent)
    measure := callMeasure
    weigh := fun w loss => if w.isPresent then times loss w else return loss
    missing := .absent }

def testBatch : Script Values := tidiedList do lossOps.testBatch (← judged id) data
def trainLoss : StateT Values Script Tensor := do
  let (total,metrics) ← lossOps.trainBatch (← judged id) data (do return (← layerCall id "calculateLosses" []).items)
  set metrics
  let some (.tensor x) := total | throw (.noMember "dtype")
  return x
def trainBatch : Script Values := do
  let t ← trainingOf id
  let vars ← (t.collected.getD []).mapM readVariable
  let custom : CustomGradient (StateT Values Script) := fun handle dys saved => customGradient handle dys saved
  let (d,metrics) ← (variableGradients custom (trainLoss id data) (some vars)).run []
  descend t.optimizer d (some vars)
  return d.value :: metrics
def trainOnBatch : Reply := do
  let (xs,ys,_) ← standardTriple id x y .absent .absent none
  let outs ← trainBatch id (xs ++ ys)
  let values ← outs.mapM readLog
  disposeAll outs
  return .promise (oneOrList values)

/-! ## Testing -/

def meanOps : MeanOps Script Value where
  zero := core "scalar" [0]
  addTimes sum n v := do plus sum (← times n v)
  dividedBy sum n := per sum n
def testAll (batchSize verbose steps : Value) : Script Values := tidiedList do
  let samples ← sampleCount ins batchSize steps "steps"
  if verbose.toNumber > 0 then unsupported "Verbose mode is not implemented yet."
  let index ← core "tensor1d" [.ofNats (range samples)]
  meanOps.testBatches (fun start stop => do
    let rows ← sliceFirst index start (stop - start)
    return (← pickRows ins rows).items) (testBatch id) samples (natOr batchSize 32)
def evaluateModel (y args : Value) : Reply := do
  let size ← checkedBatchSize args
  let (xs,ys) ← standardPair id x y (some size)
  ensuring (do return oneOrList (← testAll id (xs ++ ys) size (args "verbose") (args "steps"))) do
    disposeNew xs x
    disposeNew ys y

/-! ## Training on tensors -/

structure FitState where
  epochLogs : Logs := []
  batchLogs : Logs := []
  order : Nats := []
  index : Value := .null

def shuffled (xs : Nats) : Script Nats := do
  let out ← (range xs.length).reverse.foldlM (fun a i => do
    let j := ((← draw) * .ofNat (i + 1)).toUInt64.toNat
    return a.swapIfInBounds i j) xs.toArray
  return out.toList
def isStopping : Script Bool := return ((← layerAt id).stopTraining).getD false
def epochList (first last : Float) : Floats :=
  (range ((last - first).ceil.toUInt64.toNat)).map fun i => first + .ofNat i

structure FitPlan where
  ins : Values
  labels : Strings
  batchSize : Nat
  (epochs initialEpoch : Float)
  validation : Option Values
  shuffle : Bool
  callbacks : Nats

def keepAll (vs : Values) : Act := vs.forM (keepTensors ·)

def fitBatch (s : FitState) (i : Nat) (b : Nat × Nat) (isLast : Bool) : Script (Logs × Logs) := do
  let size := b.2 - b.1
  let outs ← tidied do
    let rows ← sliceFirst s.index b.1 size
    let data := (← pickRows p.ins rows).items
    let outs ← trainBatch id data
    keepAll (outs.take p.labels.length)
    let some val := p.validation | return .list [outs]
    if isLast then
      let tested ← testAll id val p.batchSize .absent .absent
      keepAll tested
      return .list [outs,tested]
    return .list [outs]
  let values := (outs.items 0).items
  let tested := (outs.items 1).items
  let batchLogs := [("batch",.ofNat i),("size",.ofNat size)] ++ p.labels.zipIdx.map fun (l,j) => (l,values j)
  let epochLogs := if tested.isEmpty then [] else
    p.labels.zipIdx.map fun (l,j) => ("val_" ++ l,tested j)
  return (batchLogs,epochLogs)

def fitHooks (batchCount : Nat) : FitHooks (StateT FitState Script) Float (Nat × Nat) where
  trainBegin := tell p.callbacks "onTrainBegin" none
  resume := modifyLayer id fun l => { l with stopTraining := some false }
  trainEnd := tell p.callbacks "onTrainEnd" none
  isStopped := isStopping id
  epochBegin e := do
    tell p.callbacks "onEpochBegin" (some e)
    modify fun s => { s with epochLogs := [] }
  epochEnd e := do
    let logs ← tellAll p.callbacks "onEpochEnd" (some e) (← get).epochLogs
    modify fun s => { s with epochLogs := logs }
  batchBegin i := do
    let logs ← tellAll p.callbacks "onBatchBegin" (some i) []
    modify fun s => { s with batchLogs := logs }
  runBatch i b := do
    let (batchLogs,epochLogs) ← fitBatch id p (← get) i b (i + 1 == batchCount)
    modify fun s => { s with batchLogs, epochLogs := s.epochLogs ++ epochLogs }
  batchEnd i := do disposeLogs (← tellAll p.callbacks "onBatchEnd" (some i) (← get).batchLogs)
  arrange := do
    let s ← get
    let order ← if p.shuffle then shuffled s.order else pure s.order
    let index ← core "tensor1d" [.ofNats order]
    set { s with order, index }
  settle := do disposeAll (← get).index

def fitLoop (samples : Nat) : Act := do
  let batches := makeBatches samples p.batchSize
  let hooks := fitHooks id p batches.length
  let _ ← (hooks.run (epochList p.initialEpoch p.epochs) batches).run { order := range samples }

/-- Data to test on, and what of it was made for the purpose. -/
structure Validation where
  (inputs targets : Values)
  valX : Values := []
  valY : Values := []
  givenX : Value := .absent
  givenY : Value := .absent
  wanted : Bool := false

def prepareValidation (xs ys : Values) (args : Value) (batchSize : Nat) : Script Validation := do
  let data := args "validationData"
  let split := args "validationSplit"
  if data.isPresent && !data.items.isEmpty then
    match data.items with
    | [vx,vy] =>
      let (valX,valY,_) ← standardTriple id vx vy .null .null (some batchSize)
      return { inputs := xs, targets := ys, valX, valY, givenX := vx, givenY := vy, wanted := true }
    | [_,_,_] => unsupported "validationData including sample weights is not supported yet."
    | _ =>
      badValue ("When passing validation data, it must contain 2 (valX, valY) " ++
        "or 3 (valX, valY, valSampleWeight) items; " ++ (← displayText data) ++ " is invalid.")
  else if split.isPresent && split.toNumber > 0 && split.toNumber < 1 then
    let size := .ofNat (rowCount xs)
    let at' := (size * (1 - split.toNumber)).floor
    let cut vs (a b) := return (← sliceRows vs a b).items
    let valX ← cut xs at' size
    let inputs ← cut xs 0 at'
    let valY ← cut ys at' size
    let targets ← cut ys 0 at'
    return { inputs, targets, valX, valY, wanted := true }
  else return { inputs := xs, targets := ys, wanted := (args "validationSteps").isPresent }

def fitParams (epochs initialEpoch samples steps batchSize verbose : Value) (doValidation : Bool)
    (labels : Strings) (withValidation : Bool) : Value :=
  let metrics := labels ++ (if withValidation then labels.map ("val_" ++ ·) else [])
  .record [("epochs",epochs),("initialEpoch",initialEpoch),("samples",samples),("steps",steps),
    ("batchSize",batchSize),("verbose",verbose),("doValidation",doValidation),
    ("metrics",.ofStrings metrics)]
def observeTraining (given : Nats) (params : Value) : Script (Nats × Nat) := do
  let (all,history) ← configureCallbacks given params
  all.forM fun c => setCallbackModel c (layerValue id)
  modifyLayer id fun l => { l with history := callbackValue history }
  return (all,history)

def fitPrepared (v : Validation) (weights : Option Values) (args : Value) (batchSize : Nat) : Reply := do
  let ins := v.inputs ++ v.targets ++ weights.getD [.null]
  let labels := reportLabels (← trainingOf id).measures.names
  let given ← standardCallbacks (args "callbacks") (args "yieldEvery")
  let validation := if v.wanted && !v.valX.isEmpty then some (v.valX ++ v.valY) else none
  let samples := rowCount ins
  let epochs := (args "epochs").orElse 1
  let initialEpoch := (args "initialEpoch").orElse 0
  let params := fitParams epochs initialEpoch samples .null batchSize
    ((args "verbose").orElse 1) validation.isSome labels v.wanted
  let (callbacks,history) ← observeTraining id given params
  let shuffle := args "shuffle"
  let plan :=
    { ins, labels, batchSize, epochs := epochs.toNumber, initialEpoch := initialEpoch.toNumber, validation,
      shuffle := shuffle.isNil || shuffle.truthy, callbacks }
  if shuffle.str? == some "batch" && plan.initialEpoch < plan.epochs then
    tell callbacks "onTrainBegin" none
    tell callbacks "onEpochBegin" (some initialEpoch)
    unsupported "batch shuffling is not implemneted yet"
  fitLoop id plan samples
  syncHistory history
  return .promise (callbackValue history)

def whileTraining (x : Reply) : Reply := do
  if (← layerAt id).isTraining then fail "Cannot start training because another fit() call is ongoing."
  modifyLayer id fun l => { l with isTraining := true }
  ensuring x (modifyLayer id fun l => { l with isTraining := false })

def fitModel (y args : Value) : Reply := whileTraining id do
  let batchSize ← checkedBatchSize args
  let (xs,ys,weights) ← standardTriple id x y (args "sampleWeight") (args "classWeight") (some batchSize)
  let freeWeights : Act := disposeAll (weights.getD [])
  match ← attempt (prepareValidation id xs ys args batchSize) with
  | .error f =>
    disposeNew xs x
    disposeNew ys y
    freeWeights
    throw f
  | .ok v =>
    ensuring (fitPrepared id v weights args batchSize) do
      disposeNew v.inputs x
      disposeNew v.targets y
      disposeNew v.valX v.givenX
      disposeNew v.valY v.givenY
      freeWeights

/-! ## Training on datasets -/

variable (names : Strings)
def tensorsByName (v : Value) : Script Values := do
  match v with
  | .tensor _ => return [v]
  | .list xs =>
    if xs.length != names.length then
      fail (s!"Received an array of {xs.length} Tensors, but expected {names.length} to match the {what} " ++
        "keys " ++ ",".intercalate names ++ ".")
    return xs
  | v =>
    names.mapM fun name => do
      let x := v name
      if x.isNil then
        badValue ("The feature data generated by the dataset lacks the required " ++ what ++ " key '" ++ name ++ "'.")
      return x

def requireRows (firstName : String) (size : Nat) (vs : Values) : Act := do
  for (v,i) in vs.zipIdx do
    let rows := (shapeOf v).headD 0
    if rows != size then
      let name := names.getD i "undefined"
      fail s!"Batch size mismatch: {what} {name} has {rows}; expected  {size} based on input {firstName}."

def datasetPair (element : Value) : Script (Values × Values) := do
  let n ← networkAt id
  let x := element "xs"
  let y := element "ys"
  if x.isNil || y.isNil then
    fail ("A Dataset iterator for fitDataset() is expected to generate objects of the form `\x7bxs: xVal, ys: " ++
      "yVal\x7d`, where the two values may be `tf.Tensor`, an array of Tensors, or a map of string to " ++
      "Tensor.  The provided Dataset instead generates " ++ (← displayText element))
  let xs ← tensorsByName "input" n.inputNames x
  let ys ← tensorsByName "output" n.outputNames y
  let size := rowCount xs
  for (what,known,vs,names) in [("input",n.inputs,xs,n.inputNames),("output",n.outputs,ys,n.outputNames)] do
    if vs.length != known.length then
      fail (s!"LayersModel has {known.length} {what}s, but the dataset provides {vs.length} {what}s.  (Expected " ++
        s!"{what} keys: " ++ jsonText (.ofStrings names) ++ ")")
  let first := n.inputNames.headD "undefined"
  requireRows "input" n.inputNames first size xs
  requireRows "output" n.outputNames first size ys
  return (xs,ys)

def readingOf : Script Nat := do
  match v with
  | .object .iterator s => return s
  | .object .dataset d =>
    let .object .iterator s := (← datasetMethod d "iterator" []).awaited | notAFunction "dataset.iterator"
    return s
  | _ => notAFunction "dataset.iterator"

def freeingMeanOps : MeanOps Script Value where
  zero := core "scalar" [0]
  addTimes sum n v := do
    let next ← tidied do plus sum (← times n v)
    disposeAll ([sum,v])
    return next
  dividedBy sum n := do
    let mean ← per sum n
    disposeAll sum
    return mean

def evaluateBatches : Script Values := do
  let _ ← trainingOf id
  let batches := args "batches"
  if (args "verbose").toNumber > 0 then unsupported "Verbose mode is not implemented yet."
  if batches.isPresent && !isPositiveCount batches then
    fail ("Test loop expects `batches` to be a positive integer, but received " ++ jsonText batches)
  let reading ← readingOf dataset
  let next : Script (Option (Nat × Values) × Bool) := do
    let r ← readStream reading
    if !r.value.truthy then return (none,r.done)
    let (xs,ys) ← datasetPair id r.value
    let outs ← testBatch id (xs ++ ys)
    disposeAll (.list (xs ++ ys))
    return (some (rowCount xs,outs),r.done)
  let wanted := if batches.isNil then none else some (natOr batches 0)
  (← freeingMeanOps.streamMeans wanted next streamFuel).getDM (throw ⟨.exhausted,"the dataset does not end"⟩)

def evaluateDataset : Reply := return .promise (oneOrList (← evaluateBatches id dataset args))

def fitElement (callbacks : Nats) (labels : Strings) (classWeight : Value) (i : Nat) (element : Value) : Act := do
  let (xs,ys) ← datasetPair id element
  let start := [("batch",.ofNat i),("size",.ofNat (rowCount xs))]
  let logs ← tellAll callbacks "onBatchBegin" (some i) start
  let weights ← if classWeight.isNil then pure [] else weightsBy id classWeight ys
  let ins := xs ++ ys ++ weights
  let outs ← trainBatch id ins
  disposeAll ins
  keepAll (outs.take labels.length)
  let logs := logs ++ labels.zipIdx.map fun (l,j) => (l,outs j)
  disposeLogs (← tellAll callbacks "onBatchEnd" (some i) logs)

/-- Data to test on after each epoch: a dataset, or inputs and targets. -/
inductive DatasetCheck where
  | none
  | dataset (d : Value)
  | pair (x y : Value)

def datasetCheck : Script DatasetCheck := do
  match args "validationData" with
  | .absent | .null => return .none
  | .object .dataset d =>
    let batches := args "validationBatches"
    if batches.isPresent && !isPositiveCount batches then
      fail ("For fitDataset() with dataset-based validation, config.validationBatches is expected not to be " ++
        "provided, or to be a positive integer, but got " ++ batches.text)
    return .dataset (.object .dataset d)
  | v =>
    if v.items.length == 3 then unsupported "Validation with sample weights is not implemented yet."
    return .pair (v.items 0) (v.items 1)

def datasetHooks (check : DatasetCheck) (callbacks : Nats)
    (labels : Strings) : StreamHooks (StateT (Nat × Logs) Script) Float Value where
  trainBegin := tell callbacks "onTrainBegin" none
  resume := modifyLayer id fun l => { l with stopTraining := some false }
  trainEnd := tell callbacks "onTrainEnd" none
  isStopped := isStopping id
  epochBegin e := do
    tell callbacks "onEpochBegin" (some e)
    modify fun s => (s.1,[])
  epochEnd e := do let _ ← tellAll callbacks "onEpochEnd" (some e) (← get).2
  restart := do
    let reading ← readingOf dataset
    modify fun s => (reading,s.2)
  next := do
    let r ← readStream (← get).1
    return (r.value.some?,r.done)
  runBatch i element := fitElement id callbacks labels (args "classWeight") i element
  validate := do
    let outs ← match check with
      | .none => pure []
      | .dataset d => evaluateBatches id d (.record [("batches",args "validationBatches")])
      | .pair x y => do
        let size := (args "validationBatchSize").orElse 32
        pure (asList (← evaluateModel id x y (.record [("batchSize",size),("verbose",.num 0)])))
    let names := (← trainingOf id).measures.names
    let .none := check | modify fun s => (s.1,s.2 ++ names.zipIdx.map fun (n,i) => ("val_" ++ n,outs i))
    pure ()

def fitDataset : Reply := do
  let perEpoch ← memberOf args "batchesPerEpoch"
  let some t := (← layerAt id).training
    | fail "You must compile a model before training/testing. Use LayersModel.compile(modelCompileConfig)."
  let epochs := args "epochs"
  if !isPositiveCount epochs then
    fail ("For fitDataset(), config.epochs is expected to be a positive integer, but got " ++ epochs.text)
  if perEpoch.isPresent && !isPositiveCount perEpoch then
    fail ("For fitDataset(), config.batchesPerEpoch is expected to be a " ++
      "positive integer if specified, but got " ++ perEpoch.text)
  if (args "validationSplit").isPresent then
    fail "`validationSplit` is not supported by `fitDataset()`. Use validationData instead."
  whileTraining id do
    let check ← datasetCheck args
    let labels := reportLabels t.measures.names
    let doValidation := (args "validationData").isPresent
    let given ← standardCallbacks (args "callbacks") (args "yieldEvery")
    let size ← match dataset with
      | .object .dataset d => datasetField d "size"
      | _ => pure .null
    let steps := if perEpoch.isPresent then perEpoch
      else if size.toNumber.isFinite then size else .null
    let params := fitParams epochs .null .null steps .null ((args "verbose").orElse 1) doValidation labels doValidation
    let (callbacks,history) ← observeTraining id given params
    let first := ((args "initialEpoch").orElse 0).toNumber
    let wanted := if perEpoch.isNil then none else some (natOr perEpoch 0)
    let hooks := datasetHooks id dataset args check callbacks labels
    let (ended,_) ← (hooks.run (epochList first epochs.toNumber) wanted streamFuel).run (0,[])
    if !ended then throw ⟨.exhausted,"the dataset does not end"⟩
    syncHistory history
    return .promise (callbackValue history)

/-! ## Parts of a model -/

def symbolicsOfNames : Script Nats := do
  let outputs ← (← layersOf id).flatMapM fun l => return symbolicIds (asList (← layerOutput l))
  let named ← outputs.mapM fun t => return ((← symbolicAt t).label,t)
  let missing := names.filter fun n => !named.any (·.1 == n)
  if !missing.isEmpty then
    badValue ("Cannot find SymbolicTensors for output name(s): " ++ jsonText (.ofStrings missing))
  return names.filterMap (named.lookup ·)

def executeModelAt (inputs outputs : Value) : Reply := do
  if outputs.isList && outputs.items.isEmpty then badValue "`outputs` is an empty Array, which is not allowed."
  let fetches ← symbolicsOfNames id ((asList outputs).map Value.text)
  let n ← networkAt id
  let feeds ← match inputs with
    | .tensor _ | .list _ =>
      let xs := asList inputs
      if xs.length != n.inputs.length then
        badValue (s!"The number of inputs provided ({xs.length}) does not match the number of inputs of this " ++
          s!"model ({n.inputs.length}).")
      feedsFor n.inputs xs
    | v =>
      n.inputs.foldlM (fun f t => do
        let name := (← symbolicAt t).label
        let x := v name
        if x.isNil then badValue ("No value is provided for the model's input " ++ name)
        enterFeed f t x none) {}
  let outs ← executeGraph fetches feeds .absent
  if outputs.isList then return .list outs else return outs 0
end TensorKit.Script
