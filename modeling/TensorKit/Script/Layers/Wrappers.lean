import TensorKit.Script.Layers.Core
import TensorKit.Layers.Recurrence

/-! # Recurrent layers -/
namespace TensorKit.Script
open Layers

/-! ## Cells -/

def rateOf (v : Value) : Reply := do
  let low ← largestOf [0,(v.orElse 0).toNumber]
  smallestOf [1,low]

structure CellKind where
  title : String
  gates : Nat
  gated : Bool
  shown : Strings
  states : Value → Value

def cellShown (gated forgets : Bool) : Strings :=
  ["units","activation"] ++ (if gated then ["recurrentActivation"] else []) ++
    ["useBias","kernelInitializer","recurrentInitializer","biasInitializer"] ++
    (if forgets then ["unitForgetBias"] else []) ++
    ["kernelRegularizer","recurrentRegularizer","biasRegularizer","activityRegularizer",
      "kernelConstraint","recurrentConstraint","biasConstraint","dropout","recurrentDropout"] ++
    (if gated then ["implementation"] else [])

variable (kind : CellKind) (id : Nat) (inputs : Value) (args : Nat)
def settleCell (args : Value) : Act := do
  putSetting id "units" (args "units")
  requirePositive (args "units") "units"
  let activation := args "activation"
  putSetting id "activation" (← getActivation
    (if activation.isAbsent || (activation.isNil && !kind.gated) then "tanh" else activation))
  if kind.gated then
    let v := args "recurrentActivation"
    putSetting id "recurrentActivation" (← getActivation (if v.isAbsent then "hardSigmoid" else v))
  settle id args ([("useBias",.or true),("kernelInitializer",.initializer "glorotNormal"),
    ("recurrentInitializer",.initializer "orthogonal"),("biasInitializer",.initializer "zeros"),
    ("unitForgetBias",.given)] ++ ["kernel","recurrent","bias"].map (· ++ "Regularizer",.regularizer) ++
    ["kernel","recurrent","bias"].map (· ++ "Constraint",.constraint))
  putSetting id "dropout" (← rateOf (args "dropout"))
  putSetting id "recurrentDropout" (← rateOf (args "recurrentDropout"))
  putSettings id [("activityRegularizer",.null),("implementation",args "implementation"),
    ("stateSize",kind.states (args "units"))]

def forgettingBias (units : Float) : Reply := do
  let initializer ← setting id "biasInitializer"
  let first ← applyPart initializer [.list [units]]
  let ones ← core "ones" [.list [units]]
  let rest ← applyPart initializer [.list [.num (units * 2)]]
  joinFirst (← joinFirst first ones) rest

variable (form : Form) (x : Value)
def buildCell : Act := do
  let dims ← oneShape form
  let s ← settings id
  let units := (s "units").toNumber
  let wide := .num (units * .ofNat kind.gates)
  addWeight id "kernel" ([dimValue (dims.dimAt (-1)),wide])
  addNamedWeight id "recurrentKernel" "recurrent_kernel" "recurrent" (.list [units,wide])
  if (s "useBias").truthy then
    if (s "unitForgetBias").truthy then
      let v ← addWeightFrom id "bias" (forgettingBias id units) ([wide]) .null
        (s "biasRegularizer") true (s "biasConstraint")
      putSlot id "bias" v
    else addWeight id "bias" ([wide])
  markBuilt id

def dropMask (name : String) (rate : Value) (count : Nat) (x : Value) (training : Bool) : Reply := do
  let held ← setting id name
  if isInside rate && held.isNil then
    let make : Reply := do
      let ones ← core "onesLike" [x]
      let m ← if training then core "dropout" [ones,rate] else pure ones
      core "keep" [← core "clone" [m]]
    let masks ← (List.range count).mapM fun _ => make
    putSetting id name masks
    return masks.headD .null
  else return held.items.headD .null

def dropped (rate : String) (count : Nat) (x : Value) (training : Bool) : Reply := do
  let m ← dropMask id (rate ++ "Mask") (← setting id rate) count x training
  if m.isPresent then times x m else return x
def dot (a b : Value) : Reply := dotProduct a b .absent .absent
def withBias : Reply := do biased x (← weight id "bias") .absent

def callSimple : Reply := tidied do
  let xs := inputs.items
  let [x,h] := xs | badValue s!"SimpleRNNCell expects 2 input Tensors, got {xs.length}."
  let training ← isTrainingCall args
  let x ← dropped id "dropout" 1 x training
  let hd ← dropped id "recurrentDropout" 1 h training
  let y ← withBias id (← dot x (← weight id "kernel"))
  let y ← plus y (← dot hd (← weight id "recurrentKernel"))
  let y ← applyPart (← setting id "activation") [y]
  return [y,y]

def lastAxis : Value := .ofNat (rankOf x - 1)

def callGated : Reply := tidied do
  let xs := inputs.items
  let [x,h] := xs | badValue s!"GRUCell expects 2 input Tensors (inputs, h, c), got {xs.length}."
  let training ← isTrainingCall args
  let x ← dropped id "dropout" 3 x training
  let gate ← setting id "recurrentActivation"
  let units := (← setting id "units").toNumber
  let wide ← withBias id (← dot x (← weight id "kernel"))
  let h ← dropped id "recurrentDropout" 3 h training
  let kernel ← weight id "recurrentKernel"
  let kernels := (← core "split" [kernel,.list [.num (2 * units),units],lastAxis kernel]).items
  let inner ← dot h (kernels 0)
  let xs := (← core "split" [wide,3,lastAxis wide]).items
  let hs := (← core "split" [inner,2,lastAxis inner]).items
  let z ← applyPart gate [← plus (xs 0) (hs 0)]
  let r ← applyPart gate [← plus (xs 1) (hs 1)]
  let back ← dot (← times r h) (kernels 1)
  let new ← applyPart (← setting id "activation") [← plus (xs 2) back]
  let kept ← times z h
  let rest ← plus 1 (← core "neg" [z])
  let y ← plus kept (← times rest new)
  return [y,y]

def callMemory : Reply := tidied do
  let xs := inputs.items
  let [x,h,c] := xs | badValue s!"LSTMCell expects 3 input Tensors (inputs, h, c), got {xs.length}."
  let training ← isTrainingCall args
  let gate ← setting id "recurrentActivation"
  let activation ← setting id "activation"
  let x ← dropped id "dropout" 4 x training
  let z ← dot x (← weight id "kernel")
  let h ← dropped id "recurrentDropout" 4 h training
  let z ← plus z (← dot h (← weight id "recurrentKernel"))
  let z ← withBias id z
  let zs := (← core "split" [z,4,lastAxis z]).items
  let i ← applyPart gate [zs 0]
  let kept ← times (← applyPart gate [zs 1]) c
  let c ← plus kept (← times i (← applyPart activation [zs 2]))
  let h ← times (← applyPart gate [zs 3]) (← applyPart activation [c])
  return [h,h,c]

def simpleKind : CellKind := ⟨"SimpleRNNCell",1,false,cellShown false false,fun u => u⟩
def gatedKind : CellKind := ⟨"GRUCell",3,true,cellShown true false,fun u => u⟩
def memoryKind : CellKind := ⟨"LSTMCell",4,true,cellShown true true,fun u => [u,u]⟩
def cellClass (run : Nat → Value → Nat → Reply) : LayerClass :=
  { plainClass kind.title (settleCell kind) kind.shown with
    build := buildCell kind
    call := run }

/-! ## The states of a cell -/

def layerIds (v : Value) : Nats := (asList v).filterMap (·.objectId? .layer)
def layerIn (which : String) : Script Nat := return (layerIds (← setting id which)).headD 0
def stateSizeOf : Reply := do
  let .list cells ← setting id "cells" | setting id "stateSize"
  return Recurrence.joinStates (← (layerIds cells).mapM fun c => return asList (← setting c "stateSize"))
def stateSizes : Script Values := return asList (← stateSizeOf id)
def cellOf : Script (RecurrentCell Script Value) := do
  return { count := (← stateSizes id).length
           step := fun x states => do
             let out := (← layerCall id "call" [x :: states,callArgsValue args]).items
             return (out 0,out.tail) }

/-! ## Cells on top of each other -/

def stackedIds : Script Nats := return layerIds (← setting id "cells")
def ofCells {α : Type} (f : Nat → Script (List α)) : Script (List α) := do (← stackedIds id).flatMapM f

def stackedClass : LayerClass :=
  { plainClass "StackedRNNCells" (fun id args => putSetting id "cells" (args "cells")) [] with
    build := fun id form => do
      let _ ← (← stackedIds id).foldlM (fun dims cell => do
        let _ ← layerCall cell "build" [dimsValue dims]
        let size := ((← stateSizes cell) 0).toDim
        return [dims.dim 0,size]) (form.list.headD [])
      markBuilt id
    call := fun id inputs args => tidied do
      let cells ← (← stackedIds id).mapM (cellOf · args)
      let xs := inputs.items
      if cells.isEmpty then throw (.noMember "0")
      let (y,states) ← (Recurrence.stacked cells).step (xs 0) xs.tail
      return y :: states
    config := fun id => do
      let cells ← (← stackedIds id).mapM layerConfig
      return ("cells",.list cells) :: (← baseConfig id)
    fromConfig := some fun config customs _ => do
      let cells := config "cells"
      if cells.isNil then throw (.unreadable cells.text "length")
      let cells ← cells.items.mapM (deserializeLayer · customs false)
      createLayer "StackedRNNCells" (.record [("cells",.list cells)])
    methods :=
      [ ("trainableWeights",fun id _ => do
          if !(← layerAt id).trainable then return .list []
          return variablesValue (← ofCells id trainablesOf)),
        ("nonTrainableWeights",fun id _ => do
          let others ← ofCells id othersOf
          if (← layerAt id).trainable then return variablesValue others
          return variablesValue ((← ofCells id trainablesOf) ++ others)),
        ("getWeights",fun id _ => do
          return .list (← (← ofCells id weightsOf).mapM fun w => return .tensor (← readVariable w))),
        ("setWeights",fun id args => silent do
          let held ← (← stackedIds id).mapM weightsOf
          let (parts,_) := Recurrence.takeWeights (held.map (·.length)) (args 0).items
          for (ws,values) in held.zip parts do
            for (w,i) in ws.zipIdx do writeVariable w (← asTensor (values i) "shape")) ] }

/-! ## Folding over time -/

def tensorSequence : SequenceOps Script Value where
  mul := times
  add := fun a b => core "addStrict" [a,b]
  complement := fun k => do minus (← core "onesLike" [k]) k
  rank := rankOf
  transpose := fun axes x => core "transpose" [x,.ofNats axes]
  toTruths := fun k => do core "cast" [← core "cast" [k,"bool"],"float32"]
  widen := fun k => core "expandDims" [k,.num (-1)]
  unstack := fun x => return (← core "unstack" [x]).items
  stack := fun xs => core "stack" [xs,1]

def runRecurrence (cell : RecurrentCell Script Value) (x : Value) (states : Values) (backwards : Bool)
    (mask : Value) (keepsOutputs : Bool) : Reply := tidied do
  let mask := if mask.isPresent then some mask else none
  let (last,all,after) ← Recurrence.overTime cell tensorSequence x states backwards mask keepsOutputs
  return [last.getD .absent,all.getD .absent,after]

def recurrentTable : Handlers :=
  [ ("rnn",fun a => do
      if (a 5).isPresent && 3 ≤ rankOf (a 1) then
        unsupported "The rnn() functoin of the deeplearn.js backend does not support constants yet."
      let step x (states : Values) : Script (Value × Values) := do
        let out := (← tidied (call (a 0) [x,states])).items
        return (out 0,(out 1).items)
      runRecurrence ⟨0,step⟩ (a 1) (a 2).items (a 3).truthy (a 4) (a 7).truthy) ]

/-! ## Recurrent layers -/

def cellIdOf : Script Nat := layerIn id "cell"
def recurrentSettings : Strings := ["returnSequences","returnState","goBackwards","stateful","unroll"]

def settleRecurrent (args : Value) : Act := do
  let given := args "cell"
  let cell ← match given with
    | .absent | .null => badValue "cell property is missing for the constructor of RNN."
    | .list cells => do pure (layerValue (← createLayer "StackedRNNCells" (.record [("cells",.list cells)])))
    | v => pure v
  let size ← match cell with
    | .object .layer c => stateSizeOf c
    | v => pure (v "stateSize")
  if size.isNil then
    badValue "The RNN cell should have an attribute `stateSize` (tuple of integers, one integer per RNN state)."
  putSetting id "cell" cell
  settle id args (recurrentSettings.map (·,.or false))
  modifyLayer id fun l => { l with stateful := (args "stateful").truthy }
  supportMasks id
  putRank id 3

def shapeSpec (d : Dims) : InputSpec := { dims := some d, ndim := some d.length }

def batchSizeOf : Script Float := do
  let some d := ((← layerAt id).inputSpec.getD []).head?.bind (·.dims) | throw (.noMember "0")
  (d.dim 0).getDM (badValue ("If an RNN is stateful, it needs to know its batch size. Specify the batch size of " ++
    "your input tensors: \n- If using a Sequential model, specify the batch size by passing a `batchInputShape` " ++
    "option to your first layer.\n- If using the functional API, specify the batch size by passing a " ++
    "`batchShape` option to your Input layer."))

def stateOps (batch : Float) (sizes : Values) : StateOps Script Value where
  held := do
    let l ← layerAt id
    return ⟨l.states,l.keptStates⟩
  hold := fun h => modifyLayer id fun l => { l with states := h.states, keptStates := h.aside }
  zeros := sizes.mapM fun n => core "zeros" [.list [batch,n]]
  dispose := fun vs => vs.forM (disposeAll ·)
  requireCount := fun n vs => do
    if vs.length != n then
      badValue (s!"Layer {(← layerAt id).name} expects {n} state(s), but it received {vs.length} state value(s). " ++
        "Input received: " ++ (← inputsText vs))
  requireFit := fun i v => do
    let wanted : Dims := [some batch,(sizes i).toDim]
    let given ← dimsOf v
    if given != wanted then
      badValue (s!"State {i} is incompatible with layer {(← layerAt id).name}: " ++
        "expected shape=" ++ wanted.text ++ ", received shape=" ++ given.text)
  copy := fun v => do core "keep" [← cloneOf v]

def resetRecurrent (states : Value) (training : Bool) : Act := do
  let _ ← tidied <| silent do
    if !(← layerAt id).stateful then
      throw (.noAttribute "Cannot call resetStates() on an RNN Layer that is not stateful.")
    let batch ← batchSizeOf id
    let sizes ← stateSizes (← cellIdOf id)
    let given := if states.isNil then none else some (asList states)
    (stateOps id batch sizes).reset given training

def stepDims (dims : Dims) : Dims := dims.take 1 ++ dims.drop 2
def buildRecurrent : Act := do
  if (← setting id "numConstants").isPresent then unsupported "Constants support is not implemented in RNN yet."
  let dims := form.list.headD []
  let l ← layerAt id
  let batch := if l.stateful then dims.dim 0 else none
  let specs := l.inputSpec.getD []
  putSpecs id (shapeSpec [batch,none,dims.dimAt (-1)] :: specs.tail)
  let cell ← cellIdOf id
  let _ ← layerCall cell "build" [dimsValue (stepDims dims)]
  let size ← stateSizeOf cell
  let sizes := (asList size).map Value.toDim
  match (← layerAt id).stateSpec with
  | some specs =>
    let given := specs.map fun s => (s.dims.getD []).dimAt (-1)
    if given != sizes then
      badValue ("An initialState was passed that is not compatible with " ++
        "cell.stateSize. Received stateSpec=" ++ ",".intercalate (specs.map fun _ => "[object Object]") ++ "; " ++
        "However cell.stateSize is " ++ size.text)
  | none => modifyLayer id fun l => { l with stateSpec := some (sizes.map fun d => shapeSpec [none,d]) }
  if (← layerAt id).stateful then let _ ← layerCall id "resetStates" []

def startingStates (sizes : Values) : Script Values := do
  let states ← tidied do
    let zeros ← core "zeros" [.ofShape (shapeOf x)]
    let column ← widen (← core "sum" [zeros,.ofNats [1,2]]) (-1)
    return .list (← sizes.mapM fun n => if n.toNumber > 1 then tileBy column ([1,n]) else pure column)
  return states.items

def callRecurrent : Reply := tidied do
  let mask ← callArg args "mask"
  let training ← callArg args "training"
  let given ← callArg args "initialState"
  let x ← oneTensor inputs
  let cell ← cellIdOf id
  let sizes ← stateSizes cell
  let l ← layerAt id
  let states ← if given.isPresent then pure given.items
    else if l.stateful then l.states.getDM (throw (.unreadable "null" "length"))
    else startingStates x sizes
  if states.length != sizes.length then
    badValue s!"RNN Layer has {sizes.length} state(s) but was passed {states.length} initial state(s)."
  let cellArgs ← newCallArgs [("training",training)]
  let keepsOutputs ← isSet id "returnSequences"
  let result := (← runRecurrence (← cellOf cell cellArgs) x states
    (← isSet id "goBackwards") mask keepsOutputs).items
  if l.stateful then let _ ← layerCall id "resetStates" [result 2,training]
  let out := result (if keepsOutputs then 1 else 0)
  if ← isSet id "returnState" then return .list (out :: (result 2).items) else return out

def recurrentShape : Script Form := do
  let dims := form.list.headD []
  let sizes := (← stateSizes (← cellIdOf id)).map Value.toDim
  let width := sizes.headD none
  let out := if ← isSet id "returnSequences" then [dims.given 0,dims.given 1,width]
    else [dims.given 0,width]
  if ← isSet id "returnState" then return .many (out :: sizes.map fun n => [dims.given 0,n])
  else return .one out

def recurrentMask (_ mask : Value) : Reply := tidied do
  let mask := match mask with
    | .list ms => ms 0
    | v => v
  let out := if ← isSet id "returnSequences" then mask else .null
  if ← isSet id "returnState" then
    let count ← match (← layerAt id).states with
      | some ss => pure ss.length
      | none => do pure (← stateSizes (← cellIdOf id)).length
    return out :: .replicate count .null
  else return out

def sortedInputs (count : Value) : Script (Value × Value × Value) := do
  let states ← callArg args "initialState"
  let constants ← callArg args "constants"
  let listed v := match v with
    | .absent | .null | .list _ => v
    | v => [v]
  match inputs with
  | .list xs =>
    if states.isPresent || constants.isPresent then
      badValue "When inputs is an array, neither initialState or constants should be provided"
    let (xs,constants) := match count.num? with
      | some n => let k := xs.length - n.toUInt64.toNat; (xs.take k,Value.list (xs.drop k))
      | none => (xs,constants)
    let states := if xs.length > 1 then .list xs.tail else states
    return (xs 0,states,listed constants)
  | x => return (x,listed states,listed constants)

/-- Symbolic tensors are inputs of the call beside the first, as which they have to pass. -/
def applyWith (more : Values) (specs : List InputSpec) (args : Nat) : Reply := do
  if more.head?.any isSymbolic then
    let held := (← layerAt id).inputSpec
    putSpecs id (held.getD [] ++ specs)
    let out ← applyLayer id (x :: more) (callArgsValue args)
    modifyLayer id fun l => { l with inputSpec := held }
    return out
  else applyLayer id x (callArgsValue args)

def applyRecurrent (kwargs : Value) : Reply := do
  let args ← callArgsOf kwargs
  let (x,states,constants) ← sortedInputs inputs args (← setting id "numConstants")
  let mut more : Values := []
  let mut specs : List InputSpec := []
  if states.isPresent then
    putCallArg args "initialState" states
    more := states.items
    let given ← states.items.mapM fun s => return shapeSpec (← dimsOf s)
    modifyLayer id fun l => { l with stateSpec := some given }
    specs := given
  if constants.isPresent then
    putCallArg args "constants" constants
    more := more ++ constants.items
    putSetting id "numConstants" constants.items.length
  applyWith id x more specs args

def recurrentConfig : Script Fields := do
  let own ← recurrentSettings.mapM fun k => return (k,← setting id k)
  let count ← setting id "numConstants"
  return own ++ (if count.isPresent then [("numConstants",count)] else [])
def startAtZero (a : Values) : Act := modifyLayer id fun l => { l with zeroInit := (a 0).truthy }

def recurrentMethods : Named (Nat → Handler) :=
  [ ("apply",fun id a => applyRecurrent id (a 0) (a 1)),
    ("resetStates",fun id a => silent <| resetRecurrent id (a 0) (match a 1 with | .bool b => b | _ => false)),
    ("getStates",fun id _ => do
      let some ss := (← layerAt id).states | return .list ((← stateSizes (← cellIdOf id)).map fun _ => .null)
      return ss),
    ("trainableWeights",fun id _ => do
      if (← layerAt id).trainable then layerCall (← cellIdOf id) "trainableWeights" [] else return .list []),
    ("nonTrainableWeights",fun id _ => do
      let cell ← cellIdOf id
      if (← layerAt id).trainable then layerCall cell "nonTrainableWeights" []
      else return variablesValue (← weightsOf cell)),
    ("setZeroInit",fun id a => do
      startAtZero id a
      layerCall (← cellIdOf id) "setZeroInit" a) ]

def recurrentClass : LayerClass :=
  { plainClass "RNN" settleRecurrent [] with
    build := buildRecurrent
    call := callRecurrent
    outputShape := recurrentShape
    mask := recurrentMask
    methods := recurrentMethods
    config := fun id => do
      return (← recurrentConfig id) ++ [("cell",← layerConfig (← cellIdOf id))] ++ (← baseConfig id)
    fromConfig := some fun config customs _ => do
      let cell ← deserializeLayer (config "cell") customs false
      createLayer "RNN" (.record (config.fields.put "cell" cell)) }

def ownCellClass (title : String) (kind : CellKind) : LayerClass :=
  { recurrentClass with
    title := title
    className := title
    fromConfig := none
    create := fun args => do
      if args.isNil then throw (.unreadable args.text (if kind.gated then "implementation" else "name"))
      let cell ← createLayer kind.title args
      let args := .record (args.fields.put "cell" (layerValue cell))
      let id ← newLayer title title args
      settleRecurrent id args
      return id
    call := fun id inputs args => tidied do
      let cell ← cellIdOf id
      for k in ["dropoutMask","recurrentDropoutMask"] do
        let m ← setting cell k
        if m.isPresent then
          disposeAll m
          putSetting cell k .null
      let own ← ["mask","training","initialState"].mapM fun k => return (k,← callArg args k)
      callRecurrent id inputs (← newCallArgs own)
    config := fun id => do
      let cell ← cellIdOf id
      let own ← kind.shown.mapM fun k => return (k,settingConfig k (← setting cell k))
      return own ++ (← recurrentConfig id) ++ (← baseConfig id) }

def recurrentClasses : List LayerClass :=
  [ recurrentClass,cellClass simpleKind callSimple,cellClass gatedKind callGated,
    cellClass memoryKind callMemory,stackedClass,ownCellClass "SimpleRNN" simpleKind,
    ownCellClass "GRU" gatedKind,ownCellClass "LSTM" memoryKind ]

/-! # Layers around layers -/

variable (id : Nat) (method : String)
def innerId : Script Nat := layerIn id "layer"
def innerValue (args : Values) : Reply := do layerCall (← innerId id) method args
def wrapperMethods : Named (Nat → Handler) :=
  ["trainableWeights","nonTrainableWeights","getWeights","setWeights","calculateLosses","setTrainable",
    "trainable"].map (fun m => (m,fun id args => innerValue id m args)) ++
  [ ("setZeroInit",fun id args => do
      startAtZero id args
      innerValue id "setZeroInit" args) ]
def wrapperFromConfig (className : String) (config customs : Value) (_ : Bool) : Script Nat := do
  let layer ← deserializeLayer (config "layer") customs false
  createLayer className (.record (("layer",layer) :: config.fields.filter (·.1 != "layer")))
def wrapperConfig : Script Fields := return ("layer",← layerConfig (← innerId id)) :: (← baseConfig id)

/-! ## Along time -/

def timeDistributedClass : LayerClass :=
  { plainClass "TimeDistributed" (fun id args => do
        putSetting id "layer" (args "layer")
        supportMasks id) [] with
    build := fun id form => do
      let dims ← oneShape form
      if dims.length < 3 then
        badValue ("TimeDistributed layer expects an input shape >= 3D, but received " ++
          "input shape " ++ jsonText (dimsValue dims))
      putSpecs id [{ dims := some dims }]
      let inner ← innerId id
      if !(← layerAt inner).built then
        let _ ← layerCall inner "build" [dimsValue (stepDims dims)]
        markBuilt inner
      markBuilt id
    outputShape := shapeOne fun id dims => do
      let out := (← innerValue id "computeOutputShape" [dimsValue (stepDims dims)]).toDims
      return out.take 1 ++ [dims.dim 1] ++ out.drop 1
    call := fun id inputs args => tidied do
      let x ← oneTensor inputs
      let inner ← innerId id
      let cell :=
        { count := 0
          step := fun x _ => return (← oneTensor (← layerCall inner "call" [x,callArgsValue args]),[]) }
      return (← runRecurrence cell x [] false .null true).items 1
    config := wrapperConfig
    fromConfig := some (wrapperFromConfig "TimeDistributed")
    methods := wrapperMethods }

/-! ## Both directions -/

def forwardId : Script Nat := layerIn id "forwardLayer"
def backwardId : Script Nat := layerIn id "backwardLayer"
def bothDirections : Script Nats := return [← forwardId id,← backwardId id]
def rename (start : String) : Act := modifyLayer id fun l => { l with name := start ++ l.name }

def settleBidirectional (args : Value) : Act := do
  let layer := args "layer"
  match layer with
  | .object .layer inner =>
    putSetting id "layer" layer
    let dict ← layerConfig inner
    let config := (dict "config").fields
    let className := dict "className"
    let make (fs : Fields) := deserializeLayer (.record [("className",className),("config",.record fs)]) .absent false
    let forward ← make config
    let config := config.put "goBackwards" (.bool !(config.lookup "goBackwards" matches some (true)))
    -- A configuration that was used holds the cell itself in place of its description.
    let config ← if className.text == "RNN" then do
        pure (config.put "cell" (← setting ((layerIds forward).headD 0) "cell"))
      else pure config
    let backward ← make config
    rename ((layerIds forward).headD 0) "forward_"
    rename ((layerIds backward).headD 0) "backward_"
    let mode := args "mergeMode"
    let mode := if mode.isAbsent then .str "concat" else mode
    putSettings id [("forwardLayer",forward),("backwardLayer",backward),("mergeMode",mode)]
    requireWord ["sum","mul","concat","ave"] "BidirectionalMergeMode" mode
    if (args "weights").truthy then unsupported "weights support is not implemented for Bidirectional layer yet."
    let l ← layerAt inner
    modifyLayer id fun b => { b with stateful := l.stateful, inputSpec := l.inputSpec, trainable := true }
    for k in ["returnSequences","returnState"] do putSetting id k (← setting inner k)
    supportMasks id
  | v => throw (.unreadable v.text "getConfig")

def bidirectionalShape (form : Form) : Script Form := do
  let shapes := (← layerCall (← forwardId id) "computeOutputShape" [formValue form]).toForm.shapes
  let mode ← setting id "mergeMode"
  let out := shapes.headD []
  let out := if mode.text == "concat" then out.dropLast ++ [some (Dims.number (Dims.dimAt out (-1)) * 2)]
    else out
  let outs := if mode.isNil then [out,out] else [out]
  if ← isSet id "returnState" then return .many (outs ++ shapes.tail ++ shapes.tail)
  return .ofList outs

def callBidirectional (inputs : Value) (args : Nat) : Reply := tidied do
  if (← callArg args "mask").isPresent then
    unsupported "The support for masking is not implemented for Bidirectional layers yet."
  let states ← callArg args "initialState"
  let run direction (part : Values → Values) : Reply := do
    if states.isPresent then putCallArg args "initialState" (part states.items)
    layerCall direction "call" [inputs,callArgsValue args]
  let half := states.items.length / 2
  let y ← run (← forwardId id) (·.take half)
  let z ← run (← backwardId id) (·.drop half)
  let returnsState ← isSet id "returnState"
  let after := if returnsState then y.items.tail ++ z.items.tail else []
  let (y,z) := if returnsState then (y.items 0,z.items 0) else (y,z)
  let z ← if ← isSet id "returnSequences" then core "reverse" [z,1] else pure z
  let mode ← setting id "mergeMode"
  let out ← match mode.text with
    | "concat" => joinTensors [y,z] (-1)
    | "sum" => plus y z
    | "ave" => do times 0.5 (← plus y z)
    | "mul" => times y z
    | _ => pure ([y,z])
  if returnsState then return .list (asList out ++ after) else return out

def applyBidirectional (inputs kwargs : Value) : Reply := do
  let args ← callArgsOf kwargs
  let (x,states,constants) ← sortedInputs inputs args .null
  if (states.isNil || states.items.isEmpty) && constants.isNil then return ← applyLayer id x (callArgsValue args)
  let mut specs := []
  if states.isPresent then
    let n := states.items.length
    if n % 2 > 0 then
      badValue ("When passing `initialState` to a Bidrectional RNN, the state should be an Array containing " ++
        "the states of the underlying RNNs.")
    putCallArg args "initialState" states
    specs ← states.items.mapM fun s => return shapeSpec (← dimsOf s)
    let (a,b) := (specs.take (n / 2),specs.drop (n / 2))
    modifyLayer (← forwardId id) fun l => { l with stateSpec := some a }
    modifyLayer (← backwardId id) fun l => { l with stateSpec := some b }
  if constants.isPresent then unsupported "Support for constants in Bidirectional layers is not implemented yet."
  let more := states.items
  let symbolic := more.head?.any isSymbolic
  if more.any (isSymbolic · != symbolic) then
    badValue
      "The initial state of a Bidirectional layer cannot be specified as a mix of symbolic and non-symbolic tensors"
  applyWith id x more specs args

def bothCall (args : Values) : Reply := silent do for d in ← bothDirections id do let _ ← layerCall d method args

def bidirectionalMethods : Named (Nat → Handler) :=
  [ ("apply",fun id a => applyBidirectional id (a 0) (a 1)),
    ("trainable",fun id _ => return (← layerAt id).trainable),
    ("setTrainable",fun id a => do
      modifyLayer id fun l => { l with trainable := (a 0).truthy }
      bothCall id "setTrainable" a),
    ("getWeights",fun id _ => do
      return ← (← bothDirections id).flatMapM fun d => return (← layerCall d "getWeights" []).items),
    ("setWeights",fun id a => do
      let ws := (a 0).items
      let half := ws.length / 2
      let _ ← layerCall (← forwardId id) "setWeights" [ws.take half]
      layerCall (← backwardId id) "setWeights" [ws.drop half]),
    ("resetStates",fun id _ => bothCall id "resetStates" []),
    ("trainableWeights",fun id _ => return variablesValue (← (← bothDirections id).flatMapM trainablesOf)),
    ("nonTrainableWeights",fun id _ => return variablesValue (← (← bothDirections id).flatMapM othersOf)),
    ("calculateLosses",fun id _ => innerValue id "calculateLosses" []),
    ("setZeroInit",fun id a => do
      startAtZero id a
      let _ ← innerValue id "setZeroInit" a
      bothCall id "setZeroInit" a) ]

def bidirectionalClass : LayerClass :=
  { plainClass "Bidirectional" settleBidirectional [] with
    build := fun id form => do
      for d in ← bothDirections id do inNameScope (← layerAt d).name do let _ ← layerCall d "build" [formValue form]
      markBuilt id
    call := callBidirectional
    outputShape := bidirectionalShape
    config := fun id => return ("mergeMode",← setting id "mergeMode") :: (← wrapperConfig id)
    fromConfig := some fun config _ _ => do
      let layer ← deserializeLayer (config "layer") .absent false
      if (config "numConstants").isPresent then
        unsupported "Deserialization of a Bidirectional layer with numConstants present is not supported yet."
      let rest := config.fields.filter (·.1 != "layer")
      createLayer "Bidirectional" (.record (rest ++ [("layer",layer)]))
    methods := bidirectionalMethods }

end TensorKit.Script
