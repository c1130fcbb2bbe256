import TensorKit.Script.Layers.Network

/-! # Observers of training

Observers may change the logs. A log is a number or a tensor that is not read yet.
-/
namespace TensorKit.Script
open Engine
abbrev Logs := Fields
variable (id : Nat) (event : String) (name : String) (logs : Logs)
def callbackAt : Script Callback := return (← get).callbacks.getD id default
def newCallback (c : Callback) : Script Nat :=
  modifyGet fun w => (w.callbacks.size,{ w with callbacks := w.callbacks.push c })
def callbackValue : Value := .object .callback id
def callbackSlot : Reply := return ((← callbackAt id).fields.lookup name).getD .absent

variable (v : Value) (index : Option Value) (args : Values) (ids : Nats)
def putCallbackSlot : Act := modify fun w => { w with callbacks := w.callbacks.modify id fun c =>
  { c with fields := c.fields.put name v } }

/-! ## Logs -/

def readLog : Reply := do
  let .tensor t := v | return v
  let .typed _ xs ← tensorMethod t "dataSync" [] | return v
  return xs[0]?.elim .absent .num
def disposeLogs : Act := logs.forM fun (_,v) => disposeAll v
def resolveLogs : Script Logs := do
  let read ← logs.mapM fun (k,v) => return (k,← readLog v)
  disposeLogs logs
  return read

/-! ## Stopping -/

def stoppableOf (verb : String) : Script Nat := do
  let some s := (← layerAt id).stack | return id
  match s.model with
  | some m => return m
  | none => badValue ("Cannot " ++ verb ++ " the stopTraining property of a sequential model before it is compiled.")

def setStop (v : Bool) : Act := do
  let m ← stoppableOf id "set"
  modifyLayer m fun l => { l with stopTraining := some v }

/-! ## Means over an epoch -/

def addLog (totals : Logs) (size : Float) (key : String) (v : Value) : Script Logs := do
  let old := totals.lookup key
  match v with
  | .num x => return totals.put key ((old.getD 0).toNumber + x * size)
  | v =>
    let sum ← tidied do plus (old.getD 0) (← times v size)
    disposeAll (old.getD .null)
    return totals.put key sum

def keepTensors : Act := v.tensors.forM fun t => do let _ ← keep t
def loggerEvent : Script Logs := do
  match event with
  | "onEpochBegin" =>
    putCallbackSlot id "seen" 0
    putCallbackSlot id "totals" (.record [])
    return logs
  | "onBatchEnd" =>
    let size := numOr ((logs.lookup "size").getD .absent) 0
    let seen := (← callbackSlot id "seen").toNumber + size
    putCallbackSlot id "seen" seen
    let totals := (← callbackSlot id "totals").fields
    let totals ← (Value.orderFields logs).foldlM (fun t (k,v) => addLog t size k v) totals
    putCallbackSlot id "totals" (.record totals)
    return logs
  | "onEpochEnd" =>
    let params := (← callbackAt id).params
    let seen := (← callbackSlot id "seen").toNumber
    let totals ← callbackSlot id "totals"
    (← memberOf params "metrics").items.foldlM (fun logs key => do
      match totals key.text with
      | .absent | .null => return logs
      | .num x => return logs.put key.text (x / seen)
      | v =>
        let mean ← tidied do times (← per 1 seen) v
        disposeAll v
        keepTensors mean
        return logs.put key.text mean) logs
  | _ => return logs

/-! ## The history of training -/

def historyEvent (index : Value) (logs : Logs) : Script Logs := do
  match event with
  | "onTrainBegin" =>
    putCallbackSlot id "epoch" (.list [])
    putCallbackSlot id "history" (.record [])
  | "onEpochEnd" =>
    putCallbackSlot id "epoch" (.list ((← callbackSlot id "epoch").items ++ [index]))
    let history := (Value.orderFields logs).foldl (fun (h : Logs) (k,v) =>
      h.put k (.list (((h.lookup k).getD (.list [])).items ++ [v])))
      (← callbackSlot id "history").fields
    putCallbackSlot id "history" (.record history)
  | _ => pure ()
  return logs

def syncHistory : Act := do
  let history := (← callbackSlot id "history").fields
  let read ← history.mapM fun (k,vs) => return (k,.list (← vs.items.mapM readLog))
  disposeAll (.record history)
  putCallbackSlot id "history" (.record read)

/-! ## Functions of the program -/

def newCustom (args yieldEvery : Value) : Script Nat := do
  let yieldEvery := if yieldEvery.truthy then yieldEvery else "auto"
  if yieldEvery.str? == some "never" && (args "onYield").isPresent then
    fail ("yieldEvery is `never` but you provided an `onYield` callback. " ++
      "Either change `yieldEvery` or remove the callback")
  newCallback { className := "CustomCallback", fields := args.fields }
def customEvent (logs : Logs) : Script Logs := do
  let f ← callbackSlot id event
  if f.isNil then return logs
  let logs ← resolveLogs logs
  let _ ← call f (index.toList ++ [.record logs])
  return logs

/-! ## Early stopping -/

def newEarlyStopping (args : Value) : Script Nat := do
  if (args "restoreBestWeights").truthy then
    unsupported "restoreBestWeights = True is not implemented in EarlyStopping yet."
  let or name default := if (args name).truthy then args name else default
  let monitor := or "monitor" "val_loss"
  let mode := (or "mode" "auto").text
  let mode := if ["auto","min","max"].contains mode then mode else "auto"
  let wantsMore := match mode with
    | "min" => false
    | "max" => true
    | _ => (monitor.text.splitOn "acc").length > 1
  let delta := (or "minDelta" 0).toNumber.abs
  newCallback
    { className := "EarlyStopping",
      fields :=
        [ ("monitor",monitor),("minDelta",.num (if wantsMore then delta else delta * -1)),
          ("patience",or "patience" 0),("verbose",or "verbose" 0),("mode",mode),
          ("baseline",args "baseline"),
          ("monitorFunc",.native (if wantsMore then "greater" else "less") []),("model",.null) ] }

def wantsMore : Script Bool := do
  let .native name _ ← callbackSlot id "monitorFunc" | return false
  return name == "greater"

def watchValue (epoch : Value) (current : Float) : Act := do
  let best := (← callbackSlot id "best").toNumber
  let shifted := current - (← callbackSlot id "minDelta").toNumber
  let more ← wantsMore id
  if (if more then shifted > best else shifted < best) then
    putCallbackSlot id "best" current
    putCallbackSlot id "wait" 0
  else
    let wait := (← callbackSlot id "wait").toNumber + 1
    putCallbackSlot id "wait" wait
    if wait >= (← callbackSlot id "patience").toNumber then
      putCallbackSlot id "stoppedEpoch" epoch
      match ← callbackSlot id "model" with
      | .object .layer m => setStop m true
      | _ => throw (.badType "Cannot set properties of null (setting 'stopTraining')")

def stoppingEvent (index : Value) (logs : Logs) : Script Logs := do
  match event with
  | "onTrainBegin" =>
    putCallbackSlot id "wait" 0
    putCallbackSlot id "stoppedEpoch" 0
    let baseline ← callbackSlot id "baseline"
    let worst := if ← wantsMore id then -Number.infinity else Number.infinity
    putCallbackSlot id "best" (baseline.orElse worst)
    return logs
  | "onEpochEnd" =>
    let logs ← resolveLogs logs
    match (logs.lookup (← callbackSlot id "monitor").text).getD .absent with
    | .absent | .null => pure ()
    | v => watchValue id index v.toNumber
    return logs
  | _ => return logs

/-! ## Events -/

def tellCallback (logs : Logs) : Script Logs := do
  let at' := index.getD .absent
  match (← callbackAt id).className with
  | "BaseLogger" => loggerEvent id event logs
  | "History" => historyEvent id event at' logs
  | "EarlyStopping" => stoppingEvent id event at' logs
  | _ => customEvent id event index logs
def tellAll (event : String) (index : Option Value) (logs : Logs) : Script Logs :=
  ids.foldlM (fun logs id => tellCallback id event index logs) logs
def tell (event : String) (index : Option Value) : Act := do let _ ← tellAll ids event index []
def setCallbackParams (params : Value) : Act :=
  modify fun w => { w with callbacks := w.callbacks.modify id fun c => { c with params } }
def setCallbackModel (model : Value) : Act := do
  if (← callbackAt id).className == "EarlyStopping" then
    let isModel ← match model with
      | .object .layer m => do pure (← layerAt m).network.isSome
      | _ => pure false
    if !isModel then fail "model must be a LayersModel, not some other Container"
    putCallbackSlot id "model" model
def callbackIds : Nats := (asList v).filterMap (·.objectId? .callback)

def standardCallbacks (v yieldEvery : Value) : Script Nats := do
  let given := asList (v.orElse (.record []))
  if given 0 matches .object .callback _ then return callbackIds v
  given.mapM (newCustom · yieldEvery)

def configureCallbacks (given : Nats) (params : Value) : Script (Nats × Nat) := do
  let history ← newCallback { className := "History" }
  let all := (← newCallback { className := "BaseLogger" }) :: given ++ [history]
  all.forM (setCallbackParams · params)
  return (all,history)

/-! ## Programs -/

def isIndexedEvent : Bool := ["onEpochBegin","onEpochEnd","onBatchBegin","onBatchEnd"].contains event
def isEvent : Bool := isIndexedEvent name || ["onTrainBegin","onTrainEnd"].contains name
def tellArgs (event : String) (args : Values) : Reply := do
  let (index,logs) := if isIndexedEvent event then (some (args 0),args 1) else (none,args 0)
  let told ← tellAll ids event index logs.fields
  modify fun w => { w with toldLogs := told }
  return .promise .absent

def callbackMethod : Reply := do
  if isEvent name then
    let idle := (← callbackAt id).className == "BaseLogger" && name == "onEpochEnd" && (args 1).isNil
    return ← tellArgs (if idle then [] else [id]) name args
  match name with
  | "setParams" => silent <| setCallbackParams id (args 0)
  | "setModel" => silent <| setCallbackModel id (args 0)
  | "syncData" =>
    syncHistory id
    return .promise .absent
  | _ => notAFunction name

def callbackField : Reply := do
  let c ← callbackAt id
  match name with
  | "params" => return c.params
  | "validationData" => return .null
  | _ => return (c.fields.lookup name).getD .absent

def callbackListMethod : Reply := do
  let ids := (← get).callbackLists.getD id []
  if isEvent name then return ← tellArgs ids name args
  match name with
  | "append" => silent do
    let more := callbackIds (args 0)
    modify fun w => { w with callbackLists := w.callbackLists.modify id (· ++ more) }
  | "setParams" => silent <| ids.forM fun c => setCallbackParams c (args 0)
  | "setModel" => silent <| ids.forM fun c => setCallbackModel c (args 0)
  | _ => notAFunction name

def callbackTable : Handlers :=
  [ ("callbacks.earlyStopping",on1 fun x => return callbackValue (← newEarlyStopping x)) ]
def callbackConstructors : Handlers :=
  ["BaseLogger","History"].map (fun className =>
    (className,fun _ => return callbackValue (← newCallback { className }))) ++
  [ ("CallbackList",on1 fun x => do
      let ids := callbackIds x
      modifyGet fun w =>
        (.object .callbackList w.callbackLists.size,{ w with callbackLists := w.callbackLists.push ids })) ]
end TensorKit.Script
