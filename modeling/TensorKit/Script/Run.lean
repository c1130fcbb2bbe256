import TensorKit.Script.Layers.Classes

/-! # Running programs

A step that fails gives its fault and the program goes on without its result.
-/
namespace TensorKit.Script

/-! ## Functions that programs name -/

open Engine
def addValues (a b : Value) : Value := match a, b with
  | .str s, v => s ++ v.text
  | v, .str s => v.text ++ s
  | x, y => x.toNumber + y.toNumber
def isContainer (v : Value) : Bool := v matches .null || isIterable v
def newCounter : M Value :=
  modifyGet fun w => (.native "counter" [w.counters.size],{ w with counters := w.counters.push 0 })
def countUp (id : Nat) : M Value := do
  let n := (← get).counters.getD id 0
  if n ≥ 6 then return .record [("value",.null),("done",true)]
  modify fun w => { w with counters := w.counters.modify id (· + 1) }
  return .record [("value",n),("done",false)]

def namedTable : Handlers :=
  [ ("identity",on1 fun x => return x),
    ("add1",on1 fun x => return addValues x 1),
    ("double",on1 fun x => return .num (x.toNumber * 2)),
    ("square",on1 fun x => return x.toNumber * x.toNumber),
    ("isEven",on1 fun x => return Number.remainder x.toNumber 2 == 0),
    ("lessThan5",on1 fun x => return .bool (x.toNumber < 5)),
    ("triple",on1 fun x => return .list (.replicate 3 x)),
    ("repeatSelf",on1 fun x => return .list (.replicate (natOr x 0) x)),
    ("wrap",on1 fun x => return .record [("value",x)]),
    ("pair",on1 fun x => return [x,x.toNumber * x.toNumber]),
    ("toTensor",on1 fun x => core "tensor1d" [[x,addValues x 1]]),
    ("tensorAdd1",on1 (plus · 1)),
    ("addAsync",on1 fun x => return .promise (addValues x 1)),
    ("failOn3",on1 fun x => do
      if x.num? == some 3 then fail "three"
      return x),
    ("always",fun _ => return true),
    ("never",fun _ => return false),
    ("leafDouble",on1 fun y => do
      match y with
      | .num x => return visitResult (.num (x * 2)) false
      | v => if isContainer v then return visitResult .null true else return visitResult v false),
    ("sumZip",on1 fun x => do
      let xs := x.items
      if isIterable (xs 0) then return visitResult .null true
      return visitResult (xs.foldl addValues 0) false),
    ("leafAsync",on1 fun v => do
      if isContainer v || v.tensor?.isSome then return visitResult .null true
      return visitResult (.promise (addValues v 1)) false),
    ("bothValueAndRecurse",fun _ => return visitResult 1 true) ]

variable (self : Value) (name : String) (frame : Nat) (callee : Callee) (args : Values)
def namedFunction : M Value := if name == "counter" then newCounter else return .native name []
def functionTable : Handlers := coreTable ++ graphTable ++ dataTable ++ layersTable
def constructorTable : Handlers := graphConstructors ++ dataConstructors ++ layerConstructors

def objectMethod : ObjectKind → Nat → String → Handler
  | .buffer => bufferMethod | .optimizer => optimizerMethod | .tensorArray => arrayMethod
  | .graphContext => contextMethod | .graphModel => modelMethod | .iterator => streamMethod
  | .dataset => datasetMethod | .ring => ringMethod | .layer => layerMethod | .layerVariable => variableMethod
  | .feedDict => feedsMethod | .callback => callbackMethod | .callbackList => callbackListMethod
  | .node => fun id name _ => if name == "getConfig" then nodeConfig id else notAFunction name
  | _ => fun _ name _ => notAFunction name

def callMethod : Reply := do
  match self with
  | .tensor t => tensorMethod t name args
  | .object kind id => objectMethod kind id name args
  | .item "FileDataSource" _ =>
    if name == "iterator" then return .promise (← newStream (← sourceStream self))
    else notAFunction name
  | .item title fields =>
    if (partClassOf title).isSome then partMethod self title fields name args else notAFunction name
  | v => if (v name).isFunction then call (v name) args else notAFunction name

def objectField : ObjectKind → Nat → String → Reply
  | .buffer => bufferField | .optimizer => optimizerField | .tensorArray => arrayField
  | .graphContext => contextField | .graphModel => modelField | .dataset => datasetField | .ring => ringField
  | .layer => layerField | .layerVariable => variableField | .symbolic => symbolicField | .node => nodeField
  | .callback => callbackField
  | .callbackList => fun id name => do
    if name == "callbacks" then return ((← get).callbackLists.getD id []).map callbackValue
    else return .absent
  | _ => fun _ _ => return .absent

def getField : Reply := do
  match self with
  | .tensor t => tensorField t name
  | .object kind id => objectField kind id name
  | .item "Set" members => if name == "size" then return members.length else return .absent
  | .item "GraphNode" held => return ((← nodeFields held).lookup name).getD .absent
  | .list xs => if name == "length" then return xs.length else return self name
  | .typed _ xs =>
    if name == "length" then return xs.size
    return ((name.toNat?.bind (xs[·]?)).map .num).getD .absent
  | .str s => if name == "length" then return (Text.units s) else return .absent
  | v => return v name

def putField (v : Value) : Reply := do
  match self with
  | .object .graphContext id => putContextField id name v
  | .object .layer id =>
    putLayerField id name v
    return ← layerField id name
  | .object .layerVariable id => if name == "trainable" then setTrainable id v.truthy
  | _ => pure ()
  return v

def callNative (held args : Values) : Reply := do
  match name, held with
  | "customGrad", [f] => callCustom f args
  | "saveTensors", [slot,recording] => saveTensors (natOr slot 0) recording.truthy (args 0)
  | "counter", [id] => countUp (natOr id 0)
  | "layer.method", [.object .layer id,.str method] => layerMethod id method args
  | "layer.create", [.str className] => createOfClass className (args 0)
  | "classes.deserialize", [.str family] => deserializeObject family args
  | _, _ => (namedTable.lookup name).getD (fun args => callIn name functionTable (held ++ args)) args

def literalValue : Literal → Value
  | .absent => .absent
  | .null => .null
  | .bool b => b
  | .num x => x
  | .str s => s

def writtenTensor (values : List Literal) (shape : Option Floats) (dtype : String) : Reply := do
  let vs := values.map literalValue
  let shapeOf n : Value := ofFloats (shape.getD [.ofNat n])
  if dtype == "complex64" then
    let part k : Values := (vs.zipIdx.filter fun (_,i) => i % 2 == k).map (·.1)
    let s := shapeOf (vs.length / 2)
    let re ← core "tensor" [part 0,s,"float32"]
    core "complex" [re,← core "tensor" [part 1,s,"float32"]]
  else core "tensor" [vs,shapeOf vs.length,dtype]

def evalArg (frame : Nat) : Arg → Reply
  | .literal l => return literalValue l
  | .ref name path => do
    let v ← lookupName frame name
    path.foldlM getField v
  | .tensor values shape dtype => writtenTensor values shape dtype
  | .typed kind values =>
    let k := (ArrayKind.ofName? kind).getD .float32
    return .typed k (values.map k.store).toArray
  | .bytes d => return .bytes d
  | .named name => namedFunction name
  | .classOf name => return .classRef name
  | .list xs => xs.mapM (evalArg frame)
  | .record fs => return .record (← fs.mapM fun f => return (f.1,← evalArg frame f.2))
  | .fn params body result => return .closure params body result frame
decreasing_by all_goals grind [→ List.sizeOf_lt_of_mem]

def memoryRecord (e : Engine) : Value :=
  .record [("numBytes",.ofInt e.numBytes),("numDataBuffers",.ofInt e.numDataBuffers),
    ("numTensors",.ofInt e.numTensors)]

def builtin (name : String) (args : Values) : Reply := do
  match name with
  | "value" => return args 0
  | "get" => (args.drop 1).foldlM (fun v k => getField v k.text) (args 0)
  | "set" => putField (args 0) (args 1).text (args 2)
  | "memory" => return memoryRecord (← get).engine
  | "startScope" => silent <| startScope (if (args 0).isNil then unnamed else (args 0).text)
  | "endScope" => silent <| endScope (args 0).tensors
  | "callWith" => call (args 0) (args.drop 1)
  | _ => callIn name gradientBuiltins args

def invoke : Reply := do
  match callee with
  | .function name => callIn name functionTable args
  | .construct name => callIn name constructorTable args
  | .method name => callMethod (args 0) name (args.drop 1)
  | .builtin name => builtin name args

/-- What a call leaves behind in a record it was given: a property that is set, or the logs that
observers have filled in. -/
def leaveBehind (args : List Arg) (values : Values) : Act := do
  match callee with
  | .builtin "set" =>
    match args.head?, values with
    | some (.ref name path), .record fs :: key :: v :: _ =>
      (changeName frame name path fun _ => .record (fs.put key.text v))
    | _, _ => pure ()
  | .method event =>
    let place : Nat := if isIndexedEvent event then 2 else 1
    if isEvent event then
      match args[place]?, values[place]? with
      | some (.ref name path), some (.record _) =>
        let told := (← get).toldLogs
        (changeName frame name path fun _ => .record told)
      | _, _ => pure ()
  | _ => pure ()

def runStep (waits : Bool) : Step → Reply
  | .call callee args id _ => do
    let vs ← args.mapM (evalArg frame)
    let r ← invoke callee vs
    leaveBehind frame callee args vs
    let r := if waits then r.awaited else r
    id.forM fun name => storeName frame name r
    return r

def callFunction : Nat → Value → Values → M Value
  | 0, _, _ => throw ⟨.outOfRange,"Maximum call stack size exceeded"⟩
  | fuel + 1, f, args =>
    let host : Host := ⟨callFunction fuel⟩
    match f with
    | .closure params body result frame => do
      let names := params.zipIdx.map fun (p,i) => (p,args i)
      let inner ← addFrame ⟨some frame,names.reverse⟩
      for step in body do let _ ← runStep inner false step host
      evalArg inner result host
    | .native name held => callNative name held args host
    | _ => throw (.badType "f is not a function")

def callDepth : Nat := 200
def host : Host := ⟨callFunction callDepth⟩
def World.start : World := { engine := { scopes := [⟨0,unnamed,[]⟩], nextScopeId := 1 } }
end TensorKit.Script
