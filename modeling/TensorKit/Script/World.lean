import TensorKit.Layers.Names
import TensorKit.Layers.Dims
import TensorKit.Layers.Execute
import TensorKit.Layers.Batches
import TensorKit.Layers.Topology
import TensorKit.Optimizer.Basic
import TensorKit.Graph.Execute
import TensorKit.Graph.TensorArray
import TensorKit.Data.Dataset
import TensorKit.Data.Ring

/-! # Programs -/
namespace TensorKit.Script
section
open Number
inductive Callee where
  | function (name : String)
  | construct (name : String)
  | method (name : String)
  | builtin (name : String)

/-- A value that stands for itself. -/
inductive Literal where
  | absent
  | null
  | bool (b : Bool)
  | num (x : Float)
  | str (s : String)
deriving Inhabited

mutual
/-- An argument, to be evaluated where it stands. -/
inductive Arg where
  | literal (v : Literal)
  | ref (name : String) (path : Strings)
  | tensor (values : List Literal) (shape : Option Floats) (dtype : String)
  | typed (kind : String) (values : Floats)
  | bytes (data : ByteArray)
  | named (name : String)
  | classOf (name : String)
  | list (items : List Arg)
  | record (fields : List (String × Arg))
  | fn (params : Strings) (body : List Step) (result : Arg)

inductive Step where
  | call (callee : Callee) (args : List Arg) (id : Option String) (quiet : Bool)
end

instance : Inhabited Arg := ⟨.literal .absent⟩
instance : Inhabited Step := ⟨.call (.builtin "value") [] none true⟩
def Step.quiet : Step → Bool
  | .call _ _ _ q => q
def Literal.ofJson : Json → Literal
  | .null => .null
  | .bool b => .bool b
  | .int n => .num (.ofInt n)
  | .num x => .num x
  | .str s => .str s
  | _ => .absent
def Literal.element (text : Bool) (j : Json) : Literal := match j with
  | .str s => if text then .str s else ((wordNumber? s).map .num).getD (.str s)
  | j => .ofJson j
def numberOf (j : Json) : Float := match j with
  | .str s => (wordNumber? s).getD (0.0 / 0.0)
  | j => j.float?.getD (0.0 / 0.0)
def pathOf (s : String) : Strings := s.splitOn "."
variable (callee : String → Callee) (className : String → String)
mutual
def Arg.ofJson : Json → Arg
  | .arr xs => .list (xs.map Arg.ofJson)
  | .obj [("$fn",.obj fs)] =>
    .fn ((Json.obj fs "params").elems.map Json.strD)
      ((fs.filter (·.1 == "body")).flatMap fun f => f.2.elems.attach.map (Step.ofJson ·.1))
      (((fs.filter (·.1 == "out")).map (Arg.ofJson ·.2)).headD (.literal .absent))
  | .obj fs =>
    let j := Json.obj fs
    if let some r := j.getStr? "$ref" then
      let path := pathOf r
      .ref (path.headD "") path.tail
    else if let some t := j.get? "$tensor" then
      let dtype := (j.getStr? "dtype").getD "float32"
      let shape := (j.get? "shape").map (·.elems.map numberOf)
      .tensor (t.elems.map (.element (dtype == "string"))) shape dtype
    else if let some n := j.get? "$num" then .literal (.num (numberOf n))
    else if (j.get? "$undef").isSome then .literal .absent
    else if let some k := j.getStr? "$typed" then .typed k ((j "values").elems.map numberOf)
    else if let some h := j.getStr? "$bytes" then .bytes ⟨(ofHex h).toArray⟩
    else if let some n := j.getStr? "$named" then .named n
    else if let some c := j.getStr? "$class" then .classOf (className c)
    else .record (fs.map fun f => (f.1,Arg.ofJson f.2))
  | j => .literal (.ofJson j)
decreasing_by all_goals grind [→ List.sizeOf_lt_of_mem,Json.elems.eq_def]
def Step.ofJson : Json → Step
  | .obj fs =>
    let j := Json.obj fs
    .call (callee (j "fn").strD) ((fs.filter (·.1 == "args")).flatMap fun f => f.2.elems.attach.map (Arg.ofJson ·.1))
      (j.getStr? "id") ((j "quiet").bool? == some true)
  | _ => .call (.builtin "value") [] none false
decreasing_by all_goals grind [→ List.sizeOf_lt_of_mem,Json.elems.eq_def]
end
def Step.ofJsons (xs : List Json) : List Step := xs.map (ofJson callee className)

/-! # Values of programs

A function of the program is its parameters and its body, an object with a changing state the number of its entry in a
table.
-/

inductive ArrayKind where
  | float32 | int32 | uint8
deriving DecidableEq

namespace ArrayKind
def ofName? : String → Option ArrayKind
  | "float32" => some .float32
  | "int32" => some .int32
  | "uint8" => some .uint8
  | _ => none
def title : ArrayKind → String
  | .float32 => "Float32Array"
  | .int32 => "Int32Array"
  | .uint8 => "Uint8Array"
def dtype : ArrayKind → DType
  | .float32 => .float32
  | .int32 => .int32
  | .uint8 => .bool
def ofDType : DType → ArrayKind
  | .int32 => .int32
  | .bool => .uint8
  | _ => .float32
def store : ArrayKind → Float → Float
  | .float32, x => toSingle x
  | .int32, x => toInt32 x
  | .uint8, x => toByte x
end ArrayKind

inductive ObjectKind where
  | buffer | optimizer | layerVariable | symbolic | layer | node | callback | callbackList | history
  | callArgs | feedDict | ioHandler | graphModel | graphContext | tensorArray | dataset | iterator | ring
  | dataSource
deriving DecidableEq

inductive Value where
  | absent
  | null
  | bool (b : Bool)
  | num (x : Float)
  | str (s : String)
  | list (items : List Value)
  | record (fields : List (String × Value))
  | tensor (t : Tensor)
  | typed (kind : ArrayKind) (values : Array Float)
  | bytes (data : ByteArray)
  | closure (params : Strings) (body : List Step) (result : Arg) (frame : Nat)
  | native (name : String) (captured : List Value)
  | object (kind : ObjectKind) (id : Nat)
  | item (className : String) (fields : List (String × Value))
  | classRef (name : String)
  | promise (value : Value)

abbrev Values := List Value
abbrev Fields := Named Value

namespace Value
instance : Inhabited Value := ⟨.absent⟩
def isPresent : Value → Bool
  | .absent | .null => false
  | _ => true

variable (v : Value)
def isNil : Bool := !v.isPresent
def isAbsent (v : Value) : Bool := v matches .absent
def isFunction (v : Value) : Bool := v matches .closure .. | .native .. | .classRef _
def isList (v : Value) : Bool := v matches .list _
def items : Value → Values
  | .list xs => xs
  | .typed _ xs => xs.toList.map .num
  | _ => []
def str? : Value → Option String
  | .str s => some s
  | _ => none
def num? : Value → Option Float
  | .num x => some x
  | _ => none
def bool? : Value → Option Bool
  | .bool b => some b
  | _ => none
def tensor? : Value → Option Tensor
  | .tensor t => some t
  | _ => none
def objectId? (kind : ObjectKind) : Option Nat := match v with
  | .object k id => if k = kind then some id else none
  | _ => none
def some? : Option Value := if v.isPresent then some v else none
def truthy : Value → Bool
  | .absent | .null => false
  | .bool b => b
  | .num x => Number.truthy x
  | .str s => !s.isEmpty
  | _ => true
def ofInt (n : Int) : Value := .num (.ofInt n)
def ofNat (n : Nat) : Value := .num (.ofNat n)
instance : Coe Bool Value := ⟨.bool⟩
instance : Coe Float Value := ⟨.num⟩
instance : Coe String Value := ⟨.str⟩
instance : Coe Values Value := ⟨.list⟩
instance : Coe Tensor Value := ⟨.tensor⟩
instance : Coe Nat Value := ⟨ofNat⟩
instance {n : Nat} [OfNat Float n] : OfNat Value n := ⟨.num (OfNat.ofNat n)⟩
instance : OfScientific Value := ⟨fun m s e => .num (OfScientific.ofScientific m s e)⟩
def ofInts (xs : Ints) : Value := .list (xs.map ofInt)
def ofNats (xs : Nats) : Value := .list (xs.map ofNat)
def ofShape (s : Shape) : Value := ofNats s
def ofStrings (xs : Strings) : Value := .list (xs.map .str)
def ofOption {α : Type} (f : α → Value) : Option α → Value
  | some a => f a
  | none => .null
def orderFields (fields : Fields) : Fields :=
  let numbered := fields.filter (Engine.isIndexKey ·.1)
  if numbered.isEmpty then fields
  else numbered.mergeSort (fun a b => a.1.toNat?.getD 0 ≤ b.1.toNat?.getD 0) ++ fields.filter (!Engine.isIndexKey ·.1)
def fields : Value → Fields
  | .record fs => fs
  | .item _ fs => fs
  | _ => []
def field (name : String) : Value := match v with
  | .list xs => (name.toNat?.bind (xs[·]?)).getD .absent
  | v => (v.fields.lookup name).getD .absent

/-- Fields by their names, and items by their places. -/
instance : CoeFun Value fun _ => String → Value := ⟨field⟩
def awaited : Value → Value
  | .promise v => v.awaited
  | v => v

def text : Value → String
  | .absent => "undefined"
  | .null => "null"
  | .bool b => if b then "true" else "false"
  | .num x => Decimal.text x
  | .str s => s
  | .list xs => ",".intercalate (xs.map fun x => if x matches .absent | .null then "" else text x)
  | .typed _ xs => ",".intercalate (xs.toList.map Decimal.text)
  | .tensor _ => "Tensor"
  | _ => "[object Object]"

mutual
def tensors : Value → Tensors
  | .tensor t => [t]
  | .list xs => listTensors xs
  | .record fs | .item _ fs => fieldTensors fs
  | _ => []
def listTensors : Values → Tensors
  | [] => []
  | x :: xs => tensors x ++ listTensors xs
def fieldTensors : Fields → Tensors
  | [] => []
  | (_,x) :: xs => tensors x ++ fieldTensors xs
end

instance : HasTensors Value := ⟨tensors⟩
def nums? : Value → Option Floats
  | .list xs => xs.mapM num?
  | .typed _ xs => some xs.toList
  | _ => none

variable (v : Value)
def numsD : Floats := v.nums?.getD []
def ints : Ints := v.numsD.map wholePart
def nats : Nats := v.ints.map Int.toNat

def same : Value → Value → Bool
  | .absent, .absent => true
  | .null, .null => true
  | .bool a, .bool b => a == b
  | .num a, .num b => a == b
  | .str a, .str b => a == b
  | .tensor a, .tensor b => a.id == b.id
  | .object k a, .object l b => k == l && a == b
  | .classRef a, .classRef b => a == b
  | .native a _, .native b _ => a == b
  | _, _ => false
end Value
end

/-! # Objects of models -/
open Layers
structure LayerVariable where
  (name originalName dtype : String)
  trainable : Bool
  tensor : Tensor
  constraint : Value
deriving Inhabited

structure Symbolic where
  uid : Nat := 0
  (name originalName : Option String)
  dtype : Value
  dims : Dims
  layer : Option Nat
  inputs : Nats
  callArgs : Value
  nodeIndex : Option Nat := none
  tensorIndex : Option Nat := none
  outputIndex : Option Nat := none
deriving Inhabited

def Symbolic.label (s : Symbolic) : String := s.name.getD "undefined"

/-- Where a symbolic tensor comes from: a layer, the number of its call and of the output. -/
structure Origin where
  (layer nodeIndex tensorIndex : Option Nat)
deriving Inhabited

structure LayerNode where
  layer : Nat
  origins : List Origin := []
  (inputs outputs : Nats)
  (inputShapes outputShapes : List Dims)
  callArgs : Option Nat := none
  own : Bool := false
deriving Inhabited

structure InputSpec where
  dtype : Option String := none
  dims : Option Dims := none
  ndim : Option Nat := none
  minNDim : Option Nat := none
  axes : List (Int × Dim) := []
deriving Inhabited

structure Network where
  (inputs outputs : Nats)
  entries : Nats := []
  exits : Nats := []
  layers : Nats := []
  nodesByDepth : List (Nat × Nats) := []
  layersByDepth : List (Nat × Nats) := []
  members : List (Nat × Nat) := []
  inputNames : Strings := []
  outputNames : Strings := []
  feedShapes : List Dims := []
deriving Inhabited

structure Training where
  optimizer : Nat
  ownsOptimizer : Bool := false
  loss : Value := .absent
  measures : Measures Value := {}
  metrics : Value := .absent
  collected : Option Nats := none
deriving Inhabited

/-- A layer. What is special to its class is in its settings, under the names that its configuration
shows. -/
structure Layer where
  (className name : String)
  settings : Fields := []
  trainable : Bool := true
  batchInputShape : Value := .absent
  dtype : Value := .absent
  initialWeights : Value := .null
  inputSpec : Option (List InputSpec) := none
  stateSpec : Option (List InputSpec) := none
  supportsMasking : Bool := false
  stateful : Bool := false
  built : Bool := false
  trainableWeights : Nats := []
  otherWeights : Nats := []
  losses : List (Value × Nat) := []
  inbound : Nats := []
  outbound : Nats := []
  refCount : Option Int := none
  weightNames : Strings := []
  slots : Named Nat := []
  zeroInit : Bool := false
  states : Option Values := none
  keptStates : List Values := []
  network : Option Network := none
  training : Option Training := none
  stopTraining : Option Bool := none
  isTraining : Bool := false
  history : Value := .absent
  metadata : Value := .absent
  stack : Option (Stack Nat Nat Nat) := none
deriving Inhabited

structure Callback where
  className : String
  fields : Fields := []
  params : Value := .absent
  model : Option Nat := none
deriving Inhabited

/-! # The world of a program

A function of the program is called through a host, so that the library's own loops need not know how programs run.
-/

structure Frame where
  parent : Option Nat
  names : Fields
deriving Inhabited

/-- A tensor under construction. Without a kind the values are kept as they are. -/
structure TensorBuffer where
  shape : Shape
  dtype : DType
  kind : Option ArrayKind
  values : Array Value
deriving Inhabited

/-- A model that runs a graph, with the orders of nodes found for earlier runs. -/
structure GraphModel where
  (source options : Value)
  graph : Option (Graph Value) := none
  version : String := "n/a"
  weights : Named Tensor := []
  compiled : Named Strings := []
deriving Inhabited

/-- A context of loops that a program holds, with weights and tensor arrays by name. -/
structure HeldContext where
  context : Graph.Context
  (weights arrays : Value)

/-- A dataset of lines of text, or of their fields. -/
structure TextTable where
  source : Value
  isRows : Bool := false
  hasHeader : Bool := true
  names : Option Strings := none
  checked : Bool := false
  configs : Value := .absent
  configuredOnly : Bool := false
  format : Data.RowFormat := {}
deriving Inhabited

structure World where
  engine : Engine := {}
  frames : Array Frame := #[⟨none,[]⟩]
  buffers : Array TensorBuffer := #[]
  optimizers : Array Optimizer := #[]
  /-- Gradient functions that the program gave, with the number of gradients each owes. -/
  gradientFns : Array (Value × Nat) := #[]
  saves : Array Tensors := #[]
  counters : Array Nat := #[]
  graphModels : Array GraphModel := #[]
  tensorArrays : Array Graph.TensorArray := #[]
  contexts : Array HeldContext := #[]
  graphs : Array (Graph Value) := #[]
  rings : Array (Data.Ring Value) := #[]
  pipelines : Array (Data.Pipeline Value Value) := #[]
  datasets : Array (Data.Dataset Value Value) := #[]
  tables : Array TextTable := #[]
  customOps : Fields := []
  names : Layers.Names := {}
  draws : Nat := 0
  layerVariables : Array LayerVariable := #[]
  symbolics : Array Symbolic := #[]
  layerNodes : Array LayerNode := #[]
  layers : Array Layer := #[]
  /-- Arguments of calls of layers; calls inside a call may change them. -/
  callArgs : Array Fields := #[]
  feeds : Array (Layers.Feeds Tensor) := #[]
  /-- Orders found for earlier runs, by what was asked for and given. -/
  orders : Named (Nats × Named Int) := []
  callbacks : Array Callback := #[]
  callbackLists : Array Nats := #[]
  /-- The logs as the last event told by a step left them. -/
  toldLogs : Fields := []
  computeName : String := "webgl"
  /-- Classes that deserialization in progress may use. -/
  customClasses : Fields := []
deriving Inhabited

abbrev M := EStateM Fault World

structure Host where
  call : Value → Values → M Value

abbrev Script := ReaderT Host M
abbrev Reply := Script Value
abbrev Act := Script Unit
def onEngine {α : Type} (x : Eng α) : M α := fun w =>
  let e := w.engine
  let w := { w with engine := {} }
  match x e with
  | .ok a e => .ok a { w with engine := e }
  | .error f e => .error f { w with engine := e }
instance : MonadLift Eng M := ⟨onEngine⟩
def call (f : Value) (args : Values) : Reply := (·.call f args)
abbrev Handler := Values → Reply
abbrev Route := String × Handler
abbrev Handlers := List Route
def under (group : String) (table : Handlers) : Handlers := table.map fun (k,h) => (group ++ "." ++ k,h)
def silent {m : Type → Type} [Monad m] (x : m Unit) : m Value := do
  x
  return .absent
def argAt (args : Values) (i : Nat) : Value := args.getD i .absent

/-- Values by their places; those that are left out are absent. -/
instance : CoeFun Values fun _ => Nat → Value := ⟨argAt⟩

/-! Functions of the first arguments. -/

variable {β : Type}
def on1 (f : Value → β) (a : Values) : β := f (a 0)
def on2 (f : Value → Value → β) (a : Values) : β := f (a 0) (a 1)
def on3 (f : Value → Value → Value → β) (a : Values) : β := f (a 0) (a 1) (a 2)
def on4 (f : Value → Value → Value → Value → β) (a : Values) : β := f (a 0) (a 1) (a 2) (a 3)
variable (frame : Nat) (name : String)
def inOp (x : Reply) : Reply := Engine.scopedWith Value.tensors name x
def addFrame (f : Frame) : M Nat := modifyGet fun w => (w.frames.size,{ w with frames := w.frames.push f })

def lookupWithin (frames : Array Frame) (name : String) : Nat → Nat → Option Value
  | 0, _ => none
  | fuel + 1, i =>
    match frames[i]? with
    | none => none
    | some f => (f.names.lookup name).or (f.parent.bind (lookupWithin frames name fuel ·))

def lookupName : M Value := do
  let fs := (← get).frames
  return (lookupWithin fs name (frame + 1) frame).getD .absent
def frameHolding (frames : Array Frame) (name : String) : Nat → Nat → Option Nat
  | 0, _ => none
  | fuel + 1, i =>
    match frames[i]? with
    | none => none
    | some f => if f.names.any (·.1 == name) then some i else f.parent.bind (frameHolding frames name fuel ·)
def storeName (v : Value) : M Unit := modify fun w => { w with frames := w.frames.modify frame fun f =>
  { f with names := (name,v) :: f.names.filter (·.1 != name) } }
def Value.changeAt (f : Value → Value) : Strings → Value → Value
  | [], v => f v
  | key :: path, v =>
    match v with
    | .record fs => .record (fs.map fun (k,x) => if k == key then (k,x.changeAt f path) else (k,x))
    | .list xs => .list (xs.zipIdx.map fun (x,i) => if toString i == key then x.changeAt f path else x)
    | v => v
def changeName (path : Strings) (f : Value → Value) : M Unit := do
  let frames := (← get).frames
  (frameHolding frames name (frame + 1) frame).forM fun i => do storeName i name ((← lookupName i name).changeAt f path)
end TensorKit.Script
