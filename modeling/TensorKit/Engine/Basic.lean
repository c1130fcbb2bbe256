import TensorKit.Kernel.Elementwise
import TensorKit.Kernel.Window

/-! # The engine

The engine owns all tensors. A tensor is a view of a data buffer; several tensors may share one, and a buffer is
released with its last tensor. Tensors made inside a scope are disposed when it ends, unless they are kept or leave it
as its result.
-/
namespace TensorKit

/-! ## Gradient rules

Which operation the tape remembers, and the parameters that shape its gradient.
-/

structure WindowParams where
  (strides dilations : Window.Extent)
  pad : Window.Pad
  rounding : Window.Rounding
  /-- Channels come first in the other layout. -/
  channelsLast : Bool

inductive Rule where
  /-- The gradient is the incoming one as floating point. -/
  | clone
  | cast
  | reshape (shape : Shape)
  | constant
  /-- Zeros in the shape of each saved tensor. -/
  | savedZeros
  | unary (op : UnaryOp)
  | binary (op : BinaryOp) (out : Shape)
  | addN (count : Nat)
  | select
  | sum (shape : Shape) (axes : Nats)
  | mean (shape : Shape) (axes : Nats) (count : Nat)
  | extremum (axes : Nats) (perm : Option Nats)
  | zeros (shape : Shape)
  | tile (reps : Nats)
  | pad (start : Ints) (shape : Shape)
  | batchToSpace (block : Nats) (crops : List (Int × Int))
  | spaceToBatch (block : Nats) (paddings : List (Int × Int))
  | unstack (axis : Nat)
  | cumsum (axis : Int) (exclusive reverse : Bool)
  | slice (start size : Ints) (shape : Shape)
  | concat (sizes : Nats) (axis : Nat)
  | split (axis : Nat)
  | transpose (perm : Nats)
  | reverse (axes : Nats)
  | segmentSum
  | gather (axis : Nat) (shape : Shape)
  | matMul (transposeA transposeB : Bool)
  | conv2d (params : WindowParams)
  | conv2dInput (params : WindowParams)
  | depthwise (window : Window) (params : WindowParams)
  | conv3d (params : WindowParams)
  | maxPool (filter : Window.Extent) (params : WindowParams)
  | avgPool (filter : Window.Extent) (params : WindowParams) (shape : Shape)
  | maxPool3d (filter : Window.Extent) (params : WindowParams)
  | avgPool3d (filter : Window.Extent) (params : WindowParams) (shape : Shape)
  | resizeBilinear (alignCorners : Bool)
  | resizeNearest (alignCorners : Bool)
  | batchNorm (epsilon : Float)
  | localResponse (radius : Int) (bias alpha beta : Float)
  | softmax (dim : Nat)
  | logSoftmax (axis : Nat)
  | softmaxCrossEntropy (dim : Nat)
  | fusedMatMul (transposeA transposeB : Bool) (activation : String) (bias : Option Shape)
  | fusedConv2d (params : WindowParams) (activation : String) (bias : Option Shape)
  | fusedDepthwise (window : Window) (params : WindowParams) (activation : String) (bias : Option Shape)
  /-- A function given by the user, named by its place in the table of such functions. -/
  | custom (handle : Nat)

structure Tensor where
  id : Nat
  shape : Shape
  dtype : DType
deriving Inhabited, DecidableEq

abbrev Tensors := List Tensor
namespace Tensor
variable (t : Tensor)
def rank : Nat := t.shape.length
def size : Nat := t.shape.size
def dim (axis : Nat) : Nat := t.shape.getD axis 0
end Tensor

inductive Data where
  | absent
  | numbers (values : Array Float)
  | strings (values : Array ByteArray)
  | complex (real imag : Tensor)

def Data.stringBytes : Data → Nat
  | .strings values => values.foldl (fun n v => n + v.size) 0
  | _ => 0
def Data.parts : Data → Tensors
  | .complex re im => [re,im]
  | _ => []

structure Buffer where
  dtype : DType
  data : Data
  (bytes refCount : Nat)

/-- What makes a tensor a variable. -/
structure VariableInfo where
  name : String
  trainable : Bool

/-- The changing part of a tensor. -/
structure Cell where
  dataId : Nat
  kept : Bool := false
  disposed : Bool := false
  scopeId : Option Nat := none
  variableInfo : Option VariableInfo := none

structure Scope where
  id : Nat
  name : String
  track : Tensors

structure TapeNode where
  id : Nat
  name : String
  inputs : Named Tensor
  outputs : Tensors
  rule : Option Rule
  saved : Tensors

structure Engine where
  cells : Array Cell := #[]
  buffers : Array (Option Buffer) := #[]
  numTensors : Int := 0
  numDataBuffers : Int := 0
  numBytes : Int := 0
  numStringTensors : Int := 0
  registered : Named Tensor := []
  nextVariableId : Nat := 0
  scopes : List Scope := []
  nextScopeId : Nat := 0
  tape : Array TapeNode := #[]
  nextNodeId : Nat := 0
  gradientDepth : Nat := 0
  kernelDepth : Nat := 0
deriving Inhabited

variable (α : Type)
abbrev Eng := EStateM Fault Engine

/-- An operation, which computes a tensor. -/
abbrev Op := Eng Tensor

/-- Values that hold tensors, which a scope hands on when they are its result. -/
class HasTensors (α : Type) where
  tensors : α → Tensors

instance : HasTensors Tensor := ⟨fun t => [t]⟩
instance : HasTensors Unit := ⟨fun _ => []⟩
instance {α : Type} [HasTensors α] : HasTensors (List α) := ⟨(·.flatMap HasTensors.tensors)⟩
instance {α : Type} [HasTensors α] : HasTensors (Option α) := ⟨fun x => x.elim [] HasTensors.tensors⟩
instance {α β : Type} [HasTensors α] [HasTensors β] : HasTensors (α × β) :=
  ⟨fun (a,b) => HasTensors.tensors a ++ HasTensors.tensors b⟩

variable (inputs : Named Tensor) (rule : Option Rule) (x : Tensor) {α}
namespace Engine
variable (t : Tensor) (shape : Shape) (dtype : DType) (name : String) {m : Type → Type} (dataId : Nat) (data : Data)
def cell : Eng Cell := return (← get).cells.getD t.id { dataId := 0, disposed := true }
def modifyCell (f : Cell → Cell) : Eng Unit := modify fun e => { e with cells := e.cells.modify t.id f }
def setBuffer (b : Option Buffer) : Eng Unit := modify fun e => { e with buffers := e.buffers.setIfInBounds dataId b }
def track (t : Tensor) : Eng Unit := do
  let s :: rest := (← get).scopes | pure ()
  modifyCell t fun c => { c with scopeId := some s.id }
  modify fun e => { e with scopes := { s with track := t :: s.track } :: rest }

def register : Eng Unit := do
  let c ← cell t
  modify fun e =>
    { e with numTensors := e.numTensors + 1,
             numStringTensors := e.numStringTensors + (if t.dtype == .string then 1 else 0) }
  match (← get).buffers.getD c.dataId none with
  | some b => setBuffer c.dataId (some { b with refCount := b.refCount + 1 })
  | none =>
    let bytes := if t.dtype == .complex64 || t.dtype == .string then 0 else t.size * t.dtype.bytes
    modify fun e => { e with numDataBuffers := e.numDataBuffers + 1, numBytes := e.numBytes + bytes }
    setBuffer c.dataId (some ⟨t.dtype,.absent,bytes,1⟩)
  if c.variableInfo.isNone then track t

def write : Eng Unit := do
  let c ← cell t
  let some b := (← get).buffers.getD c.dataId none | pure ()
  if b.dtype == .string then
    let bytes := data.stringBytes
    modify fun e => { e with numBytes := e.numBytes + bytes - b.bytes }
    setBuffer c.dataId (some { b with data, bytes })
  else setBuffer c.dataId (some { b with data })

def newCell (info : Option VariableInfo) : Eng Nat :=
  modifyGet fun e => (e.cells.size,{ e with cells := e.cells.push { dataId, variableInfo := info } })

def make : Op := do
  let dataId := (← get).buffers.size
  modify fun e => { e with buffers := e.buffers.push none }
  let id ← newCell dataId none
  let t := { id, shape, dtype }
  register t
  match data with
  | .absent => pure ()
  | data => write t data
  return t

def ofNumbers (values : Array Float) : Op := make shape dtype (.numbers values)
def share (shape : Shape) (dtype : DType) : Op := do
  let id ← newCell (← cell x).dataId none
  let t := { id, shape, dtype }
  register t
  return t

/-- Takes back a tensor's use of its data. The last use releases the data; the parts it leaves behind
are the result. -/
def giveBack : Eng Tensors := do
  let c ← cell t
  let some b := (← get).buffers.getD c.dataId none | return []
  modify fun e =>
    { e with numTensors := e.numTensors - 1,
             numStringTensors := e.numStringTensors - (if t.dtype == .string then 1 else 0) }
  if b.refCount ≤ 1 then
    modify fun e =>
      { e with numBytes := e.numBytes - (if t.dtype == .complex64 then 0 else b.bytes),
               numDataBuffers := e.numDataBuffers - 1 }
    setBuffer c.dataId none
    return b.data.parts
  else
    setBuffer c.dataId (some { b with refCount := b.refCount - 1 })
    return []

def releaseWithin : Nat → Tensor → Eng Unit
  | 0, _ => pure ()
  | fuel + 1, t => do
    for p in ← giveBack t do
      unless (← cell p).disposed do
        releaseWithin fuel p
        modifyCell p fun c => { c with disposed := true }
def release : Eng Unit := do releaseWithin ((← cell t).dataId + 1) t
def forgetVariable : Eng Unit := modify fun e => { e with registered := e.registered.filter (·.1 != name) }

/-- Disposes a tensor; a variable gives back its data every time. -/
def dispose : Eng Unit := do
  let c ← cell t
  match c.variableInfo with
  | some v =>
    release t
    forgetVariable v.name
    modifyCell t fun c => { c with disposed := true }
  | none =>
    unless c.disposed do
      release t
      modifyCell t fun c => { c with disposed := true }

def keep : Op := do
  modifyCell t fun c => { c with kept := true }
  return t
def isDisposed : Eng Bool := return (← cell t).disposed
def requireLive : Eng Unit := do if ← isDisposed t then fail "Tensor is disposed."
def startScope : Eng Unit := modify fun e =>
  { e with scopes := ⟨e.nextScopeId,name,[]⟩ :: e.scopes, nextScopeId := e.nextScopeId + 1 }

/-- Closes the innermost scope; its result stays alive and moves to the enclosing scope. -/
def endScope (result : Tensors) : Eng Unit := do
  let s :: rest := (← get).scopes | pure ()
  for t in s.track.reverse do
    let c ← cell t
    if !c.kept && !result.any (·.id == t.id) then dispose t
  modify fun e => { e with scopes := rest }
  for t in result do
    let c ← cell t
    if !c.kept && c.scopeId == some s.id then track t

def scopeName : Eng String := do
  let s :: _ := (← get).scopes | return ""
  return s.name
def unnamed : String := "unnamed scope"

@[specialize] def scopedWith [Monad m] [MonadLiftT Eng m] [MonadExceptOf Fault m]
    (tensors : α → Tensors) (name : String) (x : m α) : m α := do
  (startScope name)
  try
    let r ← x
    (endScope (tensors r))
    return r
  catch f =>
    (endScope [])
    throwThe Fault f

def inScope [HasTensors α] (name : String) (x : Eng α) : Eng α := scopedWith HasTensors.tensors name x
def isTapeOn : Eng Bool := do
  let e ← get
  return e.gradientDepth > 0 && e.kernelDepth == 0
def pushNode (inputs : Named Tensor) (outputs : Tensors)
    (rule : Option Rule) (saved : Tensors) : Eng Unit := modify fun e =>
  { e with tape := e.tape.push ⟨e.nextNodeId,name,inputs,outputs,rule,saved⟩, nextNodeId := e.nextNodeId + 1 }

/-- A view of a tensor for the tape; it outlives the scope. -/
def saveTensor : Op := do
  let y ← share x x.shape x.dtype
  pushNode (← scopeName) [("0",x)] [y] (some .clone) []
  keep y

/-- Runs an action as part of a kernel: what it calls is not recorded on its own. -/
@[specialize] def insideKernel [Monad m] [MonadLiftT Eng m] [MonadExceptOf Fault m]
    (x : m α) : m α := do
  (modify fun e => { e with kernelDepth := e.kernelDepth + 1 } : Eng Unit)
  try
    let r ← x
    (modify fun e => { e with kernelDepth := e.kernelDepth - 1 } : Eng Unit)
    return r
  catch f =>
    (modify fun e => { e with kernelDepth := e.kernelDepth - 1 } : Eng Unit)
    throwThe Fault f

section
variable {m : Type → Type} [Monad m] [MonadLiftT Eng m] [MonadExceptOf Fault m] {α : Type}
  (outputs : α → Tensors) (inputs : Named Tensor) (rule : α → Option Rule)

/-- Runs an operation that is recorded while a tape is on. It is told whether it is, and gives its results and
what it has saved for its gradient. -/
@[specialize] def runSaving (forward : Bool → m (α × Tensors)) : m α := do
  let recording ← isTapeOn
  let name ← scopeName
  let (r,saved) ← insideKernel (forward recording)
  if recording then pushNode name inputs (outputs r) (rule r) saved
  return r

/-- Runs a kernel. It gives its results and the tensors that its gradient will need, which are saved while a
tape is on. -/
@[specialize] def runKernelsWith (forward : m (α × Tensors)) : m α :=
  runSaving outputs inputs rule fun recording => do
    let (r,save) ← forward
    let saved ← if recording then (save.mapM saveTensor : Eng Tensors) else pure []
    return (r,saved)
end

def runKernels (forward : Eng (Tensors × Tensors)) : Eng Tensors := runKernelsWith id inputs (fun _ => rule) forward
def runKernel (forward : Eng (Tensor × Tensors)) : Op := runKernelsWith (fun t => [t]) inputs (fun _ => rule) forward
def dataOf (t : Tensor) : Eng Data := do
  let some b := (← get).buffers.getD (← cell t).dataId none | return .absent
  return b.data
def storedType (t : Tensor) : Eng DType := do
  let some b := (← get).buffers.getD (← cell t).dataId none | return t.dtype
  return b.dtype
def plainNumbers (t : Tensor) : Eng (Array Float) := do
  let .numbers xs ← dataOf t | return #[]
  return xs

/-- Numbers of a tensor; real and imaginary parts of complex ones alternate. -/
def numbers (t : Tensor) : Eng (Array Float) := do
  match ← dataOf t with
  | .numbers xs => return xs
  | .complex re im =>
    let a ← plainNumbers re
    let b ← plainNumbers im
    return (Array.range a.size).flatMap fun i => #[readAt a i,readAt b i]
  | _ => return #[]

def strings (t : Tensor) : Eng (Array ByteArray) := do
  let .strings xs ← dataOf t | return #[]
  return xs
def read (t : Tensor) : Eng (NDArray Float) := return ⟨t.shape,← numbers t⟩
def store (dtype : DType) (x : NDArray Float) : Op := ofNumbers x.shape dtype (x.data.map dtype.store)
def ofArray (dtype : DType) (x : NDArray Float) : Op := ofNumbers x.shape dtype x.data
def variableName (name : Option String) : Eng String := match name with
  | some n => pure n
  | none => modifyGet fun e => (toString e.nextVariableId,{ e with nextVariableId := e.nextVariableId + 1 })

def newVariable (trainable : Bool) (name : Option String) : Op := do
  let name ← variableName name
  let id ← newCell (← cell x).dataId (some ⟨name,trainable⟩)
  let v := { id, shape := x.shape, dtype := x.dtype }
  register v
  if (← get).registered.any (·.1 == name) then
    release v
    modifyCell v fun c => { c with disposed := true }
    fail s!"Variable with name {name} was already registered"
  modify fun e => { e with registered := e.registered ++ [(name,v)] }
  return v

def assign (v x : Tensor) : Eng Unit := do
  if x.dtype != v.dtype then
    fail s!"dtype of the new value ({x.dtype.name}) and previous value ({v.dtype.name}) must match"
  if x.shape != v.shape then
    fail s!"shape of the new value ({x.shape.text}) and previous value ({v.shape.text}) must match"
  release v
  let d := (← cell x).dataId
  modifyCell v fun c => { c with dataId := d }
  register v

def variableInfo (t : Tensor) : Eng (Option VariableInfo) := return (← cell t).variableInfo
def isIndexKey (s : String) : Bool :=
  !s.isEmpty && s.all Char.isDigit && (s.length == 1 || !s.startsWith "0") && s.length < 10
def allVariables : Eng (Named Tensor) := do
  let vs := (← get).registered
  let numbered := vs.filter (isIndexKey ·.1)
  let named := vs.filter (!isIndexKey ·.1)
  return numbered.mergeSort (fun a b => a.1.toNat?.getD 0 ≤ b.1.toNat?.getD 0) ++ named
def ofExcept (x : Tried α) : Eng α := match x with
  | .ok a => pure a
  | .error f => throw f
end Engine

instance : MonadLift (Tried) Eng := ⟨Engine.ofExcept⟩
end TensorKit
