import TensorKit.Autodiff.Backward

/-! # The tape

A tape lists operations in the order in which they ran. Those count that lead from an input to the result.
-/
abbrev TensorKit.Tape := List TensorKit.TapeNode
namespace TensorKit.Tape
variable (seen : Nats) (n : TapeNode)
def anyInput : Bool := n.inputs.any fun (_,t) => seen.contains t.id
def anyOutput : Bool := n.outputs.any (seen.contains ·.id)
def forwards : Tape → Nats → Nats × Tape
  | [], seen => (seen,[])
  | n :: rest, seen =>
    if anyInput seen n then
      let (s,ns) := forwards rest (n.outputs.map (·.id) ++ seen)
      (s,n :: ns)
    else forwards rest seen
def backwards : Tape → Nats → Nats × Nats
  | [], seen => ([],seen)
  | n :: rest, seen =>
    let (ids,seen) := backwards rest seen
    if anyOutput seen n && !n.inputs.isEmpty then (n.id :: ids,n.inputs.map (·.2.id) ++ seen)
    else (ids,seen)
def prune : TapeNode := { n with inputs := n.inputs.filter fun (_,t) => seen.contains t.id }
def between (tape : Tape) (xs : Nats) (y : Nat) : Tape :=
  let (seen,nodes) := forwards tape xs
  let toY := (backwards tape [y]).1
  (nodes.filter (toY.contains ·.id)).map (prune seen)

/-- How gradients are made and added. Tensors of the tape have gradients of type `γ`. -/
structure Calculus (m : Type → Type) (γ : Type) where
  zero : Tensor → m γ
  /-- Gradients for the inputs of an operation from those of its results. -/
  pull : TapeNode → List γ → m (Named (m γ))
  /-- What to do with the gradient of one input before it counts. -/
  accept : TapeNode → String → Tensor → m γ → m γ
  add : γ → γ → m γ
  missing : TapeNode → String → Strings → m γ

abbrev Found (γ : Type) := List (Nat × γ)
variable {m : Type → Type} [Monad m] {γ : Type}
variable (c : Calculus m γ)
def collect (n : TapeNode) (grads : Named (m γ)) (found : Found γ) (input : String × Tensor) : m (Found γ) := do
  let dx ← match grads.lookup input.1 with
    | none => c.missing n input.1 (grads.map (·.1))
    | some g => c.accept n input.1 input.2 g
  match found.lookup input.2.id with
  | none => return found.put input.2.id dx
  | some g => return found.put input.2.id (← c.add g dx)

def stepBack (n : TapeNode) (found : Found γ) : m (Found γ) := do
  let dys ← n.outputs.mapM fun o =>
    match found.lookup o.id with
    | some g => pure g
    | none => c.zero o
  let grads ← c.pull n dys
  n.inputs.foldlM (collect c n grads) found
def backpropagate (tape : Tape) (start : Found γ) : m (Found γ) :=
  tape.reverse.foldlM (fun found n => stepBack c n found) start
end TensorKit.Tape

/-! # Gradients of functions

A function, an action of any monad over the engine, runs once while a tape records it; then the tape is walked back.
-/
namespace TensorKit.Autodiff
open Engine Ops
variable {m : Type → Type} [Monad m] [MonadLiftT Eng m] [MonadExceptOf Fault m]
abbrev CustomGradient (m : Type → Type) := Nat → Tensors → Tensors → m Tensors
def startTape : Eng Unit :=
  modify fun e => { e with
    tape := if e.gradientDepth == 0 then #[] else e.tape
    gradientDepth := e.gradientDepth + 1 }
def endTape : Eng Unit := modify fun e => { e with gradientDepth := e.gradientDepth - 1 }

@[specialize] def recording {α : Type} (x : m α) : m α := do
  startTape
  try
    let r ← x
    endTape
    return r
  catch f =>
    endTape
    throwThe Fault f

variable (custom : CustomGradient m) (n : TapeNode)
@[specialize] def pull (dys : Tensors) : m (Named (m Tensor)) := do
  match n.rule with
  | none => fail s!"Cannot compute gradient: gradient function not found for {n.name}."
  | some (.custom handle) =>
    let gs ← custom handle dys n.saved
    return gs.zipIdx.map fun (g,i) => (toString i,pure g)
  | some rule =>
    let gs ← backward n rule dys
    return gs.map fun (k,g) => (k,g)

def requireGradient (name : String) (x dx : Tensor) : Eng Unit := do
  if dx.dtype != .float32 then
    fail (s!"Error in gradient for op {n.name}. The gradient of input " ++
      s!"{name} must have 'float32' dtype, but has '{dx.dtype.name}'")
  if dx.shape != x.shape then
    fail (s!"Error in gradient for op {n.name}. The gradient of input '{name}' has shape '{dx.shape.text}', which " ++
      s!"does not match the shape of the input '{x.shape.text}'")

def tensorCalculus : Tape.Calculus m Tensor where
  zero o := (do
    if o.dtype == .complex64 || o.dtype == .string then fail s!"Unknown data type {o.dtype.name}"
    zeros o.shape o.dtype : Op)
  pull n dys := pull custom n dys
  accept n name x g := do
    let dx ← scopedWith HasTensors.tensors unnamed g
    (requireGradient n name x dx)
    return dx
  add a b := (do
    let s ← add a b
    dispose a
    return s : Op)
  missing n name known := do
    let _ := n
    fail (s!"Cannot backprop through input {name}. Available gradients found: " ++ ",".intercalate known ++ ".")

structure Differentiated where
  value : Tensor
  grads : List (Option Tensor)

instance : HasTensors Differentiated := ⟨fun d => d.value :: d.grads.filterMap id⟩

/-- Forgets the tape and what it saved, once nobody else needs it. -/
def clearTape : Eng Unit := do
  if (← get).gradientDepth == 0 then
    for n in (← get).tape do for t in n.saved do dispose t
    modify fun e => { e with tape := #[] }

@[specialize] def walkBack (xs : Tensors) (dy : Option Tensor) (y : Tensor)
    (tape : Tape) : m Differentiated := scopedWith HasTensors.tensors "backward" do
  let start ← match dy with
    | some d => pure d
    | none => ones y.shape .float32
  let found ← Tape.backpropagate (tensorCalculus custom) tape [(y.id,start)]
  clearTape
  return ⟨y,xs.map (found.lookup ·.id)⟩

@[specialize] def gradients (f : m Tensor) (xs : Tensors)
    (dy : Option Tensor) (allowNone : Bool) : m Differentiated := do
  if xs.isEmpty then fail "gradients() received an empty list of xs."
  match dy with
  | some d => if d.dtype != .float32 then fail s!"dy must have 'float32' dtype, but has '{d.dtype.name}'"
  | none => pure ()
  let y ← recording (scopedWith HasTensors.tensors "forward" f)
  let e ← (get : Eng Engine)
  let tape := Tape.between e.tape.toList (xs.map (·.id)) y.id
  if !allowNone && tape.isEmpty then
    fail ("Cannot compute gradient of y=f(x) with respect to x. Make sure that the f you passed encloses all " ++
      "operations that lead from x to y.")
  walkBack custom xs dy y tape

def requireAll (grads : List (Option Tensor)) : Tried Tensors := do
  if grads.any (·.isNone) then
    .error (.failure ("Cannot compute gradient of y=f(x) with respect to x. Make sure that\n" ++
      "    the f you passed encloses all operations that lead from x to y."))
  else .ok (grads.filterMap id)

structure VariableGradients where
  value : Tensor
  /-- A variable that is not to be trained, named by the caller, has none. -/
  grads : Named (Option Tensor)

def infoOf (v : Tensor) : Eng VariableInfo := return (← variableInfo v).getD ⟨"",true⟩

@[specialize] def variableGradients (f : m Tensor) (vars : Option Tensors) : m VariableGradients := do
  let all ← match vars with
    | some vs => pure vs
    | none => do
      let vs ← (allVariables : Eng (Named Tensor))
      pure (vs.map (·.2))
  let infos ← (all.mapM infoOf : Eng (List VariableInfo))
  let chosen := (all.zip infos).filter (·.2.trainable)
  if chosen.isEmpty then
    fail ("variableGrads() expects at least one of the input variables to be trainable, but none of the " ++
      s!"{all.length} variables is trainable.")
  let d ← gradients custom f (chosen.map (·.1)) none true
  if d.grads.all (·.isNone) then
    fail ("Cannot find a connection between any variable and the result of the loss function y=f(x). Please make " ++
      "sure the operations that use variables are inside the function f passed to minimize().")
  if d.value.rank != 0 then
    fail s!"The f passed in variableGrads(f) must return a scalar, but it returned a rank-{d.value.rank} tensor"
  let named := (chosen.zip d.grads).filterMap fun ((_,i),g) => g.map fun g => (i.name,some g)
  let untrained := if vars.isSome then ((all.zip infos).filter (!·.2.trainable)).map fun (_,i) => (i.name,none)
    else []
  return ⟨d.value,named ++ untrained⟩
end TensorKit.Autodiff
