import TensorKit.Script.Arguments

/-! # Scopes, variables and gradients in programs -/
namespace TensorKit.Script
open Engine Ops Autodiff
variable (f : Value) (args : Values) (v : Value)
def callForTensor : Script Tensor := do
  let .tensor t ← call f args | fail "The result y returned by f() must be a tensor."
  return t
def requireFunction (message : String) : Act := do if !f.isFunction then fail message

def tidy : Reply := do
  let first := args 0
  let second := args 1
  if second.isNil then
    requireFunction first "Please provide a function to tidy()"
    scopedWith Value.tensors unnamed (call first [])
  else
    match first with
    | .str name =>
      requireFunction second ("When calling with two arguments, the 2nd argument to tidy() must be a function")
      scopedWith Value.tensors name (call second [])
    | _ => fail "When calling with two arguments, the first argument to tidy() must be a string"

def badResult {α : Type} (member what : String) : Script α :=
  fail ("The function f passed in customGrad(f) must return an object where `obj." ++ member ++ "` is a " ++ what)

def customGradient : CustomGradient Script := fun handle dys saved => do
  let (f,count) := (← get).gradientFns.getD handle (.absent,0)
  let r ← call f [dys.headD default,.list (saved.map .tensor)]
  let gs := asList r
  if gs.length != count then
    badResult "gradFunc" "function that returns the same number of tensors as inputs passed to f(...)."
  gs.mapM fun
    | .tensor t => pure t
    | _ => badResult "gradFunc" "function that returns a list of only tensors."

def newSlot : M Nat := modifyGet fun w => (w.saves.size,{ w with saves := w.saves.push [] })
def saveTensors (slot : Nat) (recording : Bool) (v : Value) : Reply := silent do
  if recording then
    let ts ← (v.tensors.mapM saveTensor : Eng Tensors)
    modify fun w => { w with saves := w.saves.setIfInBounds slot ts }

def callCustom : Reply := do
  let inputs ← args.mapM fun
    | .tensor t => pure t
    | _ => fail "The args passed in customGrad(f)(x1, x2,...) must all be tensors"
  let named := inputs.zipIdx.map fun (t,i) => (toString i,t)
  let (y,_) ← runSaving (m := Script) (fun r => [r.1]) named (fun r => some (.custom r.2)) fun recording => do
    let slot ← newSlot
    let save := .native "saveTensors" [Float.ofNat slot,recording]
    let r ← call f (args ++ [save])
    let .tensor y := r "value" | badResult "value" "tensor"
    let g := r "gradFunc"
    if !g.isFunction then badResult "gradFunc" "function."
    let handle ← modifyGet fun w => (w.gradientFns.size,{ w with gradientFns := w.gradientFns.push (g,inputs.length) })
    return ((y,handle),(← get).saves.getD slot [])
  return y

def requireDyShape (dy : Option Tensor) (passed returned : String) (value : Tensor) : Act := do
  if let some d := dy then
    (requireSameShape value.shape d.shape
      ("The shape of dy passed in " ++ passed ++ ", dy) must match the shape returned by " ++ returned) : Eng Unit)
def valueAndGradients (xs : Tensors) (dy : Option Tensor) (check : Tensor → Act) : Script (Tensor × Tensors) := do
  let d ← gradients customGradient (callForTensor f (xs.map .tensor)) xs dy false
  check d.value
  return (d.value,← (do requireAll d.grads : Eng Tensors))

def functionTo (name : String) : Script Value := do
  requireFunction (args 0) s!"The f passed in {name}(f) must be a function"
  return args 0
def gradOf : Reply := do
  let f ← functionTo args "grad"
  let x ← (toTensor (args 1) "x" "tf.grad" .any)
  let dy ← (toTensor? (args 2) "dy" "tf.grad" .numeric)
  scopedWith Value.tensors unnamed do
    let (_,gs) ← valueAndGradients f [x] dy (requireDyShape dy "grad(f)(x" "f(x)")
    return gs.headD default

def gradsOf : Reply := do
  let f ← functionTo args "grads"
  if !(args 1).isList then fail "The args passed in grads(f)(args) must be an array of `Tensor`s or `TensorLike`s"
  let xs ← (toTensors (args 1) "args" "tf.grads")
  let dy ← (toTensor? (args 2) "dy" "tf.grads" .numeric)
  scopedWith Value.tensors unnamed do
    let (_,gs) ← valueAndGradients f xs dy (requireDyShape dy "grads(f)([x1,...]" "f([x1,...])")
    return .list (gs.map .tensor)

def valueAndGradOf : Reply := do
  let f ← functionTo args "valueAndGrad"
  let .tensor x := args 1 | fail "The x passed in valueAndGrad(f)(x) must be a tensor"
  let dy := args 2
  if dy.isPresent && dy.tensor?.isNone then fail "The dy passed in valueAndGrad(f)(x, dy) must be a tensor"
  let (y,gs) ← valueAndGradients f [x] dy.tensor? fun _ => pure ()
  return .record [("grad",gs.headD default),("value",y)]

def valueAndGradsOf : Reply := do
  let f ← functionTo args "valueAndGrads"
  let xs := (args 1).items.filterMap Value.tensor?
  if !(args 1).isList || xs.length != (args 1).items.length then
    fail "The args passed in valueAndGrads(f)(args) must be array of tensors"
  let dy := args 2
  if dy.isPresent && dy.tensor?.isNone then fail "The dy passed in valueAndGrads(f)(args, dy) must be a tensor"
  let (y,gs) ← valueAndGradients f xs dy.tensor? (requireDyShape dy.tensor? "valueAndGrads(f)([x1,...]" "f([x1,...])")
  return .record [("value",y),("grads",.list (gs.map .tensor))]

def variableList : Script (Option Tensors) := do
  if v.isNil then return none
  let ts := v.items.filterMap Value.tensor?
  let infos ← (ts.mapM variableInfo : Eng (List (Option VariableInfo)))
  if !v.isList || ts.length != v.items.length || infos.any (·.isNone) then
    fail "The varList passed in variableGrads(f, varList) must be an array of variables"
  return some ts
def gradientRecord (d : VariableGradients) : Value :=
  .record [("value",.tensor d.value),("grads",.record (d.grads.map fun (n,g) => (n,.ofOption .tensor g)))]
def variableGradsOf (vars : Value) : Script VariableGradients := do
  let f ← functionTo [f] "variableGrads"
  let vs ← variableList vars
  variableGradients customGradient (callForTensor f []) vs

def newVariableOf (x : Tensor) (trainable : Bool) (name dtype : Value) : Op := do
  let x ← match dtype.some? with
    | none => pure x
    | some d =>
      if d.text == x.dtype.name then pure x
      else do
        requireLive x
        let some t := DType.ofName? d.text | fail ("Failed to cast to unknown dtype " ++ d.text)
        cast x t
  newVariable x trainable (if name.isNil then none else some name.text)

def disposeAll : Eng Unit := do for t in v.tensors do dispose t

def scopeTable : Handlers :=
  [ ("tidy",tidy),
    ("keep",on1 fun x => do
      x.tensors.forM fun t => do let _ ← keep t
      return x),
    ("dispose",on1 fun x => silent <| disposeAll x),
    ("disposeVariables",fun _ => silent do for (_,v) in ← allVariables do dispose v),
    ("variable",on4 fun y z w u => do
      match y with
      | .tensor x => newVariableOf x (boolOr z true) w u
      | _ => fail "variable() requires a tensor"),
    ("customGrad",on1 fun x => do
      requireFunction x "The f passed in customGrad(f) must be a function."
      return .native "customGrad" [x]),
    ("variableGrads",on2 fun x y => return gradientRecord (← variableGradsOf x y)) ]

def gradientBuiltins : Handlers :=
  [ ("grad",gradOf),("grads",gradsOf),("valueAndGrad",valueAndGradOf),("valueAndGrads",valueAndGradsOf) ]
end TensorKit.Script
