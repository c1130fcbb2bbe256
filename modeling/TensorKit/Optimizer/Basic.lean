import TensorKit.Autodiff.Gradients

/-! # Optimizers

Most keep a slot of state beside every variable, in the order in which the variables are given.
-/
namespace TensorKit
namespace Optimizer
/-- The rule by which variables change, with its constants. -/
inductive Method where
  | sgd
  | momentum (momentum : Float) (nesterov : Bool)
  | adagrad (start : Float)
  | adadelta (rho epsilon : Float)
  | rmsprop (decay momentum epsilon : Float) (centered : Bool)
  | adam (beta1 beta2 epsilon : Float)
  | adamax (beta1 beta2 epsilon decay : Float)

structure Slot where
  name : String
  state : Tensor
end Optimizer

structure Optimizer where
  method : Optimizer.Method
  learningRate : Float
  iterations : Float := 0
  step : Option Tensor := none
  momentum : Option Tensor := none
  accFirst : Option Tensor := none
  accSecond : Option Tensor := none
  first : List Optimizer.Slot := []
  second : List Optimizer.Slot := []
  third : List Optimizer.Slot := []

namespace Optimizer
open Engine Ops
def epsilon : Float := 1e-7

def Method.className : Method → String
  | .sgd => "SGD"
  | .momentum .. => "Momentum"
  | .adagrad _ => "Adagrad"
  | .adadelta .. => "Adadelta"
  | .rmsprop .. => "RMSProp"
  | .adam .. => "Adam"
  | .adamax .. => "Adamax"

def scalarVariable (x : Float) : Op := do newVariable (← scalar x) true none

def make (method : Method) (learningRate : Float) : Eng Optimizer := do
  let o := { method, learningRate }
  match method with
  | .sgd => return { o with step := some (← keep (← scalar (-learningRate))) }
  | .momentum m _ =>
    let c ← keep (← scalar (-learningRate))
    return { o with step := some c, momentum := some (← scalar m) }
  | .adam b1 b2 _ =>
    inPair do return { o with accFirst := some (← scalarVariable b1), accSecond := some (← scalarVariable b2) }
  | .adamax b1 _ _ _ =>
    inPair do
      let iteration ← scalarVariable 0
      return { o with accFirst := some (← scalarVariable b1), accSecond := some iteration }
  | _ => return o
where
  inPair (x : Eng Optimizer) : Eng Optimizer := scopedWith (fun _ => []) unnamed x

variable (o : Optimizer) (i : Nat) (name : String)
def setLearningRate (rate : Float) : Eng Optimizer := do
  o.step.forM dispose
  return { o with learningRate := rate, step := some (← keep (← scalar (-rate))) }

variable (factors : Tensors) (slots : List Slot) (value : Tensor) (x : Tensor) (k : Float)
def zeroSlot : Eng Slot := do
  let v ← inScope unnamed do newVariable (← zerosLike value) false none
  return ⟨name,v⟩
def ensure (i : Nat) (new : Eng Slot) : Eng (List Slot) := do
  if i < slots.length then return slots else return slots ++ [← new]
def slotAt (i : Nat) : Tensor := (slots[i]?.map (·.state)).getD default

def ensureSlots : Eng Optimizer := do
  let zero suffix := zeroSlot (name ++ suffix) value
  match o.method with
  | .sgd => return o
  | .momentum .. => return { o with first := ← ensure o.first i (zero "/momentum") }
  | .adagrad start =>
    return { o with first := ← ensure o.first i do
      let v ← inScope unnamed do newVariable (← full value.shape start .float32) false none
      return ⟨name ++ "/accumulator",v⟩ }
  | .adadelta .. =>
    let first ← ensure o.first i (zero "/accum_grad")
    return { o with first, second := ← ensure o.second i (zero "/accum_var") }
  | .rmsprop _ _ _ centered =>
    let first ← ensure o.first i (zero "/rms")
    let second ← ensure o.second i (zero "/momentum")
    let third ← if centered then ensure o.third i (zero "/mg") else pure o.third
    return { o with first, second, third }
  | .adam .. | .adamax .. =>
    let first ← ensure o.first i (zero "/m")
    return { o with first, second := ← ensure o.second i (zero "/v") }

def times : Op := do mul x (← scalar k)
def plus : Op := do add x (← scalar k)
def blend (x y : Tensor) (kept : Float) : Op := do add (← times x kept) (← times y (1 - kept))

def update (i : Nat) (value g : Tensor) : Eng Unit := do
  let a := slotAt o.first i
  let b := slotAt o.second i
  let step := o.step.getD default
  match o.method with
  | .sgd => assign value (← add (← mul step g) value)
  | .momentum _ nesterov =>
    let m := o.momentum.getD default
    let acc ← add (← mul m a) g
    let new ← if nesterov then do
        let look ← add g (← mul acc m)
        add (← mul step look) value
      else do add (← mul step acc) value
    assign a acc
    assign value new
  | .adagrad _ =>
    let acc ← add a (← square g)
    assign a acc
    let change ← times (← div g (← sqrt (← plus acc epsilon))) (-o.learningRate)
    assign value (← add change value)
  | .adadelta rho eps =>
    let accGrad ← blend a (← square g) rho
    let updates ← mul (← div (← sqrt (← plus b eps)) (← sqrt (← plus a eps))) g
    let accUpdate ← blend b (← square updates) rho
    assign a accGrad
    assign b accUpdate
    assign value (← add (← times updates (-o.learningRate)) value)
  | .rmsprop decay momentum eps centered =>
    let meanSquare ← blend a (← square g) decay
    if centered then
      let c := slotAt o.third i
      let meanGrad ← blend c g decay
      let spread ← sqrt (← sub meanSquare (← plus (← square meanGrad) eps))
      let moment ← add (← times b momentum) (← div (← times g o.learningRate) spread)
      assign a meanSquare
      assign c meanGrad
      assign b moment
      assign value (← sub value moment)
    else
      let moment ← add (← times b momentum) (← div (← times g o.learningRate) (← sqrt (← plus meanSquare eps)))
      assign a meanSquare
      assign b moment
      assign value (← sub value moment)
  | .adam b1 b2 eps =>
    let m ← blend a g b1
    let v ← blend b (← square g) b2
    let mHat ← div m (factors.getD 0 default)
    let vHat ← div v (factors.getD 1 default)
    assign a m
    assign b v
    let change ← times (← div mHat (← plus (← sqrt vHat) eps)) (-o.learningRate)
    assign value (← add change value)
  | .adamax b1 b2 eps _ =>
    let m ← blend a g b1
    let u ← maximum (← times b b2) (← abs g)
    assign a m
    assign b u
    let rate ← div (factors.getD 1 default) (factors.getD 0 default)
    let change ← mul rate (← div m (← plus u eps))
    assign value (← add change value)

def variableNamed : Op := do ((← get).registered.lookup name).getDM (fail "Cannot read properties of undefined")

def applyOne (wrap : Bool) (i : Nat) (name : String) (g : Option Tensor) : Eng Optimizer := do
  match o.method, g with
  | .sgd, none => return o
  | _, _ =>
    let value ← variableNamed name
    let o ← o.ensureSlots i name value
    match g with
    | none => return o
    | some g =>
      if wrap then inScope unnamed (o.update factors i value g) else o.update factors i value g
      return o

def apply (grads : Named (Option Tensor)) : Eng Optimizer := do
  let each o (factors : Tensors) wrap := grads.zipIdx.foldlM (fun o ((name,g),i) => o.applyOne factors wrap i name g) o
  let o ← match o.method with
    | .adam b1 b2 _ => quietly do
      let acc1 := o.accFirst.getD default
      let acc2 := o.accSecond.getD default
      let one1 ← sub (← scalar 1) acc1
      let one2 ← sub (← scalar 1) acc2
      let o ← each o [one1,one2] false
      assign acc1 (← times acc1 b1)
      assign acc2 (← times acc2 b2)
      return o
    | .adamax b1 _ _ decay => quietly do
      let acc := o.accFirst.getD default
      let iteration := o.accSecond.getD default
      let one ← sub (← scalar 1) acc
      let rate ← div (← scalar (-o.learningRate)) (← plus (← times iteration decay) 1)
      let o ← each o [one,rate] false
      assign iteration (← plus iteration 1)
      assign acc (← times acc b1)
      return o
    | _ => each o [] true
  return { o with iterations := o.iterations + 1 }
where
  quietly (x : Eng Optimizer) : Eng Optimizer := scopedWith (fun _ => []) unnamed x

def free : Eng Unit := do
  match o.method with
  | .sgd => o.step.forM dispose
  | .momentum .. =>
    o.momentum.forM dispose
    for s in o.first do dispose s.state
  | _ =>
    o.accFirst.forM dispose
    o.accSecond.forM dispose
    for s in o.first ++ o.second ++ o.third do dispose s.state

def weights : Eng (Named Tensor) := do
  match o.method with
  | .adamax .. => fail "getWeights() is not implemented for Adamax yet."
  | _ =>
    let count ← scalarOf .int32 o.iterations
    return ("iter",count) :: (o.first ++ o.second ++ o.third).map fun s => (s.name,s.state)

def setWeights (ws : Named Tensor) : Eng Optimizer := do
  if let .adamax .. := o.method then fail "setWeights() is not implemented for Adamax yet."
  let count ← match ws with
    | (_,t) :: _ => pure (readAt (← numbers t) 0)
    | [] => fail "Cannot read properties of undefined"
  let o := { o with iterations := count }
  let rest := ws.drop 1
  let slots part : Eng (List Slot) := part.mapM fun (n,t) => return ⟨n,← newVariable t false none⟩
  let half := rest.length / 2
  let halves := do
    let first ← slots (rest.take half)
    return { o with first, second := ← slots ((rest.drop half).take half) }
  match o.method with
  | .sgd =>
    if !rest.isEmpty then fail "SGD optimizer does not have settable weights."
    return o
  | .momentum .. | .adagrad _ => return { o with first := ← slots rest }
  | .adadelta .. => halves
  | .rmsprop _ _ _ centered =>
    let n := if centered then rest.length / 3 else half
    let first ← slots (rest.take n)
    let second ← slots ((rest.drop n).take n)
    if centered then return { o with first, second, third := ← slots ((rest.drop (2 * n)).take n) }
    return { o with first, second }
  | .adam b1 b2 _ =>
    scopedWith (fun _ => []) unnamed (do
      let power b : Op := do pow (← scalar b) (← scalar (count + 1))
      assign (o.accFirst.getD default) (← power b1)
      assign (o.accSecond.getD default) (← power b2) : Eng Unit)
    halves
  | .adamax .. => return o
end Optimizer
end TensorKit
