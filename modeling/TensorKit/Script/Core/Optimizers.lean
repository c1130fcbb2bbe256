import TensorKit.Script.Core.Scopes

/-! # Optimizers in programs -/
namespace TensorKit.Script
open Engine Autodiff
def newOptimizer (method : Optimizer.Method) (rate : Float) : Reply := do
  let o ← Optimizer.make method rate
  modifyGet fun w => (.object .optimizer w.optimizers.size,{ w with optimizers := w.optimizers.push o })
instance : Inhabited Optimizer := ⟨{ method := .sgd, learningRate := 0 }⟩
variable (id : Nat) (className : String) (name : String)
def optimizerAt : Script Optimizer := return (← get).optimizers.getD id default
def putOptimizer (o : Optimizer) : Act := modify fun w => { w with optimizers := w.optimizers.setIfInBounds id o }
def epsilonOr (v : Value) : Float := if v.isNil then Optimizer.epsilon else v.toNumber

def makeOptimizer (a : Values) : Reply := do
  let n i default := numOr (a i) default
  match className with
  | "SGD" => newOptimizer .sgd (a 0).toNumber
  | "Momentum" => newOptimizer (.momentum (a 1).toNumber (boolOr (a 2) false)) (a 0).toNumber
  | "RMSProp" =>
    if (a 0).isNil then fail "learningRate for RMSPropOptimizer must be defined."
    newOptimizer (.rmsprop (n 1 0.9) (n 2 0) (epsilonOr (a 3)) (boolOr (a 4) false)) (a 0).toNumber
  | "Adam" => newOptimizer (.adam (n 1 0.9) (n 2 0.999) (epsilonOr (a 3))) (n 0 0.001)
  | "Adadelta" => newOptimizer (.adadelta (n 1 0.95) (epsilonOr (a 2))) (n 0 0.001)
  | "Adamax" => newOptimizer (.adamax (n 1 0.9) (n 2 0.999) (epsilonOr (a 3)) (n 4 0)) (n 0 0.002)
  | "Adagrad" => newOptimizer (.adagrad (n 1 0.1)) (a 0).toNumber
  | c => fail s!"Unknown optimizer {c}"

def optimizerConfig (o : Optimizer) : Value :=
  let rate := ("learningRate",.num o.learningRate)
  match o.method with
  | .sgd => .record [rate]
  | .momentum m nesterov => .record [rate,("momentum",.num m),("useNesterov",.bool nesterov)]
  | .adagrad s => .record [rate,("initialAccumulatorValue",.num s)]
  | .adadelta rho e => .record [rate,("rho",.num rho),("epsilon",.num e)]
  | .rmsprop d m e c => .record [rate,("decay",.num d),("momentum",.num m),("epsilon",.num e),("centered",.bool c)]
  | .adam b1 b2 e => .record [rate,("beta1",.num b1),("beta2",.num b2),("epsilon",.num e)]
  | .adamax b1 b2 e d => .record [rate,("beta1",.num b1),("beta2",.num b2),("epsilon",.num e),("decay",.num d)]

def configOrder : Strings := match className with
  | "SGD" => ["learningRate"]
  | "Momentum" => ["learningRate","momentum","useNesterov"]
  | "RMSProp" => ["learningRate","decay","momentum","epsilon","centered"]
  | "Adam" => ["learningRate","beta1","beta2","epsilon"]
  | "Adadelta" => ["learningRate","rho","epsilon"]
  | "Adamax" => ["learningRate","beta1","beta2","epsilon","decay"]
  | _ => ["learningRate","initialAccumulatorValue"]

def optimizerOfConfig (config : Value) : Reply := makeOptimizer className ((configOrder className).map config.field)
def gradientList (v : Value) : Named (Option Tensor) := match v with
  | .list xs => xs.map fun x => ((x "name").text,(x "tensor").tensor?)
  | v => (Value.orderFields v.fields).map fun (n,x) => (n,x.tensor?)
def applyGradients (grads : Named (Option Tensor)) : Act := do
  let o ← optimizerAt id
  let o ← o.apply grads
  putOptimizer id o

def descend (d : VariableGradients) (vars : Option Tensors) : Act := do
  let grads ← match vars with
    | none => pure (Value.orderFields (d.grads.map fun (n,g) => (n,.ofOption .tensor g))
        |>.map fun (n,v) => (n,v.tensor?))
    | some vs => vs.mapM fun v => do
      let name := ((← variableInfo v).map (·.name)).getD ""
      return (name,(d.grads.lookup name).join)
  applyGradients id grads
  (for (_,g) in d.grads do g.forM dispose : Eng Unit)

def minimize (f cost vars : Value) : Reply := do
  let d ← variableGradsOf f vars
  descend id d (← variableList vars)
  if boolOr cost false then return d.value
  dispose d.value
  return .null
def namedTensorValue (t : Tensor) : Value := .record [("name",name),("tensor",t)]

def optimizerMethod (args : Values) : Reply := do
  let o ← optimizerAt id
  match name with
  | "minimize" => minimize id (args 0) (args 1) (args 2)
  | "computeGradients" => return gradientRecord (← variableGradsOf (args 0) (args 1))
  | "applyGradients" => silent <| applyGradients id (gradientList (args 0))
  | "getConfig" => return optimizerConfig o
  | "getClassName" => return o.method.className
  | "setLearningRate" => silent do putOptimizer id (← (o.setLearningRate (args 0).toNumber))
  | "incrementIterations" => silent <| putOptimizer id { o with iterations := o.iterations + 1 }
  | "getWeights" => return (← o.weights).map fun (n,t) => namedTensorValue n t
  | "setWeights" => silent do
    let ws := (args 0).items.filterMap fun x => (x "tensor").tensor?.map fun t => ((x "name").text,t)
    putOptimizer id (← (o.setWeights ws))
  | "dispose" => silent <| o.free
  | _ => throw (.badType s!"{name} is not a function")

def optimizerField : Reply := do
  let o ← optimizerAt id
  let "iterations" := name | return (optimizerConfig o) name
  return o.iterations
def optimizerNames : Strings := ["SGD","Momentum","RMSProp","Adam","Adadelta","Adamax","Adagrad"]
def optimizerTable : Handlers :=
  optimizerNames.flatMap fun c =>
    [("train." ++ c.toLower,makeOptimizer c),(c ++ "Optimizer.fromConfig",on2 fun _ x => optimizerOfConfig c x)]
end TensorKit.Script
