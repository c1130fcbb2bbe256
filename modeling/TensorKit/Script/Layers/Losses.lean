import TensorKit.Script.Layers.Parts

/-! # Losses and metrics -/
namespace TensorKit.Script
abbrev Measure := Value → Value → Reply
def largest : Float := 1.7976931348623157e308
def meanLast (x : Value) : Reply := core "mean" [x,.num (-1)]
def clip (x : Value) (low high : Float) : Reply := core "clipByValue" [x,low,high]

def normalized (x axis : Value) : Reply := tidied do
  let x ← match x.tensor? with
    | some t => if t.dtype != .float32 then core "cast" [x,"float32"] else pure x
    | none => pure x
  let sums ← core "sum" [← squareOf x,axis,true]
  let least ← core "fill" [.ofShape (shapeOf sums),smallNumber]
  let norm ← core "sqrt" [← core "maximum" [sums,least]]
  per x norm

def margin (wanted predicted : Value) : Reply := do
  let product ← times wanted predicted
  core "maximum" [0,← minus 1 product]
def crossentropy (wanted predicted : Value) (fromLogits : Bool) : Reply := tidied do
  let last := .ofInt ((rankOf predicted) - 1)
  let shares ← if fromLogits then core "softmax" [predicted]
    else do per predicted (← core "sum" [predicted,last,true])
  let shares ← clip shares smallNumber (1 - smallNumber)
  let terms ← times (← core "cast" [wanted,"float32"]) (← core "log" [shares])
  core "neg" [← core "sum" [terms,.ofInt ((rankOf shares) - 1)]]

def sigmoidCrossentropy (labels logits : Value) : Reply := do
  if shapeOf labels != shapeOf logits then
    badValue ("logits and labels must have the same shape, but got shapes " ++
      jsonText (.ofShape (shapeOf labels)) ++ " and " ++ jsonText (.ofShape (shapeOf logits)))
  tidied do
    let positive ← core "relu" [logits]
    let negative ← core "neg" [← core "abs" [logits]]
    let rest ← minus positive (← times logits labels)
    plus rest (← core "log1p" [← core "exp" [negative]])

def tidying : Named Measure → Named Measure := .map fun (name,m) => (name,fun t p => tidied (m t p))
def lossMeasures : Named Measure := ("categoricalCrossentropy",(crossentropy · · false)) :: tidying
  [ ("meanSquaredError",fun t p => do meanLast (← squareOf (← minus p t))),
    ("meanAbsoluteError",fun t p => do meanLast (← core "abs" [← minus p t])),
    ("meanAbsolutePercentageError",fun t p => do
      let diff ← minus t p
      let size ← clip (← core "abs" [t]) smallNumber largest
      let ratio ← core "abs" [← per diff size]
      times 100 (← meanLast ratio)),
    ("meanSquaredLogarithmicError",fun t p => do
      let logOf x : Reply := do
        let c ← clip x smallNumber largest
        core "log" [← plus 1 c]
      let p ← logOf p
      let t ← logOf t
      meanLast (← squareOf (← minus p t))),
    ("squaredHinge",fun t p => do meanLast (← squareOf (← margin t p))),
    ("hinge",fun t p => do meanLast (← margin t p)),
    ("categoricalHinge",fun t p => do
      let pos ← core "sum" [← times t p,.num (-1)]
      let neg ← core "max" [← times (← minus 1 t) p,.num (-1)]
      core "maximum" [0,← plus 1 (← minus neg pos)]),
    ("logcosh",fun t p => do
      let diff ← minus p t
      let both ← plus diff (← core "softplus" [← times (.num (-2)) diff])
      meanLast (← minus both (Float.log 2))),
    ("sparseCategoricalCrossentropy",fun t p => do
      let classes ← core "cast" [← core "floor" [← flattenValue t],"int32"]
      let shares ← clip p smallNumber (1 - smallNumber)
      let shape := shapeOf shares
      let hot ← core "oneHot" [classes,shape.getLast?.getD 0]
      crossentropy (← core "reshape" [hot,.ofShape shape]) shares false),
    ("binaryCrossentropy",fun t p => do
      let y ← clip p smallNumber (1 - smallNumber)
      let odds ← per y (← minus 1 y)
      meanLast (← sigmoidCrossentropy t (← core "log" [odds]))),
    ("kullbackLeiblerDivergence",fun t p => do
      let log ← core "log" [← per (← clip t smallNumber 1) (← clip p smallNumber 1)]
      core "sum" [← times t log,.num (-1)]),
    ("poisson",fun t p => do
      let product ← times t (← core "log" [← plus smallNumber p])
      meanLast (← minus p product)),
    ("cosineProximity",fun t p => do
      let product ← times (← normalized t (.num (-1))) (← normalized p (.num (-1)))
      core "neg" [← core "sum" [product,.num (-1)]]) ]

variable (wanted predicted : Value) (v : Value)
def dtypeName : Value := ((v.tensor?.map (·.dtype.name)).getD "float32")
def countPairs (t p : Float) : Reply := tidied do
  let isT ← core "equal" [wanted,t]
  let both ← core "logicalAnd" [isT,← core "equal" [predicted,p]]
  core "cast" [← core "sum" [both],"float32"]
def shareOfHits (missT missP : Float) (wanted predicted : Value) : Reply := do
  let hits ← countPairs wanted predicted 1 1
  let all ← plus hits (← countPairs wanted predicted missT missP)
  let isAny ← core "greater" [all,0]
  let share ← per hits all
  core "cast" [← core "where" [isAny,share,0],"float32"]

def sparseCategoricalAccuracy : Reply := do
  let wanted ← if rankOf wanted == rankOf predicted then core "squeeze" [wanted,.list [.ofInt ((rankOf wanted) - 1)]]
    else pure wanted
  let best ← core "argMax" [predicted,.num (-1)]
  let best ← if (dtypeName best).text != (dtypeName wanted).text then core "cast" [best,dtypeName wanted] else pure best
  core "cast" [← core "equal" [wanted,best],"float32"]

def metricMeasures : Named Measure := ("sparseCategoricalAccuracy",sparseCategoricalAccuracy) :: tidying
  [ ("binaryAccuracy",fun t p => do
      let threshold ← times 0.5 (← core "onesLike" [p])
      let above ← core "cast" [← core "greater" [p,threshold],dtypeName t]
      meanLast (← core "equal" [t,above])),
    ("categoricalAccuracy",fun t p => do
      let t ← core "argMax" [t,.num (-1)]
      let p ← core "argMax" [p,.num (-1)]
      core "cast" [← core "equal" [t,p],"float32"]),
    ("precision",shareOfHits 0 1),("recall",shareOfHits 1 0) ]
def measures : Named Measure := lossMeasures ++ metricMeasures
def metricNames : Named String :=
  ["binaryAccuracy","categoricalAccuracy","precision","categoricalCrossentropy",
    "sparseCategoricalCrossentropy"].map (fun n => (n,n)) ++
  [ ("mse","meanSquaredError"),("MSE","meanSquaredError"),("mae","meanAbsoluteError"),("MAE","meanAbsoluteError"),
    ("mape","meanAbsolutePercentageError"),("MAPE","meanAbsolutePercentageError"),
    ("cosine","cosineProximity") ]
def measureOf (name : String) : Value := .native name []

def getLoss : Reply := do
  let .str name := v | return v
  if (lossMeasures.lookup name).isSome then return measureOf name
  let hint := if ((name.toLower.splitOn "softmaxcrossentropy").length > 1) then
      s!"Unknown loss {name}. Use \"categoricalCrossentropy\" as the string name for tf.losses.softmaxCrossEntropy"
    else s!"Unknown loss {name}"
  badValue hint

def getMetric : Reply := do
  let .str name := v | if v.isPresent then return v else badValue ("Unknown metric " ++ v.text)
  let some f := metricNames.lookup name | badValue s!"Unknown metric {name}"
  return measureOf f

def measureName : Script String := do
  match v with
  | .null => throw ⟨.assertion,"Unknown LossOrMetricFn null"⟩
  | .str s => return s
  | .native name _ =>
    if (lossMeasures.lookup name).isSome then return name
    return ((metricNames.find? (·.2 == name)).map (·.1)).getD name
  | .absent => throw (.noMember "name")
  | _ => return ""

def callMeasure (f wanted predicted : Value) : Reply := do
  let .native name [] := f | call f [wanted,predicted]
  let some m := measures.lookup name | call f [wanted,predicted]
  m wanted predicted

def lossHandlers : Handlers :=
  measures.map (fun (name,m) => (name,on2 m)) ++
  [ ("losses.categoricalCrossentropy",on3 fun x y z => crossentropy x y (boolOr z false)),
    ("losses.get",on1 getLoss),
    ("metrics.get",on1 getMetric),
    ("metrics.name",on1 fun x => return (← measureName x)) ] ++
  ([ ("MSE","meanSquaredError"),("mape","meanAbsolutePercentageError"),
    ("MAPE","meanAbsolutePercentageError") ] ++
    ["binaryAccuracy","categoricalAccuracy","precision","recall","sparseCategoricalAccuracy",
      "binaryCrossentropy","categoricalCrossentropy","cosineProximity","meanAbsoluteError",
      "meanAbsolutePercentageError","meanSquaredError"].map fun n => (n,n)).filterMap fun (short,full) =>
    (measures.lookup full).map fun m => ("metrics." ++ short,on2 m)
end TensorKit.Script
