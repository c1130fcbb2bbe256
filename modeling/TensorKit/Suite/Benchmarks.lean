import TensorKit.Suite.Recipes

/-! # The benchmark suite -/
namespace TensorKit.Suite.Benchmarks
open Convert (Model)
open Studio (Job)
inductive Recipe where
  | denseTiny
  | denseLarge
  | convolutional (filters : Json)
  | recurrent (kind : Json)
  | mobile (alpha : Json)
  | attention

def Recipe.build (r : Recipe) (input target : Json) : Job Model := do
  match r with
  | .denseTiny => denseStack [200] input target
  | .denseLarge => denseStack [4000,1000,500] input target
  | .convolutional filters => convolutionStack filters input target
  | .recurrent kind => recurrentStack kind input target
  | .mobile alpha => mobileNetwork alpha
  | .attention => return Attention.ofTopology (Studio.makerOf (← read)) Attention.topology

def hasCard : Job Bool := return (← read).devices.contains "GPU"

/-- The shapes of random data for a model: a batch of each of the given shapes, whose own batch length is
passed over. -/
def dataShapes (shapes : List OpenShape) (batch : Int) : Checked (List Ints) := do
  let known ← shapes.mapM fun s => (s.drop 1).mapM fun
    | some d => .ok d
    | none => .error .badType
  known.mapM fun s =>
    let all := batch :: s
    if all.all (0 ≤ ·) then .ok all else .error (.plain .badValue)
def lengths (ds : Ints) : Json := .arr (ds.map .int)
def shapesJson : List Ints → Json
  | [s] => lengths s
  | ss => .arr (ss.map lengths)
def optimizerText (optimized : Bool) : String := if optimized then "<SGD>" else "None"

structure Plan where
  (name description : Json)
  recipe : Recipe
  (input target : Json)
  optimized : Bool
  loss : Json
  (batch epochs : Int)
  asGraph : Bool := false

variable (p : Plan) (ending : String)
namespace Plan
def optimizerName : String := if p.optimized then "SGD" else "NoneType"
def fields (function : String) (ending : Int) : Named Json :=
  [("taskType","model"),("modelFormat",if p.asGraph then "GraphModel" else "LayersModel"),
   ("modelName",p.name),("modelDescription",p.description),("functionName",function),
   ("endingTimestampMs",ending),("batchSize",p.batch)]
end Plan

def warmEpochs : Nat := 1
def warmPredictions : Nat := 20
def predictions : Nat := 30
def stamp : Job Int := return (((← .now) * 1e3).toInt64).toInt

def fit (xs ys : Json) : Job Json := do
  let note (epochs : Int) := .note s!"fit {Text.shown xs} {Text.shown ys} {p.batch} {epochs}"
  note warmEpochs
  let first ← .now
  note p.epochs
  let last ← .now
  let time := (last - first) * 1e3 / .ofInt p.epochs
  return .obj (p.fields "fit" (← stamp) ++ [("optimizer",.str p.optimizerName),("loss",p.loss),
    ("numBenchmarkedIterations",.int p.epochs),("numWarmUpIterations",.int warmEpochs),
    ("averageTimeMs",.num time)])

def predict (xs : Json) : Job Unit := do
  let text := "predict " ++ Text.shown xs
  if (← get).log.getLast? != some text then .note text
def timePredictions (xs : Json) : Job Floats := do
  for _ in List.range warmPredictions do predict xs
  (List.range predictions).mapM fun _ => do
    let first ← .now
    predict xs
    return ((← .now) - first) * 1e3
def saveLayers (m : Model) (folder : String) : Job Unit := do
  let between ← .freshPath ".h5"
  Studio.saveArchive m between
  Convert.saveModel (Studio.modelArchive m) folder none
  Convert.removeFile between
def mean (xs : Floats) : Float := xs.foldl (· + ·) 0 / .ofNat xs.length

def measure (folder : String) : Job Json := do
  clear folder
  let _ ← factsWithLayers
  let m ← p.recipe.build p.input p.target
  if p.epochs != 0 then .note ("compile " ++ optimizerText p.optimized ++ " " ++ Text.shown p.loss)
  let xs := shapesJson (← dataShapes m.inputs p.batch)
  let ys := shapesJson (← dataShapes m.outputs p.batch)
  let trained ← if p.epochs != 0 then pure [("fit",← fit p xs ys)] else pure []
  let times ← timePredictions xs
  if p.asGraph then throughFolder (Studio.exportModel m · true) folder
  else saveLayers m folder
  let asked := .obj (p.fields "predict" (← stamp) ++ [("numBenchmarkedIterations",.int predictions),
    ("numWarmUpIterations",.int warmPredictions),("timesMs",.arr (times.map .num)),
    ("averageTimeMs",.num (mean times))])
  return .obj (trained ++ [("predict",asked)])

def training (optimized : Bool) (loss : Json) : String := "|" ++ optimizerText optimized ++ "|" ++ Text.shown loss
def plan (name description : String) (recipe : Recipe) (input target : Json) (optimized : Bool) (loss : Json)
    (batch epochs : Int) (asGraph : Bool) : Plan :=
  { name, description, recipe, input, target, optimized, loss, batch, epochs, asGraph }
def densePlans (optimized : Bool) (loss : Json) (epochs : Int) (asGraph : Bool) : List Plan :=
  [("dense-tiny",.denseTiny,"Dense(200);"),
   ("dense-large",.denseLarge,"Dense(4000);Dense(1000);Dense(500);")].map fun (name,recipe,hidden) =>
    plan (name ++ ending) ("Input([100]);" ++ hidden ++ "Dense(1)" ++ training optimized loss) recipe
      (lengths [100]) (lengths [1]) optimized loss 128 epochs asGraph
def convolutionPlans : List Plan :=
  let loss : Json := "categorical_crossentropy"
  [1,2,4,8,16,24,26,28,30,32].map fun n =>
    plan s!"convolutional-{n}filters"
      (s!"Conv2D({n},3);Conv2D({n},3);MaxPooling2D(2);Flatten();Dense(128);Dense(10)" ++ training true loss)
      (.convolutional (.int n)) (lengths [28,28,1]) (lengths [10]) true loss 128 10 false
def recurrentPlans : List Plan := recurrentKinds.map fun kind =>
  plan ("rnn-" ++ kind) (kind ++ "(input_shape=[20, 20], target_shape=[20])" ++ training false .null)
    (.recurrent kind) (lengths [20,20]) (lengths [20]) false .null 128 0 false
def mobilePlans (asGraph : Bool) : List Plan :=
  [("025",.num 0.25),("050",.num 0.5),("075",.num 0.75),("100",1)].map fun (width,alpha) =>
    let name := s!"mobilenet_v2_{width}{ending}"
    plan name name (.mobile alpha) .null .null false .null 8 0 asGraph
def attentionPlan : Plan :=
  plan "attention" "Attention-based translation model: Function model with bidirectional LSTM layers"
    .attention .null .null false .null 32 0 false
def suite (card : Bool) : List Plan :=
  let graphs ps := if card then [] else ps
  densePlans "" true ("mean_squared_error") 10 false ++
  graphs (densePlans "_GraphModel" false .null 0 true) ++
  convolutionPlans ++ recurrentPlans ++ mobilePlans "" false ++ [attentionPlan] ++
  graphs (mobilePlans "_GraphModel" true)
def flags : List CommandLine.Flag := ["hash_converter","hash_core","hash_data","hash_layers"].map (.named · .text)
def run (args : Strings) : Job Unit := do
  let root ← rootOf flags args
  let known ← factsWithLayers
  sayFacts known
  let data ← (suite (← hasCard)).mapM fun p => return (p.name.strD,← measure p (Files.join root p.name.strD))
  writeLog (Files.join root "benchmarks.json") data known
end TensorKit.Suite.Benchmarks
