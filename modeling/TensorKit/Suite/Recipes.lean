import TensorKit.Convert.Command

/-! # What suites share -/
namespace TensorKit.Suite
open Studio (Job)
open Files (Work)
def command (words : Strings) : Job Unit := modify fun s => { s with commands := s.commands ++ [words] }
def start (program : String) (args : Strings) : Job (Option String) := do
  command (program :: args)
  return (← read).programs.lookup program
def machineKind : Job String := return if (← read).hasGpu then "python-tensorflow-cuda" else "python-tensorflow-cpu"
def witnesses : Named (String × Strings) :=
  [("cpuInfo","inxi",["-c","0"]),("memInfo","free",[]),("systemInfo","uname",["-a"])]
def versions : Named Json := [("pythonVersion","$PYTHON"),("tensorflowVersion",.str Studio.frameworkVersion)]
def facts : Job (Named Json) := do
  let kind ← machineKind
  let told ← witnesses.filterMapM fun (key,program,args) => do
    return (← start program args).map fun text => (key,Json.str text)
  return ("type",.str kind) :: told ++ versions
def factsWithLayers : Job (Named Json) := return (← facts) ++ [("kerasVersion",.str Studio.frameworkVersion)]
def sayFacts (known : Named Json) : Job Unit := do
  .say "Environment info:"
  .say (Json.indented (.obj known))
def clear (folder : String) : Job Unit := do
  let t ← .tree
  if t.isFolder folder then .setTree ((t.names folder).foldl (fun t name => t.removeAll (Files.join folder name)) t)
def conversionArgs : Strings :=
  ["--input_format","tf_saved_model","--output_format","tfjs_graph_model",
   "--signature_name","serving_default","--saved_model_tags","serve"]
def convertFrom (source folder : String) : Job Unit := do
  command ("tensorflowjs_converter" :: conversionArgs ++ [Files.baseName folder])
  Convert.convert (conversionArgs ++ [source,folder])

/-- Has what a job leaves in a passing folder converted to a folder. A conversion that fails leaves the
passing folder. -/
def throughFolder {α : Type} (make : String → Job α) (folder : String) : Job α := do
  let between ← .freshFolder
  let a ← make between
  convertFrom between folder
  .setTree ((← .tree).removeAll between)
  return a
def leaveModel (folder : String) : Work Unit := do
  .ensureFolder folder
  .writeBytes (Files.join folder "saved_model.pb") []
def writeLog (path : String) (data known : Named Json) : Work Unit :=
  .writeJson path (.obj [("data",.obj data),("environmentInfo",.obj known)])
def rootOf (flags : List CommandLine.Flag) (args : Strings) : Checked String := do
  let grammar : CommandLine.Grammar := { flags, places := [⟨"data_root",true⟩] }
  let (fields,_) ← grammar.parseKnown args
  return ((fields.lookup "data_root").getD .null).strD

/-! # Recipes for models

From the class of a layer, its arguments and settings follow the shapes between layers and the weights of a fresh model.
-/

open Convert (Model)
abbrev OpenShape := List (Option Int)
def recurrentKinds : Strings := ["SimpleRNN","GRU","LSTM"]

structure LayerSpec where
  className : String
  args : List Json := []
  settings : Named Json := []

variable (l : LayerSpec)
namespace LayerSpec
def json : Json := .obj [("class_name",l.className),("config",.obj (("args",.arr l.args) :: l.settings))]
def units? : Option Int := l.args.head?.bind Json.int?
def output (shape : OpenShape) : OpenShape :=
  if ["Dense","Conv2D"].contains l.className then shape.dropLast ++ [l.units?]
  else if recurrentKinds.contains l.className then [none,l.units?]
  else if l.className == "Flatten" then [none,none]
  else shape
end LayerSpec

def lengthOf (j : Json) : Option Int := j.int?
def batchShape (lengths : Json) : Checked OpenShape := match lengths with
  | .arr ds => .ok (none :: ds.map lengthOf)
  | _ => .error .badType
def layerName (k : Nat) : String := s!"layer_{k}"
def freshWeights (k : Nat) (l : LayerSpec) : Named Grid :=
  l.units?.elim [] fun n => [(layerName k ++ "/kernel:0",.ofFloats .float32 [1] [.ofInt n])]
variable (className : String) (specs : List LayerSpec) (target : Json) (alpha : Json)
def stackOf (input output : OpenShape) : Model :=
  let weights := specs.mapIdx freshWeights
  { topology := .obj [("class_name",className),("config",.obj [("layers",.arr (specs.map LayerSpec.json))])],
    layers := weights.mapIdx fun k ws => (layerName k,ws.map (·.1)),
    values := some (weights.flatMap fun ws => ws.map (·.2)),
    inputs := [input], outputs := [output] }
def sequence (lengths : Json) : Checked Model := do
  let input ← batchShape lengths
  return stackOf className specs input (specs.foldl (fun shape l => l.output shape) input)
def onlyLength : Checked Json := match target with
  | .arr [d] => .ok d
  | .arr _ => .error (.plain .assumption)
  | _ => .error .badType
def firstLength : Checked Json := match target with
  | .arr (d :: _) => .ok d
  | .arr [] => .error (.plain .badIndex)
  | _ => .error .badType
def relu : Named Json := [("activation","relu")]
def denseStack (hidden : Ints) (input target : Json) : Checked Model := do
  let last ← onlyLength target
  sequence "Model"
    (hidden.map (fun n => { className := "Dense", args := [n], settings := relu }) ++
      [{ className := "Dense", args := [last] }]) input

def convolutionStack (filters input target : Json) : Checked Model := do
  let classes ← onlyLength target
  let act name := { className := "Activation", args := [name] }
  sequence "Sequential" [
    { className := "Conv2D", args := [filters,3],
      settings := [("padding","valid"),("input_shape",input)] },act "relu",
    { className := "Conv2D", args := [filters,3] },act "relu",
    { className := "MaxPooling2D", settings := [("pool_size",2)] },
    { className := "Flatten" },
    { className := "Dense", args := [128] },act "relu",
    { className := "Dense", args := [classes] },act "softmax"] input

def recurrentStack (kind : Json) (input target : Json) : Checked Model := do
  if !recurrentKinds.contains kind.strD then throw .missingKey
  sequence "Sequential"
    [{ className := kind.strD, args := [← firstLength target], settings := [("input_shape",input)] }] input
def hundredths : Checked Int := match alpha with
  | .int n => .ok (n * 100)
  | .num x => .ok (x * 100).toInt64.toInt
  | _ => .error .badType
def mobileNetwork : Checked Model := do
  let n ← hundredths alpha
  return stackOf "MobileNetV2" [{ className := "Dense", args := [n], settings := [("weights",.null)] }]
    [none,some 224,some 224,some 3] [none,some 1000]
end TensorKit.Suite

/-! ## A model with attention

For each character that it writes, the model weighs all that it has read against its own state.
-/
namespace TensorKit.Suite.Attention
open Convert (Model)
def steps : Nats := .range 10
variable (name : String) (units : Int)
def classed (config : Named Json) : Json := .obj [("class_name",name),("config",.obj config)]
def orthogonal : Json := classed "Orthogonal" [("seed",.null),("gain",1)]
def scaled : Json := classed "VarianceScaling"
  [("seed",.null),("distribution","uniform"),("mode","fan_avg"),("scale",1)]
def zeros : Json := classed "Zeros" []

/-- A tensor: the layer that gives it, the call of the layer and the place in what the call gives. -/
structure Source where
  layer : String
  call : Nat := 0
  place : Nat := 0

def Source.json (s : Source) : Json := .arr [.str s.layer,.int s.call,.int s.place,.obj []]
def layer (className name : String) (calls : List (List Source)) (config : Named Json) : Json :=
  .obj [("class_name",className),("name",name),
    ("inbound_nodes",.arr (calls.map fun sources => .arr (sources.map Source.json))),
    ("config",.obj (("name",name) :: config))]
def input (lengths : Ints) : Json :=
  layer "InputLayer" name [] [("dtype","float32"),("sparse",false),
    ("batch_input_shape",.arr (.null :: lengths.map .int))]

def memory (sequences state : Bool) : Named Json :=
  [("stateful",false),("units",units),("activation","tanh"),
   ("recurrent_activation","hard_sigmoid"),("dropout",0),("recurrent_dropout",0),
   ("use_bias",true),("trainable",true),("recurrent_initializer",orthogonal),
   ("bias_constraint",.null),("unroll",false),("kernel_initializer",scaled),
   ("unit_forget_bias",true),("bias_initializer",zeros),("kernel_constraint",.null),
   ("activity_regularizer",.null),("return_sequences",sequences),("recurrent_constraint",.null),
   ("recurrent_regularizer",.null),("bias_regularizer",.null),("go_backwards",false),
   ("implementation",1),("kernel_regularizer",.null),("return_state",state)]

def dense (activation : String) (calls : List (List Source)) : Json :=
  layer "Dense" name calls
    [("bias_constraint",.null),("kernel_constraint",.null),("units",units),
     ("activity_regularizer",.null),("use_bias",true),("bias_regularizer",.null),
     ("trainable",true),("activation",activation),("kernel_initializer",scaled),
     ("kernel_regularizer",.null),("bias_initializer",zeros)]
def trainable : String × Json := ("trainable",true)
def after : List (List Source) := steps.map fun t => [⟨name,t,0⟩]
def reader : Source := ⟨"bidirectional_1",0,0⟩
def state (given : String) (place : Nat) : Nat → Source
  | 0 => ⟨given,0,0⟩
  | t + 1 => ⟨"attLSTM_1",t,place⟩

def layers : List Json := [
  input "input_1" [30,38],
  input "s0" [64],
  layer "Bidirectional" "bidirectional_1" [[⟨"input_1",0,0⟩]] [trainable,("merge_mode","concat"),
    ("layer",classed "LSTM" (("name","attLSTM_2") :: memory 32 true false))],
  layer "RepeatVector" "repeat_vector_1" (steps.map fun t => [state "s0" 0 t]) [("n",30),trainable],
  layer "Concatenate" "concatenate_1" (steps.map fun t => [reader,⟨"repeat_vector_1",t,0⟩])
    [trainable,("axis",.int (-1))],
  dense "attDense_1" 10 "tanh" (after "concatenate_1"),
  dense "attDense_2" 1 "relu" (after "attDense_1"),
  layer "Activation" "attention_weights" (after "attDense_2") [trainable,("activation","softmax")],
  layer "Dot" "dot_1" (steps.map fun t => [⟨"attention_weights",t,0⟩,reader])
    [trainable,("normalize",false),("axes",1)],
  input "c0" [64],
  layer "LSTM" "attLSTM_1" (steps.map fun t => [⟨"dot_1",t,0⟩,state "s0" 0 t,state "c0" 2 t]) (memory 64 false true),
  dense "attDense_3" 11 "softmax" (after "attLSTM_1")]

def place (call : Nat) : Json := .arr [.str name,.int call,0]
def topology : Json := classed "Model" [
  ("input_layers",.arr (["input_1","s0","c0"].map (place · 0))),
  ("name","model_1"),
  ("layers",.arr layers),
  ("output_layers",.arr (steps.map (place "attDense_3" ·)))]
def shapeOf (config : Json) : OpenShape :=
  (config.get? "batch_input_shape").elim ([none,(config.get? "units").bind Json.int?]) (·.elems.map lengthOf)
def shapesAt (topology : Json) (key : String) : List OpenShape :=
  let config := topology "config"
  let layers := (config "layers").elems
  (config key).elems.filterMap fun p =>
    let name := (p.elems.headD .null).strD
    (layers.find? fun l => l.getStr? "name" == some name).map fun l => shapeOf (l "config")
def ofTopology (make : Json → Model) (topology : Json) : Model :=
  { make topology with inputs := shapesAt topology "input_layers", outputs := shapesAt topology "output_layers" }
end TensorKit.Suite.Attention

/-! ## Sample models -/
namespace TensorKit.Suite.Samples
open Studio (Job)
def archiveKind : String := "tf_keras_h5"
def trainedKind : String := "tf_saved_model"
def grammar : CommandLine.Grammar :=
  { places := [⟨"output_path",true⟩],
    flags := [{ CommandLine.Flag.named "model_type" .text with
                required := true, choices := [archiveKind,trainedKind] }] }
def layered : Checked Convert.Model :=
  sequence "Sequential"
    [{ className := "Dense", args := [5], settings := relu ++ [("input_shape",.arr [8])] },
     { className := "Dense", args := [1], settings := [("activation","sigmoid")] }] (.arr [8])
def compute (x : Float) : Float := x * 3.0 + 1.0
def writeTrained (folder : String) : Job Unit := do
  .note "input_signature [(None, 'float32')]"
  .note "save [] False"
  leaveModel folder
  .note ("compute " ++ Json.fileNumber.text (compute 2.0))
def run (args : Strings) : Job Unit := do
  let (fields,_) ← grammar.parseKnown args
  let path := ((fields.lookup "output_path").getD .null).strD
  if (fields.lookup "model_type").bind Json.str? == some archiveKind then Studio.saveArchive (← layered) path
  else writeTrained path
end TensorKit.Suite.Samples
