import TensorKit.Wizard.Run

/-! # Workloads on names and weights -/
namespace TensorKit.Workload
open Convert Weights Flow List

/-! ## Workloads

A workload notes what came out: counts, texts, and the causes of the refusals that it provokes.
-/

inductive Note where
  | nothing
  | truth (b : Bool)
  | count (n : Nat)
  | text (s : String)
  | refused (cause : Cause)
  | list (notes : List Note)

namespace Note
instance : Coe Nat Note := ⟨.count⟩
def texts (xs : Strings) : Note := .list (xs.map .text)
def counts (xs : Nats) : Note := .list (xs.map .count)
def perhaps : Option String → Note
  | some s => .text s
  | none => .nothing
end Note

variable {α : Type}
def causeOf : Checked α → Option Cause
  | .ok _ => none
  | .error e => some e.cause
def refusals (attempts : List (Checked α)) : Note := .list ((attempts.filterMap causeOf).map .refused)
def outcome (work : Files.Work α) (tree : Files.Tree := {}) : Checked α := match work.run { tree } with
  | .ok a _ => .ok a
  | .error e _ => .error e
def total (size : α → Nat) (xs : List α) : Nat := xs.foldl (fun n x => n + size x) 0
def cycled (xs : List α) (i : Nat) (default : α) : α := xs.getD (i % xs.length) default
variable (n : Nat) (name : String) (i : Nat) (shape : Nats) (g : Flow.Graph)
def referenceTo : String := cycled [name,name ++ ":0","^" ++ name] i name
def names : Checked Note := do
  let canonical := (range n).map fun i => nodeName (referenceTo s!"tower/conv_{i % 10}" i)
  let graph : Flow.Graph := (range n).map fun i => { name := s!"node_{i}", op := "Identity" }
  let found ← (graph.take (max 4 (n / 8))).zipIdx.mapM fun (node,i) => Flow.Graph.resolve graph (referenceTo node.name i)
  return .list [total String.length canonical,.text convertedBy,found.length]
def ramp (e : Element) (shape : Nats) : Grid := .ofFloats e shape ((range (shape.foldl (· * ·) 1)).map .ofNat)
def arrays : List Grid :=
  [ramp .float32 [8,6],ramp .int32 [5,5],ramp .uint16 [2,3],
    .ofLabels [2,3] (["a","b","c","d","e","f"].map .text),ramp .uint8 [5,5]]
def arrayWeight : Weight := ⟨s!"weight_{i}",cycled arrays i (ramp .float32 []),none⟩
def grouped (size n : Nat) : Groups :=
  (range ((n + size - 1) / size)).map fun g => ((range n).drop (g * size)).take size |>.map arrayWeight
def folder : String := "$TMP"
def manifestOf (dtype : String) : Json :=
  .arr [.obj [("paths",.arr []),("weights",.arr [.obj [("name","w"),("dtype",dtype),("shape",.arr [2])]])]]

/-- Weights that cannot be stored or read: parts that are missing, types without bytes of their own, names
that are taken, sizes that are no sizes. -/
def weightAttempts : List (Checked Unit) :=
  let grid := ramp .float32 [2]
  let whole := some ⟨some "w",some (.grid grid),none⟩
  let unnamed := ⟨none,some (.grid grid),none⟩
  let unfilled := ⟨some "w",none,none⟩
  let store groups size := outcome (discard (store groups folder size))
  let groups := [[],[none]] ++ [[none],[some unnamed],[some unfilled],[whole,whole]].map fun group => [some group]
  [ discard unnamed.accept,discard unfilled.accept,discard (load (manifestOf "float16") [[0,0,0,0]]) ] ++
    (none :: groups.map some).map (store · defaultShardSize) ++
    [.int (-1),.num 1.5].map (store (some [some [whole]])) ++ [outcome (discard (loadFiles (.obj []) folder))]

def shapesOf (group : List Weights.Loaded) : Note := .list (group.map (.counts ·.data.shape))

def storedWeights : Checked Note := do
  let groups := offered (grouped 5 n)
  let (manifest,back) ← outcome do
    let manifest ← store groups folder
    return (manifest,← loadFiles manifest folder)
  let sharded ← outcome do loadFiles (← store groups folder 16 false) folder
  let levels ← outcome do
    let manifest ← store (offered [[⟨"dense",ramp .float32 [3,4],none⟩]]) folder defaultShardSize false (some .uint8)
    return (← loadFiles manifest folder).flatten
  return .list [manifest.elems.length,back.length,back.flatten.length,sharded.length,sharded.flatten.length,
    .counts (levels.flatMap (·.data.shape)),levels.length,
    refusals weightAttempts,shapesOf (back.headD [])]

/-! # Workloads on graphs -/

def passed (pass : Flow.Pass α) : Checked α := match pass.run [] with
  | .ok a _ => .ok a
  | .error e _ => .error e
def constant : Node :=
  constantOf name (.dtype "DT_FLOAT") (.ofFloats .float32 shape (replicate (shape.foldl (· * ·) 1) 1.0))
def normConstants : Flow.Graph := ["mean","var","beta","gamma"].map fun role => constant s!"{role}{i}" [2]
def normOf (name input : String) (i : Nat) (scales : Bool := false) : Node :=
  { name, op := "BatchNormWithGlobalNormalization",
    inputs := input :: (["mean","var","beta","gamma"].map fun role => s!"{role}{i}"),
    attrs := [("variance_epsilon",.float 0.001),("scale_after_normalization",.bool scales)] }
def convolution : Flow.Graph :=
  [constant (name ++ "/weights") [1,1,1,2],{ name, op := "Conv2D", inputs := ["input",name ++ "/weights"] }]
def inputNode : Node := { name := "input", op := "Placeholder" }
def normBlock : Flow.Graph := normConstants i ++ convolution s!"conv{i}" ++ [normOf s!"norm{i}" s!"conv{i}" i]
def idleNorm : Flow.Graph :=
  [{ name := s!"relu{i}", op := "Relu", inputs := ["input"] },normOf s!"idle{i}" s!"relu{i}" 0]

/-- So many blocks, and beside them normalizations that share the constants of the first block: one that
can be folded, and sixteen that cannot. -/
def normGraph (blocks : Nat) : Flow.Graph :=
  inputNode :: (range blocks).flatMap normBlock ++
    convolution "shared" ++ [normOf "sharedNorm" "shared" 0] ++
    (range 16).flatMap idleNorm ++ [{ name := "output", op := "Identity", inputs := ["sharedNorm"] }]
def foldedNorms : Checked Note := do
  let large ← passed (foldNorms (normGraph n))
  let small ← passed (foldNorms (normGraph (max 1 (n / 2))))
  let cause := causeOf (passed (foldNorms [inputNode,inputNode]))
  return .list [large.length,small.length,cause.elim .nothing .refused,
    .truth (scalesAfter (normOf "a" "input" 0)),.truth (scalesAfter (normOf "b" "input" 0 true))]

def rectifier (input : String) : Flow.Graph :=
  let node name op inputs : Node := { name := s!"{name}{i}", op, inputs }
  [ constant s!"alpha{i}" [2],node "positive" "Relu" [input],node "negated" "Neg" [input],
    node "negative" "Relu" [s!"negated{i}"],node "factor" "Neg" [s!"alpha{i}"],
    node "scaled" "Mul" [s!"factor{i}",s!"negative{i}"],node "sum" "Add" [s!"positive{i}",s!"scaled{i}"] ]

def rectified : Flow.Graph :=
  [ { name := s!"fused{i}", op := "_FusedConv2D", inputs := ["input","weights"],
      attrs := [("fused_ops",.texts ["BiasAdd"]),("num_args",.int 1)] },
    constant s!"slope{i}" [2],
    { name := s!"prelu{i}", op := "Prelu", inputs := [s!"fused{i}",s!"slope{i}"] } ]
def nearRectifier : Flow.Graph :=
  (rectifier i "input").map fun node =>
    if node.op == "Neg" && node.inputs == ["input"] then { node with inputs := ["weights"] } else node
def rectifierGraph (blocks convolutions : Nat) : Flow.Graph :=
  [inputNode,constant "weights" [1,1,2,2]] ++ (range blocks).flatMap (rectifier · "input") ++
    (range convolutions).flatMap rectified ++
    (range 4).flatMap (fun i => nearRectifier (blocks + i)) ++
    (range 5).map fun i => { name := s!"output{i}", op := "Identity", inputs := ["input"] }
def marked : Checked Flow.Graph := return (← (g.map (·.name)).foldlM fuseAt { graph := g }).graph

/-- Rectifiers fused and given to convolutions. A later run starts with the nodes as the run before has
left them, so it finds nothing to fuse. -/
def fusedRectifiers : Checked (Note × Flow.Graph) := do
  let fused ← fusePrelu g
  let given ← fusePreluWithConv fused
  let again ← fusePrelu given
  let last ← fusePreluWithConv again
  let twice := [inputNode,inputNode]
  let causes := [causeOf (fusePrelu twice),causeOf (fusePreluWithConv twice)].filterMap id
  return (.list ([fused,given,again,last].map (.count ·.length) ++ causes.map .refused),
    ← fusePreluWithConv (← marked g))

def mixedOps : Strings :=
  (range n).map fun i =>
    if i % 13 == 0 then s!"WeirdCustomOp{i / 13 % 3}" else cycled ["Add","Relu","MatMul","Print"] i "Add"
def unknownOps : Checked Note := do
  let ops := mixedOps n
  let sorted xs := .texts (xs.mergeSort fun a b => !(b < a))
  let alone := (range (max 4 (n / 20))).map fun i => unsupported [s!"Single{i}"] false true
  return .list [sorted (unsupported ops false true),sorted (unsupported ops true true),
    sorted (unsupported ops false true),alone.flatten.length]

/-! # Workloads on whole models -/

open Files (Work)
open Studio (Job)
def layerNames : Strings := (range n).map fun i => s!"layer_{i}"
def archivedLayer : Archive :=
  let kernel := name ++ "/kernel:0"
  .make [("weight_names",.arr [kernel])] [(kernel,.data (ramp .float32 shape))]
def sequence : Json := .obj [("class_name","Sequential"),("config",.arr [])]
def archivedLayers : Named Archive := (layerNames n).map fun name => (name,archivedLayer name [2,5])
def modelArchive (version : String := "2.2.4") : Archive :=
  .make [("keras_version",version),("backend","tensorflow"),("model_config",sequence.spaced)]
    [("model_weights",.make [] (archivedLayers n))]
def weightArchive (version : String := "2.2.4") : Archive :=
  .make [("keras_version",version),("layer_names",.arr ((layerNames n).map .str))] (archivedLayers n)

def archiveAttempts : List (Checked Unit) :=
  [ discard (generatedBy 3),
    discard (wholeModel (modelArchive 1 "1.2.0") false),
    discard (weightsOnly (weightArchive 1 "1.2.0") false),
    discard (asText (.ofJson 3)),
    outcome (discard (convertArchive (modelArchive 1) (some folder) none false 0)) ]

def archives : Checked Note := do
  let convert byLayer := outcome (convertArchive (modelArchive n) (some folder) none byLayer defaultShardSize)
  let (topology,byLayer) ← convert true
  let (_,whole) ← convert false
  let alone ← weightsOnly (weightArchive n) false
  let config := (topology.getD .null) "model_config"
  let makers ← [.null,.obj [("keras_version","2.2")],.obj []].mapM generatedBy
  let renamed ← translateNames (.obj [("class_name","BatchNormalizationV1")])
  let three ← weightsOnly (weightArchive 3) false
  return .list [byLayer.length,total (·.data.toBytes.length) byLayer.flatten,
    byLayer.flatten.length,whole.length,alone.length,
    .perhaps (config.getStr? "class_name"),refusals archiveAttempts,
    .list (makers.map (.perhaps ·.str?)),.perhaps (renamed.getStr? "class_name"),
    .list (three.flatten.map (.perhaps ·.name.str?))]

def layered (topology : Json) : Convert.Model :=
  { topology, layers := (layerNames n).map fun name => (name,[name ++ "/kernel"]) }
def layeredWeights : Weights.OfferedGroups :=
  offered [(layerNames n).map fun name => ⟨.str (name ++ "/kernel"),ramp .float32 shape,none⟩]
def modelPath : String := Files.join folder modelFile
def layeredFiles : Checked Files.Tree := outcome do
  writeLayers sequence (layeredWeights n shape) folder none defaultShardSize
  .tree
def shardBytes (t : Files.Tree) : List Bytes := t.files.filterMap fun (path,content) =>
  match content with
  | .bytes bs => if path.endsWith ".bin" then some bs else none
  | .archive .. => none
def topologyOnly : Json := .obj [("modelTopology",sequence)]
def descriptionAttempts (config : Json) (data : List Bytes) : List (Checked Convert.Model) :=
  [ deserializeModel (layered 1) (.value (.obj [])) data,
    deserializeModel (layered 1) (.text "[]") data,
    deserializeModel (layered 1) (.value topologyOnly) data,
    deserializeModel (fun t => { layered 0 t with layers := [("other",["other/kernel"])] }) (.value config) data ]
def fileAttempts (tree : Files.Tree) (data : List Bytes) : List (Checked Convert.Model) :=
  let load config place data :=
    outcome (do
      if let some j := config then .writeJson modelPath j
      loadModel (layered 1) modelPath place data true) tree
  [ load none (some folder) (some data),load none (some (Files.join folder "nowhere")) none,
    load (some (.obj [])) none none,load (some topologyOnly) none none ]
def valueCount (m : Convert.Model) : Nat := (m.values.getD []).length

def loadedModels : Checked Note := do
  let tree ← layeredFiles n [n]
  let data := shardBytes tree
  let config ← outcome (readJson modelPath) tree
  let ofValue ← deserializeModel (layered n) (.value config) data
  let ofText ← deserializeModel (layered n) (.text config.spaced) data
  let load folder withWeights := outcome (loadModel (layered n) modelPath folder none withWeights) tree
  let ofFile ← load none true
  let ofFolder ← load (some folder) true
  let bare ← load none false
  let plain ← deserializeModel (layered n) (.value config) []
  return .list [total Grid.size (ofValue.values.getD []),valueCount ofValue,valueCount ofText,
    valueCount ofFile,valueCount ofFolder,bare.layers.length,plain.layers.length,
    refusals (descriptionAttempts config data),refusals (fileAttempts tree data)]

def finished (job : Job α) (setting : Studio.Setting) (tree : Files.Tree) : Checked (α × Files.Tree) :=
  match (job setting).run { tree } with
  | .ok a s => .ok (a,s.tree)
  | .error e _ => .error e
def wrongCommands : List Strings :=
  [[],["in"],["--input_format=tensorflowjs","in","out"],["--input_format=keras","--output_format=keras","in","out"]]

def commands : Checked Note := do
  let (source,target) ← Convert.Format.standard Convert.Format.layers (some Convert.Format.layers)
  let tree ← layeredFiles n [10,20]
  let setting := { layers := some ((layered n .null).layers) }
  let out := Files.join folder "out"
  let (_,after) ← finished (convert [s!"--input_format={source}",s!"--output_format={source}",
    modelPath,out]) setting tree
  let added := (after.addedTo tree).filter fun (path,_) => Files.Tree.isBelow out path
  let fields := grammar.all.map (·.field) ++ grammar.places.map (·.field)
  let refused := wrongCommands.filterMap fun words => causeOf (finished (convert words) setting tree)
  return .list [.list [.text source,.perhaps target],
    .count (total length (shardBytes ⟨added.map fun (p,c) => (p,.file c)⟩) + added.length),
    .texts (fields.mergeSort fun a b => !(b < a)),refused.length]

def modelPlaces : Strings :=
  ["https://tfhub.dev/model/1","http://tfhub.dev/model/1","$TMP/trained","$TMP/exported","$TMP/layers",
    "$TMP/layers/model.json"," $TMP/layers/model.json ","$TMP/model.h5","$TMP/trained/saved_model.pb",
    "$TMP/graph","$TMP/graph/model.json","$TMP/nowhere"]
def placedFiles : Files.Tree :=
  let described (format : String) := .bytes (Json.fileBytes (.obj [("format",format)]))
  [ ("$TMP/trained/saved_model.pb",.bytes []),("$TMP/exported/saved_model.pb",.bytes []),
    ("$TMP/exported/assets/saved_model.json",.bytes []),("$TMP/layers/model.json",described "layers-model"),
    ("$TMP/model.h5",.archive (modelArchive 1) 0),
    ("$TMP/graph/model.json",described "graph-model") ].foldl (fun t file => t.plant file.1 (.file file.2)) {}
def givenAnswers : List Wizard.Answers :=
  open Convert.Format in
  [ (archive,"skip_op_check",.bool false),(trained,"quantization_bytes",.null),
    (archive,"split_weights_by_layer",.bool true),(layers,"overwrite_output_path",.bool true),
    (hub,"signature_name",.null) ].map fun (format,answer) =>
      [("input_path","in"),("output_path","out"),("input_format",format),answer]

def questions : Checked Note := do
  let lines ← (range (max 4 n)).mapM fun i => Wizard.commandLine (cycled givenAnswers i [])
  let flags := lines.flatten.filter fun word => (word.str?.getD "").startsWith "--"
  let setting := { described := some [{ tags := ["serve"] }] }
  let formats ← (range n).mapM fun i => do
    let ((format,_),_) ← finished (Wizard.detect (cycled modelPlaces i "")) setting placedFiles
    return .perhaps format
  return .list [flags.length,.list formats]

/-! ## The workloads by name -/

inductive Kind where
  /-- Every run notes the same. -/
  | alike (note : Nat → Checked Note)
  | fusedRectifiers

def fuseOn : Nat → Flow.Graph → Checked (List Note)
  | 0, _ => .ok []
  | runs + 1, g => do
    let (note,rest) ← fusedRectifiers g
    return note :: (← fuseOn runs rest)
def Kind.run (k : Kind) (n runs : Nat) : Checked (List Note) := do
  match k with
  | .alike note => return replicate runs (← note n)
  | .fusedRectifiers => fuseOn runs (rectifierGraph n (max 1 (n / 4)))
def catalogue : Named (String × Kind) :=
  [("common_helpers","n_names",.alike names),("write_read_weights","n_weights",.alike storedWeights),
    ("keras_h5_conversion","n_layers",.alike archives),("fold_batch_norms","n_blocks",.alike foldedNorms),
    ("fuse_prelu","n_blocks",.fusedRectifiers),("saved_model_validate","n_nodes",.alike unknownOps),
    ("keras_tfjs_loader","n_layers",.alike loadedModels),("converter_cli","n_layers",.alike commands),
    ("wizard","n_cases",.alike questions)]
end TensorKit.Workload
