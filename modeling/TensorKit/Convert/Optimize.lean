import TensorKit.Flow.FoldNorms
import TensorKit.Flow.FusePrelu
import TensorKit.Studio.Models
import TensorKit.Script.Graph.OpList

/-! # Artifacts of a model

One JSON file has the topology and the manifest of the weights; the shards stand beside it.
-/
namespace TensorKit.Convert
open Files (Work)
open Weights (Weight Groups)
def modelFile : String := "model.json"
def offered (groups : Groups) : Weights.OfferedGroups :=
  some (groups.map fun g => some (g.map fun w => some (.ofWeight w)))
def modelJson (format : String) (generated topology manifest : Json) : Json :=
  .obj [("format",format),("generatedBy",generated),("convertedBy",convertedBy),
    ("modelTopology",if Weights.isGiven topology then topology else .null),("weightsManifest",manifest)]

def writeLayers (topology : Json) (groups : Weights.OfferedGroups) (folder : String)
    (quantization : Option Element) (size : Json) : Work Unit := do
  let fits := match size with
    | .int n => 0 < n
    | .bool b => b
    | _ => false
  if !fits then
    .refuse .badValue ("Expected weight_shard_size_bytes to be a positive integer, but got " ++ Text.shown size)
  -- the message on a file in the way cannot be put together
  if ← .isFile folder then throw .badType
  let generated ← generatedBy topology
  let manifest ← Weights.store groups folder size false quantization
  .writeJson (Files.join folder modelFile) (modelJson "layers-model" generated topology manifest)

def writeGraph (topology : Json) (groups : Weights.OfferedGroups) (folder : String) (generated : Json)
    (quantization : Option Element) : Work Unit := do
  let manifest ← Weights.store groups folder Weights.defaultShardSize false quantization
  .writeJson (Files.join folder modelFile) (modelJson "graph-model" generated topology manifest)

def convertArchive (a : Archive) (folder : Option String) (quantization : Option Element) (byLayer : Bool)
    (size : Json) : Work (Option Json × Groups) := do
  let (topology,groups) ← modelOf a byLayer
  if let some folder := folder then
    if ← .isFile folder then .refuse .badValue ("Output path \"" ++ folder ++ "\" already exists as a file")
    .ensureFolder folder
    writeLayers (topology.getD .null) (offered groups) folder quantization size
    return (topology,groups.map fun g => g.map fun w => { w with data := w.data.narrowed })
  return (topology,groups)

def saveModel (a : Archive) (folder : String) (quantization : Option Element) : Work Unit := do
  let (topology,groups) ← wholeModel a false
  if ← .isFile folder then .refuse .badValue ("Path \"" ++ folder ++ "\" already exists as a file.")
  .ensureFolder folder
  writeLayers topology (offered groups) folder quantization Weights.defaultShardSize
def requireArchive (path : String) : Work Unit := do
  if !(← .isThere path) then .refuse .badValue s!"Nonexistent path to HDF5 file: {path}"
  if ← .isFolder path then
    .refuse .badValue s!"Expected path to point to an HDF5 file, but it points to a directory: {path}"
def openArchive (path : String) : Work Archive := do
  requireArchive path
  match ← .read path with
  | .archive a _ => return a
  | .bytes _ => throw (.plain .system)
end TensorKit.Convert

/-! # Optimized graphs

A graph whose variables are constants is simplified in two runs of the optimizer, with passes of our own around them.
Then its constants are written as weights.
-/

/-! ## Supported operations

Operations that only check values are allowed where they will be taken away.
-/
namespace TensorKit.Flow
def debugOps : Strings := ["Assert","CheckNumerics","Print"]
def isSupported (stripDebug : Bool) (op : String) : Bool :=
  Script.OpTable.knownOps.any (·.op == op) || (stripDebug && debugOps.contains op)
def unsupported (ops : Strings) (skipCheck stripDebug : Bool) : Strings :=
  if skipCheck then [] else (ops.filter fun op => !isSupported stripDebug op).eraseDups
end TensorKit.Flow
namespace TensorKit.Convert
open Flow (Node)
open Studio (Job)
structure GraphOptions where
  quantization : Option Element := none
  skipCheck : Bool := false
  stripDebug : Bool := false

def firstStages : Strings :=
  ["pruning","constfold","arithmetic","dependency","pruning","constfold","arithmetic","dependency"]
def secondStages : Strings := ["remap","constfold","arithmetic","dependency"]
def runOptimizer (stages : Strings) (g : Flow.Graph) : Job Flow.Graph := do
  .note ("grappler " ++ ",".intercalate stages)
  let s ← get
  set { s with runs := s.runs + 1 }
  return g ++ ((← read).additions[s.runs]?).getD []
variable (g : Flow.Graph)
def checkSupported (options : GraphOptions) (when_ : String) : Job Unit := do
  let bad := Flow.unsupported (g.map (·.op)) options.skipCheck options.stripDebug
  if !bad.isEmpty then
    .refuse .badValue (s!"Unsupported Ops in the model {when_} optimization\n" ++ ", ".intercalate bad)
def placeConvolutions : Flow.Graph :=
  g.map fun n => if n.op == "Conv2D" then { n with device := "/device:CPU:0" } else n
def takeValue (n : Node) : Checked (List Weights.Weight × Node) := do
  let value ← Flow.constValue n
  let outline : Flow.Attr := match n.attr "value" with
    | .tensor g => .outline g.element g.shape
    | a => a
  return ([⟨n.name,value,none⟩],n.setAttr "value" outline)

def takeConstants : Flow.Graph → Checked (List Weights.Weight × Flow.Graph)
  | [] => .ok ([],[])
  | n :: rest => do
    let (w,n) ← if n.op == "Const" then takeValue n else pure ([],n)
    let (ws,rest) ← takeConstants rest
    return (w ++ ws,n :: rest)

def extractWeights (target : String) (version : Json) (quantization : Option Element) : Job Unit := do
  .say s!"Writing weight file {target}..."
  let (weights,g) ← takeConstants g
  writeGraph (Flow.graphJson g) (offered [weights]) (Files.folderOf target) version quantization

def optimize (outputs : Strings) (target : String) (version : Json) (options : GraphOptions) : Job Unit := do
  modify fun s => { s with collections := s.collections ++ outputs.map fun o => ("train_op",o) }
  checkSupported g options "before"
  let g ← Flow.fusePrelu g
  let g ← runOptimizer ((if options.stripDebug then ["debug_stripper"] else []) ++ firstStages) g
  let g ← .ofPass (Flow.foldNorms g)
  let g ← runOptimizer secondStages (placeConvolutions g)
  let g ← Flow.fusePreluWithConv g
  checkSupported g options "after"
  extractWeights g target version options.quantization
end TensorKit.Convert
