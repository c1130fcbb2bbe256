import TensorKit.CommandLine.Grammar
import TensorKit.Convert.Optimize
import TensorKit.Flow.Wire

/-! # Options of a conversion -/
namespace TensorKit.Convert
section
/-! ## Formats of models -/
namespace Format
def archive : String := "keras"
def exported : String := "keras_saved_model"
def trained : String := "tf_saved_model"
def hub : String := "tf_hub"
def layers : String := "tfjs_layers_model"
def graph : String := "tfjs_graph_model"
def retired : String := "tensorflowjs"
def isOfLayers (f : String) : Bool := f == archive || f == exported
def isOfGraph (f : String) : Bool := f == trained || f == hub
def usualTarget (source : String) : Option String :=
  if isOfLayers source then some layers
  else if isOfGraph source then some graph
  else if source == layers then some archive
  else none

def standard (source : String) (target : Option String) : Checked (String × Option String) := do
  if source == retired then
    throw (.badValue "--input_format=tensorflowjs has been deprecated. Use --input_format=tfjs_layers_model instead.")
  let some t := target | return (source,usualTarget source)
  if t == retired then
    let instead := if isOfLayers source then some layers else if isOfGraph source then some graph else none
    if let some f := instead then
      throw (.badValue (s!"--output_format=tensorflowjs has been deprecated under --input_format={source}. " ++
        s!"Use --output_format={f} instead."))
  return (source,some t)
end Format

def elementOfBytes (n : Json) : Checked (Option Element) :=
  let size := match n with
    | .bool b => if b then some 1 else none
    | n => n.float?
  if n matches .null then .ok none
  else if size == some 1 then .ok (some .uint8)
  else if size == some 2 then .ok (some .uint16)
  else .error (.badValue ("Unsupported quantization bytes: " ++ Text.shown n))

def texts (xs : Strings) : List Json := xs.map .str

open CommandLine Format in
def grammar : Grammar :=
  { places := [⟨"input_path",false⟩,⟨"output_path",false⟩],
    flags := [
      { Flag.named "input_format" .text with
        default := trained, choices := [archive,exported,trained,hub,layers,retired] },
      { Flag.named "output_format" .text with choices := [archive,exported,layers,graph,retired] },
      .named "signature_name" .text,
      { Flag.named "saved_model_tags" .text with default := "serve" },
      { Flag.named "quantization_bytes" .number with choices := [1,2] },
      .named "split_weights_by_layer" .switch,
      { spellings := ["--version","-v"], field := "show_version", kind := .switch },
      .named "skip_op_check" .switch,
      { Flag.named "strip_debug_ops" .truth with default := true },
      .named "weight_shard_size_bytes" .number] }

structure Options where
  (source target : Option String)
  sourceFormat : String
  (targetFormat signature : Option String)
  tags : String
  bytes : Json
  (byLayer showVersion skipCheck stripDebug : Bool)
  shardSize : Option Int

def Options.ofFields (fields : Named Json) : Options :=
  let get k := (fields.lookup k).getD .null
  let on k := (get k).bool?.getD false
  { source := (get "input_path").str?, target := (get "output_path").str?,
    sourceFormat := (get "input_format").strD, targetFormat := (get "output_format").str?,
    signature := (get "signature_name").str?, tags := (get "saved_model_tags").strD,
    bytes := get "quantization_bytes", byLayer := on "split_weights_by_layer", showVersion := on "show_version",
    skipCheck := on "skip_op_check", stripDebug := on "strip_debug_ops",
    shardSize := (get "weight_shard_size_bytes").int? }

def Options.parse (args : Strings) : Checked Options := return .ofFields (← grammar.parse args)
end

/-! # Trained models as models of graph nodes

A trained model is loaded by its tags, its variables are made constants, and the graph is optimized and written.
-/
open Studio (Job Trained)
open Files (Work)
open Studio.Job
def sameMembers (xs ys : Strings) : Bool := xs.all ys.contains && ys.all xs.contains
def loadTrained (tags : Strings) : Job Trained := do
  let some m := (← read).trained | throw (.plain .system)
  if !sameMembers m.tags tags then throw (.plain .runtime)
  return m
def signatureOf (m : Trained) (name : String) : Checked Strings := match m.signatures.lookup name with
  | some tensors => .ok tensors
  | none => .error (.badValue (s!"Signature '{name}' does not exist. The following signatures are available: " ++
      "dict_keys([" ++ ", ".intercalate (m.signatures.map fun (k,_) => Text.literalText k) ++ "])"))
def sourceOf (tensor : String) : String := (tensor.splitOn ":").headD ""

def freeze (m : Trained) (tags tensors : Strings) : Job Flow.Graph := do
  match m.freezing with
  | .byFunction => note ("freeze v2 " ++ ",".intercalate tensors)
  | .bySession =>
    let tags := ",".intercalate tags
    note s!"load v1 {tags}"
    note s!"meta graph {tags}"
    note ("freeze v1 " ++ ",".intercalate (tensors.map sourceOf))
  | .impossible => throw (.plain .runtime)
  return m.nodes

def ensureThere (folder : String) : Job Unit := do if !(← tree).isThere folder then Work.makeFolders folder

def convertTrained (folder : String) (signature : Option String) (tags : String) (options : GraphOptions) :
    Job Unit := do
  let signature := signature.getD "serving_default"
  ensureThere folder
  let tags := Text.split ", " tags
  let m ← loadTrained tags
  let tensors ← signatureOf m signature
  let g ← freeze m tags tensors
  optimize g (tensors.map sourceOf) (Files.join folder modelFile) m.version options

def loadGraph (path : String) : Work Unit := do
  if !Flow.Wire.isGraph (← .readBytes path) then throw (.plain .badMessage)
def checkDense (signature : String) (c : Studio.Contract) : Checked Unit :=
  let sparse := c.inputs.filterMap (fun (k,f) => if f.sparse then some k else none) ++
    c.outputs.filterMap fun (k,o) => if o.sparse then some k else none
  match sparse with
  | [] => .ok ()
  | key :: _ => .error (.badValue
      s!"Signature \"{signature}\" has a SparseTensor on input/output \"{key}\". SparseTensors are not supported.")
def shownList (xs : Strings) : String := Text.shown (.arr (xs.map .str))

def convertOldModule (path folder : String) (signature : Option String) (options : GraphOptions) : Job Unit := do
  let signature := signature.getD "default"
  ensureThere folder
  note s!"info Importing {path}"
  let hub ← (← read).hub.getDM (throw .missingKey)
  let some contract := hub.signatures.lookup signature | throw .missingKey
  checkDense signature contract
  for (key,feed) in contract.inputs do note s!"placeholder {key} {Text.shown feed.shape} {Text.shown feed.dtype}"
  note "run variables"
  note "run tables"
  let outputs := contract.outputs.map fun (_,o) => sourceOf o.tensor
  say ("Creating a model with inputs " ++ shownList (contract.inputs.map fun (k,_) => sourceOf k) ++
    " and outputs " ++ shownList outputs ++ ".")
  note ("freeze v1 " ++ ",".intercalate outputs)
  let target := Files.join folder modelFile
  let frozen := target ++ ".frozen"
  thenAlways (do
      Work.writeBytes frozen []
      optimize hub.nodes outputs target Studio.frameworkVersion options)
    (do if (← tree).isThere frozen then setTree ((← tree).removeFile frozen))

def oldModuleFile : String := "tfhub_module.pb"

def convertModule (handle folder : String) (signature : Option String) (tags : String)
    (options : GraphOptions) : Job Unit := do
  let places := (← read).hub.elim [] (·.places)
  let path := (places.lookup handle).getD handle
  if (← tree).isThere (Files.join path oldModuleFile) then
    say s!"Loading the module using TF 1.X interface from {path}."
    convertOldModule path folder signature options
  else
    say s!"Loading the module using TF 2.X interface from {path}."
    convertTrained folder (some (signature.getD "default")) tags {}

/-! # The converter

A command line names a model in one format and the place for it in another one.
-/

open Format
def checkModelFile (path folderText jsonText : String) : Work Unit := do
  if ← .isFolder path then
    .refuse .badValue s!"For {folderText}, the input path should be a model.json file, but received a directory."
  let bs ← .readBytes path
  match (Text.exactUtf8? bs).bind Json.parse with
  | some _ => return ()
  | none => .refuse .badValue (s!"For {jsonText}, the input path is expected to contain valid JSON content, " ++
      s!"but cannot read valid JSON content from {path}.")

def readModel (path : String) : Job Model := do loadModel (Studio.makerOf (← read)) path none none true
def toArchiveText : String := "input_type=tfjs_layers_model & output_format=keras"

def layersToArchive (path target : String) : Job Unit := do
  if ← Work.isFolder path then
    refuse .badValue s!"For {toArchiveText}, the input path should be a model.json file, but received a directory."
  if ← Work.isFolder target then
    refuse .badValue (s!"For {toArchiveText}, the output path should be the path to an HDF5 file, " ++
      s!"but received an existing directory ({target}).")
  checkModelFile path toArchiveText toArchiveText
  Studio.saveArchive (← readModel path) target

variable (path folder : String)
def layersToExported : Job Unit := do
  checkModelFile path (toArchiveText ++ "_saved_model") toArchiveText
  Studio.exportModel (← readModel path) folder true
def layersText : String := "input_type=tfjs_layers_model"
def removeFile : Job Unit := do setTree ((← tree).removeFile path)
def throughArchive (use : String → Job Unit) : Job Unit := do
  checkModelFile path layersText layersText
  let between ← freshPath ".h5"
  Studio.saveArchive (← readModel path) between
  use between
  removeFile between
variable (quantization : Option Element) (byLayer : Bool) (size : Int)
def writeArchive : Work Unit := do
  let _ ← convertArchive (← openArchive path) (some folder) quantization byLayer size
def layersToLayers : Job Unit := throughArchive path fun between => do
  layersToArchive path between
  writeArchive between folder quantization false size
variable (options : GraphOptions)
def archiveToGraph : Job Unit := do
  requireArchive path
  let between ← freshPath ".savedmodel"
  Studio.exportModel (← Studio.openModel path) between true
  convertTrained folder (some "serving_default") "serve" options
  setTree ((← tree).removeAll between)
def layersToGraph : Job Unit := throughArchive path (archiveToGraph · folder options)

def exportedToLayers : Job Unit := do
  let m ← Studio.importModel path
  let between ← freshPath ".h5"
  Studio.saveArchive m between
  writeArchive between folder quantization byLayer Weights.defaultShardSize
  removeFile between

def sayVersions : Job Unit := do
  say s!"\ntensorflowjs {version}\n"
  say "Dependency versions:"
  say s!"  keras {Studio.frameworkVersion}"
  say s!"  tensorflow {Studio.frameworkVersion}"

def dispatch (o : Options) (source target sourceFormat : String) (targetFormat : Option String)
    (quantization : Option Element) (size : Int) : Job Unit := do
  let graphOptions := { quantization, skipCheck := o.skipCheck, stripDebug := o.stripDebug }
  let is (a b) := sourceFormat == a && targetFormat == some b
  if is archive layers then writeArchive source target quantization o.byLayer Weights.defaultShardSize
  else if is archive graph then archiveToGraph source target graphOptions
  else if is exported layers then exportedToLayers source target quantization o.byLayer
  else if is trained graph then convertTrained target o.signature o.tags graphOptions
  else if is hub graph then convertModule source target o.signature o.tags { graphOptions with quantization := none }
  else if is layers archive then layersToArchive source target
  else if is layers exported then layersToExported source target
  else if is layers layers then layersToLayers source target quantization size
  else if is layers graph then layersToGraph source target graphOptions
  else
    refuse .badValue (s!"Unsupported input_format - output_format pair: {sourceFormat} - " ++ targetFormat.getD "None")

variable (args : Strings)
def convert : Job Unit := do
  let o ← Options.parse args
  if o.showVersion then sayVersions
  else
    let source := o.source.getD ""
    let target := o.target.getD ""
    if source.isEmpty then refuse .badValue "Missing input_path argument. For usage, use the --help flag."
    if target.isEmpty then refuse .badValue "Missing output_path argument. For usage, use the --help flag."
    let size := o.shardSize.getD 0
    if size != 0 && o.targetFormat != some layers then
      refuse .badValue
        "The --weight_shard_size_bytes flag is only supported under output_format=tfjs_layers_model."
    let (sourceFormat,targetFormat) ← standard o.sourceFormat o.targetFormat
    let quantization ← elementOfBytes o.bytes
    let signature := o.signature.getD ""
    if !signature.isEmpty && !isOfGraph sourceFormat then
      refuse .badValue ("The --signature_name flag is applicable only to \"tf_saved_model\" and \"tf_hub\" " ++
        s!"input format, but the current input format is \"{sourceFormat}\".")
    dispatch o source target sourceFormat targetFormat quantization
      (if size == 0 then Weights.defaultShardSize else size)

def convertWords : Job Unit := convert ((" ".intercalate args).splitOn " ")
end TensorKit.Convert
