import TensorKit.Text.Literal
import TensorKit.Weights.Load
import TensorKit.Weights.Store

/-! # Names of weights, nodes and programs

A reference to an output adds the place of the output, one that only orders computations starts with a caret.
-/
namespace TensorKit.Convert

/-! ## Names of classes

Some versions write other names for a few classes of layers.
-/

def classNames : Named String :=
  [("BatchNormalizationV1","BatchNormalization"),("UnifiedGRU","GRU"),("UnifiedLSTM","LSTM")]
variable (s : String)
def className? : Option String := classNames.lookup s

def translateUnder (key : String) : Json → Checked Json
  | .str s => .ok (if key == "class_name" then (className? s).getD s else s)
  | .obj fs => if key == "class_name" then .error .badType
    else return .obj (← fs.mapM fun f => return (f.1,← translateUnder f.1 f.2))
  | .arr xs => if key == "class_name" then .error .badType
    else return .arr (← xs.mapM fun x => if x matches .obj _ then translateUnder "" x else .ok x)
  | j => .ok j
decreasing_by all_goals grind [→ List.sizeOf_lt_of_mem]
def translateNames (j : Json) : Checked Json := if j matches .obj _ then translateUnder "" j else .ok j

inductive Spelled where
  | text (s : String)
  | raw (bs : Bytes)
  | other (shown : String)

def Spelled.ofJson : Json → Spelled
  | .str s => .text s
  | j => .other (Text.literal j)
def asText : Spelled → Checked String
  | .text s => .ok s
  | .raw bs => (Text.exactUtf8? bs).getDM (.error (.plain .badText))
  | .other shown => .error (.because .badType s!"Expected binary or unicode string, got {shown}")
def weightName : String := if s.endsWith ":0" then (s.dropEnd 2).toString else s

/-- The part of a name before the place of an output, if it has one. The line before the end counts, and
an end of line may follow. -/
def beforePlace? (cs : Chars) : Option Chars :=
  let body := match cs.reverse with
    | '\n' :: rest => rest
    | all => all
  let line := body.takeWhile (· != '\n')
  let rest := line.dropWhile Text.isDecimalDigit
  match line.takeWhile Text.isDecimalDigit, rest with
  | _ :: _, ':' :: name => some name.reverse
  | _, _ => none

def nodeName (reference : String) : String :=
  let cs := match reference.toList with
    | '^' :: rest => rest
    | cs => cs
  .ofList ((beforePlace? cs).getD cs)
def version : String := "1.2.9"
def convertedBy : String := "TensorFlow.js Converter v" ++ version

def holds (j : Json) (key : String) : Checked Bool := match j with
  | .obj _ => .ok (j.get? key).isSome
  | .arr xs => .ok (xs.any fun x => match x with
    | .str s => s == key
    | _ => false)
  | .str s => .ok ((s.splitOn key).length != 1)
  | _ => .error .badType

def generatedBy (topology : Json) : Checked Json := do
  match topology with
  | .null => return .null
  | t =>
    if ← holds t "keras_version" then
      let v ← Weights.need t "keras_version"
      return "keras v" ++ Text.shown v
    else return .null

/-! # Models in archives

An archive of a model has its topology among its attributes, as JSON, and its weights in a group for each layer.
-/

open Weights (Weight Groups)
def shownAttribute : Json → String
  | .int n => s!"np.int64({n})"
  | .num x => "np.float64(" ++ Decimal.Style.pointed.text x ++ ")"
  | .bool b => if b then "np.True_" else "np.False_"
  | .arr xs => "array([" ++ ", ".intercalate (xs.map Text.literal) ++ "])"
  | j => Text.literal j
def attributeText : Json → Checked String
  | .str s => .ok s
  | j => asText (.other (shownAttribute j))
def needText (a : Archive) (name : String) : Checked String :=
  (a.attr? name).elim (.error .missingKey) attributeText
def nameList : Json → Checked Strings
  | .arr xs => xs.mapM attributeText
  | .str s => .ok (s.toList.map .singleton)
  | _ => .error .badType
def namedWeights (layer : Archive) (names : Strings) : Checked (List Weight) := names.mapM fun name =>
  match layer.at? name with
  | some (.data g) => .ok ⟨weightName name,g,none⟩
  | some (.group _ _) => .error .badType
  | none => .error .missingKey

def layerWeights : Archive → Checked (List Weight)
  | .data _ => .error (.plain .noAttribute)
  | .group attrs items =>
    match attrs.lookup "weight_names" with
    | some names => do namedWeights (.group attrs items) (← nameList names)
    | none => return (← items.mapM (layerWeights ·.2)).flatten
decreasing_by all_goals grind [→ List.sizeOf_lt_of_mem]
variable (a : Archive) (byLayer : Bool)
def checkVersion : Checked Unit := do
  let v ← needText a "keras_version"
  if (v.splitOn ".").headD "" != "2" then throw (.badValue s!"Expected Keras version 2; got Keras version {v}")
def parsed : Checked Json := (Json.parse s).getDM (.error (.plain .badJson))
def groupLayers (layers : Groups) : Groups :=
  if byLayer then layers.filter (!·.isEmpty) else [layers.flatten]

def archivedTopology : Checked Json := do
  checkVersion a
  let version ← needText a "keras_version"
  let backend ← needText a "backend"
  let config ← translateNames (← parsed (← needText a "model_config"))
  let fields : Named Json := [("keras_version",version),("backend",backend),("model_config",config)]
  let some training := a.attr? "training_config" | return .obj fields
  return .obj (fields ++ [("training_config",← parsed (← attributeText training))])

def wholeModel : Checked (Json × Groups) := do
  let topology ← archivedTopology a
  match a.member? "model_weights" with
  | none => throw .missingKey
  | some (.data _) => throw .badType
  | some (.group _ items) =>
    let layers ← items.mapM fun (_,layer) => layerWeights layer
    return (topology,groupLayers byLayer layers)

def weightsOnly : Checked Groups := do
  checkVersion a
  let some listed := a.attr? "layer_names" | throw .missingKey
  let layers ← (← nameList listed).mapM fun name => (a.at? name).elim (.error .missingKey) layerWeights
  return groupLayers byLayer layers

def modelOf : Checked (Option Json × Groups) := do
  if (a.attr? "layer_names").isSome then return (none,← weightsOnly a byLayer)
  let (topology,groups) ← wholeModel a byLayer
  return (some topology,groups)

/-! # Models of layers

A model has a topology and layers, each with the names of its weights. Its values are there once they have been set.
-/

open Files (Work)
open Weights (Loaded)
structure Model where
  topology : Json
  layers : Named Strings := []
  values : Option (List Grid) := none
  inputs : List (List (Option Int)) := []
  outputs : List (List (Option Int)) := []

inductive Document where
  | value (j : Json)
  | text (s : String)

def Document.json : Document → Checked Json
  | .value (.obj fs) => .ok (.obj fs)
  | .value (.str s) => parsed s
  | .value _ => .error (.plain .noAttribute)
  | .text s => parsed s
def checkTopologyVersion (t : Json) : Checked Unit := do
  if ← holds t "keras_version" then
    match ← Weights.need t "keras_version" with
    | .str _ => return ()
    | _ => throw (.plain .noAttribute)
def valuesNamed (entries : List Loaded) (names : Strings) : Checked (List Grid) := do
  if entries.any fun e => match e.name with | .arr _ | .obj _ => true | _ => false then throw .badType
  names.mapM fun name =>
    match entries.reverse.find? (fun e => Weights.sameName e.name (weightName name)) with
    | some e => .ok e.data
    | none => .error .missingKey
variable (make : Json → Model) (config : Json) (path : String)
def reviveModel (topology : Json) (entries : List Loaded) : Checked Model := do
  checkTopologyVersion topology
  let config ← if ← holds topology "model_config" then Weights.need topology "model_config" else pure topology
  let model := make config
  if entries.isEmpty then return model
  let values ← valuesNamed entries (model.layers.flatMap (·.2))
  return { model with values := some values }
def checkDescription : Checked Unit := match config with
  | .obj _ =>
    if (config.get? "modelTopology").isSome then .ok ()
    else .error (.because .missingKey "Field \"modelTopology\" is missing from the JSON content.")
  | j => .error (.because .badType
      ("The JSON content is required to be a `dict`, but found " ++ Weights.shownKind j ++ "."))
def manifestOf : Checked Json := match config.get? "weightsManifest" with
  | some m => .ok m
  | none => .error (.because .missingKey "Field \"weightsManifest\" is missing from the JSON content.")

def deserializeModel (config : Document) (data : List Bytes) : Checked Model := do
  let config ← config.json
  checkDescription config
  let entries ←
    if data.isEmpty then pure []
    else do
      let manifest ← manifestOf config
      pure (← Weights.load manifest data).flatten
  reviveModel make (config.getD "modelTopology" .null) entries

def readJson : Work Json := do
  let bs ← .readBytes path
  let some s := Text.exactUtf8? bs | throw (.plain .badText)
  parsed s

def loadModel (folder : Option String)
    (buffers : Option (List Bytes)) (withWeights : Bool) : Work Model := do
  let given := buffers.elim false fun bs => !bs.isEmpty
  let placed := folder.elim false fun f => !f.isEmpty
  if given && placed then
    .refuse .badValue ("The arguments weights_data_buffers and weights_path_prefix are " ++
      "mutually exclusive and should not be both specified.")
  let config ← readJson path
  checkDescription config
  let entries ← if !withWeights then pure [] else do
    let manifest ← manifestOf config
    let folder := if !given && !placed then some (Files.parent (Files.normal path)) else folder
    let some f := folder | throw .badType
    if !(← .isFolder f) then .refuse .badValue s!"Weights path prefix is not an existing directory: {f}"
    pure (← Weights.loadFiles manifest f).flatten
  reviveModel make (config.getD "modelTopology" .null) entries
end TensorKit.Convert
