import TensorKit.Convert.Command

/-! # What a path leads to

The format of a model is guessed from its path, from the names of files, and from what they hold.
-/
namespace TensorKit.Wizard
open Studio (Job MetaGraph Slot)
open Files (Work)
open Convert Studio.Job Format
def isOf (name : String) (j : Json) : Bool := Weights.sameName j name
def layersKind : String := "layers-model"
variable (path : String)
def modelKind : Work Json := do
  let data ← readJson path
  .say ("==== " ++ Text.shown data)
  if ← holds data "format" then Weights.need data "format" else return layersKind
def isLayers : Job Bool := return isOf layersKind (← modelKind path)
def metaGraphs : Job (List MetaGraph) := do (← read).described.getDM (throw (.plain .system))
def mentions (s part : String) : Bool := (s.splitOn part).length > 1

def detectTrained : Job String := do
  if (← tree).isThere (Files.join (Files.join path "assets") "saved_model.json") then return exported
  let g :: _ ← metaGraphs | throw (.plain .badIndex)
  if mentions (g.identifier.getD "") "tf_keras" then return exported
  else return trained

def isAddress : Bool :=
  let path := path.toLower
  path.startsWith "http://" || path.startsWith "https://"
def trainedFile : String := "saved_model.pb"
def isArchive : Job Bool := do
  match (← tree).read path with
  | .ok (.archive _ _) => return true
  | .ok (.bytes bs) => return Work.signature.isPrefixOf bs
  | .error _ => return false

def findLayers (folder : String) : Strings → Job (Option String)
  | [] => return none
  | name :: rest => do
    let name := name.toLower
    if name.endsWith modelFile then
      let path := Files.join folder name
      if ← isLayers path then return some path
    findLayers folder rest

def detect : Job (Option String × String) := do
  let path := Text.trim path
  let tree ← tree
  if isAddress path then return (some hub,path)
  else if tree.isFolder path then
    let names := tree.names path
    if names.any fun n => n.toLower.endsWith trainedFile then return (some (← detectTrained path),path)
    if let some file ← findLayers path names then return (some layers,file)
  else if tree.isFile path then
    if ← isArchive path then return (some archive,path)
    else if path.endsWith trainedFile then
      let folder := Files.folderOf path
      return (some (← detectTrained folder),folder)
    else if path.endsWith modelFile then
      if ← isLayers path then return (some layers,path)
  return (none,path)

variable (given : String)
def checkPath (format : String) : Job Json := do
  let path := Text.trim given
  let tree ← tree
  let isFolder := tree.isFolder path
  let names := tree.names path
  let say text := return text
  let fine := return true
  if path.isEmpty then say "Please enter a valid path"
  else if format == hub && !isAddress path then
    say s!"This is not an valid URL for TFHub module: {path},\n        We expect a URL that starts with http(s)://"
  else if format != hub && !tree.isThere path then say s!"Nonexistent path for the model: {path}"
  else if format == exported || format == trained then
    if !isFolder && !path.endsWith trainedFile then say s!"The path provided is not a directory or pb file: {path}"
    else if isFolder && !names.any (·.endsWith trainedFile) then
      say s!"Did not find a .pb file inside the directory: {path}"
    else if format == exported then
      if (← detectTrained given) != exported then say s!"This is a saved model but not a keras saved model: {path}"
      else fine
    else fine
  else if format == layers then
    if !isFolder && !path.endsWith modelFile then say s!"The path provided is not a directory or json file: {path}"
    else if isFolder && !names.any (·.endsWith modelFile) then
      say s!"Did not find the model.json file inside the directory: {path}"
    else fine
  else if format == archive then
    if !(← isArchive path) then say s!"The path provided is not a keras model file: {path}" else fine
  else fine

def expandPath : Job String := do
  let path := Text.trim given
  let tree ← tree
  if !tree.isFolder path then return path
  return ((tree.names path).find? (·.endsWith ".json")).elim path (Files.join path)

def targetPath (format : Option Json) : Job String := do
  let path := Text.trim given
  if format.any (isOf archive) && (← tree).isFolder path then return Files.join path "model.H5"
  return path

/-! # Questions

A question is asked if it applies to the answers so far.
-/

abbrev Answers := Named Json

variable (a : Answers)
def Answers.get (name : String) : Checked Json := (a.lookup name).getDM (.error .missingKey)

structure Question where
  (name message : String)
  choices : Option (Answers → Job (List Json)) := none
  default : Json := .null
  applies : Answers → Job Bool := fun _ => pure true
  check : Option (Json → Job Json) := none
  tidy : Json → Job Json := pure

def nextAnswer (q : Question) : Job Json := do
  let s ← get
  let some (a :: rest) := s.answers.lookup q.name | return q.default
  set { s with answers := s.answers.map fun (k,as) => if k == q.name then (k,rest) else (k,as) }
  return a

def Question.ask (q : Question) (answers : Answers) : Job Answers := do
  if !(← q.applies answers) then return answers
  let choices ← q.choices.mapM (· answers)
  let given ← nextAnswer q
  let valid ← q.check.mapM (· given)
  let answer ← q.tidy given
  modify fun s => { s with asked := s.asked ++ [{ name := q.name, message := q.message, choices, valid, answer }] }
  return answers.put q.name answer

def askAll (questions : List Question) (answers : Answers) : Job Answers :=
  questions.foldlM (fun a q => q.ask a) answers

variable (answers : Answers) (name : String) (detected : Json) (params : Answers)
def answerIn (values : Json) : Checked Bool := match answers.lookup name with
  | none => .ok false
  | some v => match values, v with
    | .str s, .str part => .ok (part.isEmpty || mentions s part)
    | .arr xs, v => .ok (xs.any (Weights.sameName v))
    | .obj fs, .str k => .ok (fs.any (·.1 == k))
    | _, _ => .error .badType

def isTrained (format : Json) : Bool := isOf trained format
def choice (key name value : String) : Json := .obj [("key",key),("name",name),("value",value)]

def targetFormats : Checked (List Json) := do
  let format ← answers.get "input_format"
  if isOf archive format then
    return [choice "g" "Tensorflow.js Graph Model" graph,choice "l" "TensoFlow.js Layers Model" layers]
  else if isOf layers format then return [choice "k" "Keras Model" archive,choice "s" "Keras Saved Model" exported]
  else return []

def tagsOf (g : MetaGraph) : String := ",".intercalate g.tags
def availableTags : Job (List Json) := do
  if !isTrained (← answers.get "input_format") then return []
  let _ ← answers.get "input_path"
  return (← metaGraphs).map fun g => tagsOf g
def tensorLines (slots : Named Slot) : String :=
  let n := slots.length
  s!"{min n 3} of {n}\n" ++ .join ((slots.take 3).map fun (_,s) =>
    let shape := s.shape.elim "Unknown" fun dims => Text.literal (.arr (dims.map .int))
    s!"              name: {s.name}, dtype: {s.dtype}, shape: {shape}\n")
def signatureText (inputs outputs : Named Slot) : String :=
  s!"signature name: {name}\n        inputs: " ++ tensorLines inputs ++ "        outputs: " ++ tensorLines outputs
def signatureChoice (s : String × Named Slot × Named Slot) : Json :=
  let (name,inputs,outputs) := s
  .obj [("value",name),("name",signatureText name inputs outputs)]

def availableSignatures : Job (List Json) := do
  if !isTrained (← answers.get "input_format") then return []
  let some tags := answers.lookup "saved_model_tags" | return []
  let _ ← answers.get "input_path"
  let some g := (← metaGraphs).find? fun g => isOf (tagsOf g) tags | return []
  return g.signatures.map signatureChoice

def marked (base : String) (format detected : Json) : String :=
  if Weights.sameName format detected then base ++ " *" else base

def sourceFormats : List Json :=
  let entry (key base format : String) :=
    (Weights.sameName format detected,choice key (marked base format detected) format)
  let all := [entry "k" "Keras (HDF5)" archive,
    entry "e" "Tensorflow Keras Saved Model" exported,
    entry "s" "Tensorflow Saved Model" trained,
    entry "h" "TFHub Module" hub,
    entry "l" "TensoFlow.js Layers Model" layers]
  (all.filter (·.1) ++ all.filter (!·.1)).map (·.2)

def sourceFormatMessage : String :=
  "What is your input model format? " ++
    if Weights.isGiven detected then "(auto-detected format is marked with *)"
    else "(model format cannot be detected.) "

def pathMessage : Checked String := do
  let format ← answers.get "input_format"
  let start := "The original path seems to be wrong, "
  if isOf archive format then return start ++ "what is the path of input HDF5 file?"
  else if isOf hub format then
    return start ++ "what is the TFHub module URL? \n" ++
      "(i.e. https://tfhub.dev/google/imagenet/mobilenet_v1_100_224/classification/1)"
  else return start ++ "what is the directory that contains the model?"

def flagOf (value : Json) : Strings :=
  if ["input_path","output_path","overwrite_output_path"].contains name || value matches .null then []
  else if ["split_weights_by_layer","skip_op_check"].contains name then if value matches .bool true then [s!"--{name}"] else []
  else [s!"--{name}={Text.shown value}"]

def commandLine : Checked (List Json) := do
  let flags := (answers.mergeSort fun a b => !(b.1 < a.1)).flatMap fun (k,v) => flagOf k v
  return texts flags ++ [← answers.get "input_path",← answers.get "output_path"]

/-! # The wizard

A conversion that is refused is written to a log of errors.
-/

def textOr (cause : Cause) : Json → Job String
  | .str s => pure s
  | _ => throw (.plain cause)
def firstQuestion : Question :=
  { name := "input_path",
    message := "Please provide the path of model file or the directory that contains model files. \n" ++
      "If you are converting TFHub module please provide the URL.",
    check := some fun j => pure (if Weights.isGiven j then true else "Please enter a valid path"),
    tidy := fun j => return (← textOr .badType j) }
def formatQuestions : List Question :=
  [{ name := "input_format", message := sourceFormatMessage detected,
     choices := some fun _ => pure (sourceFormats detected) },
   { name := "output_format", message := "What is your output format?",
     choices := some (targetFormats ·),
     applies := fun a => answerIn a "input_format" (.arr [archive,layers]) }]
def wantsGraph : Job Bool := do
  if !isTrained (← a.get "input_format") then return false
  let some f := a.lookup "output_format" | return true
  return isOf graph f
def compressions : List Json :=
  let entry name value := .obj [("name",name),("value",value)]
  [entry "No compression (Higher accuracy)" .null,entry "2x compression (Accuracy/size trade-off)" 2,
    entry "4x compression (Smaller size)" 1]
def isOfGraph : Job Bool := answerIn a "input_format" (.arr [trained,hub])

def detailQuestions (detected : Option String) (message : String) (format : Json) : List Question :=
  [{ name := "input_path", message,
     applies := fun _ => pure detected.isNone,
     check := some fun j => do checkPath (← textOr .noAttribute j) (Text.shown format),
     tidy := fun j => return (← expandPath (← textOr .noAttribute j)) },
   { name := "saved_model_tags", message := "What is tags for the saved model?",
     choices := some availableTags, applies := wantsGraph },
   { name := "signature_name", message := "What is signature name of the model?",
     choices := some availableSignatures, applies := wantsGraph },
   { name := "quantization_bytes",
     message := "Do you want to compress the model? (this will decrease the model precision.)",
     choices := some fun _ => pure compressions },
   { name := "weight_shard_size_bytes", message := "Please enter shard size (in bytes) of the weight files?",
     default := toString Weights.defaultShardSize, applies := fun a => answerIn a "output_format" layers },
   { name := "split_weights_by_layer", message := "Do you want to split weights by layers?",
     default := false, applies := fun a => answerIn a "input_format" layers },
   { name := "skip_op_check",
     message := "Do you want to skip op validation? \nThis will allow conversion of unsupported ops, \n" ++
       "you can implement them as custom ops in tfjs-converter.",
     default := false, applies := isOfGraph },
   { name := "strip_debug_ops",
     message := "Do you want to strip debug ops? \nThis will improve model execution performance.",
     default := true, applies := isOfGraph }]

def isThere (path : Json) : Job Bool := do
  let .str p := path | return false
  return (← tree).isThere p
def lengthOf : Json → Checked Nat
  | .str s => .ok s.length
  | .arr xs => .ok xs.length
  | .obj fs => .ok fs.length
  | _ => .error .badType

def outputQuestions : List Question :=
  [{ name := "output_path", message := "Which directory do you want to save the converted model in?",
     check := some fun j => return decide (0 < (← lengthOf j)),
     tidy := fun j => return (← targetPath (← textOr .noAttribute j) (params.lookup "output_format")) },
   { name := "overwrite_output_path",
     message := "The output already directory exists, do you want to overwrite it?",
     default := false, applies := fun a => do isThere (← a.get "output_path") }]

def isOutputOpen : Job Bool := do
  let some path := params.lookup "output_path" | return true
  if !(← isThere path) then return false
  return !Weights.isGiven (← params.get "overwrite_output_path")
def askOutput : Nat → Answers → Job Answers
  | 0, params => return params
  | fuel + 1, params => do
    if ← isOutputOpen params then askOutput fuel (← askAll (outputQuestions params) params) else return params
def shownSize (n : Files.Node) : Nat := match n with
  | .folder => 0
  | .file (.bytes bs) => bs.length
  | .file (.archive _ size) => if path.endsWith ".h5" then 0 else size
def column (width : Nat) (s : String) : String := s ++ .ofList (.replicate (width - s.length) ' ')

def listFiles : Job Unit := do
  say "\n\nFile(s) generated by conversion:"
  say ("Filename " ++ column 25 "" ++ " Size(bytes)")
  let tree ← tree
  let folder := if tree.isFile path then Files.folderOf path else path
  if !tree.isFolder folder then throw (.plain .noFile)
  let names := (tree.names folder).mergeSort fun a b => !(b < a)
  let sizes := names.map fun name => (name,((tree.node? (Files.join folder name)).map (shownSize name)).getD 0)
  for (name,size) in sizes do say (column 35 name ++ s!" {size}")
  say ("Total size:" ++ column 24 "" ++ s!" {sizes.foldl (fun n (_, k) => n + k) 0}")

def errorLog : String := Files.join scratch "converter_error.log"

variable (args : Strings)
def runConverter (target : String) : Job Unit := do
  try
    Convert.convert args
    listFiles target
  catch e =>
    modify fun s => { s with failures := s.failures ++ [e] }
    Work.writeBytes errorLog (e.message.getD "").toUTF8.toList
    say s!"Conversion failed, please check error log file {errorLog}."

def run (isTrial : Bool) : Job Unit := do
  say "Welcome to TensorFlow.js Converter."
  let given := ((← get).answers.map fun (_,as) => as.length).foldl (· + ·) 0
  let params ← firstQuestion.ask []
  let (detected,path) ← detect (Text.shown (← params.get "input_path"))
  let params ← askAll (formatQuestions (detected.elim .null .str)) (params.put "input_path" path)
  let message ← pathMessage params
  let format ← params.get "input_format"
  let params ← askAll (detailQuestions detected message format) params
  let params ← askOutput (given + 2) params
  let args ← commandLine params
  say "converter command generated:"
  say ("tensorflowjs_converter " ++ " ".intercalate (args.map Text.shown))
  say "\n\n"
  if !isTrial then runConverter (args.map Text.shown) (Text.shown (← params.get "output_path"))

def start (words : Strings) : Job Unit := do
  match words with
  | [] | [_] => run false
  | [_,"--dryrun"] => run true
  | _ =>
    say "Usage: tensorflowjs_wizard [--dryrun]"
    throw (.because .exit "1")
def program : Job Unit := start [" ".intercalate args]
end TensorKit.Wizard
