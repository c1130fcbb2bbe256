import TensorKit.Exchange.Samples
import TensorKit.Studio.Models

/-! # Surroundings in descriptions -/
namespace TensorKit.Exchange
def archiveWithin : Nat → Json → Archive
  | 0, _ => .group [] []
  | fuel + 1, j =>
    match gridOf? j with
    | some g => .data g
    | none =>
      .make (j "attrs").fields ((j "items").elems.map fun item =>
        match item.elems with
        | [name,x] => (name.strD,archiveWithin fuel x)
        | _ => ("",.group [] []))

variable (j : Json) (below : String)
def archiveOf : Archive := archiveWithin j.nodes j

def archiveJsonWithin : Nat → Archive → Json
  | 0, _ => .null
  | _, .data g => gridJson g
  | fuel + 1, .group attrs items =>
    .obj [("attrs",.obj (attrs.map fun (k,v) =>
        match k,v with
        | "model_config",.str s => (k,(Json.parse s).getD v)
        | _,_ => (k,v))),
      ("items",.arr (items.map fun (k,a) => .arr [k,archiveJsonWithin fuel a]))]

def contentOf : Files.Node := match j.getStr? "hex", j.get? "json", j.getStr? "text" with
  | some h, _, _ => .file (.bytes (ofHex h))
  | _, some v, _ => .file (.bytes v.fileBytes)
  | _, _, some t => .file (.bytes t.toUTF8.toList)
  | _, _, _ => (j.get? "h5").elim .folder fun a => .file (.archive (archiveOf a) 0)

def treeOf (files : Json) : Files.Tree :=
  files.fields.foldl (fun t (path,f) => t.plant (Files.join below path) (contentOf f)) {}

def contentJson (path : String) (c : Files.Content) : Json := match c with
  | .bytes bs =>
    let parsed := if path.endsWith ".json" then (Text.exactUtf8? bs).bind Json.parse else none
    parsed.elim (.obj [("hex",Json.hex bs)]) fun j => .obj [("json",j)]
  | .archive a _ => .obj [("h5",archiveJsonWithin 100 a)]

def filesJson (files : Named Files.Content) : Json :=
  .obj (files.map fun (p,c) => (if p.startsWith (below ++ "/") then (p.drop (below.length + 1)).toString else p,contentJson p c))

def attrOf : Flow.Attr := match j.fields with
  | [("nd",a)] => (gridOf? a).elim .unset .tensor
  | [("list_s",xs)] => .texts (xs.elems.map Json.strD)
  | [("type",t)] => .dtype t.strD
  | [("s",t)] => .text t.strD
  | [("f",x)] => .float (numberOf x).toFloat32.toFloat
  | [("i",n)] => .int (n.int?.getD 0)
  | [("b",b)] => .bool (b.bool?.getD false)
  | _ => .unset

def textsOf : Strings := j.elems.map Json.strD
def fieldsOf {α : Type} (read : Json → α) (j : Json) : Named α := j.fields.map fun (k,v) => (k,read v)
def nodeOf : Flow.Node :=
  { name := (j "name").strD, op := (j "op").strD, inputs := textsOf (j "input"), attrs := fieldsOf attrOf (j "attr") }
def graphOf : Flow.Graph := j.elems.map nodeOf

def attrJson : Flow.Attr → Json
  | .unset => .obj []
  | .tensor g => .obj [("nd",gridJson g)]
  | .outline _ _ => .obj []
  | .texts xs => .obj [("list_s",.arr (xs.map .str))]
  | .dtype t => .obj [("type",t)]
  | .text t => .obj [("s",t)]
  | .float x => .obj [("f",.num x)]
  | .int n => .obj [("i",n)]
  | .bool b => .obj [("b",b)]

def nodeJson (n : Flow.Node) : Json :=
  .obj [("name",n.name),("op",n.op),("input",.arr (n.inputs.map .str)),
    ("attr",.obj (n.attrs.map fun (k,a) => (k,attrJson a)))]
def layersOf (weightNames : Json) : Named Strings := weightNames.elems.map fun l => ("",textsOf l)
def modelJson (m : Convert.Model) : Json :=
  .obj [("topology",m.topology),("weights",m.values.elim .null fun gs => .arr (gs.map gridJson))]
def documentOf (form : Option String) (j : Json) : Convert.Document := match form with
  | none | some "dict" => .value j
  | _ => .text j.spaced

def trainedOf : Studio.Trained :=
  { nodes := graphOf (j "nodes"),
    signatures := fieldsOf textsOf (j "signatures"),
    tags := (j.get? "tags").elim ["serve"] textsOf,
    version := j.getD "version" "2.0.0",
    freezing := match j.getStr? "freeze" with
      | some "v1" => .bySession
      | some "fail" => .impossible
      | _ => .byFunction }

def contractOf : Studio.Contract :=
  { inputs := fieldsOf (fun v => ⟨v "shape",v "dtype",isTrue v "sparse"⟩) (j "inputs"),
    outputs := fieldsOf (fun v => ⟨(v "name").strD,isTrue v "sparse"⟩) (j "outputs") }
def hubOf : Studio.Hub :=
  { nodes := graphOf (j "nodes"),
    signatures := fieldsOf contractOf (j "signatures"),
    places := fieldsOf Json.strD (j "resolve") }
def slotOf : Studio.Slot :=
  { name := (j "name").strD, dtype := (j.getStr? "dtype").getD "DT_INVALID",
    shape := match j.get? "shape" with
      | some (.arr ds) => some (ds.map (·.int?.getD 0))
      | _ => none }
def metaGraphOf : Studio.MetaGraph :=
  let slots := fieldsOf slotOf
  { tags := textsOf (j "tags"), identifier := j.getStr? "identifier",
    signatures := fieldsOf (fun s => (slots (s "inputs"),slots (s "outputs"))) (j "signatures") }
def metaGraphsOf : List Studio.MetaGraph := (j "meta_graphs").elems.map metaGraphOf
def askedJson (a : Studio.Asked) : Json :=
  let given key j : Named Json := j.elim [] fun v => [(key,v)]
  .obj ([("name",.str a.name),("message",.str a.message)] ++ given "choices" (a.choices.map .arr) ++
    given "valid" a.valid ++ [("answer",a.answer)])

def settingOf (input : Json) : Studio.Setting :=
  { layers := match input.get? "layers", input.get? "weight_names" with
      | some l, _ => some (Studio.namedLayers l)
      | none, some names => some (layersOf names)
      | none, none => none,
    trained := (input.get? "saved_model").map trainedOf,
    hub := (input.get? "hub").map hubOf,
    additions := (input "grappler").elems.map graphOf,
    hasGpu := isTrue input "gpu",
    devices := (input.get? "devices").elim ["CPU"] textsOf,
    programs := fieldsOf Json.strD (input "commands"),
    starting := (input.get? "w").map fun w => w.elems.map fun r => r.elems.map numberOf }

def expandWithin (defs : Json) : Nat → Json → Json
  | 0, j => j
  | fuel + 1, .obj fs =>
    match fs with
    | [("$def",.str name)] => expandWithin defs fuel (defs.getD name .null)
    | fs => .obj (fs.map fun (k,v) => (k,expandWithin defs fuel v))
  | fuel + 1, .arr xs => .arr (xs.map (expandWithin defs fuel))
  | _, j => j
end TensorKit.Exchange
