import TensorKit.Flow.Node

/-! # Graphs as messages

Fields without a value are left out; byte strings are written in base 64 and whole numbers in quotes.
-/
namespace TensorKit.Flow
def typeName : Element → String
  | .float16 => "DT_HALF"
  | .float32 => "DT_FLOAT"
  | .float64 => "DT_DOUBLE"
  | .object | .str | .bytes => "DT_STRING"
  | e => "DT_" ++ e.name.toUpper
variable (x : Float) (e : Element) (s : String) (g : Graph) (shape : Nats)
def shortSingle : Float :=
  if x.isNaN || x.isInf then x
  else
    match [6,7,8,9].find? (fun d => (Decimal.significant d x).toFloat32 == x.toFloat32) with
    | some d => Decimal.significant d x
    | none => x
def base64 : String := Base64.encode s.toUTF8
def dimJson (n : Nat) : Json := .obj (if n == 0 then [] else [("size",toString n)])
def tensorJson : Json :=
  let dims : Named Json := if shape.isEmpty then [] else [("tensorShape",.obj [("dim",.arr (shape.map dimJson))])]
  .obj (("dtype",typeName e) :: dims)
def numberJson : Json :=
  if x.isNaN then "NaN"
  else if x.isInf then if x < 0 then "-Infinity" else "Infinity"
  else .num (shortSingle x)

/-- An attribute in JSON; the elements of tensors are not written. -/
def AttrOf.json : Attr → Json
  | .unset => .obj []
  | .tensor g => .obj [("tensor",tensorJson g.element g.shape)]
  | .outline e shape => .obj [("tensor",tensorJson e shape)]
  | .texts xs => .obj [("list",.obj (if xs.isEmpty then [] else [("s",.arr (xs.map fun s => base64 s))]))]
  | .dtype name => .obj [("type",name)]
  | .text s => .obj [("s",base64 s)]
  | .float x => .obj [("f",numberJson x)]
  | .int n => .obj [("i",toString n)]
  | .bool b => .obj [("b",b)]

def NodeOf.json (n : Node) : Json :=
  let given key (empty : Bool) j : Named Json := if empty then [] else [(key,j)]
  .obj (given "name" n.name.isEmpty n.name ++ given "op" n.op.isEmpty n.op ++
    given "input" n.inputs.isEmpty (.arr (n.inputs.map .str)) ++
    given "device" n.device.isEmpty n.device ++
    given "attr" n.attrs.isEmpty (.obj (n.attrs.map fun (k,a) => (k,a.json))))
def graphJson : Json := .obj (if g.isEmpty then [] else [("node",.arr (g.map NodeOf.json))])

def quotedText : String :=
  let escaped c := match c with
    | '"' => "\\\""
    | '\'' => "\\'"
    | '\\' => "\\\\"
    | '\n' => "\\n"
    | '\r' => "\\r"
    | '\t' => "\\t"
    | c => .singleton c
  "\"" ++ s.foldl (fun acc c => acc ++ escaped c) "" ++ "\""

def indented (lines : Strings) : Strings := lines.map ("  " ++ ·)
def blockLines (head : String) (lines : Strings) : Strings := [head ++ " \x7b"] ++ indented lines ++ ["\x7d"]
def tensorLines : Strings :=
  [s!"dtype: {typeName e}"] ++ blockLines "tensor_shape"
    (shape.flatMap fun n => blockLines "dim" (if n == 0 then [] else [s!"size: {n}"]))

def AttrOf.lines : Attr → Strings
  | .unset => []
  | .tensor g => blockLines "tensor" (tensorLines g.element g.shape)
  | .outline e shape => blockLines "tensor" (tensorLines e shape)
  | .texts xs => blockLines "list" (xs.map fun s => "s: " ++ quotedText s)
  | .dtype name => [s!"type: {name}"]
  | .text s => ["s: " ++ quotedText s]
  | .float x => ["f: " ++ Decimal.Style.pointed.text (shortSingle x)]
  | .int n => [s!"i: {n}"]
  | .bool b => [s!"b: {b}"]

def NodeOf.text (n : Node) : String :=
  let attrs := n.attrs.mergeSort fun a b => !(b.1 < a.1)
  let lines := (if n.name.isEmpty then [] else ["name: " ++ quotedText n.name]) ++
    (if n.op.isEmpty then [] else ["op: " ++ quotedText n.op]) ++
    n.inputs.map (fun s => "input: " ++ quotedText s) ++
    (if n.device.isEmpty then [] else ["device: " ++ quotedText n.device]) ++
    attrs.flatMap fun (k,a) => blockLines "attr" (("key: " ++ quotedText k) :: blockLines "value" a.lines)
  .join (lines.map (· ++ "\n"))

/-! # Folding normalizations into convolutions

The factors of a normalization go into the weights of the convolution before it, and an addition is left. What folding
needs of arrays and numbers is given to it, so that it can also be done with exact numbers.
-/

/-- What a normalization takes, by the places of its inputs. -/
structure NormInputs where
  (conv mean var beta gamma : Nat)
  /-- The attribute that holds the number added to the variance. -/
  epsilon : String

def normInputs? : String → Option NormInputs
  | "BatchNormWithGlobalNormalization" => some ⟨0,1,2,3,4,"variance_epsilon"⟩
  | "FusedBatchNorm" | "FusedBatchNormV3" => some ⟨0,3,4,2,1,"epsilon"⟩
  | _ => none

variable {κ α : Type} (n : NodeOf κ α)
def scalesAfter : Bool :=
  if n.op == "BatchNormWithGlobalNormalization" then (n.attr "scale_after_normalization").bool? else true

/-- What folding needs of the arrays that constants hold, and of their numbers. -/
structure Arrays (κ α : Type) where
  /-- A constant as it is read. -/
  read : κ → κ
  shape : κ → Nats
  numbers : κ → List α
  (isEmpty isFloating : κ → Bool)
  like : κ → Nats → List α → κ
  near : κ → α → α
  root : α → Checked α
  missing : α
  text : NodeOf κ α → String

def rootOf : Checked Float := if x < 0 then .error (.plain .badValue) else .ok x.sqrt

def grids : Arrays Grid Float where
  read := .loosened
  shape := Grid.shape
  numbers := Grid.floats
  isEmpty g := g.cells.isEmpty
  isFloating g := g.element.isFloating
  like g := .ofFloats g.element
  near g := Weights.inPrecision g.element
  root := rootOf
  missing := Number.nan
  text := NodeOf.text

/-- The output channel of a weight at a flat place: its last index, or for one channel at a time its last two. -/
def channelAt (depthwise : Bool) (shape : Nats) (place : Nat) : Nat :=
  let inner := (shape.drop 4).foldl (· * ·) 1
  let last := shape.getD 3 1
  if depthwise then place / (inner * last) % shape.getD 2 1 * last + place / inner % last
  else place / inner % last
def constantOf (name : String) (dtype : AttrOf κ α) (g : κ) : NodeOf κ α :=
  { name, op := "Const", attrs := [("dtype",dtype),("value",.tensor g)] }

/-- A normalization behind a convolution with constant weights: the nodes that folding changes or reads, and
the numbers for all channels. -/
structure NormParts (κ α : Type) where
  (conv weights : NodeOf κ α)
  filter : κ
  channels : Nat
  meanNode : NodeOf κ α
  (mean var beta gamma : κ)

def isDepthwise : Bool := n.op == "DepthwiseConv2dNative"
def isConv : Bool := n.op == "Conv2D" || isDepthwise n
def offsetName (conv : NodeOf κ α) : String := conv.name ++ "_bn_offset"
def additionFor (node conv : NodeOf κ α) : NodeOf κ α :=
  { name := node.name, op := "BiasAdd", inputs := [conv.name,offsetName conv],
    attrs := [("T",conv.attr "T"),("data_format",conv.attr "data_format")] }

/-- The nodes that take the place of a normalization and of the weights and the convolution before it. -/
def NormParts.replacedBy (p : NormParts κ α) (node : NodeOf κ α) (filter offset : κ) : List (NodeOf κ α) :=
  [constantOf p.weights.name (p.weights.attr "dtype") filter,p.conv,
    constantOf (offsetName p.conv) (p.meanNode.attr "dtype") offset,additionFor node p.conv]

/-- What folding has done so far: the graph with the attributes that were asked for, the names of nodes that
go, and the nodes that take their place. -/
structure Folding (κ α : Type) where
  graph : GraphOf κ α
  gone : Strings := []
  made : List (NodeOf κ α) := []

namespace Arrays
variable (ar : Arrays κ α)
def channelCount (depthwise : Bool) (w : κ) : Checked Nat := match (ar.shape w)[2]?, (ar.shape w)[3]? with
  | some a, some b => .ok (if depthwise then a * b else b)
  | _, _ => .error (.plain .badIndex)

variable (g : GraphOf κ α) (node : NodeOf κ α) (at' : NormInputs)
/-- A constant with one number for each channel; otherwise a warning and nothing. -/
def channelValues (place : Nat) (role : String) (channels : Nat) : Pass (Option (NodeOf κ α × κ)) := do
  let op ← .ofExcept (Graph.inputOf g node place)
  if op.op != "Const" then
    .warn (s!"Didn't find expected {role} Constant input to '{node.name}', found " ++ ar.text op ++
      " instead. Maybe because freeze_graph wasn't run first?")
    return none
  let value ← .ofExcept (op.constant.map ar.read)
  if ar.shape value != [channels] then
    .warn (s!"Incorrect shape for {role}, found " ++ Grid.shapeText (ar.shape value) ++ ", expected " ++
      Grid.shapeText [channels] ++ s!", for node {node.name}")
    return none
  return some (op,value)

/-- The parts of a normalization, if it stands behind a convolution with constant weights and has constants
for all channels; otherwise a warning. -/
def normParts : Pass (Option (NormParts κ α)) := do
  let conv ← .ofExcept (Graph.inputOf g node at'.conv)
  if !isConv conv then
    .warn s!"Didn't find expected Conv2D or DepthwiseConv2dNative input to '{node.name}'"
    return none
  let weights ← .ofExcept (Graph.inputOf g conv 1)
  if weights.op != "Const" then
    .warn (s!"Didn't find expected conv Constant input to '{conv.name}', found " ++ ar.text weights ++
      " instead. Maybe because freeze_graph wasn't run first?")
    return none
  let filter ← .ofExcept (weights.constant.map ar.read)
  let channels ← .ofExcept (ar.channelCount (isDepthwise conv) filter)
  let some (meanNode,mean) ← ar.channelValues g node at'.mean "mean" channels | return none
  let some (_,var) ← ar.channelValues g node at'.var "var" channels | return none
  let some (_,beta) ← ar.channelValues g node at'.beta "beta" channels | return none
  let some (_,gamma) ← ar.channelValues g node at'.gamma "gamma" channels | return none
  return some { conv, weights, filter, channels, meanNode, mean, var, beta, gamma }

variable [Add α] [Mul α] [Div α] [Neg α] [OfNat α 0] [OfNat α 1] (s : Folding κ α)
def channelScales (var : κ) (epsilon : α) (gamma : Option (List α)) : Checked (List α) := do
  if ar.isEmpty var then throw (.plain .badValue)
  let roots ← (ar.numbers var).mapM fun v => ar.root (ar.near var (v + ar.near var epsilon))
  return roots.zipIdx.map fun (r,i) => match gamma with
    | some gs => 1 / r * gs.getD i ar.missing
    | none => 1 / r
def channelOffsets (mean scales beta : List α) : List α := (mean.zip (scales.zip beta)).map fun (m,s,b) => -m * s + b
def scaleWeights (depthwise : Bool) (w : κ) (scales : List α) : Checked κ := do
  if ar.isEmpty w then throw (.plain .badValue)
  if !ar.isFloating w then throw (.plain .noOperation)
  let factors := scales.toArray
  return ar.like w (ar.shape w) ((ar.numbers w).zipIdx.map fun (x,i) =>
    x * factors.getD (channelAt depthwise (ar.shape w) i) ar.missing)

/-- The weights with the factors of a normalization in them, and what is then added to the channels. -/
def foldedConstants (p : NormParts κ α) : Checked (κ × κ) := do
  let scales ← ar.channelScales p.var (node.attr at'.epsilon).float?
    (if scalesAfter node then some (ar.numbers p.gamma) else none)
  let scaled ← ar.scaleWeights (isDepthwise p.conv) p.filter scales
  let offsets := channelOffsets (ar.numbers p.mean) scales (ar.numbers p.beta)
  return (scaled,ar.like p.mean [p.channels] offsets)
def foldNorm (node : NodeOf κ α) (at' : NormInputs) : Pass (Folding κ α) := do
  let some p ← ar.normParts s.graph node at' | return s
  let (filter,offset) ← .ofExcept (ar.foldedConstants node at' p)
  let graph := Graph.update s.graph p.meanNode.name fun n => n.touch "dtype"
  let graph := Graph.update graph p.conv.name fun n => (n.touch "T").touch "data_format"
  return ⟨graph,s.gone ++ [node.name,p.weights.name,p.conv.name],s.made ++ p.replacedBy node filter offset⟩
def foldNode (node : NodeOf κ α) : Pass (Folding κ α) := match normInputs? node.op with
  | some at' => ar.foldNorm s node at'
  | none => pure s
def foldNorms : Pass (GraphOf κ α) := do
  .ofExcept (Graph.checkNames g)
  let s ← g.foldlM ar.foldNode { graph := g }
  return s.graph.filter (fun n => !s.gone.contains n.name) ++ s.made
end Arrays

def foldNorms : Pass Graph := grids.foldNorms g
end TensorKit.Flow
