import TensorKit.Script.Run

/-! # Answers -/
namespace TensorKit.Script
open Engine
def numberJson (x : Float) : Json :=
  if x.isNaN then "NaN"
  else if x.isInf then if x > 0 then "Infinity" else "-Infinity"
  else .num x
def shapeJson (s : Shape) : Json := .arr (s.map fun (n : Nat) => .int n)
def plainJson (v : Value) : Json := match v with
  | .num x => numberJson x
  | .str s => s
  | .bool b => b
  | _ => .null

def tensorJson (t : Tensor) : Eng Json := do
  if ← isDisposed t then return .obj [("disposed",true)]
  let values ← tensorValues t
  let fields := [("dtype",.str t.dtype.name),("shape",shapeJson t.shape),
    ("values",.arr (values.toList.map plainJson))]
  let some v ← variableInfo t | return .obj fields
  return .obj (fields ++ [("variable",.str v.name),("trainable",.bool v.trainable)])

def bufferJson (b : TensorBuffer) : Json :=
  .obj [("buffer",.obj [("dtype",b.dtype.name),("shape",shapeJson b.shape),
    ("values",.arr (b.values.toList.map plainJson))])]
def titled (name : String) : Json := .obj [("object",name)]

def objectJson (kind : ObjectKind) (id : Nat) : Script Json := do
  match kind with
  | .buffer => return bufferJson (← bufferAt id)
  | .optimizer => return titled ((← optimizerAt id).method.className ++ "Optimizer")
  | .tensorArray => return titled "TensorArray"
  | .graphContext => return titled "ExecutionContext"
  | .graphModel => return titled "GraphModel"
  | .dataset => return titled "Dataset"
  | .iterator => return titled ((← streamAt id).kind ++ "Iterator")
  | .ring => return titled (if (← ringAt id).grows then "GrowingRingBuffer" else "RingBuffer")
  | .layer => return titled (← layerAt id).className
  | .node => return titled "Node"
  | .callback => return titled (← callbackAt id).className
  | .callbackList => return titled "CallbackList"
  | .feedDict => return titled "FeedDict"
  | .symbolic =>
    let s ← symbolicAt id
    return .obj [("symbolic",.arr (s.dims.map (·.elim .null numberJson))),
      ("dtype",plainJson s.dtype),("name",s.name.elim .null .str)]
  | .layerVariable =>
    let v ← variableAt id
    return .obj [("layerVariable",v.name),("trainable",v.trainable),
      ("shape",shapeJson v.tensor.shape),("dtype",v.dtype)]
  | _ => return titled "Object"

def isNamed (function : String) : Bool := function ∉ ["customGrad","io.weightsLoader"]

def answer : Value → Script Json
  | .absent | .null => return .null
  | .bool b => return b
  | .num x => return numberJson x
  | .str s => return s
  | .list xs => return .arr (← xs.mapM answer)
  | .record fs => return .obj (← (fs.filter fun f => !f.2.isFunction).mapM fun f => return (f.1,← answer f.2))
  | .tensor t => tensorJson t
  | .typed k xs => return .obj [("typed",k.title),("values",.arr (xs.toList.map numberJson))]
  | .bytes d => return .obj [("bytes",Json.hex d.toList)]
  | .closure .. => return .obj [("function","")]
  | .native name _ => return .obj [("function",if isNamed name then name else "")]
  | .object kind id => objectJson kind id
  | .item "Set" fs => return .obj [("set",.arr ((Graph.sortNames (fs.map (·.1))).map .str))]
  | .item name _ => return titled name
  | .classRef name => return .obj [("function",name)]
  | .promise v => answer v
decreasing_by all_goals grind [→ List.sizeOf_lt_of_mem]

inductive Outcome where
  | quiet
  | result (value : Json)
  | fault (f : Fault)

def stepOutcome (step : Step) (w : World) : Outcome × World :=
  let run : M (Option Json) := do
    let v ← runStep 0 true step host
    if step.quiet then return none else return some (← answer v host)
  match run w with
  | .ok none w => (.quiet,w)
  | .ok (some j) w => (.result j,w)
  | .error f w => (.fault f,w)

def runProgram (steps : List Step) : List Outcome :=
  (steps.foldl (fun (out,w) s =>
    let (o,w) := stepOutcome s w
    (out.push o,w)) (#[],.start)).1.toList
end TensorKit.Script
