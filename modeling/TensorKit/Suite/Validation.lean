import TensorKit.Suite.Recipes

/-! # The validation suite -/
namespace TensorKit.Suite.Validation
open Studio (Job)
def tensor (value : Json) (shape : Ints) (dtype : String) : Json :=
  .obj [("value",value),("shape",.arr (shape.map .int)),("dtype",dtype)]

structure Task where
  isAsync : Bool := false
  (inputs outputs : Named Json)

def Task.fields (t : Task) : Named Json := [("inputs",.obj t.inputs),("outputs",.obj t.outputs),("async",t.isAsync)]
def product (a b : List (List Float32)) : List (List Float32) :=
  let width := (b.headD []).length
  a.map fun row => (List.range width).map fun j => (row.zip b).foldl (fun acc (x,r) => acc + x * r.getD j 0) 0
def ones : List (List Float32) := [[1,1],[1,1]]
def factor : List (List Float32) := [[37,-23],[1,4]]
def matrixJson (m : List (List Float32)) : Json := .arr (m.map fun r => .arr (r.map (.num ·.toFloat)))
def startValue : Job (List (List Float32)) := do
  let some rows := (← read).starting | return [[1,0],[0,1]]
  if rows.length != 2 then throw (.plain .badValue)
  return rows.map (·.map Float.toFloat32)

variable (folder : String)
def ofGraph : Job Task := do
  .note "placeholder Placeholder [2, 2] float32"
  .note "run None"
  let output := product (product ones factor) (← startValue)
  let signatures : Json := .obj [("serving_default",.obj [
    ("inputs",.obj [("input","Placeholder:0")]),("outputs",.obj [("output","MatMul:0")])])]
  .note ("add_meta_graph ['serve'] " ++ signatures.spaced ++ " None")
  leaveModel folder
  return { inputs := [("Placeholder",tensor (.arr [.arr [1,1],.arr [1,1]]) [2,2] "float32")],
           outputs := [("MatMul_1",tensor (matrixJson output) [2,2] "float32")] }

def ofFunction : Job Task := do
  .note "concrete [6.0]"
  .note "save ['f', 'v1', 'v2'] True"
  leaveModel folder
  return { inputs := [("x",tensor (.arr [1]) [1] "float32")],
           outputs := [("Identity:0",tensor (.arr [6]) [1] "float32")] }
def nextOdd (v : Int) : Int := if (v + 1) % 2 == 0 then v + 2 else v + 1

def ofLoop : Job Task := do
  .note "spec [] int32"
  .note s!"concrete {nextOdd 3}"
  .note "save ['f'] True"
  leaveModel folder
  .say "<inputs>"
  .say "<outputs>"
  return { isAsync := true, inputs := [("v",tensor (.int 3) [] "int32")],
           outputs := [("Identity:0",tensor (.arr [5]) [] "int32")] }

def validate (name description : Json) (make : String → Job Task) (folder : String) : Job Json := do
  clear folder
  let _ ← facts
  let task ← throughFolder make folder
  let about : Named Json := [("taskType","model"),("modelFormat","GraphModel"),("modelName",name),
    ("modelDescription",description),("functionName","predict")]
  return .obj [("predict",.obj (about ++ task.fields))]
def suite : Named ((String → Job Task) × String) :=
  [("saved_model_v1",ofGraph,"Saved model v1"),
   ("saved_model_v2",ofFunction,"Saved model v2"),
   ("saved_model_v2_control_flow",ofLoop,"Saved model v2 with control flow")]
def run (args : Strings) : Job Unit := do
  let root ← rootOf [] args
  let known ← facts
  sayFacts known
  let data ← suite.mapM fun (name,make,description) => do
    return (name,← validate name description make (Files.join root name))
  writeLog (Files.join root "validations.json") data known
end TensorKit.Suite.Validation
