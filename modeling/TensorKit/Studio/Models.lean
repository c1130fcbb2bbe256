import TensorKit.Flow.Node
import TensorKit.Files.Layout

/-! # The studio

What a job asks of the frameworks around it is logged.
-/
namespace TensorKit.Studio

/-! ## The setting of a job -/

/-- How the variables of a trained model can be made constants. -/
inductive Freezing where
  | byFunction | bySession | impossible
deriving DecidableEq

/-- A trained model: the nodes of its graph, and the tensors that each signature gives. -/
structure Trained where
  nodes : Flow.Graph
  signatures : Named Strings := []
  tags : Strings := ["serve"]
  version : Json := "2.0.0"
  freezing : Freezing := .byFunction

structure Feed where
  shape : Json := .null
  dtype : Json := .null
  sparse : Bool := false

structure Given where
  tensor : String
  sparse : Bool := false

structure Contract where
  inputs : Named Feed := []
  outputs : Named Given := []

structure Hub where
  nodes : Flow.Graph
  signatures : Named Contract := []
  places : Named String := []

/-- A tensor in the description of a trained model; a shape may be unknown. -/
structure Slot where
  name : String
  dtype : String := "DT_INVALID"
  shape : Option Ints := none

/-- What the description of a trained model says about one of its graphs. -/
structure MetaGraph where
  tags : Strings := []
  identifier : Option String := none
  signatures : Named (Named Slot × Named Slot) := []

structure Setting where
  layers : Option (Named Strings) := none
  trained : Option Trained := none
  described : Option (List MetaGraph) := none
  hub : Option Hub := none
  additions : List Flow.Graph := []
  hasGpu : Bool := false
  devices : Strings := ["CPU"]
  programs : Named String := []
  starting : Option (List Floats) := none

def frameworkVersion : String := "stub"

/-- A question that was asked, with the answer that was taken. -/
structure Asked where
  (name message : String)
  choices : Option (List Json) := none
  valid : Option Json := none
  answer : Json

structure Studio extends Files.Desk where
  log : Strings := []
  collections : Named String := []
  runs : Nat := 0
  temporaries : Nat := 0
  ticks : Nat := 0
  answers : Named (List Json) := []
  asked : List Asked := []
  failures : List Refusal := []
  commands : List Strings := []

variable (α : Type)
abbrev Job := ReaderT Setting (EStateM Refusal Studio)

variable {α}
namespace Job
def refuse (cause : Cause) (message : String) : Job α := throw (.because cause message)
def ofExcept : Checked α → Job α
  | .ok a => pure a
  | .error e => throw e
def ofWork (work : Files.Work α) : Job α := fun _ s =>
  match work.run s.toDesk with
  | .ok a d => .ok a { s with toDesk := d }
  | .error e d => .error e { s with toDesk := d }
def ofPass (pass : Flow.Pass α) : Job α := fun _ s =>
  match pass.run s.log with
  | .ok a log => .ok a { s with log }
  | .error e log => .error e { s with log }
instance : MonadLift Checked Job := ⟨ofExcept⟩
instance (priority := low) : MonadLift Files.Work Job := ⟨ofWork⟩
def note (text : String) : Job Unit := modify fun s => { s with log := s.log ++ [text] }
def say (line : String) : Job Unit := ofWork (.say line)
def tree : Job Files.Tree := return (← get).tree
def setTree (t : Files.Tree) : Job Unit := modify fun s => { s with tree := t }
def thenAlways (job : Job α) (after : Job Unit) : Job α := do
  let a ← try job catch e => do
    after
    throw e
  after
  return a
def scratch : String := "$SCRATCH"
def freshPath (ending : String) : Job String := do
  let s ← get
  set { s with temporaries := s.temporaries + 1 }
  return Files.join scratch s!"tmp{s.temporaries}{ending}"
def freshFolder : Job String := do
  let path ← freshPath ""
  Files.Work.makeFolders path
  return path
def leftOver (t : Files.Tree) : Nat := (t.names scratch).length
def now : Job Float := do
  let s ← get
  set { s with ticks := s.ticks + 1 }
  return 1000.25 + 0.25 * .ofNat s.ticks
end Job

/-! # Models in files

A model is kept in an archive, or in a folder as JSON with its topology, layers and values.
-/

open Convert (Model)
open Files (Work)
def deal : Named Strings → List Grid → Named (Strings × List Grid)
  | [], _ => []
  | (layer,names) :: rest, values => (layer,names,values.take names.length) :: deal rest (values.drop names.length)
def layerGroup (names : Strings) (values : List Grid) : Archive :=
  .make [("weight_names",.arr (names.map .str))] ((names.zip values).map fun (n,g) => (n,.data g))
variable (m : Model)
def keptLayers : Named (Strings × List Grid) :=
  m.values.elim (m.layers.map fun (layer,_) => (layer,[],[])) (deal m.layers)
def attributes : Named String :=
  [("keras_version","2.2.4-tf"),("backend","tensorflow"),("model_config",m.topology.spaced)]
def modelArchive : Archive :=
  .make ((attributes m).map fun (k,s) => (k,s))
    [("model_weights",.make [] ((keptLayers m).map fun (layer,names,gs) => (layer,layerGroup names gs)))]
def archiveSize : Nat :=
  Files.Layout.sizeOf (attributes m) "model_weights" "weight_names" ((keptLayers m).map fun (layer,names,gs) =>
    (layer,(names.zip gs).map fun (n,g) => (n,g.toBytes.length)))
def saveArchive (path : String) : Work Unit := .write path (.archive (modelArchive m) (archiveSize m))

def layerValues (layer : Archive) : Checked (Strings × List Grid) := do
  let some listed := layer.attr? "weight_names" | throw .missingKey
  let names ← Convert.nameList listed
  let values ← names.mapM fun n => match layer.at? n with
    | some (.data g) => .ok g
    | some (.group _ _) => .error .badType
    | none => .error .missingKey
  return (names,values)

def ofArchive (a : Archive) : Checked Model := do
  let topology ← Convert.parsed (← Convert.needText a "model_config")
  let some (.group _ items) := a.member? "model_weights" | throw .missingKey
  let layers ← items.mapM fun (name,layer) => return (name,← layerValues layer)
  return { topology, layers := layers.map fun (l,names,_) => (l,names),
           values := some (layers.flatMap fun (_,_,values) => values) }

def openModel (path : String) : Work Model := do
  match ← .read path with
  | .archive a _ => ofArchive a
  | .bytes _ => throw (.plain .system)
def nested : Nats → List Json → Json
  | [], xs => xs.headD .null
  | n :: shape, xs =>
    let size := shape.foldl (· * ·) 1
    .arr ((List.range n).map fun i => nested shape ((xs.drop (i * size)).take size))

def valueJson (g : Grid) : Json :=
  nested g.shape (g.cells.map fun c => match g.element.datum c with
    | .truth b => b
    | .whole n => n
    | .real x => .num x
    | .complex re _ => .num re
    | .label (.text s) => s
    | .label _ => .null)

def nestedShape : Json → Nats
  | .arr [] => [0]
  | .arr (x :: xs) => (xs.length + 1) :: nestedShape x
  | _ => []
def nestedNumbers : Json → Floats
  | .arr xs => xs.flatMap nestedNumbers
  | .int n => [.ofInt n]
  | .num x => [x]
  | .bool b => [if b then 1.0 else 0.0]
  | _ => []

def gridOfNested (j : Json) : Grid := .ofFloats .float32 (nestedShape j) (nestedNumbers j)
def exportedFile : String := "keras.json"

def exportModel (folder : String) (servingOnly : Bool) : Job Unit := do
  .note ("export_saved_model " ++ if servingOnly then "True" else "False")
  Work.ensureFolder folder
  Work.writeJson (Files.join folder exportedFile) (.obj [("topology",m.topology),
    ("layers",.arr (m.layers.map fun (l,names) => .arr [l,.arr (names.map .str)])),
    ("values",m.values.elim .null fun values => .arr (values.map valueJson))])

def namedLayers (layers : Json) : Named Strings :=
  layers.elems.map fun l => match l.elems with
    | [name,names] => (name.strD,names.elems.map Json.strD)
    | _ => ("",[])

def importModel (folder : String) : Work Model := do
  let j ← Convert.readJson (Files.join folder exportedFile)
  let topology ← Weights.need j "topology"
  let layers ← Weights.need j "layers"
  let values ← Weights.need j "values"
  return { topology, layers := namedLayers layers, values := match values with
    | .arr vs => some (vs.map gridOfNested)
    | _ => none }

def makerOf (s : Setting) (topology : Json) : Model := { topology, layers := s.layers.getD [] }
end TensorKit.Studio
