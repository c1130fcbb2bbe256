import TensorKit.Decimal.Text
import TensorKit.Fault
import TensorKit.Text.Encoding

/-! # Graphs of operations

A node names the outputs it reads as `node` or `node:k`. It is listed among the children of an input once for each time
that it reads it.
-/
namespace TensorKit.Graph
inductive InputKind where
  | tensor | tensors | number | data
deriving DecidableEq

/-- A parameter that comes from inputs, from a place on and up to another. -/
structure InputParam where
  name : String
  kind : InputKind
  start : Int
  stop : Option Int
  typeName : String
deriving DecidableEq

structure Node (ν : Type) where
  (name op : String)
  /-- The family of the operation, none for one that is not known. -/
  category : Option String
  inputNames : Strings
  inputs : Strings := []
  children : Strings := []
  inputParams : List InputParam := []
  /-- Attributes by parameter, with the type each is declared to have. -/
  attrParams : List (String × String × ν) := []
  raw : ν
deriving DecidableEq
end TensorKit.Graph
namespace TensorKit
structure Graph (ν : Type) where
  nodes : List (Graph.Node ν)
  /-- Names of nodes without inputs, of those without children, of constants and of placeholders. -/
  inputs : Strings
  (outputs weights placeholders : Strings)
deriving DecidableEq
end TensorKit
namespace TensorKit.Graph
section
variable {ν : Type}
variable (g : Graph ν) (name : String) (nodes : List (Node ν)) (n : Node ν)
/-- The place of the last colon in a name. -/
def splitAtLastColon : Option (String × String) :=
  let cs := name.toList.reverse
  match cs.dropWhile (· != ':') with
  | [] => none
  | _ :: before => some (.ofList before.reverse,.ofList (cs.takeWhile (· != ':')).reverse)

/-- A node and the number of its output as it is written; the first one if no number is given. -/
def parseName : String × Float := match splitAtLastColon name with
  | none => (name,0)
  | some (node,i) => (node,(Decimal.readNumber i).getD (0.0 / 0.0))
def nodeOf : String := (parseName name).1
def indexOf? (x : Float) : Option Nat := if x >= 0 && x.floor == x && x.isFinite then some x.toUInt64.toNat else none
def outputOf? : Option Nat := match splitAtLastColon name with
  | none => some 0
  | some (_,i) => (Decimal.readNumber i).bind indexOf?
def find? : Option (Node ν) := g.nodes.find? (·.name == name)
def inputsOf : Strings := (find? g name).elim [] (·.inputs)
def childrenOf : Strings := (find? g name).elim [] (·.children)
def putNode : List (Node ν) :=
  if nodes.any (·.name == n.name) then nodes.map fun m => if m.name == n.name then n else m
  else nodes ++ [n]
def targets : Strings := n.inputNames.map nodeOf

/-- Connects nodes by the names that they read. A name that no node has is given back. -/
def connect : Except String (List (Node ν)) :=
  match (nodes.flatMap targets).find? fun i => !nodes.any (·.name == i) with
  | some i => .error i
  | none => .ok (nodes.map fun n => { n with
      inputs := targets n
      children := nodes.flatMap fun m => .replicate ((targets m).count n.name) m.name })

def ofNodes (defined : List (Node ν)) : Except String (Graph ν) := do
  let nodes ← connect (defined.foldl putNode [])
  return {
    nodes
    inputs := (nodes.filter (·.inputs.isEmpty)).map (·.name)
    outputs := (nodes.filter (·.children.isEmpty)).map (·.name)
    weights := (defined.filter (·.op == "Const")).map (·.name)
    placeholders := (defined.filter (·.op == "Placeholder")).map (·.name) }

def controlFlowOps : Strings := ["Switch","Merge","Enter","Exit","NextIteration"]
def dynamicShapeOps : Strings := ["NonMaxSuppressionV2","NonMaxSuppressionV3","Where"]
def Node.isControlFlow : Bool := controlFlowOps.contains n.op

/-- An operation that a plain run cannot do. -/
def Node.isDynamic : Bool := n.isControlFlow || dynamicShapeOps.contains n.op
def Node.isControl : Bool := n.category == some "control"

/-! # What a run needs

Backwards from the outputs, the nodes up to those that are given. Forwards, an order in which inputs come first.
-/

variable (isGiven : String → Bool) (used outputs : Strings)
/-- Inputs that were not seen yet, the last one first. -/
def unseen (seen inputs : Strings) : Strings :=
  inputs.foldl (fun new i => if new.contains i || seen.contains i then new else i :: new) []
def visitWithin (g : Graph ν) (isGiven : String → Bool) : Nat → Strings → Strings → Strings → Strings
  | fuel + 1, visited, seen, name :: frontier =>
    let new := if isGiven name then [] else unseen seen (inputsOf g name)
    visitWithin g isGiven fuel (visited ++ [name]) (new ++ seen) (new ++ frontier)
  | _, visited, _, _ => visited
def visits : Strings := visitWithin g isGiven (g.nodes.length + outputs.length) [] [] outputs.reverse
def missing : Strings := (visits g isGiven outputs).filter fun v => !isGiven v && (inputsOf g v).isEmpty

/-- The first node found that a plain run cannot do. -/
def dynamicNode? : Option (Node ν) := (visits g isGiven outputs).findSome? fun v => (find? g v).filter (·.isDynamic)

/-- The nodes to be fed so that a plain run can do without a node: those that read it and were found before it. -/
def syncInputs : Strings := n.children.filter ((visits g isGiven outputs).takeWhile (· != n.name)).contains
def isReady (used done : Strings) (name : String) : Bool :=
  !done.contains name && used.contains name && (inputsOf g name).all done.contains
def orderWithin (g : Graph ν) (used : Strings) : Nat → Strings → Strings → Strings
  | fuel + 1, done, name :: frontier =>
    orderWithin g used fuel (name :: done)
      (((childrenOf g name).filter (isReady g used (name :: done))).reverse ++ frontier)
  | _, done, _ => done.reverse
def edgeCount : Nat := (g.nodes.flatMap (·.children)).length

/-- Used nodes in an order in which inputs come first, from those that are fed and the weights. A node that reads
another twice is there twice. -/
def topologicalOrder (fed : Strings) : Strings :=
  let start := (fed ++ g.weights).filter used.contains
  orderWithin g used (g.nodes.length * (edgeCount g + 1) + start.length) [] start.reverse
end

/-! # Running graphs

A result that is neither fed, nor a weight, nor asked for is disposed once all nodes that read it have run.
-/
/-! ## Contexts of loops

A value belongs to an iteration of a frame. The name of a context lists the iterations, outermost first; values are
looked up from the innermost context outwards.
-/

structure FrameInfo where
  id : Nat
  frameName : String
  iterationId : Nat
deriving DecidableEq

abbrev Frames := List FrameInfo

structure Context where
  frames : Frames
  lastId : Nat
  /-- Names of the current context and of those around it, innermost first. -/
  ids : Strings

namespace Context
def root : FrameInfo := ⟨0,"",0⟩
def FrameInfo.label (f : FrameInfo) : String :=
  if f.id == 0 && f.iterationId == 0 then "" else f.frameName ++ "-" ++ toString f.iterationId

variable (c : Context) (frames : Frames)
def idOf : String := "/".intercalate (frames.map FrameInfo.label)
def idsOf : Strings := ((List.range (frames.length - 1)).map fun i => idOf (frames.take (frames.length - i))) ++ [""]
def start : Context := ⟨[root],0,idsOf [root]⟩
def current : String := c.ids.headD ""
def goTo : Context := if c.frames = frames then c else { c with frames, ids := idsOf frames }
def enterFrame (name : String) : Context :=
  let frames := c.frames ++ [⟨c.lastId + 1,name,0⟩]
  ⟨frames,c.lastId + 1,idOf frames :: c.ids⟩
def exitFrame : Tried Context :=
  if c.frames.length > 1 then .ok { c with frames := c.frames.dropLast, ids := c.ids.drop 1 }
  else .error (.failure "Cannot exit frame, the context is empty")
def nextIteration : Tried Context := match c.frames.getLast? with
  | none => .error (.failure "Cannot increase frame iteration, the context is empty")
  | some f =>
    let frames := c.frames.dropLast ++ [⟨c.lastId + 1,f.frameName,f.iterationId + 1⟩]
    .ok ⟨frames,c.lastId + 1,idOf frames :: c.ids.drop 1⟩
end Context

variable (name : String)
def scopedName (context : String) : String := if context.isEmpty then name else name ++ "-" ++ context

/-- Results of nodes by name and context; an operation may leave a result out. -/
abbrev Results (τ : Type) := List (String × List (Option τ))

/-- What an operation gives: results at once, or results that are there only after all others that can
run have run. -/
inductive Given (τ : Type) where
  | now (results : List (Option τ))
  | later (rank : Nat) (results : List (Option τ))

structure Machine (m : Type → Type) (ν τ : Type) where
  key : τ → Nat
  run : Node ν → Results τ → Context → m (Given τ × Context)
  dispose : τ → m Unit
  /-- Disposes a tensor that is not disposed yet. -/
  release : τ → m Unit
  isConstantEnter : Node ν → Bool

variable {m : Type → Type} [Monad m] [MonadExceptOf Fault m] {ν τ : Type} (key : τ → Nat) (r : Results τ)
def Results.put (name : String) (v : List (Option τ)) : Results τ := (name,v) :: r.filter (·.1 != name)
def pick (xs : List (Option τ)) : Option τ := ((outputOf? name).bind fun i => xs[i]?).join

/-- The output that a name asks for, from the innermost context that has the node. -/
def getTensor (c : Context) : Option τ :=
  (c.ids.findSome? fun id => r.lookup (scopedName (nodeOf name) id)).bind (pick name)
abbrev Counts := List (Nat × Nat)
def Counts.erase (c : Counts) (k : Nat) : Counts := c.filter (·.1 != k)
def Counts.set (c : Counts) (k n : Nat) : Counts := (k,n) :: c.erase k

structure Progress (τ : Type) where
  results : Results τ
  counts : Counts := []

def addReaders (readers : Nat) (counts : Counts) (t : τ) : Counts :=
  counts.set (key t) ((counts.lookup (key t)).getD 0 + readers)

variable (mach : Machine m ν τ) (g : Graph ν) (isKept : Nat → Bool) (fed used outputs : Strings) (steps : Nat)
/-- One reader less for a tensor; a tensor without readers is disposed. -/
def dropReader (counts : Counts) (t : τ) : m Counts := do
  let k := mach.key t
  if isKept k then return counts
  match counts.lookup k with
  | none => return counts
  | some 1 => do
    mach.dispose t
    return counts.erase k
  | some n => return counts.set k (n - 1)

/-- After a node has run: its results get readers, and its inputs lose one. -/
def settle (c : Context) (here : String) (n : Node ν) (p : Progress τ) : m (Progress τ) := do
  if n.isControl || outputs.contains here then return p
  let resultsAt name := ((p.results.lookup name).getD []).filterMap id
  let read := n.inputs.filter fun i => (find? g i).any (!·.isControl)
  let counts ← (read.flatMap fun i => resultsAt (scopedName i c.current)).foldlM (dropReader mach isKept)
    ((resultsAt here).foldl (addReaders mach.key n.children.length) p.counts)
  return { p with counts }
def keysOf (r : Results τ) : Nats := r.flatMap fun (_,ts) => ts.filterMap (·.map key)
def promised (op : String) : Fault :=
  .failure s!"The execution of the op '{op}' returned a promise. Please use model.executeAsync() instead."

def runNext (p : Progress τ) (name : String) : m (Progress τ) := do
  let some n := find? g name | return p
  if (p.results.lookup name).isSome then return p
  match ← mach.run n p.results .start with
  | (.later ..,_) => throwThe Fault (promised n.op)
  | (.now ts,_) => settle mach g isKept outputs .start name n { p with results := p.results.put name ts }

def runInOrder (order outputs : Strings) (start : Results τ) : m (Results τ) := do
  let p ← order.foldlM (runNext mach g (keysOf mach.key start).contains outputs) { results := start }
  return p.results

/-! ## Plans

The order for a run without control flow is kept for later calls with the same fed nodes and outputs.
-/

def commas (names : Strings) : String := ",".intercalate names
def sortNames (xs : Strings) : Strings := xs.mergeSort fun a b => !Text.less b a
abbrev Plans := List (String × Strings)
def planKey (nodes : Strings) : String := commas (sortNames fed) ++ "--" ++ commas (sortNames nodes)
def missingInputs (nodes missing : Strings) : Fault :=
  .failure (s!"Cannot compute the outputs [{commas nodes}] from the provided inputs [{commas fed}]. " ++
    s!"Missing the following inputs: [{commas missing}]")

def plan (weights fed nodes : Strings) : Tried Strings :=
  let isGiven n := weights.contains n || fed.contains n
  match dynamicNode? g isGiven nodes with
  | some d =>
    .error (.failure (s!"This execution contains the node '{d.name}', which has the dynamic op '{d.op}'. Please use " ++
      "model.executeAsync() instead. Alternatively, to avoid the dynamic ops, specify the inputs " ++
      s!"[{commas (syncInputs g d isGiven nodes)}]"))
  | none =>
    match missing g isGiven nodes with
    | [] => .ok (topologicalOrder g (visits g isGiven nodes) fed)
    | names => .error (missingInputs fed nodes names)

def startResults (weights fed : Results τ) : Results τ := fed.foldl (fun r (name,ts) => r.put name ts) weights

/-- A run for outputs or why there is none, and the plans that are known then. -/
def execute (weights fed : Results τ) (outputs : Strings) (plans : Plans) : Tried (m (List (Option τ))) × Plans :=
  let names := fed.map (·.1)
  let nodes := outputs.map nodeOf
  let run order := do
    let r ← runInOrder mach g order outputs (startResults weights fed)
    return outputs.map (getTensor · r .start)
  match plans.lookup (planKey names nodes) with
  | some order => (.ok (run order),plans)
  | none =>
    match plan g (weights.map (·.1)) names nodes with
    | .ok order => (.ok (run order),(planKey names nodes,order) :: plans)
    | .error fault => (.error fault,plans)

/-! ## Runs with control flow -/

structure Flow (τ : Type) where
  progress : Progress τ
  context : Context
  /-- Nodes to run with their contexts, the next one first. -/
  stack : Named Frames
  added : Strings := []
  /-- Results that are not there yet: their order, name, node and context. -/
  pending : List (Nat × String × String × Frames × List (Option τ)) := []

/-- Takes up a node that can run and was not taken up yet. -/
def pushReady (f : Flow τ) (child : String) : Flow τ := match find? g child with
  | none => f
  | some c =>
    let here := scopedName child f.context.current
    let has name := (getTensor name f.progress.results f.context).isSome
    if !f.added.contains here && used.contains child &&
        (if c.op == "Merge" then c.inputNames.any has else c.inputNames.all has) then
      { f with added := here :: f.added, stack := (child,f.context.frames) :: f.stack }
    else f

def arrive (here : String) (n : Node ν) (ts : List (Option τ)) (f : Flow τ) : m (Flow τ) := do
  let p := { f.progress with results := f.progress.results.put here ts }
  let progress ← settle mach g isKept outputs f.context here n p
  return n.children.foldl (pushReady g used) { f with progress }

def flowStep (name : String) (frames : Frames) (f : Flow τ) : m (Flow τ) := do
  let some n := find? g name | return f
  let f := { f with context := f.context.goTo frames }
  if fed.contains name then return n.children.foldl (pushReady g used) f
  let outside := scopedName (nodeOf name) f.context.current
  let (given,context) ← mach.run n f.progress.results f.context
  let f := { f with context }
  let here := if n.op == "Enter" && mach.isConstantEnter n then outside
    else scopedName (nodeOf name) context.current
  match given with
  | .now ts => arrive mach g isKept used outputs here n ts f
  | .later rank ts => return { f with pending := f.pending ++ [(rank,here,name,context.frames,ts)] }

/-- Lets all pending results arrive, those of a lower rank first. -/
def settlePending (f : Flow τ) : m (Flow τ) := do
  let pending := f.pending.mergeSort fun a b => a.1 ≤ b.1
  pending.foldlM (fun f (_,here,name,frames,ts) => do
    match find? g name with
    | none => return f
    | some n => arrive mach g isKept used outputs here n ts { f with context := f.context.goTo frames })
    { f with pending := [] }

/-- Steps while there are any; the pending results come when the stack is empty. -/
def flowWithin (mach : Machine m ν τ) (g : Graph ν) (isKept : Nat → Bool) (fed used outputs : Strings) :
    Nat → Flow τ → m (Flow τ)
  | 0, _ => throwThe Fault ⟨.exhausted,"The graph did not come to an end."⟩
  | fuel + 1, f => do
    match f.stack with
    | (name,frames) :: rest =>
      flowWithin mach g isKept fed used outputs fuel
        (← flowStep mach g isKept fed used outputs name frames { f with stack := rest })
    | [] =>
      if f.pending.isEmpty then return f
      flowWithin mach g isKept fed used outputs fuel (← settlePending mach g isKept used outputs f)

/-- A run of so many steps at most, from the fed nodes and the weights on. -/
def runFlow (start : Results τ) : m (Flow τ) :=
  let stack := (fed ++ g.weights).reverse.map fun n => (n,Context.start.frames)
  flowWithin mach g (keysOf mach.key start).contains fed used outputs steps
    { progress := { results := start }, context := .start, stack }
def missingOutputs (missing needed : Strings) (hint : String) : Fault :=
  .failure (s!"Cannot compute the outputs [{commas missing}] from the provided inputs [{commas fed}]. Consider " ++
    s!"providing the following inputs: [{commas needed}]. {hint}")

/-- A run with control flow. What it has made besides its outputs is disposed. -/
def executeFlow (weights fed : Results τ) (outputs : Strings) : m (List (Option τ)) := do
  let names := fed.map (·.1)
  let nodes := outputs.map nodeOf
  let isGiven n := (weights.map (·.1)).contains n || names.contains n
  let flow ← runFlow mach g names (visits g isGiven nodes) outputs steps (startResults weights fed)
  let r := flow.progress.results
  let absent := nodes.filter fun o => (find? g o).any (!·.isControlFlow) && (getTensor o r flow.context).isNone
  if !absent.isEmpty then
    let hint := (dynamicNode? g isGiven nodes).elim "" fun d =>
      "Alternatively, to avoid the dynamic ops, use model.execute() and specify the inputs " ++
        s!"[{commas (syncInputs g d isGiven nodes)}]"
    throwThe Fault (missingOutputs names absent (missing g isGiven nodes) hint)
  let results := outputs.map (getTensor · r flow.context)
  if results.any (·.isNone) then throwThe Fault (.noMember "id")
  let kept := results.filterMap (·.map mach.key) ++ keysOf mach.key fed ++ keysOf mach.key weights
  (r.flatMap fun (_,ts) => ts.filterMap id).forM fun t => if kept.contains (mach.key t) then pure () else mach.release t
  return results
end TensorKit.Graph
