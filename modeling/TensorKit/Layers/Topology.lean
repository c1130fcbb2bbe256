import TensorKit.Fault

/-! # The layers between inputs and outputs

Each call gets a depth that is greater than that of all calls that take its outputs, and a layer has the depth of its
deepest call. Calls are known by their numbers.
-/
namespace TensorKit.Layers
/-- A call of a layer: the calls whose outputs it takes, and the tensors that go in and come out. -/
structure LayerCall where
  layer : Nat
  (sources inputs outputs : Nats)
deriving Inhabited

abbrev Calls := Nat → LayerCall

namespace Topology
inductive Problem where
  /-- A call takes an output of its own, through others. -/
  | cycle (call : Nat)
  /-- A call takes a tensor that cannot be computed from the inputs. -/
  | disconnected (tensor call : Nat) (before : Nats)
deriving DecidableEq

/-- The calls reached so far, as they were finished, and the layers as they were met. -/
structure Search where
  finished : Nats := []
  inProgress : Nats := []
  layers : Nats := []

def Search.enter (s : Search) (call layer : Nat) : Search :=
  { s with
    inProgress := s.inProgress ++ [call]
    layers := if s.layers.contains layer then s.layers else s.layers ++ [layer] }
def Search.leave (s : Search) (call : Nat) : Search :=
  { s with finished := s.finished ++ [call], inProgress := s.inProgress.filter (· != call) }

/-- Goes from a call to all it depends on. A path without repetition is no longer than there are calls,
which bounds the recursion. -/
def explore (calls : Calls) : Nat → Search → Nat → Except Problem Search
  | 0, s, _ => .ok s
  | bound + 1, s, n =>
    if s.inProgress.contains n then .error (.cycle n)
    else if s.finished.contains n then .ok s
    else do
      let s ← (calls n).sources.foldlM (explore calls bound) (s.enter n (calls n).layer)
      return s.leave n

/-! ## Depths -/

variable (entries : List (Nat × Nat)) (calls : Calls)
def depthOf (n : Nat) : Nat := (entries.lookup n).getD 0

structure Depths where
  calls : List (Nat × Nat) := []
  layers : List (Nat × Nat) := []

def sink (depth : Nat) (d : Depths) (source : Nat) : Depths :=
  { d with calls := d.calls.put source (max (depth + 1) (depthOf d.calls source)) }
def place (d : Depths) (n : Nat) : Depths :=
  let layer := (calls n).layer
  let depth := max (depthOf d.calls n) (depthOf d.layers layer)
  (calls n).sources.foldl (sink depth) { calls := d.calls.put n depth, layers := d.layers.put layer depth }
def depths (finished : Nats) : Depths := finished.reverse.foldl (place calls) {}
def byDepth : List (Nat × Nats) :=
  let deepest := entries.foldl (fun m e => max m e.2) 0
  let sorted := entries.mergeSort fun a b => a.1 ≤ b.1
  ((List.range (deepest + 1)).reverse.map fun d =>
    (d,(sorted.filter (·.2 == d)).map (·.1))).filter fun g => !g.2.isEmpty

/-! ## Models -/

structure Graph where
  calls : Nats
  (callsByDepth layersByDepth : List (Nat × Nats))
  layers : Nats

/-- Checks that each call takes only tensors that are known before it. -/
def connect (calls : Calls) : Nats → Nats → Nats → Except Problem Unit
  | [], _, _ => .ok ()
  | n :: rest, known, before =>
    match (calls n).inputs.find? (!known.contains ·) with
    | some t => .error (.disconnected t n before)
    | none => connect calls rest (known ++ (calls n).outputs) (before ++ [n])

/-- The model between given inputs and the calls that give its outputs, where there are no more calls
than the bound. -/
def build (bound : Nat) (inputs roots : Nats) : Except Problem Graph := do
  let s ← roots.foldlM (explore calls (bound + 1)) {}
  let d := depths calls s.finished
  let callsByDepth := byDepth d.calls
  let layersByDepth := (byDepth d.layers).map fun (depth,_) =>
    (depth,s.layers.filter fun l => d.layers.lookup l == some depth)
  let layers := layersByDepth.flatMap (·.2)
  connect calls (callsByDepth.flatMap (·.2)) inputs []
  return { calls := s.finished, callsByDepth, layersByDepth, layers }
end Topology

/-! # Putting a model together

A call can be made once the calls it refers to have been made. The list of calls is gone through again and again; a call
that refers to one that is never made is put off for ever.
-/

/-! ## Loading weights by name -/

variable {ν τ : Type}
variable (targets : Named ν)
/-- A name may stand for one target only. -/
def addTarget (t : String × ν) : Tried (Named ν) :=
  if targets.any (·.1 == t.1) then .error (.badValue s!"Duplicate weight name: {t.1}") else .ok (targets ++ [t])
def addPair (strict : Bool) (pairs : List (ν × τ)) (x : String × τ) : Tried (List (ν × τ)) :=
  match targets.lookup x.1 with
  | some t => .ok (pairs ++ [(t,x.2)])
  | none => if strict then .error (.badValue s!"Provided weight data has no target variable: {x.1}") else .ok pairs

/-- Pairs each value with the target of its name. A strict match has no value and no target left over. -/
def matchWeights (values : Named τ) (strict : Bool) : Tried (List (ν × τ)) := do
  let named ← targets.foldlM addTarget []
  let pairs ← values.foldlM (addPair named strict) []
  let unset := (named.map (·.1)).filter fun n => !values.any (·.1 == n)
  if strict && !unset.isEmpty then
    throw (.badValue (s!"{unset.length} of {targets.length} weights are not set: " ++ ",".intercalate unset))
  return pairs
def loadInto {m : Type → Type} [Monad m] [MonadExceptOf Fault m] (write : ν → τ → m Unit)
    (values : Named τ) (strict : Bool) : m Unit := do
  (← MonadExcept.ofExcept (matchWeights targets values strict)).forM fun (t,v) => write t v

structure Inbound where
  layer : String
  (call output : Nat)
deriving DecidableEq, Inhabited

/-- A call that is to be made, with what it takes beside its inputs. -/
structure PlannedCall (κ : Type) where
  inputs : List Inbound
  extra : κ
deriving Inhabited

/-- What putting together needs: which layers there are and how often each was called. -/
structure Assembler (m : Type → Type) (κ : Type) where
  isCreated : String → Bool
  /-- The name a layer goes by, given that of its entry. -/
  nameOf : String → String
  callCount : String → m Nat
  apply : String → List Inbound → κ → m Unit

/-- Calls that wait, each with the name of its layer. -/
abbrev Pending (κ : Type) := List (String × PlannedCall κ)

namespace Assembler
variable {m : Type → Type} [Monad m] {κ : Type} (a : Assembler m κ)
def isReady (a : Assembler m κ) : List Inbound → m Bool
  | [] => pure true
  | i :: rest => do
    if !a.isCreated i.layer then return false
    if (← a.callCount i.layer) ≤ i.call then return false
    isReady a rest
def attempt (entry : String) (p : Pending κ) (c : PlannedCall κ) : m (Pending κ) := do
  if ← a.isReady c.inputs then
    if !c.inputs.isEmpty then a.apply entry c.inputs c.extra
    return p
  else return p ++ [(a.nameOf entry,c)]
def visit (p : Pending κ) (entry : String) : m (Pending κ) :=
  let isHere x := x.1 == a.nameOf entry
  (p.filter isHere).foldlM (fun p x => a.attempt entry p x.2) (p.filter (!isHere ·))

/-- Goes through the layers until no call waits. Nothing is given if calls still wait after so many
rounds. -/
def rounds (a : Assembler m κ) (entries : Strings) : Nat → Pending κ → m (Option Unit)
  | 0, p => pure (if p.isEmpty then some () else none)
  | fuel + 1, p => do
    if p.isEmpty then return some ()
    rounds a entries fuel (← entries.foldlM a.visit p)
end Assembler

/-! # Stacks of layers

What runs is a model assembled from the stack. It is assembled when it is first needed and is used from then on, until
it is assembled anew on purpose.
-/

/-- A stack of layers: the tensors it starts from, the one that its last layer gives, and the model that was last
assembled from it. -/
structure Stack (α σ μ : Type) where
  layers : List α := []
  inputs : List σ := []
  output : Option σ := none
  model : Option μ := none
deriving Inhabited

/-- What is done with layers and tensors when a stack changes. -/
structure StackHooks (m : Type → Type) (α σ μ : Type) where
  get : m (Stack α σ μ)
  set : Stack α σ μ → m Unit
  /-- Applies a first layer to an input of its own, unless it has been applied: what it starts from and what it gives. -/
  start : α → m (List σ × σ)
  apply : α → σ → m σ
  /-- Lets go what was applied to a layer, and says what the layer itself gives. -/
  outputOf : α → m σ
  /-- Brings the call that stands for the stack as a whole in line with it. -/
  renew : (isNew : Bool) → m Unit
  assemble : List σ → σ → m μ

namespace StackHooks
variable {m : Type → Type} [Monad m] [MonadExceptOf Fault m] {α σ μ : Type} (h : StackHooks m α σ μ)
def add (a : α) : m Unit := do
  match (← h.get).output with
  | none =>
    let (inputs,out) ← h.start a
    h.set { ← h.get with inputs, output := some out }
    h.renew true
  | some last =>
    let out ← h.apply a last
    h.set { ← h.get with output := some out }
    h.renew false
  let s ← h.get
  h.set { s with layers := s.layers ++ [a] }

def pop : m Unit := do
  let s ← h.get
  if s.layers.isEmpty then throwThe Fault (.badType "There are no layers in the model.")
  let s := { s with layers := s.layers.dropLast }
  h.set s
  match s.layers.getLast? with
  | none => h.set { s with output := none }
  | some last =>
    let out ← h.outputOf last
    h.set { s with output := some out }
  h.renew false

def assembled : m μ := do
  match ← h.get with
  | { inputs := t :: ts, output := some out, .. } =>
    let k ← h.assemble (t :: ts) out
    h.set { ← h.get with model := some k }
    return k
  | _ => throwThe Fault (.badType "Sequential model cannot be built: model is empty. Add some layers first.")

/-- The model that runs: the one assembled before, if there is one. -/
def current : m μ := do (← h.get).model.getDM h.assembled
end StackHooks
end TensorKit.Layers
