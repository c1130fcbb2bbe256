import TensorKit.Fault

/-! # Orders of symbolic tensors

The search for an order goes down depth first and stops at tensors whose values are given. Along the way it notes for
each tensor the names of those that take it as an input, so that a value can be freed after its last use.
-/
namespace TensorKit.Layers
structure Wiring where
  name : Nat → String
  inputs : Nat → Nats

abbrev Recipients := List (String × Strings)

namespace Recipients
def add (recipients : Recipients) (name recipient : String) : Recipients := match recipients with
  | [] => [(name,[recipient])]
  | (k,rs) :: rest =>
    if k == name then (k,if rs.contains recipient then rs else rs ++ [recipient]) :: rest
    else (k,rs) :: add rest name recipient
def merge (a b : Recipients) : Recipients := b.foldl (fun a (name,rs) => rs.foldl (fun a r => add a name r) a) a
def counts (recipients : Recipients) : Named Int := recipients.map fun (name,rs) => (name,rs.length)
end Recipients

/-- The search: the path of tensors to look at, the newest first, with the depths of those whose inputs
are on it already. -/
structure Search where
  visited : Strings
  sorted : Nats := []
  recipients : Recipients := []
  stack : Nats
  marks : Nats := []

variable (w : Wiring) (fed : Strings)
namespace Search
/-- Notes an input of a tensor and puts it on the path unless it has been visited. -/
def enter (top : Nat) (s : Search) (input : Nat) : Search :=
  let s := { s with recipients := s.recipients.add (w.name input) (w.name top) }
  if s.visited.contains (w.name input) then s else { s with stack := input :: s.stack }

def step (s : Search) : Search := match s.stack with
  | [] => s
  | top :: rest =>
    if s.visited.contains (w.name top) then { s with stack := rest }
    else
      let isMarked := s.marks.head? == some rest.length
      if (w.inputs top).isEmpty || isMarked then
        { s with
          stack := rest
          sorted := s.sorted ++ [top]
          visited := w.name top :: s.visited
          marks := if isMarked then s.marks.tail else s.marks }
      else (w.inputs top).foldl (enter w top) { s with marks := rest.length :: s.marks }

def run (w : Wiring) : Nat → Search → Search
  | 0, s => s
  | fuel + 1, s => if s.stack.isEmpty then s else run w fuel (s.step w)
end Search

/-- Each tensor up to `last` is opened once and left once, and each of its inputs is entered once. -/
def Wiring.searchBound (last : Nat) : Nat :=
  (List.range (last + 1)).foldl (fun n t => n + 2 + 2 * (w.inputs t).length) 2

/-- The order for one tensor, given the names of the tensors whose values are known. Inputs are older
than what is computed from them. -/
def Wiring.orderOf (fetch : Nat) : Nats × Recipients :=
  let s := Search.run w (w.searchBound fetch) { visited := fed.reverse, stack := [fetch] }
  (s.sorted,s.recipients)
def Wiring.appendNew (sorted more : Nats) : Nats :=
  more.foldl (fun out t => if out.any (w.name · == w.name t) then out else out ++ [t]) sorted

def Wiring.order (fetches : Nats) : Nats × Named Int := match fetches with
  | [fetch] =>
    let (sorted,recipients) := w.orderOf fed fetch
    (sorted,recipients.counts)
  | _ =>
    let joined := fetches.foldl (fun (acc : Nats × Recipients) fetch =>
      let (s,r) := w.orderOf fed fetch
      (w.appendNew acc.1 s,acc.2.merge r)) ([],[])
    (joined.1,joined.2.counts)

/-! # Lifetimes of layers

Disposal gives up one use; the last one frees the weights of a layer, or gives up one use of each layer of a model.
-/

inductive LifeKind where
  /-- An input has nothing to free. -/
  | input
  | plain
  | model (layers : Nats)
deriving DecidableEq, Inhabited

structure Life where
  name : String
  kind : LifeKind
  built : Bool
  /-- Uses of the layer; none before the first. -/
  uses : Option Int
  weights : Nats
deriving Inhabited

structure Lives where
  layers : Array Life
  freed : Nats := []
deriving Inhabited

structure Disposal where
  uses : Option Int
  freed : Nat
deriving DecidableEq

namespace Lives
abbrev Act := EStateM Fault Lives
def setUses (id : Nat) (uses : Int) : Act Unit :=
  modify fun s => { s with layers := s.layers.modify id fun l => { l with uses := some uses } }
def refuse {α : Type} (message : String) : Act α := throw (.failure message)

def disposePlain (id : Nat) (l : Life) : Act Disposal := do
  if !l.built then refuse s!"Cannot dispose Layer {l.name} because it has not been built yet."
  let some n := l.uses | refuse s!"Cannot dispose Layer {l.name} because it has not been used yet."
  if n == 0 then refuse ("Layer '" ++ l.name ++ "' is already disposed.")
  setUses id (n - 1)
  if n == 1 then
    modify fun s => { s with freed := s.freed ++ l.weights }
    return ⟨some 0,l.weights.length⟩
  return ⟨some (n - 1),0⟩

def disposeModel (inner : Nat → Act Disposal) (id : Nat) (l : Life) (layers : Nats) : Act Disposal := do
  let n := l.uses.getD 0
  if n == 0 then refuse ("Container '" ++ l.name ++ "' is already disposed.")
  setUses id (n - 1)
  if n == 1 then return ⟨some 0,← layers.foldlM (fun sum i => return sum + (← inner i).freed) 0⟩
  return ⟨some (n - 1),0⟩

/-- Gives up one use. Models are newer than their layers, so as many steps as there are layers before
one are enough. -/
def dispose : Nat → Nat → Act Disposal
  | 0, _ => return ⟨none,0⟩
  | bound + 1, id => do
    let l := (← get).layers.getD id default
    match l.kind with
    | .input => return ⟨l.uses,0⟩
    | .plain => disposePlain id l
    | .model layers => disposeModel (dispose bound) id l layers
end Lives

/-! # Running a graph of layers

In inference a value is freed after its last use unless it was given or asked for. When one of the inputs has a mask,
the mask of the first input is handed to this call and stays in force for the calls after it.
-/

/-! ## Values of symbolic tensors

The names of the tensors are kept for the values that were given.
-/

structure Feeds (τ : Type) where
  values : List (Nat × τ) := []
  masks : List (Nat × τ) := []
  ids : Named Nat := []
deriving Inhabited

namespace Feeds
variable {τ : Type}
variable (f : Feeds τ) (id : Nat)
def contains : Bool := f.values.any (·.1 == id)
def value? : Option τ := f.values.lookup id
def mask? : Option τ := f.masks.lookup id
def names : Strings := f.ids.map (·.1)

/-- Enters a value; a name that is there already now stands for the new tensor. -/
def insert (name : String) (id : Nat) (v : τ) (mask : Option τ) : Feeds τ where
  values := f.values ++ [(id,v)]
  masks := mask.elim f.masks fun m => f.masks ++ [(id,m)]
  ids := if f.ids.any (·.1 == name) then f.ids.map fun (n,i) => if n == name then (n,id) else (n,i)
    else f.ids ++ [(name,id)]
def copy : Feeds τ where
  values := f.values.mergeSort fun a b => a.1 ≤ b.1
  masks := f.masks
end Feeds

structure Runner (m : Type → Type) (τ : Type) where
  wiring : Wiring
  isInput : Nat → Bool
  /-- Whether the layer behind the tensor keeps its values for itself. -/
  keepsValues : Nat → Bool
  masks : Nat → Bool
  /-- All outputs of the call that made the tensor. -/
  siblings : Nat → m Nats
  /-- Hands a mask to the calls that follow. -/
  handMask : Option τ → m Unit
  apply : Nat → List τ → m (List τ)
  maskOf : Nat → List τ → List (Option τ) → m (Option τ)
  /-- A value in the type of the tensor it is computed for. -/
  fit : Nat → Option τ → m τ
  isDisposed : τ → m Bool
  dispose : List τ → m Unit

structure Run (τ : Type) where
  feeds : Feeds τ
  counts : Named Int
  outputs : List (Option τ)

variable {m : Type → Type} [Monad m] [MonadExceptOf Fault m] {τ : Type}
def putOutput (names : Strings) (name : String) (v : τ) (outputs : List (Option τ)) : List (Option τ) :=
  (names.idxOf? name).elim outputs fun i => outputs.set i (some v)

variable (r : Runner m τ) (given : Feeds τ) (wanted : Strings) (counts : Named Int)
def useOnce (name : String) : Named Int := counts.map fun (n,k) => if n == name then (n,k - 1) else (n,k)
def takeValue (feeds : Feeds τ) (input : Nat) : m τ :=
  (feeds.value? input).getDM (throwThe Fault (.badValue s!"Nonexistent key: {r.wiring.name input}"))

def takeInputs (r : Runner m τ) (given : Feeds τ) (wanted : Strings) (training : Bool) :
    Nats → Run τ → m (List τ × List τ × Run τ)
  | [], run => pure ([],[],run)
  | input :: rest, run => do
    let v ← takeValue r run.feeds input
    let name := r.wiring.name input
    let run := if training then run else { run with counts := useOnce run.counts name }
    let isLast := !training && run.counts.lookup name == some 0 && !given.contains input && !wanted.contains name
    let spent ← if isLast then if ← r.isDisposed v then pure [] else pure (if r.keepsValues input then [] else [v])
      else pure []
    let (vs,spents,run) ← takeInputs r given wanted training rest run
    pure (v :: vs,spent ++ spents,run)

def enterOutputs (r : Runner m τ) (wanted : Strings) (mask : Option τ) : List (Nat × Option τ) → Run τ → m (Run τ)
  | [], run => pure run
  | (t,v) :: rest, run => do
    let name := r.wiring.name t
    let feeds ← if run.feeds.contains t then pure run.feeds
      else do pure (run.feeds.insert name t (← r.fit t v) mask)
    let outputs := match v with
      | some v => putOutput wanted name v run.outputs
      | none => run.outputs
    enterOutputs r wanted mask rest { run with feeds, outputs }

def visit (training : Bool) (run : Run τ) (t : Nat) : m (Run τ) := do
  if r.isInput t then return run
  let inputs := r.wiring.inputs t
  let masks := inputs.map run.feeds.mask?
  let (values,spent,run) ← takeInputs r given wanted training inputs run
  if masks.any (·.isSome) then r.handMask masks.head?.join
  let outs ← r.apply t values
  let mask ← if r.masks t then r.maskOf t values masks else pure none
  let siblings ← r.siblings t
  let run ← enterOutputs r wanted mask (siblings.zipIdx.map fun (s,i) => (s,outs[i]?)) run
  if !training then r.dispose spent
  return run

/-- A run before its first call: what is asked for may have been given. -/
def Run.start : Run τ where
  feeds := given.copy
  counts
  outputs := wanted.map fun n => (given.ids.lookup n).bind given.value?
def Runner.execute (fetches : Nats) (sorted : Nats)
    (counts : Named Int) (training : Bool) : m (List (Option τ)) := do
  let wanted := fetches.map r.wiring.name
  let run ← sorted.foldlM (visit r given wanted training) (.start given wanted counts)
  r.dispose (run.feeds.masks.map (·.2))
  return run.outputs
end TensorKit.Layers
