/-! # Work in batches

Outputs of batches are joined; means over batches are weighted by their sizes.
-/
namespace TensorKit.Layers

/-! ## Losses and metrics of a batch

Training gives the total loss and then the metrics; with several outputs the loss of each comes first among these.
Testing gives the total after each output and then the metrics.
-/

/-- What a model is judged by: the loss of each output, and what is reported beside the total loss. The names are those
of the whole report; each function has the number of the output that it is taken of. -/
structure Measures (φ : Type) where
  losses : List φ := []
  names : List String := []
  fns : List (φ × Nat) := []
deriving Inhabited

/-- With several outputs the loss of each is reported too, and names tell the outputs apart. -/
def Measures.of {φ : Type} (outputs : List String) (losses : List φ) (metrics : List (List (String × φ))) :
    Measures φ :=
  let isMany := 1 < outputs.length
  let own := if isMany then (losses.zip outputs).zipIdx.map fun ((f,name),i) => (name ++ "_loss",f,i) else []
  let more := metrics.zipIdx.flatMap fun (fs,i) => fs.map fun (label,f) =>
    (if isMany then outputs.getD i "" ++ "_" ++ label else label,f,i)
  { losses, names := "loss" :: (own ++ more).map (·.1), fns := (own ++ more).map (·.2) }

/-- A model with its measures. The data of a batch are inputs, then targets, then weights of samples if there are any. -/
structure Judged (m : Type → Type) (φ δ τ : Type) where
  (inputs outputs : Nat)
  measures : Measures φ
  forward : (training : Bool) → List δ → m (List δ)
  measure : φ → δ → δ → m τ
  weigh : δ → τ → m τ
  /-- What stands for data that are left out. -/
  missing : δ

namespace Judged
variable {m : Type → Type} [Monad m] {φ δ τ : Type} (j : Judged m φ δ τ) (data outs : List δ)
def targets : List δ := (data.drop j.inputs).take j.outputs
def weights : List δ := (data.drop (j.inputs + j.outputs)).take j.outputs
def measured (fns : List (φ × Nat)) : List (m τ) :=
  fns.map fun (f,i) => j.measure f ((j.targets data).getD i j.missing) (outs.getD i j.missing)
def weighed : List (m τ) :=
  (j.measured data outs j.measures.losses.zipIdx).zipIdx.map fun (loss,i) => do
    j.weigh ((j.weights data).getD i j.missing) (← loss)
end Judged

structure LossOps (m : Type → Type) (τ : Type) where
  mean : τ → m τ
  add : τ → τ → m τ
  keep : τ → m Unit

namespace LossOps
variable {m : Type → Type} [Monad m] {τ : Type}
def runningTotals (o : LossOps m τ) : Option τ → List (m τ) → m (List τ)
  | _, [] => pure []
  | total, loss :: rest => do
    let mean ← o.mean (← loss)
    let total ← match total with
      | none => pure mean
      | some t => o.add t mean
    let more ← runningTotals o (some total) rest
    pure (total :: more)

variable (o : LossOps m τ) (outputs : Nat) (losses metrics : List (m τ)) {φ δ : Type}
def testReport : m (List τ) := do
  let totals ← o.runningTotals none losses
  let values ← metrics.mapM fun k => do o.mean (← k)
  return totals ++ values

def sumLosses (o : LossOps m τ) : Option τ → List (m τ) → m (Option τ × List τ)
  | total, [] => pure (total,[])
  | total, loss :: rest => do
    let value ← loss
    let mean ← o.mean value
    let total ← match total with
      | none => pure value
      | some t => o.add t value
    let (sum,means) ← sumLosses o (some total) rest
    pure (sum,mean :: means)

def trainMetrics (means : List τ) (metrics : List (m τ)) : m (List τ) :=
  metrics.zipIdx.mapM fun (k,i) => do
    let value ← match means[i]? with
      | some v => if 1 < outputs && i < outputs then pure v else o.mean (← k)
      | none => o.mean (← k)
    o.keep value
    return value

def trainReport (penalties : m (List τ)) : m (Option τ × List τ) := do
  let (sum,means) ← o.sumLosses none losses
  let values ← o.trainMetrics outputs means metrics
  let some s := sum | return (none,values)
  let total ← (← penalties).foldlM o.add (← o.mean s)
  return (some total,values)

def testBatch (o : LossOps m τ) (j : Judged m φ δ τ) (data : List δ) : m (List τ) := do
  let outs ← j.forward false (data.take j.inputs)
  o.testReport (j.measured data outs j.measures.losses.zipIdx) (j.measured data outs j.measures.fns)
def trainBatch (o : LossOps m τ) (j : Judged m φ δ τ) (data : List δ) (penalties : m (List τ)) :
    m (Option τ × List τ) := do
  let outs ← j.forward true (data.take j.inputs)
  o.trainReport j.outputs (j.weighed data outs) (j.measured data outs j.measures.fns) penalties
end LossOps

def batchesFrom {α : Type} [Add α] [LT α] [LE α] [DecidableLT α] [DecidableLE α] (size batchSize : α) :
    Nat → α → List (α × α)
  | 0, _ => []
  | bound + 1, start =>
    if start < size then
      let stop := start + batchSize
      let stop := if size ≤ stop then size else stop
      (start,stop) :: batchesFrom size batchSize bound stop
    else []

def makeBatches (size batchSize : Nat) : List (Nat × Nat) := batchesFrom size batchSize size 0

structure MeanOps (m : Type → Type) (τ : Type) where
  zero : m τ
  addTimes : τ → Nat → τ → m τ
  dividedBy : τ → Nat → m τ

namespace MeanOps
variable {m : Type → Type} [Monad m] {τ : Type} (o : MeanOps m τ)
def addBatch (sums : Option (List τ)) (size : Nat) (values : List τ) : m (List τ) := do
  let sums ← sums.getDM (values.mapM fun _ => o.zero)
  (sums.zip values).mapM fun (s,v) => o.addTimes s size v
def meansOver (o : MeanOps m τ) {β : Type} (sizeOf : β → Nat) (run : β → m (List τ)) :
    List β → Nat → Option (List τ) → m (List τ)
  | [], count, sums => (sums.getD []).mapM (o.dividedBy · count)
  | b :: rest, count, sums => do
    let values ← run b
    let sums ← o.addBatch sums (sizeOf b) values
    meansOver o sizeOf run rest (count + sizeOf b) (some sums)

/-- The means over batches of a set of samples that are picked by their places. -/
def testBatches {δ : Type} (o : MeanOps m τ) (pick : Nat → Nat → m δ) (test : δ → m (List τ))
    (samples batchSize : Nat) : m (List τ) :=
  o.meansOver (fun b => b.2 - b.1) fun (start,stop) => do test (← pick start stop)
    (makeBatches samples batchSize) 0 none

/-- The sums over batches from a source, with the number of samples: of so many batches, or of all. The
source gives for each step the size and the values of a batch, if there is one, and whether it is at its end.
None if the bound on the number of steps is too small. -/
def sumStream (o : MeanOps m τ) (wanted : Option Nat) (next : m (Option (Nat × List τ) × Bool)) :
    Nat → Nat → Nat → Option (List τ) → m (Option (Nat × List τ))
  | 0, _, _, _ => pure none
  | bound + 1, batches, count, sums => do
    if wanted.any (· ≤ batches) then return some (count,sums.getD [])
    let (found,isDone) ← next
    match found with
    | some (size,values) =>
      let sums ← o.addBatch sums size values
      if isDone then return some (count + size,sums)
      sumStream o wanted next bound (batches + 1) (count + size) (some sums)
    | none =>
      if isDone then return some (count,sums.getD [])
      sumStream o wanted next bound batches count sums

def streamMeans (wanted : Option Nat) (next : m (Option (Nat × List τ) × Bool))
    (bound : Nat) : m (Option (List τ)) := do
  match ← o.sumStream wanted next bound 0 0 none with
  | none => return none
  | some (count,sums) => return some (← sums.mapM (o.dividedBy · count))
end MeanOps

/-- Runs a model on each batch of its inputs, each in a scope of its own, and joins what each output
gives. -/
def predictBatches {m : Type → Type} [Monad m] {τ : Type} (within : m (List τ) → m (List τ)) (slice : Nat → Nat →
    m (List τ)) (run : List τ → m (List τ)) (join : List τ → m τ) (outputs samples batchSize : Nat) : m (List τ) := do
  let parts ← (makeBatches samples batchSize).mapM fun (start,stop) => within do run (← slice start stop)
  (List.range outputs).mapM fun i => join (parts.filterMap (·[i]?))

/-! # Loops of training

Any observer may ask to stop, which is looked at after each batch and each epoch.
-/

structure Hooks (m : Type → Type) (ε β : Type) where
  (trainBegin resume trainEnd : m Unit)
  (epochBegin epochEnd : ε → m Unit)
  runBatch : Nat → β → m Unit
  isStopped : m Bool

structure FitHooks (m : Type → Type) (ε β : Type) extends Hooks m ε β where
  (batchBegin batchEnd : Nat → m Unit)
  (arrange settle : m Unit)

namespace FitHooks
variable {m : Type → Type} [Monad m] {ε β : Type}
def batches (h : FitHooks m ε β) : Nat → List β → m Unit
  | _, [] => pure ()
  | i, b :: rest => do
    h.batchBegin i
    h.runBatch i b
    h.batchEnd i
    if ← h.isStopped then return
    batches h (i + 1) rest

def epochs (h : FitHooks m ε β) (bs : List β) : List ε → m Unit
  | [] => pure ()
  | e :: rest => do
    h.epochBegin e
    h.arrange
    h.batches 0 bs
    h.settle
    h.epochEnd e
    if ← h.isStopped then return
    epochs h bs rest

def run (h : FitHooks m ε β) (es : List ε) (bs : List β) : m Unit := do
  h.trainBegin
  h.resume
  h.epochs bs es
  h.trainEnd
end FitHooks

/-- What happens in training on batches from a source that may end. -/
structure StreamHooks (m : Type → Type) (ε β : Type) extends Hooks m ε β where
  restart : m Unit
  next : m (Option β × Bool)
  validate : m Unit

namespace StreamHooks
variable {m : Type → Type} [Monad m] {ε β : Type}
/-- The batches of an epoch: as many as are asked for, or all of the source. Says whether the bound on
the number of steps was enough. -/
def batches (h : StreamHooks m ε β) (wanted : Option Nat) : Nat → Nat → m Bool
  | 0, _ => pure false
  | bound + 1, steps => do
    if wanted.any (· ≤ steps) then return true
    let (value,isDone) ← h.next
    if wanted.isSome && isDone then return true
    let steps ← match value with
      | none => pure steps
      | some b => do
        h.runBatch steps b
        pure (steps + 1)
    let isEnough := match wanted with
      | some k => decide (k ≤ steps)
      | none => isDone
    if isEnough then
      h.validate
      return true
    if ← h.isStopped then return true
    batches h wanted bound steps

def epochs (h : StreamHooks m ε β) (wanted : Option Nat) (bound : Nat) : List ε → m Bool
  | [] => pure true
  | e :: rest => do
    h.epochBegin e
    if wanted.isNone then h.restart
    if !(← h.batches wanted bound 0) then return false
    h.epochEnd e
    if ← h.isStopped then return true
    epochs h wanted bound rest

def run (h : StreamHooks m ε β) (es : List ε) (wanted : Option Nat) (bound : Nat) : m Bool := do
  h.trainBegin
  h.resume
  h.restart
  if !(← h.epochs wanted bound es) then return false
  h.trainEnd
  return true
end StreamHooks
end TensorKit.Layers
