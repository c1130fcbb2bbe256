import TensorKit.Fault

/-! # Recurrences over time

A recurrence folds a cell over the steps in time. Where a mask is zero the states stay as they were and the output is
the first state before the step. The states of cells on top of each other are those of the parts, the last part first.
-/
namespace TensorKit.Layers
structure BatchOps (m : Type → Type) (τ : Type) where
  (mul add : τ → τ → m τ)
  complement : τ → m τ

/-- What a recurrence does with whole sequences, in which the batch stands before the time. -/
structure SequenceOps (m : Type → Type) (τ : Type) extends BatchOps m τ where
  rank : τ → Nat
  transpose : Nats → τ → m τ
  (toTruths widen : τ → m τ)
  unstack : τ → m (List τ)
  stack : List τ → m τ

/-- A cell with the number of its states. -/
structure RecurrentCell (m : Type → Type) (τ : Type) where
  count : Nat
  step : τ → List τ → m (τ × List τ)

variable {m : Type → Type} [Monad m] [MonadExceptOf Fault m] {τ : Type}
def BatchOps.blend (o : BatchOps m τ) (mask rest new old : τ) : m τ := do
  let held ← o.mul new mask
  let kept ← o.mul old rest
  o.add held kept

variable {α : Type}
namespace Recurrence
def blendStates (o : BatchOps m τ) (mask rest : τ) : List τ → List τ → m (List τ)
  | _, [] => pure []
  | [], _ :: _ => throwThe Fault (.noMember "mul")
  | new :: ns, old :: os => do
    let s ← o.blend mask rest new old
    let ss ← blendStates o mask rest ns os
    pure (s :: ss)

variable (o : BatchOps m τ) (cell : RecurrentCell m τ) (inputs : List τ) (masks : Option (List τ)) (backwards : Bool)
def maskedStep (x mask : τ) (states : List τ) : m (τ × List τ) := do
  let (y,new) ← cell.step x states
  let rest ← o.complement mask
  let first :: _ := states | throwThe Fault (.noMember "mul")
  let out ← o.blend mask rest y first
  let after ← blendStates o mask rest new states
  pure (out,after)

def stepOnce (x : τ) (mask : Option τ) (states : List τ) : m (τ × List τ) :=
  mask.elim (cell.step x states) (maskedStep o cell x · states)
def fold : List (τ × Option τ) → List τ → m (List τ × List τ)
  | [], states => pure ([],states)
  | (x,mask) :: rest, states => do
    let (y,after) ← stepOnce o cell x mask states
    let (ys,last) ← fold rest after
    pure (y :: ys,last)
def steps : List (τ × Option τ) :=
  let inputs := if backwards then inputs.reverse else inputs
  match masks with
  | none => inputs.map (·,none)
  | some ks => inputs.zip ((if backwards then ks.reverse else ks).map some)
def run (states : List τ) : m (List τ × List τ) := fold o cell (steps inputs masks backwards) states

/-! ## Sequences in batches -/

def timeFirst (rank : Nat) : Nats := 1 :: 0 :: (List.range (rank - 2)).map (· + 2)
def timeSteps (o : SequenceOps m τ) (x : τ) : m (List τ) := do
  let rank := o.rank x
  if rank < 3 then throwThe Fault (.badValue s!"Input should be at least 3D, but is {rank}D.")
  o.unstack (← o.transpose (timeFirst rank) x)
def maskSteps (o : SequenceOps m τ) (rank count : Nat) (mask : τ) : m (List τ) := do
  let truths ← o.toTruths mask
  let wide ← if o.rank truths == rank - 1 then o.widen truths else pure truths
  let ks ← o.unstack (← o.transpose (timeFirst rank) wide)
  if ks.length < count then
    fail "Argument 'x' passed to 'onesLike' must be a Tensor or TensorLike, but got 'undefined'"
  return ks

/-- Folds a cell over a sequence. Gives the last output, all outputs if they are asked for, and the
states after the last step. -/
def overTime (o : SequenceOps m τ) (x : τ) (states : List τ) (backwards : Bool) (mask : Option τ)
    (keepsOutputs : Bool) : m (Option τ × Option τ × List τ) := do
  let inputs ← timeSteps o x
  let masks ← mask.mapM (maskSteps o (o.rank x) inputs.length)
  let (outputs,after) ← run o.toBatchOps cell inputs masks backwards states
  let all ← if keepsOutputs then do pure (some (← o.stack outputs)) else pure none
  return (outputs.getLast?,all,after)

/-! ## Cells on top of each other -/

def cut : Nats → List α → List (List α)
  | [], _ => []
  | n :: ns, xs => xs.take n :: cut ns (xs.drop n)
def splitStates (counts : Nats) (states : List α) : List (List α) := (cut counts.reverse states).reverse
def joinStates (nested : List (List α)) : List α := nested.reverse.flatten
def chain : List (RecurrentCell m τ) → List (List τ) → τ → m (τ × List (List τ))
  | [], _, x => pure (x,[])
  | c :: cs, nested, x => do
    let (y,after) ← c.step x (nested.headD [])
    let (z,rest) ← chain cs nested.tail y
    pure (z,after :: rest)
def stacked (cells : List (RecurrentCell m τ)) : RecurrentCell m τ where
  count := cells.foldl (fun n c => n + c.count) 0
  step := fun x states => do
    let (y,after) ← chain cells (splitStates (cells.map (·.count)) states) x
    pure (y,joinStates after)

/-- Takes the weights of each cell from a list: what stands behind as many as the cell has goes to the
cell, and those before it stay for the cells after it. Gives also what is left. -/
def takeWeights : Nats → List α → List (List α) × List α
  | [], ws => ([],ws)
  | n :: ns, ws =>
    let (rest,left) := takeWeights ns (ws.take n)
    (ws.drop n :: rest,left)
end Recurrence

/-! # States between calls

The states that a layer keeps are its own copies; those of earlier calls in training are set aside until the next plain
reset.
-/

/-! ## Masks of joined inputs -/

/-- The mask of several inputs taken together: none if no input has one. Each mask gets a leading
dimension, and the first is joined with those that stand between it and the last. -/
def joinMasks {m : Type → Type} [Monad m] {τ : Type} (widen : τ → m τ)
    (both : Option τ → Option τ → m τ) (masks : List (Option τ)) : m (Option τ) := do
  if masks.all (·.isNone) then return none
  let wide ← masks.mapM fun
    | some k => return some (← widen k)
    | none => return none
  match wide with
  | [] => return none
  | first :: rest => rest.dropLast.foldlM (fun out k => return some (← both out k)) first

structure Held (τ : Type) where
  states : Option (List τ)
  aside : List (List τ)

structure StateOps (m : Type → Type) (τ : Type) where
  held : m (Held τ)
  hold : Held τ → m Unit
  zeros : m (List τ)
  dispose : List τ → m Unit
  requireCount : Nat → List τ → m Unit
  requireFit : Nat → τ → m Unit
  copy : τ → m τ

namespace StateOps
variable {m : Type → Type} [Monad m] {τ : Type} (o : StateOps m τ)
def replaceFrom (o : StateOps m τ) : Nat → List τ → m Unit
  | _, [] => pure ()
  | i, v :: vs => do
    o.requireFit i v
    let h ← o.held
    o.hold { h with states := h.states.map (·.set i v) }
    replaceFrom o (i + 1) vs
def own : m Unit := do
  let h ← o.held
  let copies ← (h.states.getD []).mapM o.copy
  o.hold { (← o.held) with states := some copies }

/-- Sets states of zeros, or those given. The old ones are disposed before the new ones are looked at,
or set aside in training. -/
def reset (given : Option (List τ)) (training : Bool) : m Unit := do
  let h ← o.held
  match h.states, given with
  | none, _ => o.hold { h with states := some (← o.zeros) }
  | some old, none =>
    o.dispose old
    o.dispose h.aside.flatten
    o.hold { states := some (← o.zeros), aside := [] }
  | some old, some new =>
    o.requireCount old.length new
    if training then o.hold { h with aside := h.aside ++ [old] } else o.dispose old
    replaceFrom o 0 new
  own o
end StateOps
end TensorKit.Layers
