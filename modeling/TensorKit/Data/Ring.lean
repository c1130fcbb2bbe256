import TensorKit.Fault

/-! # Ring buffers

The ends of a buffer are counted modulo twice the capacity, so that a full buffer differs from an empty one.
-/
namespace TensorKit.Data
structure Ring (α : Type) where
  capacity : Nat
  cells : Array (Option α)
  start : Nat := 0
  stop : Nat := 0
  grows : Bool := false
deriving Inhabited

namespace Ring
def fullFault : Fault := ⟨.outOfRange,"Ring buffer is full."⟩
def emptyFault : Fault := ⟨.outOfRange,"Ring buffer is empty."⟩
variable {α : Type}
def empty (capacity : Nat) : Ring α := { capacity, cells := .replicate capacity none }
def growing : Ring α := { empty 32 with grows := true }
variable (r : Ring α) (i : Int) (v : Option α)
def wrap : Nat := (i % (2 * r.capacity)).toNat
def length : Nat := if r.start ≤ r.stop then r.stop - r.start else 2 * r.capacity + r.stop - r.start
def isPacked : Bool := r.length == r.capacity
def isFull : Bool := !r.grows && r.isPacked
def isEmpty : Bool := r.length == 0
def cell (i : Nat) : Option α := (r.cells[i % r.capacity]?).join
def setCell (i : Nat) (v : Option α) : Ring α := { r with cells := r.cells.setIfInBounds (i % r.capacity) v }
def get : Tried (Option α) :=
  if i < 0 then .error ⟨.outOfRange,"Can't get item at a negative index."⟩
  else .ok (r.cell i.toNat)
def set : Tried (Ring α) :=
  if i < 0 then .error ⟨.outOfRange,"Can't set item at a negative index."⟩
  else .ok (r.setCell i.toNat v)

def expand : Ring α :=
  let n := r.length
  let held := (Array.range n).map fun (i : Nat) => r.cell (r.wrap (r.start + i))
  { r with
    capacity := 2 * r.capacity
    cells := held ++ .replicate (2 * r.capacity - n) none
    start := 0
    stop := n }

def withRoom : Tried (Ring α) :=
  if r.isPacked then if r.grows then .ok r.expand else .error fullFault
  else .ok r
def push : Tried (Ring α) := do
  let r ← r.withRoom
  return { r.setCell r.stop v with stop := r.wrap (r.stop + 1) }
def pushAll (vs : List (Option α)) : Ring α × Option Fault := vs.foldl (fun (r,f) v =>
  match f with
  | some f => (r,some f)
  | none =>
    match r.push v with
    | .ok r => (r,none)
    | .error f => (r,some f)) (r,none)
def requireSome : Tried Unit := if r.isEmpty then .error emptyFault else .ok ()
def pop : Tried (Option α × Ring α) := do
  r.requireSome
  let last := r.wrap (r.stop - 1)
  return (r.cell last,{ r.setCell last none with stop := last })
def unshift : Tried (Ring α) := do
  let r ← r.withRoom
  let first := r.wrap (r.start - 1)
  return { r.setCell first v with start := first }
def shift : Tried (Option α × Ring α) := do
  r.requireSome
  return (r.cell r.start,{ r.setCell r.start none with start := r.wrap (r.start + 1) })
def excise (place : Int) : Tried (Option α × Ring α) := do
  r.requireSome
  let i := r.wrap (r.start + place)
  let found := r.cell i
  let (last,r) ← r.pop
  return (found,r.setCell i last)
end Ring
end TensorKit.Data
