import TensorKit.Engine.Basic

/-! # Arrays of tensors

Each place of an array is written once. Where a place is cleared by reading it can be read only once.
-/
namespace TensorKit.Graph
structure ArraySlot where
  tensor : Tensor
  written : Bool := true
  read : Bool := false
  cleared : Bool := false

structure TensorArray where
  (name dtype : String)
  maxSize : Int
  /-- The shape of elements; -1 stands for any dimension. -/
  elementShape : Option Ints
  (identicalShapes dynamicSize clearAfterRead : Bool)
  slots : List (Option ArraySlot) := []
  closed : Bool := false

namespace TensorArray
variable (a : TensorArray) (i : Int) (is : Ints)
def size : Nat := a.slots.length
def shapeText (s : Option Ints) : String := s.elim "null" intsText
def shapesAgree (a b : Ints) : Bool := a.length == b.length && (a.zip b).all fun (x,y) => x == -1 || y == -1 || x == y
def requireShape (shape : Shape) (start : String) : Tried Unit :=
  let s : Ints := shape.map .ofNat
  if shapesAgree (a.elementShape.getD []) s then .ok ()
  else .error (.failure (start ++ s!" Shapes {shapeText a.elementShape} and {intsText s} must match"))
def requireOpen : Tried Unit :=
  if a.closed then .error (.failure s!"TensorArray {a.name} has already been closed.") else .ok ()
def slot? : Option ArraySlot := if 0 ≤ i then (a.slots[i.toNat]?).join else none

/-- Puts a slot at a place; places in between stay empty. -/
def setSlot (slots : List (Option ArraySlot)) (i : Nat) (s : ArraySlot) : List (Option ArraySlot) :=
  if i < slots.length then slots.set i (some s)
  else slots ++ .replicate (i - slots.length) none ++ [some s]

def readAt : Tried (Tensor × TensorArray) := do
  a.requireOpen
  if i < 0 || i ≥ a.size then throw (.failure s!"Tried to read from index {i}, but array size is: {a.size}")
  let some s := a.slot? i | throw (.noMember "cleared")
  if s.cleared then
    throw (.failure (s!"TensorArray {a.name}: Could not read index {i} twice because it was cleared after a " ++
      "previous read (perhaps try setting clear_after_read = false?)."))
  let s' := { s with read := true, cleared := a.clearAfterRead }
  return (s.tensor,{ a with slots := setSlot a.slots i.toNat s' })

/-- Writes a place that was not written. -/
def writeAt (t : Tensor) : Tried TensorArray := do
  a.requireOpen
  if i < 0 || (!a.dynamicSize && i ≥ a.maxSize) then
    throw (.failure (s!"Tried to write to index {i}, but array is not resizeable and size is: " ++ toString a.maxSize))
  if t.dtype.name != a.dtype then
    throw (.failure (s!"TensorArray {a.name}: Could not write to TensorArray index {i},\n          " ++
      s!"because the value dtype is {t.dtype.name}, but TensorArray dtype is {a.dtype}."))
  let a := if a.size == 0 && (a.elementShape.all (·.isEmpty)) then
      { a with elementShape := some (t.shape.map .ofNat) }
    else a
  let start := s!"TensorArray {a.name}: Could not write to TensorArray index {i}"
  a.requireShape t.shape (start ++ ".")
  let some s := a.slot? i | return { a with slots := setSlot a.slots i.toNat { tensor := t } }
  if s.read then throw (.failure (start ++ ", because it has already been read."))
  throw (.failure (start ++ ", because it has already been written."))

/-- Writes places one after the other; those before a failure stay written. -/
def writeMany (ts : Tensors) : TensorArray × Option Fault :=
  if is.length != ts.length then
    (a,some (.failure (s!"TensorArray {a.name}: could not write multiple tensors," ++
      s!"because the index size: {is.length} is not the same as tensors size: {ts.length}.")))
  else
    (is.zip ts).foldl (fun (a,f) (i,t) =>
      match f with
      | some f => (a,some f)
      | none =>
        match a.writeAt i t with
        | .ok a => (a,none)
        | .error f => (a,some f)) (a,none)

/-- Reads places one after the other; those before a failure stay read. -/
def readMany : TensorArray × Tried Tensors := is.foldl (fun (a,r) i =>
  match r with
  | .error f => (a,.error f)
  | .ok ts =>
    match a.readAt i with
    | .ok (t,a) => (a,.ok (ts ++ [t]))
    | .error f => (a,.error f)) (a,.ok [])
end TensorArray
end TensorKit.Graph
