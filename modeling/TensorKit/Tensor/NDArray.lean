import TensorKit.Tensor.Number

/-! # Shapes, strides and coordinates

Row-major order: `index` and `coords` pass between a place in the buffer and its coordinates.
-/
namespace TensorKit
open List
abbrev Shape := Nats

variable (s : Shape)
namespace Shape
def size : Nat := s.foldl (· * ·) 1
def strides : Shape → Nats
  | [] => []
  | _ :: rest => size rest :: strides rest
def coords : Shape → Nat → Nats
  | [], _ => []
  | _ :: rest, i => i / size rest :: coords rest (i % size rest)
def index : Shape → Nats → Nat
  | _ :: rest, c :: cs => c * size rest + index rest cs
  | _, _ => 0
def text : String := ",".intercalate (s.map toString)
end Shape

def intsText (xs : Ints) : String := ",".intercalate (xs.map toString)

variable (axes : Nats) (rank : Nat)
namespace Axes
def normalize (axes : Ints) : Tried Nats :=
  if axes.all fun a => -rank ≤ a && a < rank then
    .ok (axes.map fun a => (if a < 0 then (rank : Int) + a else a).toNat)
  else
    .error (.failure s!"All values in axis param must be in range [-{rank}, {rank}) but got axis {intsText axes}")
def innermost : Bool :=
  let n := axes.length
  (range n).all fun i => axes[n - i - 1]? == some (rank - 1 - i) && i < rank
def permutation? : Option Nats :=
  if innermost axes rank then none
  else some ((range rank).filter (fun i => !axes.contains i) ++ axes)
def insertByKey (x : Nat × Nat) : List (Nat × Nat) → List (Nat × Nat)
  | [] => [x]
  | y :: ys => if x.2 < y.2 then x :: y :: ys else y :: insertByKey x ys
def undo (perm : Nats) : Nats :=
  let tagged := (range perm.length).zip perm
  (tagged.foldl (fun acc x => insertByKey x acc) []).map (·.1)
def lastAxes (count rank : Nat) : Nats := (range count).map (· + (rank - count))

def combine (kept reduced : Nats) (axes : Nats) : Nats :=
  let rank := kept.length + reduced.length
  let step (acc : Nats × Nats × Nats) dim :=
    let (loc,ks,rs) := acc
    if axes.contains dim then
      match rs with
      | r :: rs => (loc ++ [r],ks,rs)
      | [] => (loc,ks,[])
    else
      match ks with
      | k :: ks => (loc ++ [k],ks,rs)
      | [] => (loc,[],rs)
  ((range rank).foldl step ([],kept,reduced)).1

def outAndReduced : Shape × Shape :=
  (((range s.length).filter fun i => !axes.contains i).map (s.getD · 0), axes.map (s.getD · 0))
def keepDims : Shape := combine s (axes.map fun _ => 1) axes
end Axes
namespace Broadcast
def fromEnd (i : Nat) : Nat := if i < s.length then s.getD (s.length - 1 - i) 1 else 1
def shape (a b : Shape) : Tried Shape :=
  let axes := (range (max a.length b.length)).reverse
  if axes.all fun i => fromEnd a i == 1 || fromEnd b i == 1 || fromEnd a i == fromEnd b i then
    .ok (axes.map fun i => if fromEnd a i == 1 then fromEnd b i else fromEnd a i)
  else
    .error (.failure s!"Operands could not be broadcast together with shapes {a.text} and {b.text}.")

variable (inShape outShape : Shape)
def dims : Nats :=
  let r := inShape.length
  ((range r).filter fun dim =>
    let a := inShape.getD dim 0
    let b := fromEnd outShape (r - 1 - dim)
    let a := if a == 0 then 1 else a
    let b := if b == 0 then 1 else b
    1 < b && a == 1)

def reductionAxes : Nats :=
  let n := outShape.length
  (range n).filter fun axis =>
    let i := n - 1 - axis
    if inShape.length ≤ i then true
    else inShape.getD (inShape.length - 1 - i) 0 == 1 && 1 < outShape.getD axis 0
end Broadcast
end TensorKit

/-! # Arrays of any rank -/

/-! ## Places in a buffer

Places are whole numbers of any sign, since a caller may ask for any.
-/
namespace TensorKit.Shape
variable (s : Shape) (loc : Ints)
def locToIndex : Int := match s with
  | [] => 0
  | [_] => loc.headD 0
  | _ => (loc.dropLast.zip s.strides).foldl (fun acc (l,st) => acc + st * l) (loc.getLastD 0)
def divideOut : Nats → Int → Ints
  | [], i => [i]
  | st :: rest, i =>
    let q := i.fdiv st
    q :: divideOut rest (i - q * st)
def indexToLoc (i : Int) : Ints := match s with
  | [] => []
  | [_] => [i]
  | _ => divideOut (s.strides.take (s.length - 1)) i
def holds : Bool := (loc.zip s).all fun (l,d) => 0 ≤ l && l < d
end TensorKit.Shape
namespace TensorKit
structure NDArray (α : Type) where
  shape : Shape
  data : Array α

namespace NDArray
variable {α β : Type}
instance : Inhabited (NDArray α) := ⟨⟨[0],#[]⟩⟩
variable (x : NDArray α) (shape : Shape)
def ofIndex (f : Nat → α) : NDArray α := ⟨shape,.ofFn fun i : Fin shape.size => f i.val⟩
def ofCoords (f : Nats → α) : NDArray α := ofIndex shape fun i => f (shape.coords i)
def map (f : α → β) (x : NDArray α) : NDArray β := ⟨x.shape,x.data.map f⟩
variable [Scalar α]
def item (i : Nat) : α := readAt x.data i
def get (loc : Nats) : α := readAt x.data (x.shape.index loc)
end NDArray
end TensorKit
