import TensorKit.Tensor.NDArray

/-! # Layout kernels

Kernels that move elements without computing on them: they serve every element type.
-/
namespace TensorKit.Kernel
open List
section
variable {α : Type} [Inhabited α]
def pick (xs : Array α) (i : Nat) : α := xs.getD i default
variable (x : NDArray α)
def transpose (perm : Nats) : NDArray α :=
  let shape := perm.map (x.shape.getD · 0)
  let strides := x.shape.strides
  let own := perm.map (strides.getD · 0)
  .ofCoords shape fun loc => pick x.data ((loc.zip own).foldl (fun acc (c,s) => acc + c * s) 0)
def slice (start : Nats) (size : Shape) : NDArray α := .ofCoords size fun loc =>
  pick x.data (x.shape.index ((loc.zip start).map fun (c,b) => c + b))
def stridedSlice (start step : Ints) (size : Shape) : NDArray α := .ofCoords size fun loc =>
  let own := ((loc.zip step).zip start).map fun ((c,s),b) => (c * s + b).toNat
  pick x.data (x.shape.index own)
def reverse (axes : Nats) : NDArray α := .ofCoords x.shape fun loc =>
  let own := loc.zipIdx.map fun (c,i) => if axes.contains i then x.shape.getD i 0 - 1 - c else c
  pick x.data (x.shape.index own)
def tile (reps : Nats) : NDArray α :=
  let shape := (x.shape.zip reps).map fun (d,r) => d * r
  .ofCoords shape fun loc => pick x.data (x.shape.index ((loc.zip x.shape).map fun (c,d) => c % d))
def pad (before after : Nats) (value : α) : NDArray α :=
  let shape := ((before.zip x.shape).zip after).map fun ((b,d),a) => b + d + a
  .ofCoords shape fun loc =>
    let inside := ((loc.zip before).zip x.shape).all fun ((c,b),d) => b ≤ c && c < b + d
    if inside then pick x.data (x.shape.index ((loc.zip before).map fun (c,b) => c - b))
    else value

/-- A border of any width: each element goes where its moved coordinates add up to, if that is a place
of the result. -/
def padSigned (before : Ints) (shape : Shape) (value : α) : NDArray α :=
  let data := (range x.shape.size).foldl (fun out i =>
    let loc := ((x.shape.coords i).zip before).map fun (c,b) => c + b
    let k := shape.locToIndex loc
    if 0 ≤ k then out.setIfInBounds k.toNat (pick x.data i) else out)
    (.replicate shape.size value)
  ⟨shape,data⟩
def concat (xs : List (NDArray α)) (axis : Nat) (shape : Shape) : NDArray α :=
  let inner x := Shape.size (x.shape.drop axis)
  let rows := Shape.size (shape.take axis)
  let data := (range rows).foldl (fun acc r =>
    xs.foldl (fun acc x => acc ++ x.data.extract (r * inner x) ((r + 1) * inner x)) acc) #[]
  ⟨shape,data⟩
def flatIndex (shape : Shape) (loc : Ints) : Int := (loc.zip shape.strides).foldl (fun acc (c,s) => acc + c * s) 0

/-- The slices along an axis that a list of indices names. An index outside the axis reads whatever
stands at its place in the buffer, and `missing` outside the buffer. -/
def gather (missing : α) (x : NDArray α) (indices : Array Int) (axis : Nat) : NDArray α :=
  let shape := x.shape.set axis indices.size
  .ofCoords shape fun loc =>
    let i := flatIndex x.shape ((loc.map .ofNat).set axis (indices.getD (loc.getD axis 0) 0))
    if i < 0 then missing else x.data.getD i.toNat missing

def depthToSpace (block : Nat) : NDArray α := match x.shape with
  | [n,h,w,d] =>
    let depth := d / (block * block)
    .ofCoords [n,h * block,w * block,depth] fun loc =>
      match loc with
      | [b,r,c,k] =>
        let inD := k + (r % block * block + c % block) * depth
        pick x.data (inD + d * (c / block + w * (r / block + h * b)))
      | _ => default
  | _ => x
end

/-! ## Reading and writing slices by index

Every row of an index array names a slice of an array, by its first coordinates.
-/

section
def indexRow (indices : Array Int) (rank row : Nat) : Ints := (range rank).map fun j => indices.getD (row * rank + j) 0
def slicePlace (strides : Nats) (count : Nat) (index : Ints) (shape : Shape) : Tried Nat :=
  let flat := (index.zip strides).foldl (fun acc (c,s) => acc + c * s) 0
  if flat < 0 || (count : Int) ≤ flat then
    .error (.failure s!"Invalid indices: {intsText index} does not index into {shape.text}")
  else .ok flat.toNat

variable {α : Type} [Scalar α]
def gatherSlices (x : NDArray α) (indices : Array Int) (rank count : Nat) : Tried (Array α) := do
  let sliceSize := Shape.size (x.shape.drop rank)
  let strides := Shape.strides (x.shape.take rank)
  let slices ← (range count).mapM fun i => do
    let p ← slicePlace strides (x.shape.size / sliceSize) (indexRow indices rank i) x.shape
    return (range sliceSize).map fun k => readAt x.data (p * sliceSize + k)
  return slices.flatten.toArray

/-- How a value meets what stands at its place already. -/
inductive Meeting where
  | sum | replace
deriving DecidableEq

def writeSlice (store : α → α) (how : Meeting) (update : Nat → α) (place sliceSize : Nat) (out : Array α) : Array α :=
  (range sliceSize).foldl (fun acc k =>
    acc.modify (place * sliceSize + k) fun old =>
      store (match how with
        | .sum => old + update k
        | .replace => update k)) out

def scatter (store : α → α) (how : Meeting) (indices : Array Int) (rank count : Nat)
    (update : Nat → Nat → α) (start : α) (shape : Shape) : Tried (NDArray α) := do
  let sliceSize := Shape.size (shape.drop rank)
  let strides := Shape.strides (shape.take rank)
  let step out i := do
    let p ← slicePlace strides (shape.size / sliceSize) (indexRow indices rank i) shape
    return writeSlice store how (update i) p sliceSize out
  let out ← (range count).foldlM step (.replicate shape.size (store start))
  return ⟨shape,out⟩
end
end TensorKit.Kernel
