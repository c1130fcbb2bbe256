import TensorKit.Tensor.NDArray

/-! # Kernels on images -/
namespace TensorKit.Kernel
open Number

/-! ## Resizing images

Images are laid out as batch, rows, columns, channels.
-/

variable (alignCorners : Bool) (x : NDArray Float) (h w : Nat) (old new : Nat)
def resizeScale : Float :=
  if alignCorners && 1 < new then .ofNat (old - 1) / .ofNat (new - 1)
  else .ofNat old / .ofNat new

/-- A place between two neighbours of the source. -/
structure Between where
  (low high : Nat)
  part : Float

def between (old : Nat) (scale : Float) (i : Nat) : Between :=
  let x := scale * .ofNat i
  { low := x.floor.toUInt64.toNat
    high := min (old - 1) x.ceil.toUInt64.toNat
    part := x - x.floor }
def nearest (old : Nat) (scale : Float) (i : Nat) : Nat :=
  let x := scale * .ofNat i
  min (old - 1) (if alignCorners then round x else x.floor).toUInt64.toNat

/-- How places of a resized image lie in the source along an axis. -/
def alongAxis (shape : Shape) (axis new : Nat) (loc : Nats) : Between :=
  let old := shape.getD axis 0
  between old (resizeScale alignCorners old new) (loc.getD axis 0)

def resizeBilinear : NDArray Float :=
  let dim i := x.shape.getD i 0
  .ofCoords [dim 0,h,w,dim 3] fun loc =>
    let b := loc.getD 0 0
    let d := loc.getD 3 0
    let r := alongAxis alignCorners x.shape 1 h loc
    let c := alongAxis alignCorners x.shape 2 w loc
    let topLeft := x.get [b,r.low,c.low,d]
    let bottomLeft := x.get [b,r.high,c.low,d]
    let topRight := x.get [b,r.low,c.high,d]
    let bottomRight := x.get [b,r.high,c.high,d]
    let top := topLeft + (topRight - topLeft) * c.part
    let bottom := bottomLeft + (bottomRight - bottomLeft) * c.part
    top + (bottom - top) * r.part

def resizeNearest : NDArray Float :=
  let dim i := x.shape.getD i 0
  let rows := resizeScale alignCorners (dim 1) h
  let cols := resizeScale alignCorners (dim 2) w
  .ofCoords [dim 0,h,w,dim 3] fun loc =>
    x.get [loc.getD 0 0,nearest alignCorners (dim 1) rows (loc.getD 1 0),
      nearest alignCorners (dim 2) cols (loc.getD 2 0),loc.getD 3 0]

variable (dy : NDArray Float)
def resizeBilinearGradient (shape : Shape) : Array Float :=
  let spread out i v := out.modify i fun old => toSingle (old + v)
  let step out k :=
    let loc := dy.shape.coords k
    let b := loc.getD 0 0
    let d := loc.getD 3 0
    let r := alongAxis alignCorners shape 1 (dy.shape.getD 1 0) loc
    let c := alongAxis alignCorners shape 2 (dy.shape.getD 2 0) loc
    let v := dy.item k
    let place (y x) := shape.index [b,y,x,d]
    let out := spread out (place r.low c.low) (v * ((1.0 - r.part) * (1.0 - c.part)))
    let out := spread out (place r.low c.high) (v * ((1.0 - r.part) * c.part))
    let out := spread out (place r.high c.low) (v * (r.part * (1.0 - c.part)))
    spread out (place r.high c.high) (v * (r.part * c.part))
  (List.range dy.data.size).foldl step (.replicate shape.size 0.0)

def nearestWindow (scale : Float) (i : Nat) : Nats :=
  let inv := 1.0 / scale
  let size := inv.ceil * 2.0 + 2.0
  let start := ((.ofNat i * inv).floor - size / 2.0).floor
  (List.range size.toUInt64.toNat).filterMap fun k =>
    let y := .ofNat k + start
    if y < 0 || .ofNat new ≤ y then none
    else
      let n := y.toUInt64.toNat
      if nearest alignCorners old scale n == i then some n else none

/-- The gradient of nearest-neighbour resizing. Rows of the result are reached with the batch stride of
the source. -/
def resizeNearestGradient (shape : Shape) : NDArray Float :=
  let dim i := shape.getD i 0
  let yh := dy.shape.getD 1 0
  let yw := dy.shape.getD 2 0
  let rows := resizeScale alignCorners (dim 1) yh
  let cols := resizeScale alignCorners (dim 2) yw
  let strides := dy.shape.strides
  let batch := shape.strides.getD 0 0
  .ofCoords shape fun loc =>
    let b := loc.getD 0 0
    let d := loc.getD 3 0
    (nearestWindow alignCorners (dim 1) yh rows (loc.getD 1 0)).foldl (fun acc r =>
      (nearestWindow alignCorners (dim 2) yw cols (loc.getD 2 0)).foldl (fun acc c =>
        acc + dy.item (b * batch + r * strides.getD 1 0 + c * strides.getD 2 0 + d)) acc) 0.0

/-- A crop of an image between two corners, given as parts of its height and width. -/
structure CropBox where
  (y1 x1 y2 x2 : Float)
  image : Int

def cropPlace (lo hi : Float) (size crop i : Nat) : Float :=
  let n := .ofNat (size - 1)
  if 1 < crop then lo * n + .ofNat i * ((hi - lo) * n / .ofNat (crop - 1))
  else 0.5 * (lo + hi) * n

def cropElement (box : CropBox) (h w : Nat) (useNearest : Bool) (outside : Float) (r c d : Nat) : Float :=
  let dim i := x.shape.getD i 0
  let y := cropPlace box.y1 box.y2 (dim 1) h r
  let v := cropPlace box.x1 box.x2 (dim 2) w c
  if (dim 0) ≤ box.image then 0
  else if y < 0 || .ofNat (dim 1 - 1) < y then outside
  else if v < 0 || .ofNat (dim 2 - 1) < v then outside
  else
    let read (row col) := x.get [box.image.toNat,row.toUInt64.toNat,col.toUInt64.toNat,d]
    if useNearest then read (round y) (round v)
    else
      let top := read y.floor v.floor + (read y.floor v.ceil - read y.floor v.floor) * (v - v.floor)
      let bottom := read y.ceil v.floor + (read y.ceil v.ceil - read y.ceil v.floor) * (v - v.floor)
      top + (bottom - top) * (y - y.floor)

/-! ## Boxes in an image -/

structure Box where
  (yMin xMin yMax xMax : Float)

def boxAt (boxes : Array Float) (i : Nat) : Box :=
  let c k := readAt boxes (i * 4 + k)
  ⟨Number.min (c 0) (c 2),Number.min (c 1) (c 3),Number.max (c 0) (c 2),Number.max (c 1) (c 3)⟩
def Box.area (b : Box) : Float := (b.yMax - b.yMin) * (b.xMax - b.xMin)
def overlap (a b : Box) : Float :=
  if a.area ≤ 0 || b.area ≤ 0 then 0
  else
    let h := Number.max (Number.min a.yMax b.yMax - Number.max a.yMin b.yMin) 0.0
    let w := Number.max (Number.min a.xMax b.xMax - Number.max a.xMin b.xMin) 0.0
    h * w / (a.area + b.area - h * w)

/-- Takes boxes in the order given, leaving out those that overlap a box taken before, until `limit`
are taken; the limit is looked at only after a box was taken. -/
def takeApart (boxes : Array Float) (limit : Int) (threshold : Float) : Nats → Nats → Nats
  | taken, [] => taken
  | taken, i :: rest =>
    if taken.reverse.any fun j => threshold ≤ overlap (boxAt boxes i) (boxAt boxes j) then
      takeApart boxes limit threshold taken rest
    else if limit ≤ taken.length + 1 then taken ++ [i]
    else takeApart boxes limit threshold (taken ++ [i]) rest
def suppressNonMax (boxes scores : Array Float) (limit : Int) (overlapLimit scoreLimit : Float) : Nats :=
  let candidates := scores.toList.zipIdx.filter fun (s,_) => s > scoreLimit
  let ordered := candidates.mergeSort fun a b => !(a.1 < b.1)
  takeApart boxes limit overlapLimit [] (ordered.map (·.2))
end TensorKit.Kernel
