import TensorKit.Ops.Conv
import TensorKit.Kernel.Image
/-! # Pooling -/
namespace TensorKit.Ops
open Engine Number
def poolWindow (x : Shape) (filter : Window.Extent) (p : WindowParams) : Tried Window :=
  let n := x.length - 2
  Window.pool (nat x) (filter.dims n) (p.strides.dims n) (p.dilations.dims n) p.pad p.rounding p.channelsLast

inductive PoolKind where
  | max | avg
deriving DecidableEq

structure PoolSpec where
  kind : PoolKind
  spatial : Nat
  name : String

variable (s : PoolSpec) (x : Tensor) (filter : Window.Extent) (p : WindowParams)
def PoolSpec.isVolume : Bool := s.spatial == 3
def maxPool2dSpec : PoolSpec := ⟨.max,2,"maxPool"⟩
def avgPool2dSpec : PoolSpec := ⟨.avg,2,"avgPool"⟩
def maxPool3dSpec : PoolSpec := ⟨.max,3,"maxPool3d"⟩
def avgPool3dSpec : PoolSpec := ⟨.avg,3,"avgPool3d"⟩

def poolData (w : Window) : Op := do
  requireReal [x] (match s.kind,s.isVolume with
    | .max,false => "pool"
    | .max,true => "maxPool3d"
    | .avg,false => "avgPool"
    | .avg,true => "avgPool3d")
  w.requireOut
  let a ← read x
  match s.kind with
  | .max =>
    let kernel := if w.between then Kernel.maxBetween else Kernel.maxPool
    store x.dtype (kernel (-infinity) s.isVolume w a)
  | .avg =>
    let kernel := if w.between then Kernel.avgBetween else Kernel.avgPool
    let y ← store x.dtype (kernel s.isVolume w a)
    castData y .float32

def poolRule (shape : Shape) : Rule := match s.kind, s.isVolume with
  | .max, false => .maxPool filter p
  | .avg, false => .avgPool filter p shape
  | .max, true => .maxPool3d filter p
  | .avg, true => .avgPool3d filter p shape
def poolKernel : Op := do
  let w ← poolWindow x.shape filter p
  let y ← runKernel [("x",x)] (some (poolRule s filter p x.shape)) do
    let y ← poolData s x w
    return (y,if s.kind == .max then [x,y] else [])
  if s.kind == .avg then cast y x.dtype else pure y

def pool2d : Op := do
  let oneOf := requireOneOf s.name p
  let what := if s.kind == .max then "input" else "x"
  if s.kind == .avg then oneOf
  let (x4,added) ← withBatch 4 x
  if x4.rank != 4 then fail s!"Error in {s.name}: {what} must be rank 4 but got rank {x4.rank}."
  if s.kind == .max then oneOf
  requireWholePad s.name p
  dropBatch (← poolKernel s x4 filter p) added

def maxPool : Op := inScope "maxPool" do pool2d maxPool2dSpec x filter p
def avgPool : Op := inScope "avgPool" do pool2d avgPool2dSpec x filter p

def pool3d (format : String) : Op := inScope s.name do
  let (x5,added) ← withBatch 5 x
  if x5.rank != 5 then fail s!"Error in {s.name}: x must be rank 5 but got rank {x5.rank}."
  if format != "NDHWC" then
    fail s!"Error in {s.name}: Only NDHWC is currently supported, but got dataFormat of {format}"
  requireOneOf s.name p
  requireWholePad s.name p
  dropBatch (← poolKernel s x5 filter p) added

/-- Padding that makes an axis divisible by its dilation, and what to cut off again. -/
structure DilationPlan where
  (paddings crops : List (Int × Int))

def dilationPlan (inSizes dilation : Ints) (base : List (Int × Int)) : DilationPlan :=
  let extra := (dilation.zip inSizes).map fun (b,n) => (b - n.tmod b).tmod b
  { paddings := (base.zip extra).map fun ((s,e),x) => (s,e + x)
    crops := extra.map fun x => (0,x) }

def pool (kind : PoolKind) (p : WindowParams) : Op := inScope "pool" do
  let pad := match p.pad with
    | .number 0 => .valid
    | q => q
  let p := { p with pad }
  let (x4,added) ← withBatch 4 x
  requireOneOf "pool" p
  let w ← poolWindow x4.shape filter p
  let dilation := w.axes.map (·.dilation)
  let base := match pad with
    | .same => w.axes.map fun a =>
      let extra := a.filter + (a.filter - 1) * (a.dilation - 1) - 1
      (extra / 2,extra - extra / 2)
    | _ => [(0,0),(0,0)]
  let plain := dilation.all (· == 1)
  let plan := dilationPlan (w.axes.map (·.input)) dilation base
  let block := dilation.map Int.toNat
  let y ← if plain then pure x4 else spaceToBatchND x4 block plan.paddings
  let q : WindowParams := ⟨p.strides,.one 1,if plain then pad else .valid,.none,true⟩
  let z ← pool2d (if kind == .avg then avgPool2dSpec else maxPool2dSpec) y filter q
  let z ← if plain then pure z else batchToSpaceND z block plan.crops
  dropBatch z added

/-- The gradient of a pooling for its input of a given shape. The greatest elements are found again in
the input. -/
def poolGradient (dy : Tensor) (inShape : Shape) (x : Option Tensor)
    (filter : Window.Extent) (p : WindowParams) : Op := do
  let label := if s.isVolume then s.name ++ "Backprop"
    else if s.kind == .max then "maxPoolBackProp" else "avgPoolBackprop"
  if inShape.length != dy.rank && !s.isVolume then
    fail s!"Rank of input ({inShape.length}) does not match rank of dy ({dy.rank})"
  requireOneOf label p
  let p := if s.isVolume then p else { p with rounding := .none }
  let w ← poolWindow inShape filter p
  runKernel (("$dy",dy) :: x.toList.map (("$input",·))) none do
    let d ← read dy
    let g ← match x with
      | some x => do
        let rule := if s.isVolume then .volume else .image
        pure (Kernel.maxPoolGradient (-infinity) rule w d (← read x))
      | none => pure (Kernel.avgPoolGradient w d)
    return (← store .float32 g,[])

/-! # Images -/

def requireImages (name : String) (x : Tensor) (size : Ints) : Eng Unit := do
  if x.rank != 3 && x.rank != 4 then fail s!"Error in {name}: x must be rank 3 or 4, but got rank {x.rank}."
  if size.length != 2 then fail s!"Error in {name}: new shape must 2D, but got shape {intsText size}."

def resizeBilinear (size : Ints) (alignCorners : Bool) : Op := inScope "resizeBilinear" do
  requireImages "resizeBilinear" x size
  let (x4,added) ← withBatch 4 x
  let y ← runKernel [("batchImages",x4)] (some (.resizeBilinear alignCorners)) do
    requireReal [x4] "resizeBilinear"
    let y := Kernel.resizeBilinear alignCorners (← read x4) (size.getD 0 0).toNat (size.getD 1 0).toNat
    return (← store .float32 y,[x4])
  dropBatch y added

def resizeNearest (size : Ints) (alignCorners : Bool) : Op :=
  inScope "resizeNearestNeighbor" do
    requireImages "resizeNearestNeighbor" x size
    if x.dtype != .float32 && x.dtype != .int32 then fail "`images` must have `int32` or `float32` as dtype"
    let (x4,added) ← withBatch 4 x
    let y ← runKernel [("batchImages",x4)] (some (.resizeNearest alignCorners)) do
      requireReal [x4] "resizeNearestNeighbor"
      let y := Kernel.resizeNearest alignCorners (← read x4) (size.getD 0 0).toNat (size.getD 1 0).toNat
      return (← store x4.dtype (y.map toSingle),[x4])
    dropBatch y added

variable (boxes scores : Tensor) (dy x : Tensor) (alignCorners : Bool)
def resizeBilinearGradient : Op := runKernel [] none do
  requireReal [dy,x] "resizeBilinearBackprop"
  let vs := Kernel.resizeBilinearGradient alignCorners (← read dy) x.shape
  let out := [x.dim 0,x.dim 2,x.dim 1,x.dim 3]
  return (← store x.dtype ⟨out,vs⟩,[])
def resizeNearestGradient : Op := runKernel [] none do
  requireReal [dy,x] "resizeNearestNeighborBackprop"
  let y := Kernel.resizeNearestGradient alignCorners (← read dy) x.shape
  return (← store x.dtype (y.map toSingle),[])

def requireBoxes (limit : Float) (overlapLimit : Float) : Eng Int := do
  let count := boxes.dim 0
  if !(0 ≤ overlapLimit && overlapLimit ≤ 1) then fail s!"iouThreshold must be in [0, 1], but was '{num overlapLimit}'"
  if boxes.rank != 2 then fail s!"boxes must be a 2D tensor, but was of rank '{boxes.rank}'"
  if boxes.dim 1 != 4 then fail s!"boxes must have 4 columns, but 2nd dimension was {boxes.dim 1}"
  if scores.rank != 1 then fail "scores must be a 1D tensor"
  if scores.dim 0 != count then
    fail s!"scores has incompatible shape with boxes. Expected {count}, but was {scores.dim 0}"
  let m := Number.min limit (.ofNat count)
  return Number.wholePart m.ceil

def suppressedBoxes (limit : Int) (overlapLimit scoreLimit : Float) : Op := do
  let chosen := Kernel.suppressNonMax (← numbers boxes) (← numbers scores) limit overlapLimit scoreLimit
  ofNumbers [chosen.length] .int32 (chosen.map .ofNat).toArray
def nonMaxSuppression (limit overlapLimit scoreLimit : Float) : Op :=
  inScope "nonMaxSuppression" do
    let m ← requireBoxes boxes scores limit overlapLimit
    runKernel [("$boxes",boxes)] none do
      requireReal [boxes] "nonMaxSuppression"
      return (← suppressedBoxes boxes scores m overlapLimit scoreLimit,[])

def cropAndResize (image boxes boxInd : Tensor) (crop : Ints) (method : String)
    (outside : Float) : Op := inScope "cropAndResize" do
  let count := boxes.dim 0
  if image.rank != 4 then fail s!"Error in cropAndResize: image must be rank 4,but got rank {image.rank}."
  if !(boxes.rank == 2 && boxes.dim 1 == 4) then
    fail s!"Error in cropAndResize: boxes must be have size [{count},4] but had shape {boxes.shape.text}."
  if !(boxInd.rank == 1 && boxInd.dim 0 == count) then
    fail s!"Error in cropAndResize: boxInd must be have size [{count}] but had shape {boxes.shape.text}."
  if crop.length != 2 then fail s!"Error in cropAndResize: cropSize must be of length 2, but got length {crop.length}."
  if crop.any (· < 1) then fail s!"cropSize must be atleast [1,1], but was {intsText crop}"
  if method != "bilinear" && method != "nearest" then fail s!"method must be bilinear or nearest, but was {method}"
  runKernel [("$image",image),("$boxes",boxes)] none do
    let x ← read image
    let bs ← numbers boxes
    let inds ← numbers boxInd
    let h := (crop.getD 0 1).toNat
    let w := (crop.getD 1 1).toNat
    let y := .ofCoords [count,h,w,image.dim 3] fun loc =>
      let b := loc.getD 0 0
      let c k := readAt bs (b * 4 + k)
      Kernel.cropElement x ⟨c 0,c 1,c 2,c 3,wholePart (readAt inds b)⟩ h w
        (method == "nearest") outside (loc.getD 1 0) (loc.getD 2 0) (loc.getD 3 0)
    return (← store image.dtype y,[])
end TensorKit.Ops
