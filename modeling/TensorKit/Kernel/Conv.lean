import TensorKit.Kernel.Window

/-! # Convolution

Locations are lists with one coordinate per spatial axis, so that images and volumes share the kernels. A forward kernel
rounds the running sum after every term; a gradient kernel sums first.
-/
namespace TensorKit.Kernel
open Scalar List
variable {β : Type}
def choices : List (List β) → List (List β)
  | [] => [[]]
  | xs :: rest =>
    let tails := choices rest
    xs.flatMap fun x => tails.map (x :: ·)

variable {α : Type} [Scalar α] (aligned : Bool) (w : Window) (a : Window.Axis) (x : NDArray Float)
variable (least : α) (rule : PositionRule) (before : Int) (y : Nat) (store : α → α)
def tapInput (y t : Nat) : Option Nat :=
  let x := y * a.stride - before + t * a.dilation
  if 0 ≤ x && x < a.input then some x.toNat else none
def axisTaps : List (Nat × Nat) := (range a.filter.toNat).filterMap fun t => (tapInput a before y t).map fun x => (t,x)
def axisCovers (x : Nat) : List (Nat × Nat) :=
  (range a.out.toNat).filterMap fun (y : Nat) =>
    let t := x + a.before - y * a.stride
    if 0 ≤ t && t < a.filter then some (y,t.toNat) else none
def axisPlaces (t : Nat) : List (Nat × Nat) :=
  (range a.out.toNat).filterMap fun (y : Nat) =>
    let x := t + y * a.stride - a.before
    if 0 ≤ x && x < a.input then some (y,x.toNat) else none

/-- The combinations of what is found along each axis. -/
def across (xs : Nats) (found : Window.Axis → Nat → List β) : List (List β) :=
  choices ((w.axes.zip xs).map fun (a,x) => found a x)
@[specialize] def sumOver (xs : List β) (f : β → α) : α := xs.foldl (fun acc x => acc + f x) zero

@[specialize] def conv (w : Window) (x f : NDArray α) : NDArray α :=
  let inChannels := range w.inChannels.toNat
  .ofCoords w.out fun loc =>
    let (b,out,d2) := w.parts loc
    (across w out fun a => axisTaps a a.before).foldl (fun acc tap =>
      let t := tap.map (·.1)
      let xs := tap.map (·.2)
      inChannels.foldl (fun acc d1 => store (acc + x.get (w.place b xs d1) * f.get (t ++ [d1,d2]))) acc) zero

def multiplier : Nat := w.outChannels.toNat / w.inChannels.toNat

@[specialize] def depthwise (w : Window) (x f : NDArray α) : NDArray α :=
  let m := multiplier w
  let pads := (w.axes.map (·.before)).reverse
  .ofCoords w.out fun loc =>
    let (b,out,d) := w.parts loc
    let d1 := d / m
    let q := d % m
    let taps := choices (((w.axes.zip pads).zip out).map fun ((a,p),y) => axisTaps a p y)
    taps.foldl (fun acc tap =>
      let t := tap.map (·.1)
      let xs := tap.map (·.2)
      store (acc + x.get (w.place b xs d1) * f.get (t ++ [d1,q]))) zero

/-! Every input channel has `m` filter channels; `out` tells the output channel of each. -/

variable (m : Nat) (out : Nat → Nat → Nat)
@[specialize] def inputGradient (dy f : NDArray α) : NDArray α :=
  .ofCoords w.input fun loc =>
    let (b,at',d1) := w.parts loc
    (across w at' axisCovers).foldl (fun acc cover =>
      let ys := cover.map (·.1)
      let ts := cover.map (·.2)
      (range m).foldl (fun acc q => acc + dy.get (w.place b ys (out d1 q)) * f.get (ts ++ [d1,q])) acc) zero

@[specialize] def filterGradient (x dy : NDArray α) : NDArray α :=
  let n := w.axes.length
  .ofCoords w.filter fun loc =>
    let d1 := loc.getD n 0
    let d2 := out d1 (loc.getD (n + 1) 0)
    let places := across w (loc.take n) axisPlaces
    (range w.batch.toNat).foldl (fun acc b =>
      places.foldl (fun acc place =>
        let ys := place.map (·.1)
        let xs := place.map (·.2)
        acc + x.get (w.place b xs d1) * dy.get (w.place b ys d2)) acc) zero

def convInputGradient : NDArray α → NDArray α → NDArray α := inputGradient w w.outChannels.toNat fun _ d2 => d2
def convFilterGradient : NDArray α → NDArray α → NDArray α := filterGradient w fun _ d2 => d2
def depthwiseInputGradient : NDArray α → NDArray α → NDArray α :=
  inputGradient w (multiplier w) fun d1 q => d1 * multiplier w + q
def depthwiseFilterGradient : NDArray α → NDArray α → NDArray α := filterGradient w fun d1 q => d1 * multiplier w + q

/-! # Pooling

The largest or the mean element under each window, and the gradients that send the outputs back to the inputs.
-/

def stepsBelow (start step stop : Nat) : Nats :=
  if step == 0 then []
  else (range ((stop - start + step - 1) / step)).map fun i => start + i * step
def windowStart (corner dilation : Int) : Nat :=
  if 0 ≤ corner then corner.toNat
  else if aligned && 0 < dilation then (corner % dilation).toNat
  else 0
def windowInputs : Nats :=
  let corner := y * a.stride - a.before
  stepsBelow (windowStart aligned corner a.dilation) a.dilation.toNat (min a.input (a.effective + corner)).toNat
def windowAt (x : NDArray α) (loc : Nats) : List α :=
  let (b,out,c) := w.parts loc
  (across w out (windowInputs aligned)).map fun xs => x.get (w.place b xs c)
@[specialize] def maxPool (aligned : Bool) (w : Window) (x : NDArray α) : NDArray α :=
  .ofCoords w.out fun loc => (windowAt aligned w x loc).foldl (fun m v => if lt m v then v else m) least
@[specialize] def avgPool (x : NDArray α) : NDArray α := .ofCoords w.out fun loc =>
  let vs := windowAt aligned w x loc
  vs.foldl (· + ·) zero / ofNat vs.length

/-- How a place inside a window is numbered, and which of two equal elements counts as the largest. -/
structure PositionRule where
  number : Shape → Nats → Nat
  laterWins : Bool

def PositionRule.image : PositionRule := ⟨fun s loc => s.index loc,false⟩
def PositionRule.volume : PositionRule := ⟨fun s loc =>
  let h := s.getD 1 1
  loc.getD 0 0 * (h * s.getD 2 1) + loc.getD 1 0 * h + loc.getD 2 0,true⟩

@[specialize] def maxPosition (w : Window) (x : NDArray α) (loc : Nats) : Option Nat :=
  let (b,out,c) := w.parts loc
  let corners := (w.axes.zip out).map fun (a,y) => y * a.stride - a.before
  let spots := across w out (windowInputs true)
  (spots.foldl (fun acc xs =>
    let v := x.get (w.place b xs c)
    let better := if rule.laterWins then le acc.1 v else lt acc.1 v
    if better then
      let inWindow := (xs.zip corners).map fun (x,k) => ((x : Int) - k).toNat
      (v,some (rule.number w.effectiveSizes inWindow))
    else acc) (least,none)).2

def backCovers (x : Nat) : List (Nat × Nat) :=
  let pad := a.effective - 1 - a.before
  (stepsBelow 0 a.dilation.toNat a.effective.toNat).filterMap fun (t : Nat) =>
    let v := x - pad + t
    if v % a.stride == 0 && 0 ≤ v / a.stride && v / a.stride < a.out then some ((v / a.stride).toNat,t)
    else none

@[specialize] def maxPoolGradient (w : Window) (dy x : NDArray α) : NDArray α :=
  let size := w.effectiveSizes
  let last : Int := size.size - 1
  let positions : NDArray Int := .ofCoords w.out fun loc =>
    match maxPosition least rule w x loc with
    | some p => p
    | none => -1
  .ofCoords w.input fun loc =>
    let (b,at',c) := w.parts loc
    (across w at' backCovers).foldl (fun acc cover =>
      let out := w.place b (cover.map (·.1)) c
      let here : Int := size.index (cover.map (·.2))
      let chosen := last - positions.data.getD (w.out.index out) (-1)
      if chosen == here then acc + dy.get out * one else acc) zero

@[specialize] def avgPoolGradient (dy : NDArray α) : NDArray α :=
  let share := one / ofNat w.filterSizes.size
  .ofCoords w.input fun loc =>
    let (b,at',c) := w.parts loc
    sumOver (across w at' backCovers) (fun cover => dy.get (w.place b (cover.map (·.1)) c)) * share

/-! ## Windows between elements

With half an element of padding, what is under a tap is the element at the sum of the offsets, when that sum is whole:
the coordinates are not looked at one by one.
-/

def spatialSteps : Nats :=
  let steps := w.input.strides
  if w.channelsLast then (steps.drop 1).take w.axes.length else steps.drop 2
def halfWay (none' : Float) (w : Window) (x : NDArray Float) : NDArray Float :=
  let total := (spatialSteps w).foldl (· + ·) 0
  { x with data := .ofFn fun i : Fin x.data.size =>
      if total % 2 == 0 then x.data.getD (i + total / 2) none' else none' }
def convView : NDArray Float := if w.between then halfWay Number.nan w x else x

/-- Twice the input coordinates under the window at output coordinate `y`. A window that begins before the input
falls on elements again, unless it is aligned. -/
def doubledInputs : Nats :=
  let corner := y * a.stride - a.before
  if corner < 0 && !aligned then
    (stepsBelow 0 a.dilation.toNat (min a.input (a.effective + corner + 1)).toNat).map (2 * ·)
  else (windowInputs aligned a y).map (2 * · + 1)
def betweenAt (loc : Nats) : List (Option Float) :=
  let (b,out,c) := w.parts loc
  let start := w.input.index (w.place b (out.map fun _ => 0) c)
  (across w out (doubledInputs aligned)).map fun xs =>
    let twice := ((xs.zip (spatialSteps w)).map fun (x,s) => x * s).foldl (· + ·) 0
    if twice % 2 == 0 then x.data[start + twice / 2]? else none
def maxBetween (least : Float) (aligned : Bool) (w : Window) (x : NDArray Float) : NDArray Float :=
  .ofCoords w.out fun loc =>
    (betweenAt aligned w x loc).foldl (fun m v => match v with
      | some v => if lt m v then v else m
      | none => m) least
def avgBetween : NDArray Float := .ofCoords w.out fun loc =>
  let vs := betweenAt aligned w x loc
  (vs.map (·.getD Number.nan)).foldl (· + ·) 0 / .ofNat vs.length
end TensorKit.Kernel
