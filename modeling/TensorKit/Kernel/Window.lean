import TensorKit.Tensor.NDArray
import TensorKit.Decimal.Text

/-! # Window geometry

A window of taps slides over the spatial axes of an image or a volume. `Axis` is the geometry on one axis: how many
places the window takes and how much padding stands before and after the input.
-/
namespace TensorKit.Window
inductive Pad where
  | same
  | valid
  | number (amount : Int)
  | fraction (amount : Float)
  | unknown (text : String)

def Pad.text : Pad → String
  | .same => "same"
  | .valid => "valid"
  | .number n => toString n
  | .fraction x => Decimal.text x
  | .unknown t => t
def Pad.isNumber (x : Pad) : Bool := x matches .number _

inductive Extent where
  | one (n : Int)
  | each (ns : Ints)

namespace Extent
def dims (rank : Nat) : Extent → Ints
  | .one n => .replicate rank n
  | .each ns => ns
def text : Extent → String
  | .one n => toString n
  | .each ns => intsText ns
def isOne : Extent → Bool
  | .one n => n == 1
  | .each ns => ns.all (· == 1)
end Extent

inductive Rounding where
  | none | floor | round | ceil
  | unknown (text : String)

def Rounding.text : Rounding → String
  | .none => "null"
  | .floor => "floor"
  | .round => "round"
  | .ceil => "ceil"
  | .unknown t => t

structure Axis where
  (input filter stride dilation effective before after out : Int)
deriving Inhabited
end TensorKit.Window
namespace TensorKit
/-- A window over all spatial axes, with the batch and the channels around it. -/
structure Window where
  (batch inChannels outChannels : Int)
  axes : List Window.Axis
  channelsLast : Bool
  padType : String
  (inShape outShape filterShape : Ints)
  /-- The taps lie half-way between two elements on every axis; the padding before is then half an element
  less than the axes say. -/
  between : Bool := false
deriving Inhabited
end TensorKit
namespace TensorKit.Window
def effectiveSize (filter dilation : Int) : Int :=
  if dilation ≤ 1 then filter else filter + (filter - 1) * (dilation - 1)
def ceilDiv (a b : Int) : Int := -(.fdiv (-a) b)
def defaultPad (input field stride dilation : Int) : Int :=
  .fdiv (input * (stride - 1) - stride + effectiveSize field dilation) 2
def Rounding.apply (mode : Rounding) (x : Float) : Tried Float := match mode with
  | .none => .ok x
  | .floor => .ok x.floor
  | .ceil => .ok x.ceil
  | .round => .ok (let f := x.floor; if x - f ≥ 0.5 then f + 1 else f)
  | .unknown t => .error (.failure s!"Unknown roundingMode {t}")
def placesNumber (what : String) (input field stride : Int) (pads : Float) (mode : Rounding) : Tried Int := do
  let v ← mode.apply ((.ofInt (input - field) + pads) / .ofInt stride + 1)
  if Number.isWhole v then return Number.wholePart v
  else
    throw (.failure
      s!"The output # of {what} ({Decimal.text v}) must be an integer. Change the stride and/or zero pad parameters")

/-- The part of a window that is known before its padding. -/
structure Slot where
  (input filter stride dilation : Int)

variable (w : Window) (s : Slot)
def Slot.effective : Int := effectiveSize s.filter s.dilation
def Slot.toAxis (before after out : Int) : Axis := ⟨s.input,s.filter,s.stride,s.dilation,s.effective,before,after,out⟩
def Slot.same (clampPad : Bool) (s : Slot) : Axis :=
  let out := ceilDiv s.input s.stride
  let total := (out - 1) * s.stride + s.effective - s.input
  let total := if clampPad then max 0 total else total
  let before := .fdiv total 2
  s.toAxis before (total - before) out
def Slot.valid : Axis := s.toAxis 0 0 (ceilDiv (s.input - s.effective + 1) s.stride)
def axisNames (n : Nat) : Strings := if n == 2 then ["rows","columns"] else ["depths","rows","columns"]

/-- Axes with an amount of padding on either side, given twice over. Field and stride are those of the first
axis. -/
def numberAxes (amount : Int) (pads : Float) (slots : List Slot) (mode : Rounding) : Tried (List Axis) :=
  let field := (slots.head?.map Slot.effective).getD 1
  let stride := (slots.head?.map (·.stride)).getD 1
  (slots.zip (axisNames slots.length)).mapM fun (s,what) => do
    return s.toAxis amount amount (← placesNumber what s.input field stride pads mode)

def axesOf (pad : Pad) (slots : List Slot) (mode : Rounding) : Tried (List Axis × String) := do
  match pad with
  | .same => return (slots.map (Slot.same (slots.length == 2)),"SAME")
  | .valid => return (slots.map Slot.valid,"VALID")
  | .number p => return (← numberAxes p (.ofInt (2 * p)) slots mode,if p == 0 then "VALID" else "NUMBER")
  | .fraction x => return (← numberAxes (Number.wholePart (x.floor + 1)) (2 * x) slots mode,"NUMBER")
  | .unknown t => throw (.failure s!"Unknown padding parameter: {t}")

def conv (inShape filterShape strides dilations : Ints) (pad : Pad) (mode : Rounding)
    (depthwise : Bool) (channelsLast : Bool) : Tried Window := do
  let n := inShape.length - 2
  let batch := inShape.headD 0
  let spatial := if channelsLast then (inShape.drop 1).take n else inShape.drop 2
  let inChannels := if channelsLast then inShape.getD (n + 1) 0 else inShape.getD 1 0
  let filterChannels := filterShape.getD (n + 1) 0
  let slots := (List.range n).map fun i => ⟨spatial.getD i 0,filterShape.getD i 0,strides.getD i 1,dilations.getD i 1⟩
  let (axes,padType) ← axesOf pad slots mode
  let outChannels := if depthwise then filterChannels * inChannels else filterChannels
  let outs := axes.map (·.out)
  let outShape := if channelsLast then batch :: outs ++ [outChannels] else batch :: outChannels :: outs
  let between := match pad with
    | .fraction _ => true
    | _ => false
  return { batch, inChannels, outChannels, axes, channelsLast, padType, inShape, outShape, filterShape, between }

def pool (inShape filter strides dilations : Ints) (pad : Pad) (mode : Rounding) (channelsLast : Bool) : Tried Window :=
  let n := inShape.length - 2
  let channels := if channelsLast then inShape.getD (n + 1) 0 else inShape.getD 1 0
  conv inShape (filter.take n ++ [channels,channels]) strides dilations pad mode false channelsLast
def Axis.outText (padType : String) (a : Axis) : String :=
  if a.stride == 0 then
    let room := if padType == "SAME" then a.input else a.input - a.effective + 1
    Decimal.text (.ofInt room / 0)
  else toString a.out
def requireOut : Tried Unit := do
  if w.axes.any (fun a => a.stride == 0) || w.outShape.any (· < 0) then
    let places := w.axes.map (Axis.outText w.padType)
    let dims := if w.channelsLast then toString w.batch :: places ++ [toString w.outChannels]
      else toString w.batch :: toString w.outChannels :: places
    throw (.failure (Fault.badDims (",".intercalate dims)))
def out : Shape := w.outShape.map Int.toNat
def input : Shape := w.inShape.map Int.toNat
def filter : Shape := w.filterShape.map Int.toNat
def filterSizes : Shape := w.axes.map (·.filter.toNat)
def effectiveSizes : Shape := w.axes.map (·.effective.toNat)
def place (b : Nat) (at' : Nats) (c : Nat) : Nats := if w.channelsLast then b :: at' ++ [c] else b :: c :: at'
def parts (loc : Nats) : Nat × Nats × Nat :=
  let b := loc.headD 0
  if w.channelsLast then (b,(loc.drop 1).dropLast,loc.getLastD 0)
  else (b,loc.drop 2,loc.getD 1 0)
end TensorKit.Window
