import TensorKit.Engine.Basic
import TensorKit.Kernel.Layout

/-! # Basic operations -/
namespace TensorKit.Ops
open Engine Number
def num (x : Float) : String := Decimal.text x
def truth (b : Bool) : String := if b then "true" else "false"
def nat (s : Shape) : Ints := s.map .ofNat
def requireReal (ts : Tensors) (name : String) : Eng Unit := do
  if ts.any (·.dtype == .complex64) then fail s!"{name} does not support complex64 tensors."
def requireSameShape (a b : Shape) (start : String) : Eng Unit := do
  if a != b then fail s!"{start} Shapes {a.text} and {b.text} must match"

variable (x : Tensor) (shape : Shape) (v : Float) (dtype : DType)
def kernel1 (rule : Option Rule) (forward : Op) : Op := runKernel [("$x",x)] rule do return (← forward,[])
def clone : Op := inScope "clone" do kernel1 x (some .clone) (share x x.shape x.dtype)
abbrev full : Op := ofNumbers shape dtype (.replicate shape.size (dtype.store v))
abbrev scalar : Op := ofNumbers [] .float32 #[DType.float32.store v]
abbrev scalarOf (v : Float) : Op := ofNumbers [] dtype #[dtype.store v]
def makeComplex (re im : Tensor) : Op := do
  let t ← make re.shape .complex64 .absent
  let r ← clone re
  let i ← clone im
  write t (.complex (← keep r) (← keep i))
  return t
def complex (re im : Tensor) : Op := inScope "complex" do
  requireSameShape re.shape im.shape
    (s!"real and imag shapes, {re.shape.text} and {im.shape.text}, must match in call to tf.complex().")
  runKernel [("$real",re),("$imag",im)] none do return (← makeComplex re im,[])
def parts : Eng (Tensor × Tensor) := do
  let .complex re im ← dataOf x | fail "Cannot read properties of undefined (reading 'real')"
  return (re,im)
def real : Op := inScope "real" do runKernel [("$input",x)] none do return (← clone (← parts x).1,[])
def imag : Op := inScope "imag" do runKernel [("$input",x)] none do return (← clone (← parts x).2,[])
def constant : Op := match dtype with
  | .complex64 => do complex (← full shape v .float32) (← full shape 0 .float32)
  | .string => make shape .string (.strings (.replicate shape.size .empty))
  | t => full shape v t
abbrev zeros : Op := constant shape 0 dtype
abbrev ones : Op := constant shape 1 dtype
def zerosLike : Op := inScope "zerosLike" do
  kernel1 x (some .constant) do
    if x.dtype == .complex64 then fail "Unknown data type complex64"
    zeros x.shape x.dtype
def onesLike : Op := inScope "onesLike" do
  if x.dtype == .complex64 then
    let re ← real x
    let im ← imag x
    complex (← ones re.shape re.dtype) (← zeros im.shape im.dtype)
  else kernel1 x (some .constant) (ones x.shape x.dtype)
def losesData (old new : DType) : Bool := match new with
  | .complex64 => false
  | .float32 => old == .complex64
  | .int32 => old == .float32 || old == .complex64 || old == .string
  | .bool => old != .bool
  | .string => true

def castData : Op := do
  if dtype == .complex64 then
    if x.dtype == .complex64 then clone x
    else makeComplex (← share x x.shape .float32) (← full x.shape 0 .float32)
  else if !losesData x.dtype dtype then share x x.shape dtype
  else
    let src ← if x.dtype == .complex64 then pure (← parts x).1 else pure x
    if x.dtype == .complex64 && !losesData .float32 dtype then share src x.shape dtype
    else match dtype with
    | .int32 => store .int32 (← read src)
    | .bool => store .bool ((← read src).map fun v => if v != 0 then 1 else 0)
    | t => fail s!"Error in Cast: failed to cast {x.dtype.name} to {t.name}"

def cast : Op := inScope "cast" do
  if (dtype == .string) != (x.dtype == .string) then fail "Only strings can be casted to strings"
  kernel1 x (some .cast) (castData x dtype)
abbrev toFloat : Op := cast x .float32
abbrev toInt : Op := cast x .int32
def matchTypes (a b : Tensor) : Eng (Tensor × Tensor) := do
  if a.dtype == b.dtype then return (a,b)
  let t ← DType.upcast a.dtype b.dtype
  return (← cast a t,← cast b t)

def scanShape : Ints → Nat → Int → Option Nat → Tried (Int × Option Nat)
  | [], _, prod, missing => .ok (prod,missing)
  | d :: ds, i, prod, missing =>
    if 0 ≤ d then scanShape ds (i + 1) (prod * d) missing
    else if d == -1 then
      match missing with
      | some j => .error (.failure s!"Shapes can only have 1 implicit size. Found -1 at dim {j} and dim {i}")
      | none => scanShape ds (i + 1) prod (some i)
    else .error (.failure s!"Shapes can not be < 0. Found {d} at dim {i}")

def inferShape (shape : Ints) (size : Nat) : Tried Ints := do
  match ← scanShape shape 0 1 none with
  | (prod,none) =>
    if 0 < size && size != prod then
      .error (.failure s!"Size({size}) must match the product of shape {intsText shape}")
    else .ok shape
  | (prod,some i) =>
    if prod == 0 then
      .error (.failure (s!"Cannot infer the missing size in [{intsText shape}] when there are 0 elements"))
    else if size % prod != 0 then
      .error (.failure s!"The implicit shape can't be a fractional number. Got {size} / {prod}")
    else .ok (shape.set i (size / prod))

def reshape (shape : Ints) : Op := inScope "reshape" do
  let s ← inferShape shape x.size
  let s : Shape := s.map Int.toNat
  if x.size != s.size then fail "new shape and old shape must have the same number of elements."
  kernel1 x (some (.reshape x.shape)) (share x s x.dtype)
abbrev reshapeTo : Op := reshape x (nat shape)
def flatten : Op := reshapeTo x [x.size]

def expandDims (axis : Int) : Op := inScope "expandDims" do
  if x.rank < axis then fail "Axis must be <= rank of the tensor"
  let axis ← if axis < 0 then do
      if axis < -(x.rank + 1) then fail s!"Axis must be in the interval [{-((x.rank : Int) + 1)}, {x.rank}]"
      pure (x.rank + axis + 1)
    else pure axis
  let i := axis.toNat
  reshapeTo x (x.shape.take i ++ [1] ++ x.shape.drop i)

def squeezeAxes : List (Nat × Nat) → Nats → Tried (List (Nat × Nat))
  | [], _ => .ok []
  | (d,i) :: dims, gone =>
    let next := gone.head?
    if next == some i && d != 1 then .error (.failure s!"Can't squeeze axis {i} since its dim '{d}' is not 1")
    else do
      let stays := d != 1 || next.all (i < ·)
      let rest ← squeezeAxes dims (if next.any (· ≤ i) then gone.drop 1 else gone)
      return if stays then (d,i) :: rest else rest

variable (axes : Option Ints)
/-- The shape without axes of one element, and the axes that stay. Without a list of axes all of
one element go. -/
def squeezeShape : Tried (Shape × Nats) := do
  let kept ← match axes with
    | none | some [] => pure (shape.zipIdx.filter (·.1 != 1))
    | some as => do squeezeAxes shape.zipIdx ((← Axes.normalize shape.length as).mergeSort (· ≤ ·))
  return (kept.map (·.1),kept.map (·.2))
def squeeze : Op := inScope "squeeze" do
  let (s,_) ← squeezeShape x.shape axes
  reshapeTo x s
def move (f : {α : Type} → [Inhabited α] → NDArray α → NDArray α) : Op := do
  let .strings vs ← dataOf x | store x.dtype (f (← read x))
  let r := f (⟨x.shape,vs⟩)
  make r.shape .string (.strings r.data)

/-! ## Tensors from a rule -/

def linspace (start stop : Float) (count : Nat) : Op := runKernel [] none do
  let step := if count ≤ 1 then nan else (stop - start) / .ofNat (count - 1)
  let values := (List.range (count - 1)).foldl (fun acc _ =>
    acc.push (toSingle (acc.getD (acc.size - 1) 0 + step))) #[toSingle start]
  return (← ofNumbers [count] .float32 values,[])

def range (start stop step : Float) (dtype : DType) : Op := do
  if step == 0 then fail "Cannot have a step of zero"
  if start == stop || (start < stop && step < 0) || (stop < start && step > 1) then zeros [0] dtype
  else
    let count := (wholePart ((stop - start) / step).ceil).natAbs
    let step := if stop < start && step == 1 then -1 else step
    let values := (List.range (count - 1)).foldl (fun acc _ =>
      acc.push (dtype.store (acc.getD (acc.size - 1) 0 + step))) #[dtype.store start]
    ofNumbers [count] dtype (if count == 0 then #[] else values)
end TensorKit.Ops
