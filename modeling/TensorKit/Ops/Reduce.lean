import TensorKit.Ops.Layout

/-! # Reductions -/
namespace TensorKit.Ops
open Engine Number
variable (x : Tensor) (axes : Option Ints) (keepDims : Bool)
def axesOf : Tried Nats := match axes with
  | some as => Axes.normalize x.rank as
  | none => .ok (.range x.rank)
def bringLast (axes : Nats) : Eng (Tensor × Nats × Option Nats) := do
  let some p := Axes.permutation? axes x.rank | return (x,axes,none)
  return (← transposeBy x p,Axes.lastAxes axes.length x.rank,some p)
def reduceData (axes : Nats) (dtype : DType) (f : Floats → Float) : Op := do
  let (out,reduced) := Axes.outAndReduced x.shape axes
  store dtype ⟨out,Kernel.reduceRuns (← numbers x) out.size reduced.size f⟩
def keepAxes (y : Tensor) (axes : Nats) (keepDims : Bool) : Op :=
  if keepDims then reshapeTo y (Axes.keepDims y.shape axes) else pure y

def sum (x : Tensor) (axes : Option Ints) (keepDims : Bool) : Op := inScope "sum" do
  let x ← if x.dtype == .bool then toInt x else pure x
  let as ← axesOf x axes
  runKernel [("0",x)] (some (.sum x.shape as)) do
    let (p,last,_) ← bringLast x as
    let y ← runKernel [("permutedX",p)] none do
      requireReal [p] "sum"
      return (← reduceData p last (← DType.upcast p.dtype .int32) Kernel.sum,[])
    return (← keepAxes y as keepDims,[])

abbrev sumAxes (axes : Nats) (keepDims : Bool) : Op := sum x (some (nat axes)) keepDims
def sumAll : Op := sum x none false

def prod (x : Tensor) (axes : Option Ints) (keepDims : Bool) : Op := inScope "prod" do
  let x ← if x.dtype == .bool then toInt x else pure x
  let as ← axesOf x axes
  let (p,last,_) ← bringLast x as
  let y ← runKernel [("permutedX",p)] none do
    requireReal [p] "sum"
    return (← reduceData p last (← DType.upcast p.dtype .int32) Kernel.prod,[])
  keepAxes y as keepDims

def mean (x : Tensor) (axes : Option Ints) (keepDims : Bool) : Op := inScope "mean" do
  let as ← axesOf x axes
  let count := (Axes.outAndReduced x.shape as).2.size
  runKernel [("0",x)] (some (.mean x.shape as count)) do
    let size ← scalar (.ofNat count)
    let y ← if x.dtype == .float32 then pure x else toFloat x
    return (← sum (← div y size) axes keepDims,[])

variable (name : String) (f : Floats → Float)
def extremum (x : Tensor) (axes : Option Ints) (keepDims : Bool) : Op := inScope name do
  let as ← axesOf x axes
  let (p,last,perm) ← bringLast x as
  let y ← runKernel [("$x",p)] (some (.extremum as perm)) do
    requireReal [p] name
    let y ← reduceData p last p.dtype f
    return (y,[x,y])
  keepAxes y as keepDims

def min := extremum "min" Kernel.minimum
def max := extremum "max" Kernel.maximum
def argExtremum (f : Floats → Nat) (x : Tensor) (axis : Int) : Op := inScope name do
  let as ← Axes.normalize x.rank [axis]
  let (p,last,_) ← bringLast x as
  runKernel [("$x",p)] (some .savedZeros) do
    requireReal [p] name
    return (← reduceData p last .int32 fun vs => .ofNat (f vs),[p])
def argMin := argExtremum "argMin" Kernel.argMin
def argMax := argExtremum "argMax" Kernel.argMax

def quantifier (x : Tensor) (axes : Option Ints) (keepDims : Bool) : Op := inScope name do
  let as ← axesOf x axes
  let (p,last,_) ← bringLast x as
  let y ← runKernel [("$x",p)] none do
    requireReal [p] name
    return (← reduceData p last p.dtype f,[])
  keepAxes y as keepDims

def all := quantifier "all" Kernel.all
def any := quantifier "any" Kernel.any
def logSumExp : Op := inScope "logSumExp" do
  let as ← axesOf x axes
  let top ← max x (some (nat as)) true
  let d ← log (← sumAxes (← exp (← sub x top)) as false)
  let y ← add (← reshapeTo top d.shape) d
  keepAxes y as keepDims

structure Moments where
  (mean variance : Tensor)

def moments : Eng Moments := do
  let (m,v) ← inScope "moments" do
    let as ← axesOf x axes
    let m ← mean x (some (nat as)) keepDims
    let shape := if keepDims then m.shape else Axes.keepDims m.shape as
    let v ← mean (← square (← sub (← toFloat x) (← reshapeTo m shape))) (some (nat as)) keepDims
    pure (m,v)
  return ⟨m,v⟩

inductive NormOrder where
  | number (p : Float)
  | named (name : String)

namespace NormOrder
def text : NormOrder → String
  | .number p => num p
  | .named s => s
def isNumber (o : NormOrder) (p : Float) : Bool := match o with
  | .number q => q == p
  | .named _ => false
def isNamed (o : NormOrder) (s : String) : Bool := match o with
  | .number _ => false
  | .named t => t == s
end NormOrder

inductive NormAxes where
  | all
  | one (axis : Int)
  | many (axes : Ints)

def NormAxes.list? : NormAxes → Option Ints
  | .all => none
  | .one a => some [a]
  | .many as => some as

variable (x : Tensor) (ord : NormOrder)
def vectorNorm (axes : Option Ints) : Op := do
  if ord.isNumber 1 then sum (← abs x) axes false
  else if ord.isNumber infinity then max (← abs x) axes false
  else if ord.isNumber (-infinity) then min (← abs x) axes false
  else if ord.isNamed "euclidean" || ord.isNumber 2 then sqrt (← sum (← pow (← abs x) (← scalarOf .int32 2)) axes false)
  else fail s!"Error in norm: invalid ord value: {ord.text}"
def matrixNorm (a b : Int) : Op := do
  if ord.isNumber 1 then max (← sum (← abs x) (some [a]) false) (some [b - 1]) false
  else if ord.isNumber infinity then max (← sum (← abs x) (some [b]) false) (some [a]) false
  else if ord.isNumber (-infinity) then min (← sum (← abs x) (some [b]) false) (some [a]) false
  else if ord.isNamed "fro" || ord.isNamed "euclidean" then sqrt (← sum (← square x) (some [a,b]) false)
  else fail s!"Error in norm: invalid ord value: {ord.text}"

def norm (axes : NormAxes) (keepDims : Bool) : Op := inScope "norm" do
  let y ← if x.rank == 0 then abs x
    else match axes with
    | .all => do
      let flat ← if x.rank == 1 then pure x else reshape x [-1]
      vectorNorm flat ord none
    | .one a => vectorNorm x ord (some [a])
    | .many [a] => vectorNorm x ord (some [a])
    | .many [a,b] => if x.rank == 1 then vectorNorm x ord (some [a,b]) else matrixNorm x ord a b
    | .many as =>
      if x.rank == 1 then vectorNorm x ord (some as)
      else fail s!"Error in norm: invalid axis: {intsText as}"
  if keepDims then
    let as ← axesOf x axes.list?
    reshapeTo y (Axes.keepDims y.shape as)
  else reshapeTo y y.shape

/-! # Products of matrices -/

/-- Shapes of the two stacks of matrices of a product, brought to rank three. -/
structure ProductShapes where
  (a b out : Shape)

def lastDim? (x : Tensor) (k : Nat) : Option Nat := if k ≤ x.rank then x.shape[x.rank - k]? else none
def dimText (d : Option Nat) : String := d.elim "undefined" toString

def productShapes (label : String) (a b : Tensor) (transposeA transposeB : Bool) : Tried ProductShapes := do
  let innerA := lastDim? a (if transposeA then 2 else 1)
  let innerB := lastDim? b (if transposeB then 1 else 2)
  let outerA := lastDim? a (if transposeA then 1 else 2)
  let outerB := lastDim? b (if transposeB then 2 else 1)
  let dimsA : Shape := a.shape.take (a.rank - 2)
  let dimsB : Shape := b.shape.take (b.rank - 2)
  if !(2 ≤ a.rank && 2 ≤ b.rank && a.rank == b.rank) then
    throw (.failure
      s!"Error in {label}: inputs must have the same rank of at least 2, got ranks {a.rank} and {b.rank}.")
  if dimsA != dimsB then
    throw (.failure (s!"Error in {label}: outer dimensions ({dimsA.text}) and ({dimsB.text}) of Tensors with " ++
      s!"shapes {a.shape.text} and {b.shape.text} must match."))
  if innerA != innerB then
    throw (.failure (s!"Error in {label}: inner shapes ({dimText innerA}) and ({dimText innerB}) of Tensors with " ++
      s!"shapes {a.shape.text} and {b.shape.text} and transposeA={truth transposeA} and " ++
      s!"transposeB={truth transposeB} must match."))
  let n := innerA.getD 0
  let l := outerA.getD 0
  let r := outerB.getD 0
  return {
    a := if transposeA then [dimsA.size,n,l] else [dimsA.size,l,n]
    b := if transposeB then [dimsB.size,r,n] else [dimsB.size,n,r]
    out := dimsA ++ [l,r] }

variable (a b : Tensor) (transposeA transposeB : Bool)
def productData : Op := do
  requireReal [a,b] "matMul"
  ofArray a.dtype (Kernel.matMul a.dtype.store (← read a) (← read b) transposeA transposeB)

def matMul : Op := inScope "matMul" do
  let (a,b) ← matchTypes a b
  let s ← productShapes "matMul" a b transposeA transposeB
  requireLive a
  requireLive b
  let a3 ← reshapeTo a s.a
  let b3 ← reshapeTo b s.b
  let y ← runKernel [("$a",a3),("$b",b3)] (some (.matMul transposeA transposeB)) do
    return (← productData a3 b3 transposeA transposeB,[a3,b3])
  reshapeTo y s.out

def outerProduct (u v : Tensor) : Op := inScope "outerProduct" do
  if u.rank != 1 || v.rank != 1 then
    fail s!"Error in outerProduct: inputs must be rank 1, but got ranks {u.rank} and {v.rank}."
  matMul (← reshape u [-1,1]) (← reshape v [1,-1]) false false

def dot : Op := inScope "dot" do
  let ok t := t.rank == 1 || t.rank == 2
  if !(ok a && ok b) then fail s!"Error in dot: inputs must all be rank 1 or 2, but got ranks {a.rank} and {b.rank}."
  let innerA := if a.rank == 1 then a.size else a.dim 1
  let innerB := if b.rank == 1 then b.size else b.dim 0
  if innerA != innerB then fail s!"Error in dot: inner dimensions of inputs must match, but got {innerA} and {innerB}."
  let l ← if a.rank == 1 then reshape a [1,-1] else pure a
  let r ← if b.rank == 1 then reshape b [-1,1] else reshapeTo b b.shape
  let y ← matMul l r false false
  if a.rank == 1 && b.rank == 1 then reshape y []
  else if a.rank == 1 || b.rank == 1 then flatten y
  else pure y
end TensorKit.Ops
