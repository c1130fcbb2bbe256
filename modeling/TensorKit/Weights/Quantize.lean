import TensorKit.Weights.Codec

/-! # Quantization

The range of a weight is divided into equal steps. If it holds zero, its ends move by less than a step so that zero
itself is one of the levels. The rules are stated over any numbers with a rounding function.
-/
namespace TensorKit.Weights
open Scalar
/-- Levels at equal steps: level `q` stands for `q * step + least`. -/
structure Levels (α : Type) where
  (step least most : α)

section
variable {α : Type} [Scalar α] (round : α → α) (count : Nat)
/-- Steps from the least to the greatest number of a range; zero is a level if the range holds it. -/
def Levels.ofRange (lo hi : α) : Levels α :=
  let step := (hi - lo) / ofNat count
  if le lo zero && le zero hi then
    let zero := round ((zero - lo) / step)
    let least := -zero * step
    ⟨step,least,ofNat count * step + least⟩
  else ⟨step,lo,hi⟩
def clip (lo hi x : α) : α :=
  let y := if lt x lo then lo else x
  if lt hi y then hi else y
def Levels.level (s : Levels α) (x : α) : α := round ((clip s.least s.most x - s.least) / s.step)

/-- The smaller of two numbers; what differs from itself wins. -/
def lesser (a b : α) : α := if lt b a || !eq b b then b else a
def greater (a b : α) : α := if lt a b || !eq b b then b else a

/-- Levels of all numbers, with the steps. A range of one number needs no steps. -/
def quantize (first : α) (rest : List α) : List α × α × α :=
  let lo := rest.foldl lesser first
  let hi := rest.foldl greater first
  if eq lo hi then ((first :: rest).map fun _ => zero,one,lo)
  else
    let s := Levels.ofRange round count lo hi
    ((first :: rest).map (s.level round),s.step,s.least)
end

def dequantize {α : Type} (a : Arithmetic α) (step least : α) (levels : List α) : List α :=
  levels.map (a.settle step least)
def levelCount? : Element → Option Nat
  | .uint8 => some 255
  | .uint16 => some 65535
  | _ => none
variable (e : Element)
def shownType : String := match e with
  | .object => "<class 'object'>"
  | .str => "<class 'str'>"
  | .bytes => "<class 'bytes'>"
  | e => "<class 'numpy." ++ e.name ++ "'>"
def badLevelType : Refusal := .badValue ("Invalid `quantization_dtype`: " ++ shownType e)

structure Quantized where
  grid : Grid
  (step least : Float)

def quantizeGrid (g : Grid) (target : Element) : Checked Quantized := do
  let some count := levelCount? target | throw (badLevelType target)
  if g.cells.isEmpty then throw (.plain .badValue)
  match g.element with
  | .object => throw (.plain .noAttribute)
  | .str | .bytes => throw (.plain .noOperation)
  | _ =>
    match g.floats with
    | [] => throw (.plain .badValue)
    | first :: rest =>
      let (xs,step,least) := quantize Number.roundEven count first rest
      return ⟨.ofFloats target g.shape xs,step,least⟩

def quantizationRange (lo hi : Float) (target : Element) : Checked (Levels Float) :=
  (levelCount? target).elim (.error (badLevelType target)) fun count => .ok (.ofRange Number.roundEven count lo hi)

/-- Arithmetic on an array of floating numbers keeps its precision; all else is computed in doubles. -/
def inPrecision (x : Float) : Float := match e with
  | .float32 => Single.toFloat (Single.ofFloat x)
  | .float16 => Half.toFloat (Half.ofFloat x)
  | _ => x

/-- How numbers of a type of elements are scaled: in their own precision, halves going to the even number. -/
def scalingOf : Arithmetic Float :=
  let near := inPrecision e
  ⟨.ofNat,fun q step least => near (near (q * near step) + near least),Number.roundEven⟩
def dequantizeGrid (g : Grid) (step least : Float) (target : Element) : Checked Grid := match g.element with
  | .object => .error .badType
  | .str | .bytes => .error (.plain .noOperation)
  | e => .ok (.ofFloats target g.shape (dequantize (scalingOf e) step least g.floats))
end TensorKit.Weights
