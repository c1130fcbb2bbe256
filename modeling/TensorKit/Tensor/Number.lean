import TensorKit.Fault
import TensorKit.Decimal.Text

/-! # Element types and their storage

What is left of a double in the storage format of a type: single precision, or integers or bytes that wrap.
-/
namespace TensorKit
inductive DType where
  | float32 | int32 | bool | complex64 | string
deriving DecidableEq, Inhabited

namespace DType
def name : DType → String
  | .float32 => "float32"
  | .int32 => "int32"
  | .bool => "bool"
  | .complex64 => "complex64"
  | .string => "string"
def all : List DType := [.float32,.int32,.bool,.complex64,.string]
def ofName? (s : String) : Option DType := all.find? (·.name == s)
def bytes : DType → Nat
  | .float32 | .int32 => 4
  | .complex64 => 8
  | .bool => 1
  | .string => 0
def upcast? : DType → DType → Option DType
  | .string, .string => some .string
  | .string, _ | _, .string => none
  | .complex64, _ | _, .complex64 => some .complex64
  | .float32, _ | _, .float32 => some .float32
  | .int32, _ | _, .int32 => some .int32
  | .bool, .bool => some .bool
def upcast (a b : DType) : Tried DType :=
  (upcast? a b).getDM (.error (.failure s!"Can not upcast {a.name} with {b.name}"))
end DType
namespace Number
def wholePart (x : Float) : Int :=
  let b := Decimal.Binary.ofFloat x
  let n := if 0 ≤ b.q then b.m * .pow 2 b.q.toNat else b.m / .pow 2 (-b.q).toNat
  if b.neg then -n else n

def isWhole (x : Float) : Bool := x.isFinite && x.floor == x
def toSingle (x : Float) : Float := x.toFloat32.toFloat
def toInt32 (x : Float) : Float :=
  if x.isNaN || x.isInf then 0.0
  else if x.abs < 2147483648.0 then
    let y := if x < 0 then x.ceil else x.floor
    y + 0.0
  else .ofInt (.bmod (wholePart x) (.pow 2 32))
def toByte (x : Float) : Float :=
  if x.isNaN || x.isInf then 0.0
  else .ofInt (wholePart x % 256)
def nan : Float := 0.0 / 0.0
def infinity : Float := 1.0 / 0.0

def remainder (a b : Float) : Float :=
  if a.isNaN || b.isNaN || a.isInf || b == 0.0 then nan
  else if b.isInf || a == 0.0 then a
  else
    let ⟨_,ma,qa⟩ := Decimal.Binary.ofFloat a
    let ⟨_,mb,qb⟩ := Decimal.Binary.ofFloat b
    let q := min qa qb
    let r := (ma * .pow 2 (qa - q).toNat) % (mb * .pow 2 (qb - q).toNat)
    let v := (Float.ofNat r).scaleB q
    if a < 0 then -v else v
end Number

def DType.store (t : DType) (x : Float) : Float := match t with
  | .int32 => Number.toInt32 x
  | .bool => Number.toByte x
  | _ => Number.toSingle x
end TensorKit

/-! # Scalars

Kernels are written over any scalar type, so that they run on doubles and can be studied over exact numbers.
-/
namespace TensorKit
class Scalar (α : Type) extends Add α, Sub α, Mul α, Div α, Neg α where
  zero : α
  one : α
  missing : α
  lt : α → α → Bool
  le : α → α → Bool
  eq : α → α → Bool
  ofInt : Int → α

namespace Scalar
variable {α : Type} [Scalar α]
def ofNat (n : Nat) : α := ofInt n
def truthy (x : α) : Bool := lt x zero || lt zero x
end Scalar

instance : Scalar Float where
  zero := 0.0
  one := 1.0
  missing := Number.nan
  lt a b := a < b
  le a b := a ≤ b
  eq a b := a == b
  ofInt n := .ofInt n

instance : Scalar Rat where
  zero := 0
  one := 1
  missing := 0
  lt a b := a < b
  le a b := a ≤ b
  eq a b := a == b
  ofInt n := n

/-- Scalars with the whole numbers among them. -/
class WholeScalar (α : Type) extends Scalar α where
  half : α
  floor : α → α
  ceil : α → α
  isEven : α → Bool

namespace WholeScalar
variable {α : Type} [WholeScalar α]
def nearestUp (x : α) : α :=
  let base := floor x
  if Scalar.le half (x - base) then base + Scalar.one else base
def nearestEven (x : α) : α :=
  let base := floor x
  if Scalar.lt (x - base) half then base
  else if Scalar.lt half (x - base) then ceil x
  else if isEven base then base
  else base + Scalar.one
end WholeScalar

instance : WholeScalar Float where
  half := 0.5
  floor := .floor
  ceil := .ceil
  isEven x := Number.remainder x 2.0 == 0.0
instance : WholeScalar Rat where
  half := 1 / 2
  floor x := x.floor
  ceil x := (-(-x).floor : Int)
  isEven x := x.floor % 2 == 0
@[inline] def readAt {α : Type} [Scalar α] (xs : Array α) (i : Nat) : α := xs.getD i Scalar.missing
end TensorKit

/-! # Functions of real numbers

With the answers that the kernels give for NaN and infinities.
-/
namespace TensorKit.Number
variable (x : Float) (a b : Float)
def max : Float :=
  if a.isNaN || b.isNaN then nan
  else if a < b then b
  else if b < a then a
  else if a == 0.0 && 1.0 / a < 0 then b else a
def min : Float :=
  if a.isNaN || b.isNaN then nan
  else if a < b then a
  else if b < a then b
  else if a == 0.0 && 1.0 / b < 0 then b else a
def round : Float := WholeScalar.nearestUp x
def roundEven : Float := WholeScalar.nearestEven x
def pow (a b : Float) : Float :=
  if b.isNaN then nan
  else if b.isInf && a.abs == 1.0 then nan
  else .pow a b

def expm1 : Float :=
  if x.isNaN || x == 0.0 then x
  else if x.isInf then if x < 0 then -1.0 else x
  else
    let u := x.exp
    if u == 1.0 then x
    else
      let v := u - 1.0
      if v == -1.0 then -1.0
      else if u.isInf then u
      else v * x / u.log

def log1p : Float :=
  if x.isNaN || x == 0.0 then x
  else if x.isInf then x.log
  else
    let u := 1.0 + x
    if u == 1.0 then x else u.log * x / (u - 1.0)
def sign : Float := if x < 0 then -1.0 else if x > 0 then 1.0 else 0.0
def signum : Float := if x < 0 then -1.0 else if x > 0 then 1.0 else x

def hypot : Float :=
  if a.isInf || b.isInf then infinity
  else if a.isNaN || b.isNaN then nan
  else
    let x := a.abs
    let y := b.abs
    let m := max x y
    if m == 0.0 then 0.0
    else
      let n := x / m
      let s := n * n
      let n := y / m
      let t := n * n
      (s + t).sqrt * m

def truthy : Bool := !(x == 0.0 || x.isNaN)
def ofBool (b : Bool) : Float := if b then 1.0 else 0.0
def pi : Float := 3.141592653589793
end TensorKit.Number
