import TensorKit.Script.World

/-! # Values as tensors

A program may give nested lists, flat arrays or single numbers for a tensor.
-/
namespace TensorKit.Script
open Engine Number
def Value.toNumber : Value → Float
  | .num x => x
  | .bool b => ofBool b
  | .null => 0
  | .str s => (Decimal.readNumber s).getD nan
  | _ => nan
def inferDTypeWithin : Nat → Value → DType
  | fuel + 1, .list xs => inferDTypeWithin fuel (xs 0)
  | _, .typed .float32 _ => .float32
  | _, .typed _ _ => .int32
  | _, .str _ => .string
  | _, .bool _ => .bool
  | _, _ => .float32

def Value.depth : Value → Nat
  | .list xs => (xs.map depth).foldl .max 0 + 1
  | _ => 1

def inferDType (v : Value) : DType := inferDTypeWithin v.depth v
def inferShapeWithin (text : Bool) : Nat → Value → Shape
  | fuel + 1, .list xs => xs.length :: inferShapeWithin text fuel (xs 0)
  | _, .typed _ xs => if text then [] else [xs.size]
  | _, _ => []
def inferShapeOf (v : Value) (text : Bool) : Shape := inferShapeWithin text v.depth v

def flatValues (keepTyped : Bool) : Value → Values
  | .list xs => xs.flatMap (flatValues keepTyped)
  | .typed k xs => if keepTyped then [.typed k xs] else xs.toList.map .num
  | v => [v]
variable (v : Value) (dtype : DType) (arg fn : String)
def storeAs (x : Float) : Float := match dtype with
  | .bool => ofBool (!(round x == 0))
  | t => t.store x
def toNumbers : Array Float := match v, dtype with
  | .typed .uint8 xs, .bool => xs
  | .typed _ xs, t => xs.map (storeAs t)
  | v, t => ((flatValues false v).map (storeAs t ·.toNumber)).toArray
def utf8 (s : String) : ByteArray := s.toUTF8
def toTexts : Array ByteArray :=
  ((flatValues true v).map fun
    | .str s => utf8 s
    | .typed _ xs => .mk (xs.map (·.toUInt8))
    | .absent | .null => .empty
    | x => utf8 x.text).toArray
def tensorOfValues (shape : Shape) (dtype : DType) : Op :=
  if dtype == .string then make shape .string (.strings (toTexts v))
  else ofNumbers shape dtype (toNumbers v dtype)

inductive Expected where
  | any
  | numeric
  | dtype (t : DType)

def Expected.text : Expected → String
  | .any => ""
  | .numeric => "numeric"
  | .dtype t => t.name
def Expected.admits : Expected → DType → Bool
  | .any, _ => true
  | .numeric, t => t != .string
  | .dtype e, t => e == t
def isTensorLike (v : Value) : Bool := v matches .list _ | .typed .. | .num _ | .bool _ | .str _

def className : Value → String
  | .record _ => "Object"
  | .closure .. | .native .. | .classRef _ => "Function"
  | .bytes _ => "ArrayBuffer"
  | .item c _ => c
  | .promise _ => "Promise"
  | .object .buffer _ => "TensorBuffer"
  | .object .symbolic _ => "SymbolicTensor"
  | .object .layerVariable _ => "LayerVariable"
  | _ => "Object"

variable (expected : Expected)
def toTensor : Op := do
  let check t := do
    if !expected.admits t then
      fail s!"Argument '{arg}' passed to '{fn}' must be {expected.text} tensor, but got {t.name} tensor"
  match v with
  | .tensor t =>
    check t.dtype
    return t
  | v =>
    let inferred := inferDType v
    let t := match expected with
      | .dtype .bool | .dtype .int32 | .dtype .float32 =>
        if inferred == .string then inferred else
          match expected with
          | .dtype e => e
          | _ => inferred
      | _ => inferred
    check t
    if !isTensorLike v then
      let given := if v.isNil then "null" else className v
      fail s!"Argument '{arg}' passed to '{fn}' must be a Tensor or TensorLike, but got '{given}'"
    tensorOfValues v (inferShapeOf v (t == .string)) t

def toTensors : Eng Tensors := do
  let .list xs := v | fail s!"Argument {arg} passed to {fn} must be a `Tensor[]` or `TensorLike[]`"
  xs.zipIdx.mapM fun (x,i) => toTensor x s!"{arg}[{i}]" fn .numeric
def toTensor? : Eng (Option Tensor) := do
  if v.isPresent then return some (← toTensor v arg fn expected) else return none

/-! # Arguments of operations -/

variable (v : Value) (key : String) (default : Int) (rank : Nat)
def numOr (default : Float) : Float := match v with
  | .absent => default
  | v => v.toNumber
def intOr : Int := wholePart (numOr v (.ofInt default))
def natOr (default : Nat) : Nat := (intOr v default).toNat
def boolOr (default : Bool) : Bool := match v with
  | .absent => default
  | v => v.truthy
def strOr (default : String) : String := match v with
  | .absent => default
  | v => v.text
def asList : Value → Values
  | .list xs => xs
  | v => [v]
def listOf : Values := match v with
  | .absent | .null => []
  | .list xs => xs
  | .typed _ xs => xs.toList.map .num
  | v => [v]

def axesArg : Tried (Option Ints) := do
  if v.isNil then return none
  let xs := (listOf v).map Value.toNumber
  let text := ",".intercalate (xs.map Decimal.text)
  let r := .ofNat rank
  if xs.any fun x => !(-r <= x && x < r) then
    fail s!"All values in axis param must be in range [-{rank}, {rank}) but got axis {text}"
  if xs.any fun x => !isWhole x then fail s!"All values in axis param must be integers but got axis {text}"
  return some (xs.map wholePart)

def axisArg : Tried Int := do return ((← axesArg (if v.isAbsent then (.ofInt default) else v) rank).getD []).headD 0
def padArg : Window.Pad := match v with
  | .str "same" => .same
  | .str "valid" => .valid
  | .num x => if isWhole x then .number (wholePart x) else .fraction x
  | v => .unknown v.text
def extentArg (default : Window.Extent) : Window.Extent := match v with
  | .num x => .one (wholePart x)
  | .list _ | .typed .. => .each v.ints
  | _ => default
def roundingArg : Window.Rounding := match v with
  | .absent | .null => .none
  | .str "floor" => .floor
  | .str "round" => .round
  | .str "ceil" => .ceil
  | v => .unknown v.text
def dtypeArg (default : DType) : Tried DType := match v with
  | .absent | .null => .ok default
  | v => (DType.ofName? v.text).getDM (fail s!"Unknown data type {v.text}")
def productOf (xs : Floats) : Float := xs.foldl (· * ·) 1

def fillIn (given : Value) (size : Float) : Tried Floats := do
  let shape := (listOf given).map Value.toNumber
  let mut product := 1.0
  let mut open? : Option Nat := none
  for (d,i) in shape.zipIdx do
    if d >= 0 then product := product * d
    else if d == -1 then
      match open? with
      | some j => fail s!"Shapes can only have 1 implicit size. Found -1 at dim {j} and dim {i}"
      | none => open? := some i
    else if d < 0 then fail ("Shapes can not be < 0. Found " ++ Decimal.text d ++ s!" at dim {i}")
  match open? with
  | none =>
    if size > 0 && size != product then
      fail ("Size(" ++ Decimal.text size ++ ") must match the product of shape " ++ given.text)
    return shape
  | some i =>
    if product == 0 then fail ("Cannot infer the missing size in [" ++ given.text ++ "] when there are 0 elements")
    if remainder size product != 0 then
      fail ("The implicit shape can't be a fractional number. " ++
        "Got " ++ Decimal.text size ++ " / " ++ Decimal.text product)
    return shape.set i (size / product)

def tensorAt (args : Values) (i : Nat) (arg fn : String) : Op := toTensor (args i) arg fn .numeric
variable (name : String)
def opHandler (key name : String) (f : Values → Op) : Route := (key,fun a => inOp name do return (← f a))
variable (f : Values → Op)
def op : Route := opHandler name name f

/-- An operation on a tensor and what follows it. -/
def opOn (what : String) (f : Tensor → Values → Op) : Route :=
  op name fun a => do f (← tensorAt a 0 what name) a
def unaryHandler (f : Tensor → Op) : Route := opOn name "x" fun x _ => f x
def binaryHandler (fn : String) (expected : Expected) (f : Tensor → Tensor → Op) : Route := op name fun a => do
  let x ← toTensor (a 0) "a" fn expected
  f x (← toTensor (a 1) "b" fn expected)
def opOnTwo (first second : String) (f : Tensor → Tensor → Values → Op) : Route :=
  opOn name first fun x a => do f x (← tensorAt a 1 second name) a
def opListHandler (key name : String) (f : Values → Eng Tensors) : Route :=
  (key,fun a => inOp name do return .list ((← f a).map .tensor))
def plainHandler : Route := (key,fun a => return (← f a))
def pureHandler (f : Values → Tried Value) : Route := (key,fun a => return ← (do f a : Eng Value))
def fn1 (f : Value → Tried Value) : Route := pureHandler key (on1 f)
def fn2 (f : Value → Value → Tried Value) : Route := pureHandler key (on2 f)
def fn3 (f : Value → Value → Value → Tried Value) : Route := pureHandler key (on3 f)
def fn4 (f : Value → Value → Value → Value → Tried Value) : Route := pureHandler key (on4 f)
end TensorKit.Script
