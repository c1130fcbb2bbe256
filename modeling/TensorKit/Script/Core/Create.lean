import TensorKit.Script.Arguments
import TensorKit.Tensor.Format

/-! # Making and reading tensors in programs -/
namespace TensorKit.Script
open Engine Ops List Number
def requireDims (shape : Floats) : Tried Unit := do
  if shape.any fun d => !(isWhole d && d >= 0) then fail (Fault.badDims (",".intercalate (shape.map Decimal.text)))

def makeTensor (values shape : Value) (inferred : Shape) (dtype : Value) : Op := do
  let name := if dtype.isNil then (inferDType values).name else dtype.text
  if name == "complex64" then fail "Cannot construct a complex64 tensor directly. Please use tf.complex(real, imag)."
  if !isTensorLike values then
    fail ("values passed to tensor(values) must be a number/boolean/string or " ++
      "an array of numbers/booleans/strings, or a TypedArray")
  if shape.isPresent then
    let dims := (listOf shape).map Value.toNumber
    requireDims dims
    let s : Shape := dims.map fun d => (wholePart d).toNat
    if s.size != inferred.size then
      fail s!"Based on the provided shape, [{s.text}], the tensor should have {s.size} values but has {inferred.size}"
    for (n,i) in inferred.zipIdx do
      let flatFits := i + 1 == inferred.length && n == Shape.size (s.drop i)
      if !(s[i]? == some n || flatFits) then
        fail (s!"Error creating a new Tensor. Inferred shape ({inferred.text}) does not match the provided shape " ++
          s!"({s.text}). ")
  let s : Shape := if shape.isPresent then shape.nats else inferred
  let some t := DType.ofName? name | fail s!"Unknown data type {name}"
  tensorOfValues values s t

def isText (dtype : Value) : Bool := dtype.str? == some "string"
variable (a : Values) (t : Tensor) (b : TensorBuffer) (rank : Nat)
def tensorArgs : Op :=
  let values := a 0
  makeTensor values (a 1) (inferShapeOf values (isText (a 2))) (a 2)

def scalarArgs : Op := do
  let v := a 0
  let dtype := a 1
  if (((v matches .typed ..) && !isText dtype) || v.isList) && dtype.str? != some "complex64" then
    fail "Error creating a new Scalar: value must be a primitive (number|boolean|string)"
  match v with
  | .typed .uint8 _ => pure ()
  | .typed .. => if isText dtype then fail "When making a scalar from encoded string, the value must be `Uint8Array`."
  | _ => pure ()
  makeTensor v (.list []) [] dtype

def nthWord (n : Nat) : String := ["zero","one","two","three","four","five","six"].getD n ""

def rankedArgs (a : Values) : Op := do
  let v := a 0
  if v.isNil then fail "The input to the tensor constructor must be a non-null value."
  let shape := if rank == 1 then .absent else a 1
  let dtype := a (if rank == 1 then 1 else 2)
  if rank != 1 && shape.isPresent && (listOf shape).length != rank then
    fail s!"tensor{rank}d() requires shape to have {nthWord rank} numbers"
  let inferred := inferShapeOf v (isText dtype)
  if rank == 1 then if inferred.length != 1 then fail "tensor1d() requires values to be a flat/TypedArray"
  else
    let brackets := .join (replicate rank "[]")
    if inferred.length != rank && inferred.length != 1 then
      fail (s!"tensor{rank}d() requires values to be number" ++ brackets ++ " or flat/TypedArray")
    if inferred.length == 1 && shape.isNil then
      fail (s!"tensor{rank}d() requires shape to be provided when `values` are a flat" ++
        (if rank == 2 then "/TypedArray" else " array"))
  makeTensor v shape inferred dtype

def rankedHandler : Route := plainHandler s!"tensor{rank}d" (rankedArgs rank)
def constantArgs (v : Float) (a : Values) : Op := do
  let dtype ← dtypeArg (a 1) .float32
  if dtype == .string then fail "Unknown data type string"
  let size := ((a 0).items.map Value.toNumber).foldl (· * ·) 1
  if size.isNaN then fail "Length of values '0' does not match the size inferred by the shape 'NaN'."
  if size < 0 then throw ⟨.outOfRange,s!"Invalid typed array length: {Decimal.text size}"⟩
  constant (a 0).nats v dtype
def fillArgs : Op := runKernel [] none do
  let v := a 1
  let dtype ← dtypeArg (a 2) (inferDType v)
  let shape : Shape := (a 0).nats
  if dtype == .string then return (← make shape .string (.strings (.replicate shape.size (utf8 v.text))),[])
  return (← full shape v.toNumber dtype,[])

def createTable : Handlers :=
  [ plainHandler "tensor" tensorArgs,plainHandler "scalar" scalarArgs,
    rankedHandler 1,rankedHandler 2,rankedHandler 3,rankedHandler 4,rankedHandler 5,
    rankedHandler 6,
    plainHandler "zeros" (constantArgs 0),plainHandler "ones" (constantArgs 1),
    plainHandler "fill" fillArgs,
    plainHandler "linspace" <| on3 fun x y z => do
      let n := z.toNumber
      if n <= 0 then fail "The number of values should be positive."
      linspace x.toNumber y.toNumber (wholePart n).toNat,
    plainHandler "range" <| on4 fun x y z w => do range x.toNumber y.toNumber (numOr z 1) (← dtypeArg w .float32),
    plainHandler "convertToTensor" <| on4 fun x y z w => do
      let expected ← match w with
        | .absent => pure .numeric
        | .null => pure .any
        | v => (DType.ofName? v.text).elim (pure .numeric) fun t => pure (.dtype t)
      toTensor x y.text z.text expected ]

def tensorValues : Eng (Array Value) := do
  if t.dtype == .string then return (← strings t).map fun b => Text.decodeUtf8 b.toList
  else return (← numbers t).map .num
def tensorData : Eng Value := do
  requireLive t
  if t.dtype == .string then return .list (← tensorValues t).toList
  let kind := .ofDType (← storedType t)
  return .typed kind (← numbers t)
def nestWithin (get : Nat → Value) : Shape → Nat → Value
  | [], start => get start
  | [n], start => .list ((range n).map fun i => get (start + i))
  | n :: rest, start => .list ((range n).map fun i => nestWithin get rest (start + i * Shape.size rest))
def nested (shape : Shape) (values : Array Value) : Tried Value := match shape with
  | [] => .ok (values.getD 0 .absent)
  | s =>
    if Shape.size s == 0 then .ok (.list [])
    else if Shape.size s != values.size then fail s!"[{s.text}] does not match the input size."
    else .ok (nestWithin (values.getD · .absent) s 0)
def tensorArray : Eng Value := do
  requireLive t
  nested t.shape (← tensorValues t)

def tensorText (verbose : Bool) : Eng String := do
  requireLive t
  let vs ← tensorValues t
  let cells ← match t.dtype with
    | .string => pure (vs.toList.map fun v => "'" ++ v.text ++ "'")
    | .bool => pure (vs.toList.map fun v => if v.toNumber == 0 then "false" else "true")
    | .complex64 =>
      let pair i :=
        Format.number (vs.getD (2 * i) .absent).toNumber ++ " + " ++
          Format.number (vs.getD (2 * i + 1) .absent).toNumber ++ "j"
      pure ((range t.size).map pair)
    | _ => pure (vs.toList.map (Format.number ·.toNumber))
  let cells := if t.rank == 0 then
      match t.dtype with
      | .string | .float32 | .int32 => (vs.toList.map Value.text).take 1
      | _ => cells
    else cells
  return Format.tensor t.shape t.dtype.name cells verbose

/-! # Tensors under construction -/

open Engine
def newBuffer : Reply := modifyGet fun w => (.object .buffer w.buffers.size,{ w with buffers := w.buffers.push b })

variable (id : Nat) (args : Values) (name : String)
def bufferAt : Script TensorBuffer := return (← get).buffers.getD id default

def makeBuffer (shape dtype values : Value) : Reply := do
  let dims := shape.numsD
  do requireDims dims
  let name := strOr dtype "float32"
  let s : Shape := shape.nats
  if values.isPresent && values.items.length != s.size then
    fail s!"Length of values '{values.items.length}' does not match the size inferred by the shape '{s.size}'."
  if name == "complex64" then
    fail ("complex64 dtype TensorBuffers are not supported. Please create a TensorBuffer for the real and " ++
      "imaginary parts separately and call tf.complex(real, imag).")
  let some t := DType.ofName? name | fail s!"Unknown data type {name}"
  if values.isPresent then
    let kind := match values with
      | .typed k _ => some k
      | _ => none
    newBuffer ⟨s,t,kind,values.items.toArray⟩
  else if t == .string then newBuffer ⟨s,t,none,.replicate s.size .absent⟩
  else newBuffer ⟨s,t,some (.ofDType t),.replicate s.size 0⟩

def coordinates : Ints := if args.isEmpty then [0] else args.map (wholePart ·.toNumber)

def setInBuffer : Reply := silent do
  let b ← bufferAt id
  let loc := coordinates (args.drop 1)
  if loc.length != b.shape.length then
    fail s!"The number of provided coordinates ({loc.length}) must match the rank ({b.shape.length})"
  let i := b.shape.locToIndex loc
  let v := args 0
  let v := b.kind.elim v fun k => k.store v.toNumber
  if 0 ≤ i then
    modify fun w => { w with buffers := w.buffers.modify id fun b =>
      { b with values := b.values.setIfInBounds i.toNat v } }

def getFromBuffer : Reply := do
  let b ← bufferAt id
  let loc := coordinates args
  if !b.shape.holds loc then
    fail ("Requested out of range element at " ++ intsText loc ++ s!".   Buffer shape={b.shape.text}")
  let i := (loc.dropLast.zip b.shape.strides).foldl (fun acc (l,st) => acc + st * l) (loc.getLastD 0)
  return if 0 ≤ i then b.values.getD i.toNat .absent else .absent
def bufferToTensor : Op :=
  if b.dtype == .string then make b.shape .string (.strings (toTexts b.values.toList))
  else ofNumbers b.shape b.dtype (b.values.map Value.toNumber)

def bufferMethod (args : Values) : Reply := do
  match name with
  | "set" => setInBuffer id args
  | "get" => getFromBuffer id args
  | "locToIndex" => return .ofInt ((← bufferAt id).shape.locToIndex (args 0).ints)
  | "indexToLoc" => return .ofInts ((← bufferAt id).shape.indexToLoc (intOr (args 0) 0))
  | "toTensor" => bufferToTensor (← bufferAt id)
  | _ => throw (.badType s!"{name} is not a function")

def bufferField : Reply := do
  let b ← bufferAt id
  return Value.record [("rank",b.shape.length),("shape",.ofShape b.shape),("size",b.shape.size),("dtype",b.dtype.name),
    ("strides",.ofNats (b.shape.strides.take (b.shape.length - 1))),
    ("values",b.kind.elim (.list b.values.toList) fun k => .typed k (b.values.map Value.toNumber))] name

def bufferTable : Handlers := [ ("buffer",on3 makeBuffer) ]
end TensorKit.Script
