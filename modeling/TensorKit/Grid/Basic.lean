import TensorKit.Tensor.NDArray
import TensorKit.Text.Encoding

/-! # Types of elements

An element is kept by its stored bits. Texts and byte strings are labels, whose stored length is their own.
-/

/-! ## Words in bytes

Numbers are stored with the low byte first.
-/
namespace TensorKit.Weights
def lowBytes : Nat → Nat → Bytes
  | 0, _ => []
  | width + 1, n => (n % 256).toUInt8 :: lowBytes width (n / 256)
def ofLowBytes (bs : Bytes) : Nat := bs.foldr (fun b acc => b.toNat + 256 * acc) 0
variable {α : Type}
def piecesWithin (width : Nat) : Nat → List α → List (List α)
  | 0, _ => []
  | _, [] => []
  | fuel + 1, bs => bs.take width :: piecesWithin width fuel (bs.drop width)
def pieces (width : Nat) (bs : List α) : List (List α) := piecesWithin width bs.length bs
def readWords (width : Nat) (bs : Bytes) : Nats := (pieces width bs).map ofLowBytes
def slice (bs : Bytes) (offset count : Nat) : Bytes := (bs.drop offset).take count
end TensorKit.Weights

/-! ## Numbers of less precision

The sign, the exponent and the digits behind the leading one. Rounding takes the even neighbour on a tie.
-/
namespace TensorKit
structure Precision where
  (exponent digits : Nat)

namespace Precision
def half : Precision := ⟨5,10⟩
def single : Precision := ⟨8,23⟩
variable (p : Precision)
def bias : Nat := .pow 2 (p.exponent - 1) - 1
def infinity : Nat := (2 * p.bias + 1) * .pow 2 p.digits

def toFloat (bits : Nat) : Float :=
  let sign := bits / .pow 2 (p.exponent + p.digits)
  let e := bits / .pow 2 p.digits % .pow 2 p.exponent
  let f := bits % .pow 2 p.digits
  let magnitude :=
    if e == 2 * p.bias + 1 then 2047 * .pow 2 52 + (if f == 0 then 0 else .pow 2 51)
    else if e == 0 then
      if f == 0 then 0
      else
        -- below the least exponent the leading digit is one of those stored
        let lead := f.log2
        (lead + 1024 - p.bias - p.digits) * .pow 2 52 + (f - .pow 2 lead) * .pow 2 (52 - lead)
    else (e + 1023 - p.bias) * .pow 2 52 + f * .pow 2 (52 - p.digits)
  .ofBits (sign * .pow 2 63 + magnitude).toUInt64

def ofFloat (x : Float) : Nat :=
  let bits := x.toBits.toNat
  let sign := bits / .pow 2 63 * .pow 2 (p.exponent + p.digits)
  let e := bits / .pow 2 52 % 2048
  let f := bits % .pow 2 52
  let magnitude :=
    if e == 2047 then if f == 0 then p.infinity else p.infinity + .pow 2 (p.digits - 1)
    else
      -- the value is `m * 2 ^ (exponent - 1075)`
      let m := if e == 0 then f else .pow 2 52 + f
      let exponent := if e == 0 then 1 else e
      -- more digits are lost below the least exponent of the format
      let lost := 52 - p.digits + (1024 - (exponent + p.bias))
      let field := (exponent + p.bias - 1024) * .pow 2 p.digits + Decimal.roundHalfEven m (.pow 2 lost)
      if field ≥ p.infinity then p.infinity else field
  sign + magnitude
end Precision
namespace Half
def toFloat (bits : UInt16) : Float := Precision.half.toFloat bits.toNat
def ofFloat (x : Float) : UInt16 := (Precision.half.ofFloat x).toUInt16
end Half
namespace Single
def toFloat (bits : UInt32) : Float := Precision.single.toFloat bits.toNat
def ofFloat (x : Float) : UInt32 := (Precision.single.ofFloat x).toUInt32
end Single

inductive Element where
  | bool | int8 | int16 | int32 | int64 | uint8 | uint16 | uint32 | uint64 | float16 | float32 | float64
  | complex64 | complex128 | object | str | bytes
deriving DecidableEq

inductive Label where
  | text (s : String)
  | raw (bs : Bytes)
  | other
deriving DecidableEq

/-- How many bytes an element takes, and in what words they are kept. -/
inductive Storage where
  | byte | half | word | long | pair | label
deriving DecidableEq

namespace Storage
def Cell : Storage → Type
  | byte => UInt8
  | half => UInt16
  | word => UInt32
  | long => UInt64
  | pair => UInt64 × UInt64
  | label => Label
def width : Storage → Nat
  | byte => 1
  | half => 2
  | word => 4
  | long => 8
  | pair => 16
  | label => 8
def toNat : (s : Storage) → s.Cell → Nat
  | byte, c => UInt8.toNat c
  | half, c => UInt16.toNat c
  | word, c => UInt32.toNat c
  | long, c => UInt64.toNat c
  | pair, c => UInt64.toNat c.1 + .pow 2 64 * UInt64.toNat c.2
  | label, _ => 0
def cell : (s : Storage) → Nat → s.Cell
  | byte, n => n.toUInt8
  | half, n => n.toUInt16
  | word, n => n.toUInt32
  | long, n => n.toUInt64
  | pair, n => (n.toUInt64,(n / .pow 2 64).toUInt64)
  | label, _ => .other
end Storage

inductive Datum where
  | truth (b : Bool)
  | whole (n : Int)
  | real (x : Float)
  | complex (re im : Float)
  | label (l : Label)

namespace Element
def storage : Element → Storage
  | bool | int8 | uint8 => .byte
  | int16 | uint16 | float16 => .half
  | int32 | uint32 | float32 => .word
  | int64 | uint64 | float64 | complex64 => .long
  | complex128 => .pair
  | object | str | bytes => .label

variable (e : Element) (bits : Nat)
abbrev Cell : Type := e.storage.Cell
def width : Nat := e.storage.width

def name : Element → String
  | bool => "bool"
  | int8 => "int8"
  | int16 => "int16"
  | int32 => "int32"
  | int64 => "int64"
  | uint8 => "uint8"
  | uint16 => "uint16"
  | uint32 => "uint32"
  | uint64 => "uint64"
  | float16 => "float16"
  | float32 => "float32"
  | float64 => "float64"
  | complex64 => "complex64"
  | complex128 => "complex128"
  | object => "object"
  | str => "str"
  | bytes => "bytes"

/-- All types, each with its other names. -/
def all : List (Element × Strings) :=
  [ (bool,["?","bool_","b1"]),(int8,["byte","i1","b"]),(int16,["short","i2","h"]),(int32,["intc","i4","i"]),
    (int64,["int","i8","long","l","q","longlong","intp","int_"]),(uint8,["ubyte","u1","B"]),
    (uint16,["ushort","u2","H"]),(uint32,["uintc","u4","I"]),
    (uint64,["uint","u8","L","Q","ulong","ulonglong","uintp"]),(float16,["half","f2","e"]),
    (float32,["single","f4","f"]),(float64,["double","float","f8","d"]),(complex64,["csingle","c8","F"]),
    (complex128,["complex","cdouble","c16","D"]),(object,["O","object_"]),(str,["str_","U"]),(bytes,["bytes_","S"]) ]
def ofName? (s : String) : Option Element := (all.find? fun (e,names) => e.name == s || names.contains s).map (·.1)
def signed (n : Nat) : Int := if n < .pow 2 (bits - 1) then n else n - Nat.pow 2 bits

def datum : (e : Element) → e.Cell → Datum
  | bool, c => .truth (UInt8.toNat c != 0)
  | int8, c => .whole (signed 8 (UInt8.toNat c))
  | uint8, c => .whole (UInt8.toNat c)
  | int16, c => .whole (signed 16 (UInt16.toNat c))
  | uint16, c => .whole (UInt16.toNat c)
  | int32, c => .whole (signed 32 (UInt32.toNat c))
  | uint32, c => .whole (UInt32.toNat c)
  | int64, c => .whole (signed 64 (UInt64.toNat c))
  | uint64, c => .whole (UInt64.toNat c)
  | float16, c => .real (Half.toFloat c)
  | float32, c => .real (Single.toFloat c)
  | float64, c => .real (.ofBits c)
  | complex64, c =>
    let n := UInt64.toNat c
    .complex (Single.toFloat n.toUInt32) (Single.toFloat (n / .pow 2 32).toUInt32)
  | complex128, c => .complex (.ofBits c.1) (.ofBits c.2)
  | object, c => .label c
  | str, c => .label c
  | bytes, c => .label c

def ofInt (s : Storage) (n : Int) : s.Cell := s.cell (n % Nat.pow 2 (8 * s.width)).toNat

def truncated (x : Float) : Int :=
  if x.isNaN || x.isInf then -(Nat.pow 2 (bits - 1))
  else
    let n := Number.wholePart x
    let bound : Int := Nat.pow 2 (bits - 1)
    if -bound ≤ n && n < bound then n else -bound

def ofFloat : (e : Element) → Float → e.Cell
  | bool, x => (if x == 0.0 then 0 else 1 : UInt8)
  | int8, x => ofInt .byte (truncated 32 x)
  | uint8, x => ofInt .byte (truncated 32 x)
  | int16, x => ofInt .half (truncated 32 x)
  | uint16, x => ofInt .half (truncated 32 x)
  | int32, x => ofInt .word (truncated 32 x)
  | uint32, x => ofInt .word (truncated 64 x)
  | int64, x => ofInt .long (truncated 64 x)
  | uint64, x =>
    if x < 9223372036854775808.0 then ofInt .long (truncated 64 x)
    else ofInt .long (Nat.pow 2 63 + truncated 64 (x - 9223372036854775808.0))
  | float16, x => Half.ofFloat x
  | float32, x => Single.ofFloat x
  | float64, x => x.toBits
  | complex64, x => (Single.ofFloat x).toUInt64
  | complex128, x => (x.toBits,0)
  | object, _ => .other
  | str, _ => .other
  | bytes, _ => .other

def toFloat? (c : e.Cell) : Option Float := match e.datum c with
  | .truth b => some (if b then 1.0 else 0.0)
  | .whole n => some (.ofInt n)
  | .real x => some x
  | .complex re _ => some re
  | .label _ => none
def isLabel : Bool := e.storage == .label
def isFloating : Element → Bool
  | float16 | float32 | float64 => true
  | _ => false
end Element

/-! # Arrays of stored elements -/

structure Grid where
  element : Element
  shape : Nats
  cells : List element.Cell

namespace Grid
instance : Inhabited Grid := ⟨⟨.float32,[0],[]⟩⟩
variable (g : Grid) (e : Element) (shape : Nats)
def size : Nat := g.shape.foldl (· * ·) 1
def cellBytes (c : e.Cell) : Bytes := Weights.lowBytes e.width (e.storage.toNat c)
def labelBytes? : Label → Option Bytes
  | .text s => some s.toUTF8.toList
  | .raw bs => some bs
  | .other => none
def toBytes : Bytes := g.cells.flatMap (cellBytes g.element)
def cellsOf (bs : Bytes) : List e.Cell := (Weights.readWords e.width bs).map e.storage.cell
def floats? : Option Floats := g.cells.mapM g.element.toFloat?
def floats (g : Grid) : Floats := g.floats?.getD []
def ofFloats (xs : Floats) : Grid := ⟨e,shape,xs.map e.ofFloat⟩
def ofLabels (xs : List Label) : Grid := ⟨.object,shape,xs⟩
def labels : Grid → List Label
  | ⟨.object,_,cells⟩ => cells
  | ⟨.str,_,cells⟩ => cells
  | ⟨.bytes,_,cells⟩ => cells
  | _ => []
def narrowed : Grid → Grid
  | ⟨.float64,shape,cells⟩ => ⟨.float32,shape,cells.map fun c => Single.ofFloat (.ofBits c)⟩
  | ⟨.int64,shape,cells⟩ => ⟨.int32,shape,cells.map fun c => (UInt64.toNat c).toUInt32⟩
  | g => g
def loosened : Grid → Grid
  | ⟨.str,shape,cells⟩ => ⟨.object,shape,cells⟩
  | ⟨.bytes,shape,cells⟩ => ⟨.object,shape,cells⟩
  | g => g
def shapeText : String := match shape with
  | [n] => s!"({n},)"
  | ns => "(" ++ ", ".intercalate (ns.map toString) ++ ")"
end Grid
end TensorKit
