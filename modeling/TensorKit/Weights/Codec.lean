import TensorKit.Grid.Basic

/-! # Weights in one string of bytes

Numbers take four bytes, truth values one; a text is its length in four bytes and then itself.
-/
namespace TensorKit.Weights
/-- Elements as they are stored: four-byte numbers by their bits. -/
inductive Elements where
  | words (xs : List UInt32)
  | flags (xs : Bytes)
  | texts (xs : List Bytes)
deriving DecidableEq

namespace Elements
def wordBytes (w : UInt32) : Bytes := lowBytes 4 w.toNat
def textBytes (t : Bytes) : Bytes := lowBytes 4 t.length ++ t
def toBytes : Elements → Bytes
  | .words xs => xs.flatMap wordBytes
  | .flags xs => xs
  | .texts xs => xs.flatMap textBytes
def count : Elements → Nat
  | .words xs => xs.length
  | .flags xs => xs.length
  | .texts xs => xs.length
end Elements

/-- How stored whole numbers stand for elements: times the scale, plus the least value. -/
structure Quantization (α : Type) where
  dtype : String
  (scale min : α)

/-- What a manifest says of a weight. -/
structure Spec (α : Type) where
  name : String
  shape : Shape
  dtype : String
  quantization : Option (Quantization α) := none

structure Entry where
  name : String
  shape : Shape
  dtype : DType
  elements : Elements

def encode (entries : List Entry) : Bytes := entries.flatMap (·.elements.toBytes)

/-- Elements read from bytes, or computed from quantized ones. -/
inductive Decoded (α : Type) where
  | stored (elements : Elements)
  | numbers (xs : List α)
deriving DecidableEq

variable {α : Type}
def Decoded.count : Decoded α → Nat
  | .stored e => e.count
  | .numbers xs => xs.length

/-- Rounding and the ring of the numbers in use. -/
structure Arithmetic (α : Type) where
  ofNat : Nat → α
  mulAdd : α → α → α → α
  round : α → α

variable (a : Arithmetic α)
def Arithmetic.settle (scale min x : α) : α := a.round (a.mulAdd x scale min)
def Arithmetic.restore (whole : Bool) (q : Quantization α) (v : Nat) : α :=
  if whole then a.settle q.scale q.min (a.ofNat v) else a.mulAdd (a.ofNat v) q.scale q.min
def quantizedWidth? : String → Option Nat
  | "uint8" => some 1
  | "uint16" => some 2
  | _ => none

/-- Reads texts one after the other; where no length is left all further texts are empty. -/
def readTexts (bs : Bytes) : Nat → Nat → List Bytes × Nat
  | 0, offset => ([],offset)
  | n + 1, offset =>
    let length := ofLowBytes (slice bs offset 4)
    let text := slice bs (offset + 4) length
    let (rest,done) := readTexts bs n (offset + 4 + length)
    (text :: rest,done)
def unevenLength (kind : String) (width : Nat) : Fault :=
  ⟨.outOfRange,s!"byte length of {kind} should be a multiple of {width}"⟩

def decodeOne (bs : Bytes) (offset : Nat) (spec : Spec α) : Tried (Decoded α × Nat) := do
  let size := spec.shape.size
  let unsupported := .failure s!"Unsupported dtype in weight '{spec.name}': {spec.dtype}"
  match spec.quantization with
  | some q =>
    match quantizedWidth? q.dtype with
    | none =>
      throw (.failure (s!"Weight {spec.name} has unknown quantization dtype {q.dtype}. Supported quantization " ++
        "dtypes are: 'uint8' and 'uint16'."))
    | some width =>
      let part := slice bs offset (size * width)
      if part.length % width != 0 then throw (unevenLength "Uint16Array" 2)
      let stored := readWords width part
      match spec.dtype with
      | "float32" => return (.numbers (stored.map (a.restore false q)),offset + size * width)
      | "int32" => return (.numbers (stored.map (a.restore true q)),offset + size * width)
      | _ => throw unsupported
  | none =>
    match spec.dtype with
    | "string" =>
      let (texts,done) := readTexts bs size offset
      return (.stored (.texts texts),done)
    | "float32" | "int32" =>
      let part := slice bs offset (size * 4)
      if part.length % 4 != 0 then
        throw (unevenLength (if spec.dtype == "int32" then "Int32Array" else "Float32Array") 4)
      return (.stored (.words ((readWords 4 part).map Nat.toUInt32)),offset + size * 4)
    | "bool" => return (.stored (.flags (slice bs offset size)),offset + size)
    | _ => throw unsupported

/-! # Some weights of a manifest

Only the files of the groups that are needed are fetched, and a weight is cut out of the bytes of its group: its place
is the sum of the sizes before it. Texts have no size of their own, so the places behind them are not known.
-/

variable {α : Type}
/-- The paths of the files of a group, and its weights in order. -/
structure WeightGroup (α : Type) where
  paths : Strings
  specs : List (Spec α)

def elementSize? : String → Option Nat
  | "float32" | "int32" => some 4
  | "uint16" => some 2
  | "uint8" | "bool" => some 1
  | _ => none

/-- Bytes of a weight, if its elements have a size. -/
def Spec.byteSize? (spec : Spec α) : Option Nat :=
  let kept := match spec.quantization with
    | some q => q.dtype
    | none => spec.dtype
  (elementSize? kept).map (· * spec.shape.size)

/-- A weight with its place in the bytes of its group, as far as it is known. -/
structure Placed (α : Type) where
  spec : Spec α
  (offset size : Option Nat)

/-- The bytes at the place of a weight; at an unknown place there are none. -/
def Placed.cut (p : Placed α) (bs : Bytes) : Bytes := match p.offset, p.size with
  | some offset, some size => slice bs offset size
  | _, _ => []
def place : Option Nat → List (Spec α) → List (Placed α)
  | _, [] => []
  | offset, spec :: rest =>
    let next := return (← offset) + (← spec.byteSize?)
    ⟨spec,offset,spec.byteSize?⟩ :: place next rest
def WeightGroup.wanted (names : Option Strings) (g : WeightGroup α) : List (Placed α) :=
  let all := place (some 0) g.specs
  match names with
  | none => all
  | some names => all.flatMap fun p => (names.filter (· == p.spec.name)).map fun _ => p
variable (g : WeightGroup α)
def WeightGroup.names : Strings := g.specs.map (·.name)
def checkWanted (names : Option Strings) (manifest : List (WeightGroup α)) : Tried Unit :=
  let all := manifest.flatMap WeightGroup.names
  match (names.getD []).filter fun name => !all.contains name with
  | [] => .ok ()
  | missing => .error (.failure ("Could not find weights in manifest with names: " ++ ", ".intercalate missing ++
      ". \nManifest JSON has weights with names: " ++ ", ".intercalate all ++ "."))
def needed (names : Option Strings) (manifest : List (WeightGroup α)) : List (WeightGroup α) :=
  manifest.filter fun g => !(g.wanted names).isEmpty
def pathIn (folder path : String) : String :=
  if folder.toList.getLast? = some '/' then folder ++ path else folder ++ "/" ++ path
def takeGroup (buffers : List Bytes) : Tried (Bytes × List Bytes) :=
  if buffers.length < g.paths.length then .error (.noMember "byteLength")
  else .ok ((buffers.take g.paths.length).flatten,buffers.drop g.paths.length)
end TensorKit.Weights
