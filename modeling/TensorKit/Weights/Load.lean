import TensorKit.Files.Desk
import TensorKit.Weights.Quantize

/-! # Loading weights

Lengths below zero in a shape stand for what is left.
-/
namespace TensorKit.Weights
open Files (Work)
structure Loaded where
  name : Json
  data : Grid

def isReadable : Element → Bool
  | .float32 | .int32 | .uint8 | .uint16 | .object => true
  | _ => false

variable (bs : Bytes) (j : Json) (offset : Nat) (shape : Ints)
def numel : Int := shape.foldl (· * ·) 1

/-- A shape for so many elements; one length below zero is what the others leave. -/
def fitShape (count : Nat) : Checked Nats := match shape.filter (· < 0) with
  | [] => if numel shape == count then .ok (shape.map Int.toNat) else .error (.plain .badValue)
  | [_] =>
    let known := (shape.filter (0 ≤ ·)).foldl (· * ·) 1
    if known == 0 || (count : Int) % known != 0 then .error (.plain .badValue)
    else .ok (shape.map fun n => if n < 0 then (count / known).toNat else n.toNat)
  | _ => .error (.plain .badValue)

/-- Reads numbers from an offset on; a count below zero takes all that is left. -/
def readNumbers (e : Element) (shape : Ints) : Checked Grid := do
  let count := numel shape
  if offset > bs.length then throw (.plain .badValue)
  let left := bs.length - offset
  let count ←
    if count < 0 then if left % e.width != 0 then throw (.plain .badValue) else pure (left / e.width)
    else if left < count.toNat * e.width then throw (.plain .badValue)
    else pure count.toNat
  let cells := Grid.cellsOf e (slice bs offset (count * e.width))
  return ⟨e,← fitShape shape count,cells⟩

def lengthAt : Checked Nat :=
  let four := slice bs offset 4
  if four.isEmpty then .error (.plain .badIndex)
  else if four.length < 4 then .error (.plain .badValue)
  else .ok (ofLowBytes four)

/-- Reads texts one after the other. Offsets behind the first text are counted in four bytes. -/
def readLabels (bs : Bytes) : Nat → Nat → Checked (List Label × Nat)
  | 0, offset => .ok ([],offset)
  | n + 1, offset => do
    let length ← lengthAt bs offset
    let start := (offset + 4) % .pow 2 32
    let stop := (start + length) % .pow 2 32
    let (rest,done) ← readLabels bs n stop
    return (.raw (slice bs start (stop - start)) :: rest,done)

/-- Reads an array of texts. An array without elements still takes the bytes of a length. -/
def readTextGrid : Checked (Grid × Nat) := do
  if shape.isEmpty then throw .badType
  let size := numel shape
  if size == 0 then return (.ofLabels (← fitShape shape 0) [],offset + 4)
  if size < 0 then return (.ofLabels (← fitShape shape 0) [],offset)
  let (texts,done) ← readLabels bs size.toNat offset
  return (.ofLabels (← fitShape shape size.toNat) texts,done)
def need (key : String) : Checked Json := match j with
  | .obj _ => match j.get? key with
    | some v => .ok v
    | none => .error .missingKey
  | .null | .bool _ | .int _ | .num _ => .error .badType
  | .str _ | .arr _ => .error .badType

/-- The members of a list; a text has its characters, an object its keys. -/
def listed : Checked (List Json) := match j with
  | .arr xs => .ok xs
  | .str s => .ok (s.toList.map fun c => .str (.singleton c))
  | .obj fs => .ok (fs.map fun (k,_) => k)
  | _ => .error .badType

def isGiven : Json → Bool
  | .null => false
  | .bool b => b
  | .int n => n != 0
  | .num x => x != 0.0
  | .str s => s != ""
  | .arr xs => !xs.isEmpty
  | .obj fs => !fs.isEmpty

def elementNamed : Checked Element := match j with
  | .str s => (Element.ofName? s).getDM (.error .badType)
  | .null => .ok .float64
  | _ => .error .badType
def lengths : Checked Ints := do
  (← listed j).mapM fun d =>
    match d with
    | .int n => .ok n
    | .bool b => .ok (if b then 1 else 0)
    | _ => .error .badType
def isText : Bool := match j with
  | .str s => s == "string"
  | _ => false
def scaleOf : Checked Float := j.float?.getDM (.error .badType)

variable (dtype quantization : Json) (manifest : Json) (folder : String) (group : Json)
/-- The type of the elements that are stored: that of the levels, if there are any. -/
def storedElement : Checked Element :=
  if isText dtype then .ok .object
  else if isGiven quantization then do elementNamed (← need quantization "dtype")
  else elementNamed dtype
def readElements (isText : Bool) (e : Element) (shape : Ints) : Checked (Grid × Nat) := do
  if isText then readTextGrid bs offset shape
  else if e = .object then throw (.plain .badValue)
  else
    let g ← readNumbers bs offset e shape
    return (g,offset + e.width * g.size)
def unscaled (g : Grid) : Checked Grid := do
  if !isGiven quantization then return g
  let step ← need quantization "scale"
  let least ← need quantization "min"
  dequantizeGrid g (← scaleOf step) (← scaleOf least) (← elementNamed dtype)

def loadOne (weight : Json) : Checked (Loaded × Nat) := do
  let .obj _ := weight | throw (.plain .noAttribute)
  let quantization := weight.getD "quantization" .null
  let name ← need weight "name"
  let dtype ← need weight "dtype"
  let e ← storedElement dtype quantization
  let shape ← need weight "shape"
  if !isReadable e then throw (.because .unsupported s!"Unsupported data type: {e.name}")
  let (grid,next) ← readElements bs offset (isText dtype) e (← lengths shape)
  return (⟨name,← unscaled dtype quantization grid⟩,next)

def loadGroup : Checked (List Loaded) := do
  let weights ← listed (← need group "weights")
  let (out,_) ← weights.foldlM (fun (out,offset) w => do
    let (l,next) ← loadOne bs offset w
    return (out ++ [l],next)) ([],0)
  return out
def load (buffers : List Bytes) : Checked (List (List Loaded)) := do
  let groups ← listed manifest
  if groups.length != buffers.length then
    throw (.badValue (s!"Mismatch in the length of weights_manifest ({groups.length}) and the length of " ++
      s!"data buffers ({buffers.length})"))
  (groups.zip buffers).mapM fun (group,bs) => loadGroup bs group

def shownKind : Json → String
  | .null => "<class 'NoneType'>"
  | .bool _ => "<class 'bool'>"
  | .int _ => "<class 'int'>"
  | .num _ => "<class 'float'>"
  | .str _ => "<class 'str'>"
  | .arr _ => "<class 'list'>"
  | .obj _ => "<class 'dict'>"

def appendFile (acc : Bytes) (path : Json) : Work Bytes := do
  let .str path := path | throw .badType
  return acc ++ (← .readBytes (Files.join folder path))
def groupBytes : Work Bytes := do
  let paths ← .ofExcept ((need group "paths").bind listed)
  paths.foldlM (appendFile folder) []
def loadFiles : Work (List (List Loaded)) := do
  let .arr groups := manifest
    | .refuse .badValue ("weights_manifest should be a `list`, but received " ++ shownKind manifest)
  let buffers ← groups.mapM (groupBytes folder)
  .ofExcept (load manifest buffers)
end TensorKit.Weights
