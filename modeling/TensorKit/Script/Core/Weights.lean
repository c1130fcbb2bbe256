import TensorKit.Script.Core.Create
import TensorKit.Weights.Codec

/-! # Weights of programs as bytes -/
namespace TensorKit.Script
open Engine Weights
def bytesOf (data : ByteArray) : Bytes := data.data.toList
variable (bs : Bytes) (group : Value) (name : String) (t : Tensor)
def ofBytes : ByteArray := ⟨bs.toArray⟩
variable (v : Value) (specs : List (Spec Float)) (dtype : DType)
def wordOf (x : Float) : UInt32 :=
  if dtype == .int32 then Int32.toUInt32 (.ofInt (Number.wholePart x)) else Single.ofFloat x
def numberOfWord (w : UInt32) : Float := if dtype == .int32 then .ofInt w.toInt32.toInt else Single.toFloat w
def arrayElements (kind : ArrayKind) (xs : Floats) : Elements := match kind with
  | .uint8 => .flags (xs.map Float.toUInt8)
  | k => .words (xs.map (wordOf k.dtype))
def elementsOf : Eng Elements := do
  requireLive t
  if t.dtype == .string then return .texts ((← strings t).toList.map bytesOf)
  return arrayElements (.ofDType (← storedType t)) (← numbers t).toList
def weightSpec : Value :=
  let fields := [("name",.str name),("shape",.ofShape t.shape),("dtype",.str t.dtype.name)]
  .record (if group.isPresent then fields ++ [("group",group)] else fields)
def specifyWeight : Eng Value := do
  if t.dtype == .complex64 then fail s!"Unsupported dtype in weight '{name}': {t.dtype.name}"
  return weightSpec group name t
def weightEntry : Eng Entry := return ⟨name,t.shape,t.dtype,← elementsOf t⟩
def encodeWeights (named : Named Tensor) (group : Value) : Eng Value := do
  let specs ← named.mapM fun (name,t) => specifyWeight group name t
  let entries ← named.mapM fun (name,t) => weightEntry name t
  return .record [("data",.bytes (ofBytes (encode entries))),("specs",.list specs)]
def namedTensors : Named Tensor := match v with
  | .list xs => xs.filterMap fun x => (x "tensor").tensor?.map fun t => ((x "name").text,t)
  | v => (Value.orderFields v.fields).filterMap fun (n,x) => x.tensor?.map fun t => (n,t)

def specOf : Spec Float :=
  let q := v "quantization"
  { name := (v "name").text,
    shape := (v "shape").nats,
    dtype := (v "dtype").text,
    quantization :=
      if v.fields.any (·.1 == "quantization") then some ⟨(q "dtype").text,(q "scale").toNumber,(q "min").toNumber⟩
      else none }

def doubles : Arithmetic Float := ⟨.ofNat,fun v s m => v * s + m,Number.round⟩

def tensorOfDecoded (spec : Spec Float) (d : Decoded Float) : Op := do
  let dtype := (DType.ofName? spec.dtype).getD .float32
  if spec.shape.size != d.count then
    fail (s!"Based on the provided shape, [{spec.shape.text}], the tensor should have " ++
      s!"{spec.shape.size} values but has {d.count}")
  match d with
  | .numbers xs => ofNumbers spec.shape dtype (xs.map dtype.store).toArray
  | .stored (.words ws) => ofNumbers spec.shape dtype (ws.map (numberOfWord dtype)).toArray
  | .stored (.flags bs) => ofNumbers spec.shape dtype (bs.map UInt8.toFloat).toArray
  | .stored (.texts ts) => make spec.shape .string (.strings (ts.map ofBytes).toArray)

def decodeMembers : Eng (Fields × Nat) :=
  specs.foldlM (fun (out,offset) spec => do
    let (d,next) ← decodeOne doubles bs offset spec
    let t ← tensorOfDecoded spec d
    return (out.put spec.name t,next)) ([],0)
def decodeWeights : Eng (Named Tensor) := do
  let (out,_) ← decodeMembers bs specs
  return out.filterMap fun (n,v) => v.tensor?.map fun t => (n,t)
def bytesArg : Bytes := match v with
  | .bytes d => bytesOf d
  | .typed .uint8 xs => xs.toList.map Float.toUInt8
  | _ => []

/-! ## Some weights of a manifest -/

def groupOf : WeightGroup Float := ⟨(v "paths").items.map Value.text,(v "weights").items.map specOf⟩
def loadWanted (out : Fields) (ps : List (Placed Float)) : Eng Fields := ps.foldlM (fun out p => do
  let (found,_) ← decodeMembers (p.cut bs) [p.spec]
  return found.foldl (fun out (name,v) => out.put name v) out) out
def loadGroups (names : Option Strings) (groups : List (WeightGroup Float)) (buffers : List Bytes) :
    Eng (Fields × List Bytes) := groups.foldlM (fun (out,buffers) g => do
  let (bs,rest) ← takeGroup g buffers
  return (← loadWanted bs out (g.wanted names),rest)) ([],buffers)
def loadSelected (fetch : Strings → Script (List Bytes)) (folder : String) (names : Option Strings)
    (manifest : List (WeightGroup Float)) : Script Fields := do
  Engine.ofExcept (checkWanted names manifest)
  let groups := needed names manifest
  let buffers ← fetch (groups.flatMap fun g => g.paths.map (pathIn folder))
  let (out,_) ← loadGroups names groups buffers
  return out
def weightsLoader (fetch manifest folder names : Value) : Reply := do
  let fetchBytes urls := do return (← call fetch [.list (urls.map .str)]).awaited.items.map bytesArg
  let folder := if folder.isAbsent then "" else folder.text
  let names := if names.isPresent then some (names.items.map Value.text) else none
  return .promise (.record (← loadSelected fetchBytes folder names (manifest.items.map groupOf)))
def baseName (path : String) : String :=
  let cs := (Decimal.trimSpace path.toList).reverse.dropWhile (· == '/')
  .ofList (cs.takeWhile (· != '/')).reverse

def weightTable : Handlers :=
  [ ("io.encodeWeights",on2 fun x y => do encodeWeights (namedTensors x) y),
    ("io.decodeWeights",on2 fun x y => do
      let ts ← decodeWeights (bytesArg x) (y.items.map specOf)
      return .record (ts.map fun (n,t) => (n,t))),
    ("io.weightsLoaderFactory",on1 fun x => return .native "io.weightsLoader" [x]),
    ("io.weightsLoader",on4 weightsLoader),
    fn1 "io.concatenateArrayBuffers" fun x => return .bytes (ofBytes (x.items.flatMap bytesArg)),
    fn1 "bytes.ofArrays" fun x => do
      match x with
      | .null => fail "Invalid input value: null"
      | v => return .bytes (ofBytes (v.items.flatMap fun
          | .typed k xs => (arrayElements k xs.toList).toBytes
          | _ => [])),
    fn1 "bytes.toBase64" fun x => return Base64.encode (ofBytes (bytesArg x)),
    fn1 "bytes.ofBase64" fun x => return .bytes (Base64.decode x.text),
    fn1 "text.byteLength" fun x => return x.text.utf8ByteSize,
    fn1 "path.base" fun x => return baseName x.text,
    ("io.fromMemory",fun a => do
      match a with
      | [x] =>
        if (x "modelTopology").isPresent || (x "weightSpecs").isPresent then return .item "PassthroughLoader" x.fields
        else return .item "PassthroughLoader" [("modelTopology",x)]
      | _ =>
        return .item "PassthroughLoader" [("modelTopology",a 0),("weightSpecs",a 1),
          ("weightData",a 2),("trainingConfig",a 3)]) ]
end TensorKit.Script
