import TensorKit.Weights.Quantize
import TensorKit.Files.Desk

/-! # Weight entries

Groups handed in from outside may lack what they need, so they are checked first.
-/
namespace TensorKit.Weights
structure Scaling where
  standsFor : String
  (least step : Float)

/-- A named array; most names are texts. -/
structure Weight where
  name : Json
  data : Grid
  scaling : Option Scaling := none

/-- What may be given for an array. -/
inductive Offered where
  | grid (g : Grid)
  /-- A single number that is no array. -/
  | single (e : Element)
  | other

structure Offer where
  name : Option Json
  data : Option Offered
  scaling : Option Scaling := none

variable (w : Weight) (group : Int)
namespace Offer
def ofWeight : Offer := ⟨some w.name,some (.grid w.data),w.scaling⟩
def isStorable : Element → Bool
  | .float32 | .int32 | .uint8 | .uint16 | .bool | .object | .float64 | .int64 => true
  | _ => false

/-- A message that names a weight; names that are no texts cannot stand in one. -/
def naming (name : Json) (message : String → String) (cause : Cause) : Refusal := match name with
  | .str s => .because cause (message s)
  | _ => .plain .badType

/-- The checks before a weight is stored, in order: a name, data, a type that can be stored, an array. -/
def accept (o : Offer) : Checked Weight := do
  let some name := o.name | throw (.badValue "Error dumping weight, no name field found.")
  let some data := o.data | throw (.badValue "Error dumping weight, no data field found.")
  let refused e := naming name (fun s => s!"Error dumping weight {s}, dtype {e.name} not supported.") .badValue
  match data with
  | .grid g =>
    let g := g.loosened
    if !isStorable g.element then throw (refused g.element)
    return ⟨name,g,o.scaling⟩
  | .single e =>
    if !isStorable e then throw (refused e)
    throw (naming name (fun s => s!"Error dumping weight {s}, data must be a numpy ndarray.") .badValue)
  | .other => throw (.plain .noAttribute)
end Offer

abbrev Groups := List (List Weight)
abbrev OfferedGroups := Option (List (Option (List (Option Offer))))
def complete (o : Option Offer) : Checked Weight := match o with
  | some ⟨some name,some (.grid g),scaling⟩ => .ok ⟨name,g,scaling⟩
  | _ => .error .badType
def checkGroups : OfferedGroups → Checked Groups
  | none => .error (.because .general "weight_groups must be a list of groups")
  | some [] => .error (.badValue "weight_groups must have more than one list element")
  | some groups => groups.mapM fun group =>
    match group with
    | none => .error .badType
    | some offers => offers.mapM complete

/-- Whether two names are the same; numbers are compared by value. -/
def sameName : Json → Json → Bool
  | .str a, .str b => a == b
  | .null, .null => true
  | a, b =>
    match number? a, number? b with
    | some x, some y => x == y
    | _, _ => false
where
  number? : Json → Option Float
    | .bool b => some (if b then 1.0 else 0.0)
    | .int n => some (.ofInt n)
    | .num x => some x
    | _ => none

/-- The names of weights differ from each other; a compound value is no name. -/
def checkNames (seen : List Json) : List Json → Checked Unit
  | [] => .ok ()
  | name :: rest =>
    match name with
    | .arr _ | .obj _ => .error .badType
    | name =>
      if seen.any (sameName name) then
        .error (Offer.naming name (fun s => s!"Error dumping weights, duplicate weight name {s}") .general)
      else checkNames (name :: seen) rest

/-! # Storing weights

A manifest lists for every group the files of its shards and the names, shapes and types of its weights.
-/

/-! ## Shards

The last piece may be shorter. Each goes to a file named for its group and its place.
-/

def shardName (place count : Nat) : String := s!"group{group + 1}-shard{place + 1}of{count}.bin"
def shards (size : Nat) (bs : Bytes) : Named Bytes :=
  let parts := pieces size bs
  parts.zipIdx.map fun (part,i) => (shardName group i parts.length,part)

open Files (Work)
def labelled (l : Label) : Checked Bytes := match Grid.labelBytes? l with
  | some bs => if bs.length < .pow 2 32 then .ok (lowBytes 4 bs.length ++ bs) else .error (.plain .overflow)
  | none => .error (.plain .noAttribute)
def stored (g : Grid) : Checked Bytes := match g.element with
  | .object => g.labels.foldlM (fun acc l => return acc ++ (← labelled l)) []
  | _ => .ok g.toBytes

def narrowing : Checked (Option String) :=
  let after := w.data.narrowed
  if after.element = w.data.element then .ok none
  else
    match w.name with
    | .str name =>
      .ok (some (s!"weight {name} with shape " ++ Grid.shapeText w.data.shape ++
        s!" and dtype {w.data.element.name} was auto converted to the type {after.element.name}"))
    | _ => .error .badType

/-- The weight with its elements replaced by levels; texts stay. -/
def quantizeWeight (target : Element) (w : Weight) : Checked Weight := do
  if w.data.element = .object then return w
  let q ← quantizeGrid w.data target
  return { w with data := q.grid, scaling := some ⟨w.data.element.name,q.least,q.step⟩ }

def listing : Json :=
  let kept := match w.scaling with
    | some s => s.standsFor
    | none => w.data.element.name
  let fields : Named Json :=
    [("name",w.name),("shape",.arr (w.data.shape.map fun n : Nat => .int n)),
      ("dtype",.str (if kept == "object" then "string" else kept))]
  .obj (fields ++ match w.scaling with
    | some s => [("quantization",.obj [("min",.num s.least),("scale",.num s.step),("dtype",.str w.data.element.name)])]
    | none => [])

structure Packed where
  bytes : Bytes
  weights : List Weight

def stack (offers : List Offer) : Checked Packed := offers.foldlM (fun p o => do
  let w ← o.accept
  let bs ← stored w.data
  return ⟨p.bytes ++ bs,p.weights ++ [w]⟩) ⟨[],[]⟩

/-- The shards of a group for a size that may be no size: none for the whole group, nothing below zero. A piece has
fewer than 2^63 bytes, and a size is a number of 64 bits when the shards are counted. -/
def shardsFor (index : Int) (size : Option Int) (bs : Bytes) : Checked (Named Bytes) :=
  let size := size.getD bs.length
  if size == 0 then .error (.plain .divisionByZero)
  else if .pow 2 63 ≤ size.natAbs && (0 < size && !bs.isEmpty || .pow 2 54 ≤ size.natAbs >>> 970 + 1) then
    .error (.plain .overflow)
  else if size < 0 then .ok []
  else .ok (shards index size.toNat bs)
def manifestGroup (names : Strings) (weights : List Weight) : Json :=
  .obj [("paths",.arr (names.map .str)),("weights",.arr (weights.map listing))]
def defaultShardSize : Int := 4194304

/-- A number of bytes is a whole number, and not below zero. -/
def checkShardSize (size : Json) : Checked Int :=
  let low shown := .badValue s!"shard_size_bytes must be greater than 0, but got {shown}"
  match size with
  | .int n => if n < 0 then .error (low (toString n)) else .ok n
  | .bool b => .ok (if b then 1 else 0)
  | .num x =>
    let shown := Decimal.Style.pointed.text x
    if x < 0 then .error (low shown)
    else .error (.badValue s!"shard_size_bytes must be an integer, but got {shown}")
  | _ => .error .badType

def settle : Work Weight := do
  if let some line ← .ofExcept (narrowing w) then .say line
  return { w with data := w.data.narrowed }

def prepared (quantization : Option Element) (group : List Weight) : Checked (List Weight) := match quantization with
  | some target => group.mapM (quantizeWeight target)
  | none => .ok group

def storeGroup (folder : String) (size : Int) (quantization : Option Element) (index : Nat)
    (group : List Weight) : Work Json := do
  let group ← group.mapM settle
  let group ← .ofExcept (prepared quantization group)
  let packed ← .ofExcept (stack (group.map .ofWeight))
  let parts ← .ofExcept (shardsFor index (some size) packed.bytes)
  for (name,part) in parts do .writeBytes (Files.join folder name) part
  return manifestGroup (parts.map (·.1)) packed.weights

/-- Writes groups of weights to a folder and gives the manifest, which is written too if asked for. -/
def store (groups : OfferedGroups) (folder : String) (size : Json := defaultShardSize)
    (withManifest : Bool := true) (quantization : Option Element := none) : Work Json := do
  let groups ← .ofExcept (checkGroups groups)
  let size ← .ofExcept (checkShardSize size)
  .ofExcept (checkNames [] (groups.flatten.map (·.name)))
  let listed ← groups.zipIdx.mapM fun (group,i) => storeGroup folder size quantization i group
  let manifest := .arr listed
  if withManifest then .writeJson (Files.join folder "weights_manifest.json") manifest
  return manifest
end TensorKit.Weights
