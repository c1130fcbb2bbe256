import TensorKit.Tensor.Number
import TensorKit.Data.Pipeline

/-! # Statistics of columns

The numbers of a column come in groups, which are merged one after the other.
-/
namespace TensorKit.Data
variable {α : Type} [Scalar α]
structure Summary (α : Type) where
  (min max length mean variance : α)

/-- A column before any group has come has no extremes. -/
structure Column (α : Type) where
  extremes : Option (α × α) := none
  (length mean variance : α)

namespace Summary
def ofNumber (x : α) : Summary α := ⟨x,x,Scalar.one,x,Scalar.zero⟩
def ofNumbers (least greatest : α → α → α) (x : α) (xs : List α) (moments : α × α) : Summary α :=
  ⟨xs.foldl least x,xs.foldl greatest x,Scalar.ofNat (xs.length + 1),moments.1,moments.2⟩
end Summary
namespace Column
def empty : Column α := { length := Scalar.zero, mean := Scalar.zero, variance := Scalar.zero }

def merge (least greatest : α → α → α) (c : Column α) (s : Summary α) : Column α :=
  let length := c.length + s.length
  let share := s.length / length
  let mean := c.mean + share * (s.mean - c.mean)
  let variance := c.variance + share * (s.variance + ((s.mean - mean) * (s.mean - c.mean)) - c.variance)
  let extremes := match c.extremes with
    | none => (s.min,s.max)
    | some (lo,hi) => (least lo s.min,greatest hi s.max)
  { extremes := some extremes, length, mean, variance }

/-- The variance of a single number is not known. -/
def settled (c : Column α) : Column α :=
  if Scalar.eq c.length Scalar.one then { c with variance := Scalar.missing } else c
end Column

/-- Names that stand for something in every record, so that nothing else can be kept under them. -/
def inherited : Strings :=
  ["constructor","hasOwnProperty","isPrototypeOf","propertyIsEnumerable","toLocaleString","toString","valueOf",
    "__defineGetter__","__defineSetter__","__lookupGetter__","__lookupSetter__"]
variable {m : Type → Type} [Monad m] [MonadLiftT Tried m] {ν : Type} (least greatest : α → α → α)
def addGroup (cols : Named (Column α)) (key : String) (group : Option (Summary α)) : Tried (Named (Column α)) :=
  let c := (cols.lookup key).getD .empty
  if !inherited.contains key then .ok (cols.put key (group.elim c (c.merge least greatest)))
  else if group.isNone then .ok cols
  else
    let name := if key == "constructor" then "Object" else key
    .error (.badType
      s!"Cannot assign to read only property 'length' of function 'function {name}() \x7b [native code] \x7d'")

/-- Takes what a record holds under its keys into the columns. What is no number begins a column, but for texts. -/
def addRecord (read : ν → m (Option (Option (Summary α)))) (cols : Named (Column α)) (fields : Named ν) :
    m (Named (Column α)) := fields.foldlM (fun cols (key,v) => do
  let some group ← read v | return cols
  addGroup least greatest cols key group) cols

/-! # Datasets

A dataset describes how a pipeline is made, anew for every reading. Its size follows from its description alone.
-/

inductive Dataset (α φ : Type) where
  | items (items : List α)
  | stream (id : Nat)
  | generator (f : φ)
  | batch (size : Count) (withLast : Bool) (base : Dataset α φ)
  | concatenate (first second : Dataset α φ)
  | filter (f : φ) (base : Dataset α φ)
  | map (f : φ) (base : Dataset α φ)
  | mapAsync (f : φ) (base : Dataset α φ)
  | prefetch (size : Int) (base : Dataset α φ)
  | repeated (count : Option Count) (base : Dataset α φ)
  | skip (count : Option Count) (base : Dataset α φ)
  | take (count : Option Count) (base : Dataset α φ)
  | zip (shape : Nested Part) (parts : List (Dataset α φ))
  | external (id : Nat)

instance {α φ : Type} : Inhabited (Dataset α φ) := ⟨.items []⟩

structure Sources (m : Type → Type) (α φ : Type) where
  tidied : φ → φ
  columns : φ
  wrap : Pipeline α φ → m α
  reopen : Dataset α φ → m φ
  generate : φ → m (Tried φ)
  external : Nat → m (Tried (Pipeline α φ))

namespace Dataset
variable {m : Type → Type} [Monad m] {α φ : Type}
def members (sizes : List Size) (shape : Nested Part) : List Size.Member :=
  let member x := match x with
    | .leaf (.stream i) => .dataset (sizes.getD i none)
    | _ => .other
  match shape with
  | .leaf _ => []
  | .list xs => xs.map member
  | .record fs => fs.map fun (_,x) => member x

def size : Dataset α φ → Size
  | .items xs => some (.ofNat xs.length)
  | .stream _ | .generator _ | .external _ => none
  | .batch n withLast base => .batch base.size n withLast
  | .concatenate a b => .concatenate a.size b.size
  | .filter _ base => .filter base.size
  | .map _ base | .mapAsync _ base | .prefetch _ base => base.size
  | .repeated count base => .repeated base.size count
  | .skip count base => .skip base.size count
  | .take count base => .take base.size count
  | .zip shape parts => .zip (members (parts.map size) shape)

mutual
def start (src : Sources m α φ) : Dataset α φ → m (Tried (Pipeline α φ))
  | .items xs => return .ok (.items xs 0)
  | .stream id => return .ok (.shared id)
  | .generator f => return (← src.generate f).map .call
  | .batch n withLast base => return (← base.start src).map fun p => .map src.columns (.batch none n withLast [] p)
  | .concatenate a b => do
    match ← a.start src, ← b.start src with
    | .error f, _ => return .error f
    | _, .error f => return .error f
    | .ok p, .ok q => return .ok (.chain none none none (.items [← src.wrap p,← src.wrap q] 0))
  | .filter f base => return (← base.start src).map (.filter none (src.tidied f))
  | .map f base => return (← base.start src).map (.map (src.tidied f))
  | .mapAsync f base => return (← base.start src).map (.mapAsync f)
  | .prefetch n base => do
    match ← base.start src with
    | .error f => return .error f
    | .ok p =>
      if n < 1 then return .error ⟨.outOfRange,"Can't create ring buffer of capacity < 1."⟩
      return .ok (.prefetch n.toNat [] p)
  | .repeated count base => return .ok (.chain none none none (.taking count (.call (← src.reopen base))))
  | .skip count base => return (← base.start src).map (.skipping count)
  | .take count base => return (← base.start src).map (.taking count)
  | .zip shape parts => do
    match Pipeline.strayText shape with
    | some _ => return .error (.failure "Leaves of the structure passed to zip() must be Datasets, not primitives.")
    | none => return (← openAll src parts).map (.zip none .shortest 0 shape)
  | .external id => src.external id

def openAll (src : Sources m α φ) : List (Dataset α φ) → m (Tried (List (Pipeline α φ)))
  | [] => return .ok []
  | d :: ds => do
    match ← d.start src with
    | .error f => return .error f
    | .ok p => return (← openAll src ds).map (p :: ·)
end
end Dataset
end TensorKit.Data
