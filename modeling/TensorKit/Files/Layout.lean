import TensorKit.Named

/-! # How archives are laid out

Headers and indexes of groups, and elements of arrays, are cut from pools of their own, which are enlarged by whole
blocks. What is left of a pool at the end of the file is given back in the end.
-/
namespace TensorKit.Files.Layout
structure Pool where
  start : Nat := 0
  size : Nat := 0
  total : Nat := 0

structure Plan where
  stop : Nat := 0
  index : Pool := {}
  data : Pool := {}
  gaps : List (Nat × Nat) := []
  textRoom : Nat := 0

inductive Kind where
  | index
  | data
deriving DecidableEq

def block : Nat := 2048
def padded (n : Nat) : Nat := (n + 7) / 8 * 8

namespace Plan
variable (p : Plan) (k : Kind) (n : Nat)
def pool : Kind → Pool
  | .index => p.index
  | .data => p.data
def setPool (pool : Pool) : Plan := match k with
  | .index => { p with index := pool }
  | .data => { p with data := pool }
def other : Kind → Kind
  | .index => .data
  | .data => .index
def isLast (pool : Pool) : Bool := 0 < pool.start && pool.start + pool.size == p.stop
def release : Plan :=
  let pool := p.pool k
  if 0 < pool.size && pool.start + pool.size == p.stop && block ≤ pool.total - pool.size then
    { p.setPool k {} with stop := pool.start }
  else p
def cut : Nat × Plan :=
  let pool := p.pool k
  (pool.start,p.setPool k { pool with start := pool.start + n, size := pool.size - n })

def fromPool : Nat × Plan :=
  let pool := p.pool k
  if n ≤ pool.size then p.cut k n
  else if block ≤ n then
    if p.isLast pool then
      (pool.start,{ p.setPool k { pool with start := pool.start + n, total := pool.total + n } with
        stop := p.stop + n })
    else
      let p := p.release (other k)
      (p.stop,{ p with stop := p.stop + n })
  else if p.isLast pool then
    { p.setPool k { pool with size := pool.size + block, total := pool.total + block } with
      stop := p.stop + block }.cut k n
  else
    let p := p.release (other k)
    let gaps := if 0 < pool.size then p.gaps ++ [(pool.start,pool.size)] else p.gaps
    { p.setPool k ⟨p.stop,block,block⟩ with stop := p.stop + block, gaps }.cut k n

def gapFor? (gaps : List (Nat × Nat)) (n : Nat) : Option (Nat × Nat) :=
  (gaps.filter fun g => n ≤ g.2).foldl (fun best g =>
    match best with
    | some b => if g.2 < b.2 then some g else some b
    | none => some g) none
def take : Nat × Plan := match if k == .index then gapFor? p.gaps n else none with
  | some (start,size) =>
    let rest := p.gaps.filter (· != (start,size))
    (start,{ p with gaps := if n < size then rest ++ [(start + n,size - n)] else rest })
  | none => p.fromPool k n

def extend? (stop n : Nat) : Option Plan :=
  let pool := p.index
  if stop != pool.start || pool.size == 0 then none
  else if p.isLast pool then
    if 10 * n ≤ pool.size then some (p.cut .index n).2
    else
      let more := max n block
      some { p with stop := p.stop + more,
                    index := { start := pool.start + n, size := pool.size + more - n, total := pool.total + more } }
  else if n ≤ pool.size then some (p.cut .index n).2
  else none

def text (length : Nat) : Plan :=
  if length == 0 then p
  else
    let need := 16 + padded length
    if need ≤ p.textRoom then { p with textRoom := p.textRoom - need }
    else
      let size := max 4096 (need + 16)
      { (p.take .data size).2 with textRoom := size - 16 - need }

def finish : Nat :=
  let drop stop pool :=
    if 0 < pool.size && pool.start + pool.size == stop then pool.start else stop
  drop (drop (drop p.stop p.index) p.data) p.index
end Plan

/-- A group in the file: where the parts of its header end, its index of names, and the room for names. -/
structure Group where
  header : Nats
  hasAttributes : Bool := false
  nodes : List Strings := []
  nameStop : Nat
  nameSize : Nat := 88
  nameRoom : Nat := 80

abbrev Draft := StateM Plan
def piece (k : Kind) (n : Nat) : Draft Nat := (·.take k n)
def newGroup : Draft Group := do
  let header ← piece .index 40
  let _ ← piece .index 544
  let names ← piece .index 120
  return { header := [header + 40], nameStop := names + 120 }

variable (g : Group) (name : String)
def attach (size : Nat) : Draft Group := do
  let need := padded size + 8
  let p ← get
  match g.header.findSome? fun stop => (p.extend? stop need).map fun p => (stop,p) with
  | some (stop,p) =>
    set p
    return { g with header := g.header.map fun s => if s == stop then s + need else s, hasAttributes := true }
  | none =>
    let n := need + if g.hasAttributes then 0 else 24
    let start ← piece .index n
    return { g with header := g.header ++ [start + n], hasAttributes := true }

def textSize : Nat := 8 + padded (name.utf8ByteSize + 1) + 24 + 8 + 16
def textsSize (texts : Strings) : Nat :=
  let longest := texts.foldl (fun n t => max n t.utf8ByteSize) 0
  8 + padded (name.utf8ByteSize + 1) + (if texts.isEmpty then 24 else 8) + 24 + longest * texts.length
def textAttribute (name value : String) : Draft Group := do
  let g ← attach g (textSize name)
  modify (·.text value.utf8ByteSize)
  return g
def sorted (name : String) : Strings → Strings
  | [] => [name]
  | n :: rest => if name < n then name :: n :: rest else n :: sorted name rest

def intoNodes (name : String) : List Strings → List Strings × Bool
  | [] => ([[name]],true)
  | node :: rest =>
    let belongs := match rest with
      | (next :: _) :: _ => name < next
      | _ => true
    if !belongs then
      let (rest,isNew) := intoNodes name rest
      (node :: rest,isNew)
    else if node.length < 8 then (sorted name node :: rest,false)
    else
      let (low,high) := (node.take 4,node.drop 4)
      match high with
      | first :: _ =>
        if name < first then (sorted name low :: high :: rest,true) else (low :: sorted name high :: rest,true)
      | [] => (sorted name low :: rest,false)

def enter : Draft Group := do
  let need := padded (name.utf8ByteSize + 1)
  let g ← if need ≤ g.nameRoom then pure { g with nameRoom := g.nameRoom - need } else do
    let more := max (need - g.nameRoom) g.nameSize
    let p ← get
    match p.extend? g.nameStop more with
    | some p =>
      set p
      pure { g with nameStop := g.nameStop + more, nameSize := g.nameSize + more,
                    nameRoom := g.nameRoom + more - need }
    | none =>
      let size := g.nameSize + more
      let start ← piece .index size
      modify fun p => { p with gaps := p.gaps ++ [(g.nameStop - g.nameSize,g.nameSize)] }
      pure { g with nameStop := start + size, nameSize := size, nameRoom := g.nameRoom + more - need }
  let (nodes,isNew) := intoNodes name g.nodes
  if isNew then let _ ← piece .index 328
  return { g with nodes }

def array (bytes : Nat) : Draft Group := do
  let _ ← piece .index 272
  let g ← enter g name
  if 0 < bytes then let _ ← piece .data bytes
  return g

def arrays (items : List (Strings × Nat)) : Draft Unit := do
  let mut g := g
  let mut inner := []
  for (way,bytes) in items do
    match way.reverse with
    | [] => pure ()
    | [name] => g ← array g name bytes
    | name :: above =>
      let way := above.reverse
      -- a way leads through one group in practice; longer ones are made as a whole
      let held ← match inner.lookup way with
        | some h => pure h
        | none => do
          let h ← newGroup
          g ← enter g ("/".intercalate way)
          pure h
      let held ← array held name bytes
      inner := (way,held) :: inner.filter (·.1 != way)

def sizeOf (attributes : List (String × String)) (groupName listName : String)
    (groups : List (String × List (String × Nat))) : Nat :=
  let draft : Draft Unit := do
    let _ ← piece .index 96
    let root ← newGroup
    let root ← attributes.foldlM (fun g (name,value) => textAttribute g name value) root
    let top ← newGroup
    let _ ← enter root groupName
    let _ ← groups.foldlM (fun top (name,items) => do
      let g ← newGroup
      let top ← enter top name
      let g ← attach g (textsSize listName (items.map (·.1)))
      arrays g (items.map fun (n,bytes) => ((n.splitOn "/").filter (· != ""),bytes))
      return top) top
  ((draft.run {}).2).finish
end TensorKit.Files.Layout
