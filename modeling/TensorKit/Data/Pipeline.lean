import TensorKit.Fault
import TensorKit.Text.Encoding
import TensorKit.Decimal.Text

/-! # Rows of delimited text

A field that begins with a quote goes on to a quote before a delimiter or the end; quotes inside stay as they are.
-/
namespace TensorKit.Data

/-! ## Text in chunks

What is left of a chunk is carried over to the next one, and so are the bytes of a character that are not all there.
-/

def cutChunk (separator carry chunk : String) : Strings × String := match Text.split separator chunk with
  | [] => ([],carry ++ "undefined")
  | first :: rest =>
    let pieces := (carry ++ first) :: rest
    (pieces.dropLast,pieces.getLastD "")
def lastPiece (carry : String) : Option String := if carry.isEmpty then none else some carry
def width (b : UInt8) : Nat :=
  if b < 0xC0 then 1 else if b < 0xE0 then 2 else if b < 0xF0 then 3 else if b < 0xF8 then 4 else 1
def unfinished (bs : Bytes) : Nat :=
  let last := bs.reverse.take 3
  let tail := last.takeWhile fun b => 0x80 ≤ b && b < 0xC0
  match last.drop tail.length with
  | [] => 0
  | lead :: _ => if width lead > tail.length + 1 then tail.length + 1 else 0
def decodeChunk (waiting chunk : Bytes) : String × Bytes :=
  let bs := waiting ++ chunk
  let n := bs.length - unfinished bs
  (.ofList (Text.decodeBytes 0 0 0 0 (bs.take n)),bs.drop n)
def stripReturn (line : String) : String := if line.endsWith "\r" then (line.dropEnd 1).toString else line

inductive RowState where
  | outside | field | quoted | afterQuote | inQuoted
deriving DecidableEq

structure RowFormat where
  delimiter : String := ","
  collapses : Bool := false

/-- The fields read so far, and the characters of the one begun, last first. -/
structure RowReader where
  state : RowState := .outside
  fields : Strings := []
  chars : Chars := []

variable (f : RowFormat)
def RowFormat.delimits (c : Char) : Bool := f.delimiter == c.toString && c.val < 0x10000

variable (r : RowReader)
namespace RowReader
def put (chars : Chars) (state : RowState) : RowReader := ⟨state,r.fields ++ [.ofList chars.reverse],[]⟩

def step (c : Char) : RowReader := match r.state with
  | .outside =>
    if c == '"' then { r with state := .quoted, chars := [] }
    else if f.delimits c then if f.delimiter == " " && f.collapses then { r with chars := [] } else r.put [] .outside
    else { r with state := .field, chars := [c] }
  | .field => if f.delimits c then r.put r.chars .outside else { r with chars := c :: r.chars }
  | .quoted =>
    if c == '"' then { r with state := .afterQuote, chars := c :: r.chars }
    else { r with chars := c :: r.chars }
  | .afterQuote =>
    if f.delimits c then r.put (r.chars.drop 1) .outside
    else if c == '"' then { r with state := .quoted, chars := c :: r.chars }
    else { r with state := .inQuoted, chars := c :: r.chars }
  | .inQuoted =>
    if c == '"' then { r with state := .quoted, chars := c :: r.chars }
    else { r with chars := c :: r.chars }

def finish : Strings := (r.put (if r.state == .afterQuote then r.chars.drop 1 else r.chars) .outside).fields
end RowReader

def parseRow (line : String) : Strings := (line.toList.foldl (RowReader.step f) {}).finish
def parseRowOf (columns : Nat) (line : String) : Tried Strings :=
  let fields := parseRow f line
  if fields.length == columns then .ok fields
  else .error (.failure (s!"Invalid row in csv file. Should have {columns} elements in a row, but got " ++
    ",".intercalate fields))
def repeatedNames (names : Strings) : Strings := names.eraseDups.filter fun n => names.count n > 1

/-! # Counts and sizes

The number of elements of a dataset: any number, infinitely many, or an indefinite number, which no comparison holds
of. An unknown size is none at all.
-/

inductive Count where
  | number (q : Rat)
  | infinite
  | indefinite
deriving DecidableEq

namespace Count
instance : Inhabited Count := ⟨.indefinite⟩
def ofNat (n : Nat) : Count := .number n
def lt : Count → Count → Bool
  | .number a, .number b => a < b
  | .number _, .infinite => true
  | _, _ => false
def le : Count → Count → Bool
  | .number a, .number b => a ≤ b
  | .number _, .infinite | .infinite, .infinite => true
  | _, _ => false
def isNegative (c : Count) : Bool := c.lt (.number 0)
def add : Count → Count → Count
  | .number a, .number b => .number (a + b)
  | .indefinite, _ | _, .indefinite => .indefinite
  | _, _ => .infinite
def sub : Count → Count → Count
  | .number a, .number b => .number (a - b)
  | .infinite, .number _ => .infinite
  | _, _ => .indefinite
def mul : Count → Count → Count
  | .number a, .number b => .number (a * b)
  | .infinite, .number b => if 0 < b then .infinite else .indefinite
  | .number a, .infinite => if 0 < a then .infinite else .indefinite
  | .infinite, .infinite => .infinite
  | _, _ => .indefinite
def min : Count → Count → Count
  | .indefinite, _ | _, .indefinite => .indefinite
  | a, b => if a.lt b then a else b
def groups (c size : Count) (withLast : Bool) : Count := match c, size with
  | .number a, .number b => .number (if withLast then (a / b).ceil else (a / b).floor)
  | .number _, .infinite => .number 0
  | .infinite, _ => .infinite
  | _, _ => .indefinite
def ofFloat (x : Float) : Count :=
  if x.isNaN then .indefinite
  else if x.isInf then .infinite
  else
    let b := Decimal.Binary.ofFloat x
    let v : Rat := (b.m * .pow 2 b.q.toNat : Nat) / (.pow 2 (-b.q).toNat : Nat)
    .number (if b.neg then -v else v)
def toFloat : Count → Float
  | .number q => .ofInt q.num / .ofNat q.den
  | .infinite => 1.0 / 0.0
  | .indefinite => 0.0 / 0.0
end Count

abbrev Size := Option Count

namespace Size
variable (s : Size) (count : Option Count)
def isInfinite : Bool := s == some .infinite
def batch (size : Count) (withLast : Bool) : Size := match s with
  | none => none
  | some c => some (c.groups size withLast)
def concatenate (a b : Size) : Size :=
  if isInfinite a || isInfinite b then some .infinite
  else
    match a, b with
    | some a, some b => some (a.add b)
    | _, _ => none
def filter : Size := if isInfinite s then s else none

def repeated : Size := match s, count with
  | _, some (.number 0) => some (.number 0)
  | some s, some c =>
    if (Count.number 0).lt c then some (s.mul c)
    else if c.isNegative then some .infinite else none
  | some _, none => some .infinite
  | none, _ => none

def skip : Size := match s, count with
  | none, _ => none
  | some _, none => some (.number 0)
  | some s, some c =>
    if (Count.number 0).le c && c.le s then some (s.sub c)
    else if s.lt c || c.isNegative then some (.number 0) else none
def take : Size := match s, count with
  | some s, some c => if c.lt s then some c else if s.le c then some s else none
  | _, _ => none

/-- What stands at one place of a structure of datasets: a dataset with its size, or anything else. -/
inductive Member where
  | dataset (size : Size)
  | other

def zip (members : List Member) : Size := members.foldl (fun s m =>
  match s,m with
  | none,.dataset t => t
  | none,.other => none
  | some s,.dataset (some t) => some (s.min t)
  | some s,.dataset none => some (s.min (.number 0))
  | some _,.other => some .indefinite) none
end Size

/-- A nested value with leaves of some kind. -/
inductive Nested (α : Type) where
  | leaf (value : α)
  | list (items : List (Nested α))
  | record (fields : List (String × Nested α))

/-! # Pipelines

A pipeline is read element by element. Each stage reads the stage before it, and keeps what it needs for its next
element, so that a pipeline and its state are one value. Stages that order their reads one behind the other give the
same fault for ever once a read has failed.

What the elements are and how functions are called is left open.
-/

structure Read (α : Type) where
  value : α
  done : Bool

abbrev Outcome (α : Type) := Tried (Read α)

/-- What streams that are read together do when some of them end before others. -/
inductive ZipMode where
  | fail | shortest | longest
deriving DecidableEq

inductive Part where
  | stream (index : Nat)
  | nothing
  | other (text : String)

/-- How one element becomes several. -/
inductive Spread (φ : Type) where
  | flatmap (f : φ)
  | split (separator carry : String)
  | decode (waiting : Bytes)

inductive Pipeline (α φ : Type) where
  | shared (id : Nat)
  | items (items : List α) (place : Nat)
  | call (f : φ)
  | chunks (data : Bytes) (offset size : Nat)
  | serial (broken : Option Fault) (up : Pipeline α φ)
  | skip (broken : Option Fault) (count : Nat) (most : Count) (up : Pipeline α φ)
  | take (count : Nat) (most : Count) (up : Pipeline α φ)
  | batch (broken : Option Fault) (size : Count) (withLast : Bool) (held : List α) (up : Pipeline α φ)
  | filter (broken : Option Fault) (f : φ) (up : Pipeline α φ)
  | map (f : φ) (up : Pipeline α φ)
  | mapAsync (f : φ) (up : Pipeline α φ)
  | handle (broken : Option Fault) (f : φ) (up : Pipeline α φ)
  | spread (broken : Option Fault) (how : Spread φ) (queue : List α) (up : Pipeline α φ)
  | chain (broken : Option Fault) (handler : Option φ) (current : Option (Pipeline α φ)) (more : Pipeline α φ)
  | zip (broken : Option Fault) (mode : ZipMode) (count : Nat) (shape : Nested Part) (streams : List (Pipeline α φ))
  | prefetch (size : Nat) (queue : List (Except Fault (Read α))) (up : Pipeline α φ)

instance {α φ : Type} : Inhabited (Pipeline α φ) := ⟨.shared 0⟩

structure Elements (m : Type → Type) (α φ : Type) where
  null : α
  copy : α → m (Tried α)
  discard : α → m Unit
  release : (element image : α) → m Unit
  produce : φ → m (Outcome α)
  test : φ → α → m (Tried Bool)
  (transform transformAsync : φ → α → m (Tried α))
  handles : φ → Fault → m (Tried Bool)
  members : α → List α
  ofMembers : List α → α
  build : Nested α → α
  text : α → String
  ofText : String → α
  bytes : α → Bytes
  ofBytes : Bytes → α
  firstText : α → m String
  pipeline? : α → Option (Pipeline α φ)
  readShared : Nat → m (Outcome α)
  copyShared : Nat → m (Pipeline α φ)

namespace Pipeline
variable {m : Type → Type} [Monad m] {α φ : Type}
def isShort (n : Nat) (most : Count) : Bool := (Count.ofNat n).lt most
def reached (n : Nat) (most : Count) : Bool := most.le (.ofNat n)
variable (ops : Elements m α φ)
def finished : Read α := ⟨ops.null,true⟩
def exhausted : Fault := ⟨.exhausted,"The stream did not come to an end."⟩
def faultOf : Outcome α → Option Fault
  | .error f => some f
  | .ok _ => none
def arrange (values : List α) (null : α) (shape : Nested Part) : Nested α := match shape with
  | .leaf (.stream i) => .leaf (values.getD i null)
  | .leaf _ => .leaf null
  | .list xs => .list (arrangeItems values null xs)
  | .record fs => .record (arrangeFields values null fs)
where
  arrangeItems values null : List (Nested Part) → List (Nested α)
    | [] => []
    | x :: xs => arrange values null x :: arrangeItems values null xs
  arrangeFields values null : Named (Nested Part) → Named (Nested α)
    | [] => []
    | (k,x) :: xs => (k,arrange values null x) :: arrangeFields values null xs

def strayText : Nested Part → Option String
  | .leaf (.other t) => some t
  | .leaf _ => none
  | .list xs => strayInItems xs
  | .record fs => strayInFields fs
where
  strayInItems : List (Nested Part) → Option String
    | [] => none
    | x :: xs => (strayText x).or (strayInItems xs)
  strayInFields : Named (Nested Part) → Option String
    | [] => none
    | (_,x) :: xs => (strayText x).or (strayInFields xs)

def notIterable (text : String) : Fault := .failure ("Can't recurse into non-iterable type: " ++ text)

def combine (mode : ZipMode) (count : Nat) (shape : Nested Part) (reads : List (Outcome α)) : Outcome α :=
  match reads.findSome? faultOf, strayText shape with
  | _, some t => .error (notIterable t)
  | some f, none => .error f
  | none, none =>
    let rs := reads.filterMap fun
      | .ok r => some r
      | .error _ => none
    let ended := (rs.filter (·.done)).length
    if ended == rs.length then .ok (finished ops)
    else if ended > 0 && mode == .fail then
      .error (.failure s!"Zipped streams should have the same length. Mismatched at element {count}.")
    else if ended > 0 && mode == .shortest then .ok (finished ops)
    else .ok ⟨ops.build (arrange (rs.map (·.value)) ops.null shape),false⟩

def pump (how : Spread φ) (x : α) : m (Tried (List α × Spread φ)) := do
  match how with
  | .flatmap f =>
    match ← ops.transform f x with
    | .error e => return .error e
    | .ok y =>
      ops.release x y
      return .ok (ops.members y,how)
  | .split separator carry =>
    let (pieces,carry) := cutChunk separator carry (ops.text x)
    return .ok (pieces.map ops.ofText,.split separator carry)
  | .decode waiting =>
    let (text,waiting) := decodeChunk waiting (ops.bytes x)
    return .ok ([ops.ofText text],.decode waiting)

def isAsync : Pipeline α φ → Bool
  | .mapAsync .. => true
  | _ => false
def pumpLast (how : Spread φ) : Option (List α × Spread φ) := match how with
  | .split separator carry => (lastPiece carry).map fun t => ([ops.ofText t],.split separator "")
  | _ => none

def next : (fuel : Nat) → Pipeline α φ → m (Outcome α × Pipeline α φ)
  | 0, p => return (.error exhausted,p)
  | fuel + 1, p => do
    match p with
    | .shared id => return (← ops.readShared id,p)
    | .items xs i =>
      match xs[i]? with
      | none => return (.ok (finished ops),p)
      | some x => return ((← ops.copy x).map fun v => ⟨v,false⟩,.items xs (i + 1))
    | .call f => return (← ops.produce f,p)
    | .chunks data offset size =>
      if offset ≥ data.length then return (.ok (finished ops),p)
      return (.ok ⟨ops.ofBytes ((data.drop offset).take size),false⟩,.chunks data (offset + size) size)
    | .serial (some f) _ | .skip (some f) .. | .batch (some f) .. | .filter (some f) .. |
      .handle (some f) .. | .spread (some f) .. | .chain (some f) .. | .zip (some f) .. =>
      return (.error f,p)
    | .serial none up =>
      let (o,up) ← next fuel up
      return (o,.serial (faultOf o) up)
    | .skip none count most up =>
      let (o,up) ← next fuel up
      match o with
      | .error f => return (o,.skip (some f) (count + 1) most up)
      | .ok r =>
        if r.done || !isShort count most then return (o,.skip none (count + 1) most up)
        ops.discard r.value
        next fuel (.skip none (count + 1) most up)
    | .take count most up =>
      if reached count most then return (.ok (finished ops),.take (count + 1) most up)
      let (o,up) ← next fuel up
      return (o,.take (count + 1) most up)
    | .batch none size withLast held up =>
      if !isShort held.length size then return (.ok ⟨ops.ofMembers held,false⟩,.batch none size withLast [] up)
      let (o,up) ← next fuel up
      match o with
      | .error f => return (o,.batch (some f) size withLast [] up)
      | .ok r =>
        if !r.done then next fuel (.batch none size withLast (held ++ [r.value]) up)
        else if withLast && !held.isEmpty then return (.ok ⟨ops.ofMembers held,false⟩,.batch none size withLast [] up)
        else return (.ok (finished ops),.batch none size withLast [] up)
    | .filter none f up =>
      let (o,up) ← next fuel up
      match o with
      | .error e => return (o,.filter (some e) f up)
      | .ok r =>
        if r.done then return (o,.filter none f up)
        match ← ops.test f r.value with
        | .error e => return (.error e,.filter (some e) f up)
        | .ok true => return (o,.filter none f up)
        | .ok false =>
          ops.discard r.value
          next fuel (.filter none f up)
    | .map f up | .mapAsync f up =>
      let isAsync := p.isAsync
      let (o,up) ← next fuel up
      let rest := if isAsync then .mapAsync f up else .map f up
      match o with
      | .error _ => return (o,rest)
      | .ok r =>
        if r.done then return (.ok (finished ops),rest)
        match ← if isAsync then ops.transformAsync f r.value else ops.transform f r.value with
        | .error e => return (.error e,rest)
        | .ok y =>
          ops.release r.value y
          return (.ok ⟨y,false⟩,rest)
    | .handle none f up =>
      let (o,up) ← next fuel up
      match o with
      | .ok _ => return (o,.handle none f up)
      | .error e =>
        match ← ops.handles f e with
        | .error e' => return (.error e',.handle (some e') f up)
        | .ok true => next fuel (.handle none f up)
        | .ok false => return (.ok (finished ops),.handle none f up)
    | .spread none how (x :: queue) up => return (.ok ⟨x,false⟩,.spread none how queue up)
    | .spread none how [] up =>
      let (o,up) ← next fuel up
      match o with
      | .error e => return (o,.spread (some e) how [] up)
      | .ok r =>
        if r.done then
          match pumpLast ops how with
          | none => return (.ok (finished ops),.spread none how [] up)
          | some (queue,how) => next fuel (.spread none how queue up)
        else
          match ← pump ops how r.value with
          | .error e => return (.error e,.spread (some e) how [] up)
          | .ok (queue,how) => next fuel (.spread none how queue up)
    | .chain none handler none more =>
      let (o,more) ← next fuel more
      match o with
      | .error e => return (o,.chain (some e) handler none more)
      | .ok r =>
        if r.done then return (.ok (finished ops),.chain none handler none more)
        match ops.pipeline? r.value with
        | none =>
          let f := .badType "this.iterator.next is not a function"
          return (.error f,.chain (some f) handler none more)
        | some p =>
          let p := match handler with
            | some h => .handle none h p
            | none => p
          next fuel (.chain none handler (some p) more)
    | .chain none handler (some current) more =>
      let (o,current) ← next fuel current
      match o with
      | .error e => return (o,.chain (some e) handler (some current) more)
      | .ok r =>
        if r.done then next fuel (.chain none handler none more)
        else return (o,.chain none handler (some current) more)
    | .zip none mode count shape streams =>
      let reads ← streams.mapM (next fuel)
      let o := combine ops mode count shape (reads.map (·.1))
      let count := match o with
        | .ok r => if r.done then count else count + 1
        | .error _ => count
      return (o,.zip (faultOf o) mode count shape (reads.map (·.2)))
    | .prefetch size queue up =>
      if queue.length < size then
        let (o,up) ← next fuel up
        next fuel (.prefetch size (queue ++ [o]) up)
      else
        match queue with
        | o :: queue => return (o,.prefetch size queue up)
        | [] => return (.ok (finished ops),p)

/-- A row of pipelines that refer to each other by their places. -/
structure Shelf (m : Type → Type) (α φ : Type) where
  get : Nat → m (Pipeline α φ)
  set : Nat → Pipeline α φ → m Unit

/-- Reads a pipeline of a shelf, which may read others there down to some depth. -/
def readShelf (shelf : Shelf m α φ) (opsWith : (Nat → m (Outcome α)) → Elements m α φ) (fuel : Nat) :
    (depth : Nat) → Nat → m (Outcome α)
  | 0, _ => return .error exhausted
  | depth + 1, id => do
    let (o,p) ← next (opsWith (readShelf shelf opsWith fuel depth)) fuel (← shelf.get id)
    shelf.set id p
    return o
def lost : Fault := .badType "this.lastRead.then is not a function"
def firstText (ops : Elements m α φ) : Pipeline α φ → m String
  | .items (x :: _) _ => ops.firstText x
  | .items [] i => return toString i
  | .skip _ _ _ up | .take _ _ up | .batch _ _ _ _ up | .filter _ _ up | .map _ up | .mapAsync _ up |
    .handle _ _ up | .spread _ _ _ up | .serial _ up | .prefetch _ _ up => firstText ops up
  | .chain _ _ _ more => firstText ops more
  | _ => return "function () {}"

/-- A copy of a pipeline with its state. Stages that order their reads lose the order, and streams that
are read together are no longer known as streams. -/
def duplicate : (fuel : Nat) → Pipeline α φ → m (Pipeline α φ)
  | 0, p => return p
  | fuel + 1, p => do
    let copyOf x := do
      match ← ops.copy x with
      | .ok y => return y
      | .error _ => return x
    match p with
    | .shared id => ops.copyShared id
    | .items xs i => return .items (← xs.mapM copyOf) i
    | .call f => return .call f
    | .chunks data offset size => return .chunks data offset size
    | .serial _ up => return .serial (some lost) (← duplicate fuel up)
    | .skip _ count most up => return .skip (some lost) count most (← duplicate fuel up)
    | .take count most up => return .take count most (← duplicate fuel up)
    | .batch _ size withLast held up => return .batch (some lost) size withLast held (← duplicate fuel up)
    | .filter _ f up => return .filter (some lost) f (← duplicate fuel up)
    | .map f up => return .map f (← duplicate fuel up)
    | .mapAsync f up => return .mapAsync f (← duplicate fuel up)
    | .handle _ f up => return .handle (some lost) f (← duplicate fuel up)
    | .spread _ how queue up => return .spread (some lost) how (← queue.mapM copyOf) (← duplicate fuel up)
    | .chain _ handler current more =>
      let current ← match current with
        | none => pure none
        | some c => do pure (some (← duplicate fuel c))
      return .chain none handler current (← duplicate fuel more)
    | .zip _ mode count shape streams =>
      let streams ← streams.mapM (duplicate fuel)
      let broken ← match streams.head? with
        | some s => do pure (some (notIterable (← firstText ops s)))
        | none => pure none
      return .zip broken mode count shape streams
    | .prefetch size queue up => return .prefetch size (queue.map fun _ => .ok ⟨ops.null,false⟩) (← duplicate fuel up)

def drain (ops : Elements m α φ) (stepFuel : Nat) :
    (fuel : Nat) → List α → Pipeline α φ → m (Tried (List α) × Pipeline α φ)
  | 0, _, p => return (.error exhausted,p)
  | fuel + 1, acc, p => do
    let (o,p) ← next ops stepFuel p
    match o with
    | .error f => return (.error f,p)
    | .ok r => if r.done then return (.ok acc.reverse,p) else drain ops stepFuel fuel (r.value :: acc) p

def limited (stage : Count → Pipeline α φ → Pipeline α φ) (count : Option Count) (p : Pipeline α φ) : Pipeline α φ :=
  match count with
  | some c => if c.isNegative then p else stage c p
  | none => p
def taking : Option Count → Pipeline α φ → Pipeline α φ := limited (.take 0)
def skipping : Option Count → Pipeline α φ → Pipeline α φ := limited (.skip none 0)
end Pipeline

/-- A stage that can be put over any pipeline. -/
inductive Stage (φ : Type) where
  | map (f : φ)
  | mapAsync (f : φ)
  | filter (f : φ)
  | flatmap (f : φ)
  | take (count : Option Count)
  | skip (count : Option Count)
  | batch (size : Count) (withLast : Bool)

def Stage.over {α φ : Type} (s : Stage φ) (up : Pipeline α φ) : Pipeline α φ := match s with
  | .map f => .map f up
  | .mapAsync f => .mapAsync f up
  | .filter f => .filter none f up
  | .flatmap f => .spread none (.flatmap f) [] up
  | .take count => .taking count up
  | .skip count => .skipping count up
  | .batch size withLast => .batch none size withLast [] up

namespace Pipeline
variable {m : Type → Type} [Monad m] {α φ : Type}
def kind : Pipeline α φ → String
  | .shared _ => "Shared"
  | .items .. => "Array"
  | .call _ => "FunctionCall"
  | .chunks .. => "FileChunk"
  | .serial .. => "Serial"
  | .skip .. => "Skip"
  | .take .. => "Take"
  | .batch .. => "RowMajorBatch"
  | .filter .. => "Filter"
  | .map .. => "Map"
  | .mapAsync .. => "AsyncMap"
  | .handle .. => "ErrorHandlingLazy"
  | .spread _ (.flatmap _) .. => "Flatmap"
  | .spread _ (.split ..) .. => "Split"
  | .spread _ (.decode _) .. => "Utf8"
  | .chain .. => "Chained"
  | .zip .. => "Zip"
  | .prefetch .. => "Prefetch"

variable (shared : Nat → m String) (fileText : Bytes → String)
def summary (p : Pipeline α φ) : m String := match p with
  | .shared id => shared id
  | .items xs _ => return s!"Array of {xs.length} items"
  | .call _ => return "Function call"
  | .chunks data _ _ => return "FileChunks " ++ fileText data
  | .handle _ _ up => return (← summary up) ++ " -> handleErrors"
  | .spread _ (.split separator _) _ up => return (← summary up) ++ s!" -> Split('{separator}')"
  | .chain .. => return "TODO: fill in upstream of chained summaries -> Chained"
  | .zip .. => return "\x7bTODO: fill in upstream of zip summaries\x7d -> Zip"
  | .serial _ up | .skip _ _ _ up | .take _ _ up | .batch _ _ _ _ up | .filter _ _ up | .map _ up | .mapAsync _ up |
    .spread _ _ _ up | .prefetch _ _ up => return (← summary up) ++ " -> " ++ kind p
end Pipeline
end TensorKit.Data
