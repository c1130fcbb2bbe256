import TensorKit.Script.Core.Methods

/-! # Functions on nested values -/
namespace TensorKit.Script
section
open TensorKit.Data
variable (v : Value)
def displayText : Script String := do
  match v with
  | .tensor t => tensorText t false
  | .list xs =>
    let parts ← xs.mapM fun
      | .tensor t => tensorText t false
      | .absent | .null => pure ""
      | v => pure v.text
    return ",".intercalate parts
  | v => return v.text

def isIterable : Bool := v matches .list _ | .record _ | .typed .. | .object .. | .item .. | .bytes _ | .promise _
def canTensorify : Bool := match v with
  | .record _ | .object .. | .item .. | .bytes _ | .promise _ => false
  | v => !v.isFunction
abbrev Seen := List (Value × Value)
abbrev Deep := StateT Seen Script
def notIterable {α : Type} : Script α := do fail ("Can't recurse into non-iterable type: " ++ (← displayText v))

def visitResult (value : Value) (recurse : Bool) : Value := .record [("value",value),("recurse",recurse)]
def resultOf (what : String) (r : Value) : Tried (Option Value) := do
  if !(r "recurse").truthy then return some (r "value")
  let .null := r "value" | fail s!"A deep {what} function may not return both a value and recurse=true."
  return none

/-- Gives what the function gives, or goes on to the members. -/
def visitOnce (f : Value → Reply) (v : Value) (within : Deep Value) : Deep Value := do
  match (← get).find? fun (k,_) => k.same v with
  | some (_,r) => return r
  | none =>
    let some r ← resultOf "map" (← f v) | within
    modify fun seen => (v,r) :: seen
    return r

def deepMap (f : Value → Reply) : Value → Deep Value
  | .absent | .null => return .null
  | .list xs => visitOnce f xs do xs.mapM (deepMap f)
  | .record fs => visitOnce f (.record fs) do return .record (← fs.mapM fun p => return (p.1,← deepMap f p.2))
  | .item c fs => visitOnce f (.item c fs) do return .record (← fs.mapM fun p => return (p.1,← deepMap f p.2))
  | v => visitOnce f v do
    let .typed _ xs := v | if isIterable v then return .record [] else notIterable v
    return .record (← xs.toList.zipIdx.mapM fun (x,i) => return (toString i,← visitOnce f x (notIterable x)))
decreasing_by all_goals grind [→ List.sizeOf_lt_of_mem]

variable (f : Value → Reply) (rows : Values)
def mapDeep (v : Value) : Reply := return (← (deepMap f v).run []).1
def mapDeepAwaiting (v : Value) : Reply := do
  let (_,seen) ← (deepMap f v).run []
  return (← (deepMap f v).run (seen.map fun (k,r) => (k,r.awaited))).1

/-- The value of a structure with its leaves. -/
def ofNested {ι : Type} (v : ι → Value) : Nested ι → Value
  | .leaf i => v i
  | .list xs => .list (xs.map (ofNested v ·))
  | .record fs => .record (fs.map fun p => (p.1,ofNested v p.2))
decreasing_by
  · decreasing_tactic
  · have := List.sizeOf_lt_of_mem ‹p ∈ fs›
    cases p
    simp_all
    omega

def visitAll (f : Handler) (xs : Values) (within : Reply) : Reply := do return ← (← resultOf "zip" (← f xs)).getDM within

mutual
/-- Joins values along the structure of the first one. -/
def zipAlong (f : Handler) : Value → Values → Reply
  | .list xs,others => visitAll f (.list xs :: others) do zipItems f 0 xs others
  | .record fs,others => visitAll f (.record fs :: others) do return .record (← zipFields f fs others)
  | v,others => visitAll f (v :: others) (notIterable v)
def zipItems (f : Handler) (i : Nat) : Values → Values → Script Values
  | [],_ => return []
  | x :: xs,others => do
    let y ← zipAlong f x (others.map (· i.repr))
    return y :: (← zipItems f (i + 1) xs others)
def zipFields (f : Handler) : Fields → Values → Script Fields
  | [],_ => return []
  | (k,x) :: fs,others => do
    let y ← zipAlong f x (others.map (· k))
    return (k,y) :: (← zipFields f fs others)
end

def zipDeep (f : Handler) : Values → Reply
  | [] => visitAll f [] (notIterable .absent)
  | x :: rest => zipAlong f x rest
def zipToList (xs : Values) : Value :=
  if isIterable (xs 0) then visitResult .null true else visitResult xs false
def joinRows : Reply := do
  match rows with
  | [] => fail "Can't make a batch of zero elements."
  | .tensor _ :: _ => core "stack" [rows]
  | _ => core "tensor" [rows]
def joinColumns : Reply := zipDeep (fun xs => do
  if canTensorify (xs 0) then return visitResult (← joinRows xs) false
  else return visitResult .null true) rows
end

/-! # Pipelines of a program

A stage refers to the pipeline it reads by its entry in a table, so that several readers take turns.
-/
open Engine TensorKit.Data Number
abbrev Stream := Pipeline Value Value
variable (v : Value) (id : Nat) (p : Stream) (f : Value)
def addStream : Script Nat := modifyGet fun w => (w.pipelines.size,{ w with pipelines := w.pipelines.push p })
def streamAt : M Stream := return (← get).pipelines.getD id (.items [] 0)
def setStream : M Unit := modify fun w => { w with pipelines := w.pipelines.setIfInBounds id p }
def newStream : Script Value := return .object .iterator (← addStream p)
def streamFuel : Nat := .pow 2 62
def streamDepth : Nat := 10000
def attempt {α : Type} (x : Script α) : Script (Tried α) := try return .ok (← x) catch f => return .error f
def readOf : Read Value := ⟨v "value",(v "done").truthy⟩
def readRecord (r : Read Value) : Value := .record [("value",r.value),("done",r.done)]
def faultValue (f : Fault) : Value := .item "Error" [("message",f.message)]
def isPrivate : Bool := f matches .native "data.reopen" _
def produceRead : Script (Outcome Value) := do
  match ← attempt (call f []) with
  | .ok v => return .ok (readOf v.awaited)
  | .error e =>
    if isPrivate f then return .error e
    return .error { e with message := "Error thrown while iterating through a dataset: " ++ e.message }
def releaseElement (element image : Value) : Act := do
  let kept := image.tensors.map (·.id)
  for t in element.tensors do if !kept.contains t.id then dispose t
def firstLeaf : Value → Option Value
  | .list xs => (xs.filterMap firstLeaf).head?
  | .record fs => (fs.filterMap (firstLeaf ·.2)).head?
  | .absent | .null => none
  | v => some v
decreasing_by all_goals grind [→ List.sizeOf_lt_of_mem]

def elementsWith (read : Nat → Script (Outcome Value)) (copy : Nat → Script Stream) : Elements Script Value Value where
  null := .null
  copy v := attempt (mapDeep (fun x => do
    match x with
    | .tensor t => return visitResult (← tensorMethod t "clone" []) false
    | .object .iterator id => return visitResult (.object .iterator (← addStream (← copy id))) false
    | x => if isIterable x then return visitResult .null true else return visitResult x false) v)
  discard v := disposeAll v
  release := releaseElement
  produce := produceRead
  test f v := attempt (do return (← call f [v]).truthy)
  transform f v := attempt (call f [v])
  transformAsync f v := attempt (do return (← call f [v]).awaited)
  handles f e := attempt (do return (← call f [faultValue e]).truthy)
  members v := v.items
  ofMembers := .list
  build := ofNested fun v => v
  text := Value.text
  ofText := .str
  bytes v := v.items.map (·.toNumber.toUInt8)
  ofBytes bs := .typed .uint8 (bs.map UInt8.toFloat).toArray
  firstText v := displayText ((firstLeaf v).getD .null)
  pipeline? v := match v with
    | .object .iterator id => some (.shared id)
    | _ => none
  readShared := read
  copyShared := copy

def copyStream : (depth : Nat) → Nat → Script Stream
  | 0, id => return .shared id
  | depth + 1, id => do
    let p ← streamAt id
    Pipeline.duplicate (elementsWith (fun _ => return .error Pipeline.exhausted) (copyStream depth)) streamFuel p
def pipelineShelf : Pipeline.Shelf Script Value Value := ⟨(streamAt ·),fun id p => setStream id p⟩
def readStreamWithin : (depth : Nat) → Nat → Script (Outcome Value) :=
  Pipeline.readShelf pipelineShelf (elementsWith · (copyStream streamDepth)) streamFuel
def readStream : Script (Read Value) := do
  return ← (← readStreamWithin streamDepth id)
def drainStream : Script Values := do
  let ops := elementsWith (readStreamWithin streamDepth) (copyStream streamDepth)
  let (r,_) ← Pipeline.drain ops streamFuel streamFuel [] p
  r
def resolveWhile (id : Nat) (test : Value → Script Bool) : (fuel : Nat) → Act
  | 0 => throw Pipeline.exhausted
  | fuel + 1 => do
    let r ← readStream id
    let goesOn ← test r.value
    if !r.done && goesOn then resolveWhile id test fuel
def resolveFully (id fuel : Nat) : Act := resolveWhile id (fun _ => pure true) fuel
def countArg : Option Count := match v with
  | .absent | .null => none
  | v => some (.ofFloat v.toNumber)
def summaryWithin : (depth : Nat) → Nat → Script String
  | 0, _ => return ""
  | depth + 1, id => do
    Pipeline.summary (summaryWithin depth)
      (fun bs => ",".intercalate (bs.map (toString ·.toNat))) (← streamAt id)
def capacityArg : Tried Int := do
  if v.isNil then throw ⟨.outOfRange,"Can't create a ring buffer of unknown capacity."⟩
  let n := wholePart v.toNumber
  if n < 1 then throw ⟨.outOfRange,"Can't create ring buffer of capacity < 1."⟩
  return n
def zipShape (kind : ObjectKind) (v : Value) : Nested Part × Nats := (shapeOf v).run []
where
  shapeOf : Value → StateM Nats (Nested Part)
    | .list xs => return .list (← xs.mapM shapeOf)
    | .record fs => return .record (← fs.mapM fun p => return (p.1,← shapeOf p.2))
    | .absent | .null => return .leaf .nothing
    | v => do
      let some id := v.objectId? kind | return .leaf (.other v.text)
      let ids ← get
      match ids.idxOf? id with
      | some i => return .leaf (.stream i)
      | none =>
        set (ids ++ [id])
        return .leaf (.stream ids.length)
  decreasing_by all_goals grind [→ List.sizeOf_lt_of_mem]

def zipModeArg : ZipMode := match v.num? with
  | some x => if x == 1 then .shortest else if x == 2 then .longest else .fail
  | none => .fail

def columnBatches (size : Count) (withLast : Bool) (join : Value) (up : Stream) : Stream :=
  let join : Value := if join.isAbsent then .native "nested.toList" [] else join
  .map (.native "data.zipRows" [join]) (.batch none size withLast [] up)

def streamMethod (name : String) (args : Values) : Reply := do
  let up : Stream := .shared id
  let f := args 0
  let made p : Reply := newStream p
  let staged (s : Stage Value) : Reply := match s.over up with
    | .shared _ => return .object .iterator id
    | p => made p
  let whenDone (x : Act) : Reply := do
    x
    return .promise .absent
  match name with
  | "next" => return .promise (readRecord (← readStream id))
  | "toArray" => return .promise (← drainStream up)
  | "toArrayForTest" => return .promise (← drainStream (.prefetch 100 [] up))
  | "resolveFully" => whenDone (resolveFully id streamFuel)
  | "resolveWhile" => whenDone (resolveWhile id (fun v => return (← call f [v]).truthy) streamFuel)
  | "handleErrors" => made (.handle none f up)
  | "filter" => staged (.filter f)
  | "map" => staged (.map f)
  | "mapAsync" => staged (.mapAsync f)
  | "serialMapAsync" => do made (.serial none (.shared (← addStream (.mapAsync f up))))
  | "flatmap" => staged (.flatmap f)
  | "forEachAsync" => do whenDone (resolveFully (← addStream (.map f up)) streamFuel)
  | "serialForEach" => do
    whenDone (resolveWhile (← addStream (.serial none (.mapAsync f up)))
      (fun
        | .bool b => return b
        | _ => return false) streamFuel)
  | "rowMajorBatch" => staged (.batch (.ofFloat f.toNumber) (boolOr (args 1) true))
  | "columnMajorBatch" => made (columnBatches (.ofFloat f.toNumber) (boolOr (args 1) true) (args 2) up)
  | "concatenate" => do made (.chain none ((args 1).some?) none (.items [.object .iterator id,args 0] 0))
  | "take" => staged (.take (countArg f))
  | "skip" => staged (.skip (countArg f))
  | "prefetch" => do
    let n ← capacityArg f
    made (.prefetch n.toNat [] up)
  | "serial" => made (.serial none up)
  | "summary" => summaryWithin streamDepth id
  | "split" => made (.spread none (.split f.text "") [] up)
  | "decodeUTF8" => made (.spread none (.decode []) [] up)
  | _ => notAFunction name

def chunkStream (file options : Value) : Tried Stream :=
  let orElse (v : Value) default := if v.truthy then natOr v default else default
  match file with
  | .typed .uint8 xs =>
    .ok (.chunks (xs.toList.map Float.toUInt8) (orElse (options "offset") 0)
      (orElse (options "chunkSize") (1024 * 1024)))
  | _ => fail "FileChunkIterator only supports File, Blob and Uint8Array right now."
variable (source : Value)
def sourceStream : Tried Stream := chunkStream (source "input") (source "options")

/-! # Datasets of lines and of delimited rows

A field that reads as a number is one, unless its column is declared otherwise.
-/

variable (id : Nat) (name : String) (t : TextTable)
def tableAt : M TextTable := return (← get).tables.getD id default
def setTable : M Unit := modify fun w => { w with tables := w.tables.setIfInBounds id t }
def lineStream : Tried Stream := do
  let chunks ← sourceStream source
  return .map (.native "text.stripReturn" []) (.spread none (.split "\n" "") [] (.spread none (.decode []) [] chunks))
def headerNames : Script (Option Strings) := do
  if !t.hasHeader then return none
  let id ← addStream (← lineStream t.source)
  let r ← readStream id
  if r.done then fail "No data was found for CSV parsing."
  return some (parseRow t.format r.value.text)

def settleNames : Act := do
  let t ← tableAt id
  if t.checked then return
  let header ← headerNames t
  let names ← match t.names, header with
    | none, none => fail "Column names must be provided if there is no header line."
    | some names, some header =>
      if header.length != names.length then
        fail (s!"The length of provided columnNames ({names.length}) does not match the length of the header line " ++
          s!"read from file ({header.length}).")
      pure names
    | some names, none => pure names
    | none, some header => pure header
  -- The names stay, also if they are refused below.
  setTable id { t with names := some names }
  let twice := (Value.orderFields ((repeatedNames names).map fun n => (n,.null))).map (·.1)
  if !twice.isEmpty then fail ("Duplicate column names found: " ++ ",".intercalate twice)
  for (key,_) in t.configs.fields do
    if !names.contains key then
      fail ("The key \"" ++ key ++ "\" provided in columnConfigs does not match any of the column " ++
        "names (" ++ ",".intercalate names ++ ").")
  setTable id { t with names := some names, checked := true }

def flagOf (s : String) : Value := (if s == "1" || s.toLower == "true" then 1 else 0)

def fieldValue (key text line : String) (config : Value) : Tried Value := do
  let dtype := config "dtype"
  if text.isEmpty then
    match config.fields.lookup "default" with
    | some (.absent) | none =>
      if (config "required").truthy || (config "isLabel").truthy then
        fail s!"Required column {key} is empty in this line: {line}"
      return .absent
    | some v => return v
  let x := (Decimal.readNumber text).getD nan
  if x.isNaN then return if dtype.str? == some "bool" then flagOf text else text
  match dtype.str? with
  | some "int32" => return x.floor
  | some "bool" => return flagOf text
  | _ => return x

def rowRecord (line : String) : Tried Value := do
  let names := t.names.getD []
  let values ← parseRowOf t.format names.length line
  let (xs,ys) ← (names.zip values).foldlM (fun (xs,ys) (key,text) => do
    let config := t.configs key
    if t.configuredOnly && !config.truthy then return (xs,ys)
    let v ← fieldValue key text line config
    if (config "isLabel").truthy then return (xs,ys.put key v)
    else return (xs.put key v,ys)) ([],[])
  let features := .record (Value.orderFields xs)
  if ys.isEmpty then return features
  return .record [("xs",features),("ys",.record (Value.orderFields ys))]

def tableStream : Script (Tried Stream) := attempt do
  let t ← tableAt id
  if !t.isRows then return ← lineStream t.source
  settleNames id
  let lines ← lineStream t.source
  let lines := if t.hasHeader then Pipeline.skip none 0 (.ofNat 1) lines else lines
  return .map (.native "data.row" [id]) lines
def newTable : Script Value := modifyGet fun w =>
  (.object .dataset w.datasets.size,
    { w with
      tables := w.tables.push t
      datasets := w.datasets.push (.external w.tables.size) })

def newRows (config : Value) : Reply := do
  let delimiter := config "delimiter"
  let collapses := (config "delimWhitespace").truthy
  if collapses && delimiter.isPresent then fail "Delimiter should not be provided when delimWhitespace is true."
  let names := config "columnNames"
  newTable {
    source
    isRows := true
    hasHeader := (config "hasHeader").bool? != some false
    names := if names.truthy then some (names.items.map Value.text) else none
    configs := config "columnConfigs"
    configuredOnly := (config "configuredColumnsOnly").truthy
    format := {
      delimiter := if collapses then " " else if delimiter.truthy then delimiter.text else ","
      collapses } }

def tableMethod (table : Nat) (name : String) (args : Values) : Reply := do
  match name with
  | "columnNames" => do
    settleNames table
    let t ← tableAt table
    if t.configuredOnly then return .promise (.ofStrings (t.configs.fields.map (·.1)))
    return .promise (.ofStrings (t.names.getD []))
  | "makeDataElement" => do rowRecord (← tableAt table) (args 0).text
  | _ => notAFunction name

/-! # Datasets, rings and statistics of a program -/

abbrev Source := Dataset Value Value
variable (d : Source)
def datasetAt : Script Source := return (← get).datasets.getD id default
def newDataset : Script Value :=
  modifyGet fun w => (.object .dataset w.datasets.size,{ w with datasets := w.datasets.push d })

def sources : Sources Script Value Value where
  tidied f := .native "data.tidied" [f]
  columns := .native "data.columns" []
  wrap p := newStream p
  reopen d := return .native "data.reopen" [← newDataset d]
  generate f := attempt do return .native "data.generated" [(← call f []).awaited]
  external := tableStream

def startDataset : Script Stream := do
  return ← (← d.start sources)
def startStream : Script Nat := do
  match ← startDataset d with
  | .shared id => return id
  | p => addStream p
def sizeValue : Value := d.size.elim .null (·.toFloat)

variable (args : Values) (r : Data.Ring Value)
def datasetMethod : Reply := do
  let d ← datasetAt id
  let x := args 0
  let made d : Reply := newDataset d
  match name with
  | "batch" => do
    let n := x.toNumber
    if !(n > 0) then fail s!"batchSize needs to be positive, but it is\n      {x.text}"
    made (.batch (.ofFloat n) (boolOr (args 1) true) d)
  | "concatenate" =>
    match x with
    | .object .dataset other => do made (.concatenate d (← datasetAt other))
    | _ => throw (.badType "dataset.iterator is not a function")
  | "filter" => made (.filter x d)
  | "map" => made (.map x d)
  | "mapAsync" => made (.mapAsync x d)
  | "prefetch" => do
    if x.isNil then throw ⟨.outOfRange,"`Dataset.prefetch()` requires bufferSize to be specified."⟩
    made (.prefetch (wholePart x.toNumber) d)
  | "repeat" => made (.repeated (countArg x) d)
  | "skip" => made (.skip (countArg x) d)
  | "take" => made (.take (countArg x) d)
  | "shuffle" => do
    if x.isNil || x.toNumber < 0 then
      throw ⟨.outOfRange,"`Dataset.shuffle()` requires bufferSize to be specified." ++ d.size.elim "" fun _ =>
        "  If your data fits in main memory (for regular JS objects), and/or GPU memory (for `tf.Tensor`s), " ++
        s!"consider setting bufferSize to the dataset size ({(sizeValue d).text} elements)"⟩
    throw (.unsupported "Random numbers are not available.")
  | "iterator" => return .promise (.object .iterator (← startStream d))
  | "forEachAsync" | "forEach" => do streamMethod (← startStream d) "forEachAsync" args
  | "toArray" | "toArrayForTest" => do
    if Size.isInfinite d.size then fail "Can not convert infinite data stream to array."
    streamMethod (← startStream d) name []
  | _ =>
    match d with
    | .external table => tableMethod table name args
    | _ => notAFunction name

def datasetField : Reply := do if name == "size" then return sizeValue (← datasetAt id) else return .absent

/-! ### Rings -/

def ringAt : M (Data.Ring Value) := return (← get).rings.getD id default
def setRing : M Unit := modify fun w => { w with rings := w.rings.setIfInBounds id r }
def newRing : Script Value := modifyGet fun w => (.object .ring w.rings.size,{ w with rings := w.rings.push r })

def ringMethod : Reply := do
  let r ← ringAt id
  let x := args 0
  let out v : Value := v.getD .absent
  let take (p : Tried (Option Value × Data.Ring Value)) : Reply := do
    let (v,r) ← p
    setRing id r
    return out v
  let put (p : Tried (Data.Ring Value)) : Reply := silent do
    let r ← p
    setRing id r
  match name with
  | "length" => return r.length
  | "isFull" => return r.isFull
  | "isEmpty" => return r.isEmpty
  | "push" => put (r.push (some x))
  | "pushAll" => do
    let (r,fault) := r.pushAll (x.items.map some)
    setRing id r
    let some f := fault | return .absent
    throw f
  | "pop" => take r.pop
  | "unshift" => put (r.unshift (some x))
  | "shift" => take r.shift
  | "shuffleExcise" => take (r.excise (intOr x 0))
  | "get" => do
    let v ← r.get (intOr x 0)
    return out v
  | "set" => put (r.set (intOr x 0) (some (args 1)))
  | "wrap" => return r.wrap (intOr x 0)
  | _ => notAFunction name

def ringField : Reply := do
  let r ← ringAt id
  return Value.record [("capacity",r.capacity),("doubledCapacity",.ofNat (2 * r.capacity)),("begin",r.start),
    ("end",r.stop),("data",r.cells.toList.map (·.getD .absent))] name

/-! ### Statistics -/

abbrev Columns := Named (Column Float)
def firstNumber : Script Float := do
  let .tensor t := v | return v.toNumber
  let vs ← tensorValues t
  return (vs.getD 0 .absent).toNumber

def summaryOf : Script (Option (Option (Summary Float))) := do
  let moments := do
    let r ← core "moments" [v]
    return (← firstNumber (r "mean"),← firstNumber (r "variance"))
  match v with
  | .str _ => return none
  | .tensor t =>
    let lo ← firstNumber (← core "min" [v])
    let hi ← firstNumber (← core "max" [v])
    let (mean,variance) ← moments
    return some (some ⟨lo,hi,.ofNat t.size,mean,variance⟩)
  | .list xs =>
    match xs.map Value.toNumber with
    | [] => throw (.badType "Reduce of empty array with no initial value")
    | x :: rest => return some (some (.ofNumbers Number.min Number.max x rest (← moments)))
  | v =>
    let x := v.toNumber
    return some (if x.isNaN || x.isInf then none else some (.ofNumber x))

def columnRecord (c : Column Float) : Value :=
  let (lo,hi) := c.extremes.getD (1.0 / 0.0,-1.0 / 0.0)
  let c := c.settled
  .record [("min",lo),("max",hi),("mean",c.mean),("variance",c.variance),
    ("stddev",c.variance.sqrt),("length",c.length)]

def mergeAll (id : Nat) : (fuel : Nat) → Columns → Script Columns
  | 0, _ => throw Pipeline.exhausted
  | fuel + 1, cols => do
    let r ← readStream id
    if r.done then return cols
    let cols ← addRecord Number.min Number.max summaryOf cols r.value.fields
    releaseElement r.value .absent
    mergeAll id fuel cols

def datasetStatistics : Reply := do
  let .object .dataset id := args 0 | throw (.badType "sampleDataset.forEachAsync is not a function")
  let d ← datasetAt id
  let d := if (args 1).isPresent then .take (countArg (args 1)) d else d
  let cols ← mergeAll (← startStream d) streamFuel []
  return .promise (.record (Value.orderFields (cols.map fun (k,c) => (k,columnRecord c))))

def scaleValue (lo range : Float) (loT rangeT : Value) (v : Value) : Reply := do
  match v with
  | .str _ => fail "Can't scale a string."
  | .tensor t => do
    match ← tensorMethod t "sub" [loT] with
    | .tensor d => tensorMethod d "div" [rangeT]
    | r => return r
  | .list xs => return .list (xs.map fun x => (x.toNumber - lo) / range)
  | v => return (v.toNumber - lo) / range

def dataTable : Handlers :=
  under "data" [ ("array",on1 fun x => newDataset (.items x.items)),
    ("func",on1 fun x => do newDataset (.stream (← addStream (.call x)))),
    ("generator",on1 fun x => newDataset (.generator x)),
    ("zip",on1 fun x => do
      if !isIterable x then fail "The argument to zip() must be an object or array."
      let (shape,ids) := zipShape .dataset x
      let parts ← ids.mapM (datasetAt ·)
      newDataset (.zip shape parts)),
    ("isLocalPath",on1 fun x => return (x.str?.any (·.startsWith "file://"))),
    ("statistics",datasetStatistics),
    ("scaleTo01",on2 fun x y => do
      let lo := x.toNumber
      let range := y.toNumber - lo
      let loT ← core "scalar" [x]
      return .native "data.scale" [lo,range,loT,← core "scalar" [range]]),
    ("scale",fun a => scaleValue (a 0).toNumber (a 1).toNumber (a 2) (a 3) (a 4)),
    ("tidied",fun a => scopedWith Value.tensors unnamed (call (a 0) (a.drop 1))),
    ("columns",on1 (joinColumns ·.items)),
    ("zipRows",on2 fun x y => zipDeep (fun xs => call x [xs]) y.items),
    ("reopen",on1 fun x => do
      let .object .dataset id := x | return .absent
      let it ← startStream (← datasetAt id)
      return readRecord ⟨.object .iterator it,false⟩),
    ("generated",on1 fun g => do
      match g with
      | .object .iterator id => return .promise (readRecord (← readStream id))
      | g =>
        if (g "next").isFunction then call (g "next") []
        else throw (.badType "gen.next is not a function")),
    ("count",on2 fun x y => do
      let id := natOr x 0
      let n := (← get).counters.getD id 0
      modify fun w => { w with counters := w.counters.modify id (· + 1) }
      return readRecord ⟨.num (y.toNumber + .ofNat n),false⟩),
    ("row",on2 fun x y => do return (← rowRecord (← tableAt (natOr x 0)) y.text)) ] ++
  under "stream" [ ("ofItems",on1 fun x => newStream (.items x.items 0)),
    ("ofFunction",on1 fun x => newStream (.call x)),
    ("countingFrom",on1 fun x => do
      let id ← (modifyGet fun w => (w.counters.size,{ w with counters := w.counters.push 0 }) : M Nat)
      newStream (.call (.native "data.count" [id,x]))),
    ("chained",on2 fun x y => do
      let .object .iterator id := x | throw (.badType "this.moreIterators.next is not a function")
      newStream (.chain none y.some? none (.shared id))),
    ("zipped",on2 fun x y => do
      let (shape,ids) := zipShape .iterator x
      newStream (.zip none (zipModeArg y) 0 shape (ids.map .shared))),
    ("split",fun a => do
      let .object .iterator id := a 0 | throw (.badType "this.upstream.next is not a function")
      streamMethod id "split" (a.drop 1)) ] ++
  under "nested" [ ("map",on2 fun x y => mapDeep (fun v => call y [v]) x),
    ("mapAwaiting",on2 fun x y => return .promise (← mapDeepAwaiting (fun v => call y [v]) x)),
    ("zip",on2 fun x f => do
      zipDeep (fun xs => if f.isAbsent then return zipToList xs else call f [xs]) x.items),
    ("toList",on1 fun x => do
      return if x matches .null then x else zipToList x.items),
    ("isIterable",on1 fun x => return isIterable x),
    ("canTensorify",on1 fun x => return canTensorify x),
    ("clone",on1 fun x => do
      let ops := elementsWith (readStreamWithin streamDepth) (copyStream streamDepth)
      return (← (← ops.copy x))) ] ++
  under "text" [ ("stripReturn",on1 fun x => return stripReturn x.text) ]

def dataConstructors : Handlers :=
  [ ("Ring",on1 fun x => do newRing (.empty (← capacityArg x).toNat)),
    ("GrowingRing",fun _ => newRing .growing),
    ("FileSource",on2 fun x y => return .item "FileDataSource" [("input",x),("options",y)]),
    ("FileChunks",on2 fun x y => do newStream (← chunkStream x y)),
    ("TextLines",on1 fun x => newTable { source := x }),
    ("Rows",on2 newRows) ]
end TensorKit.Script
