import TensorKit.Weights.Load
import TensorKit.Weights.Store
import TensorKit.Probe.Report

/-! # Arrays and weights in descriptions

Arrays are described in JSON by type, shape and a flat list of values, bytes by hexadecimal digits. A description that
is malformed is read as what it lacks.
-/
namespace TensorKit.Exchange
variable (j : Json) (input : Json) (name : String) (kind : String) (key : String)
def numberOf : Float := match j with
  | .str s => (wordNumber? s).getD 0.0
  | .bool b => if b then 1.0 else 0.0
  | j => j.float?.getD 0.0

def labelOf : Label := match j with
  | .str s => .text s
  | j => (j.getStr? "hex").elim .other fun h => .raw (ofHex h)
def unpadded (l : Label) : Label := match l with
  | .text s => .text (.ofList (s.toList.reverse.dropWhile (· == .ofNat 0)).reverse)
  | .raw bs => .raw (bs.reverse.dropWhile (· == 0)).reverse
  | l => l

def cellOf (e : Element) (j : Json) : e.Cell := match e with
  | .object => labelOf j
  | .str => unpadded (labelOf j)
  | .bytes => unpadded (match labelOf j with
    | .text s => .raw s.toUTF8.toList
    | l => l)
  | e => match j with
    | .int n => if e.isFloating || e == .bool || e.storage == .pair || e == .complex64
      then e.ofFloat (.ofInt n) else Element.ofInt e.storage n
    | j => e.ofFloat (numberOf j)

def natsOf : Nats := j.elems.map fun d => (d.int?.getD 0).toNat
def elementOf? : Option Element := j.str?.bind Element.ofName?
def gridOf? : Option Grid := do
  let e ← elementOf? (← j.get? "dtype")
  some ⟨e,natsOf (j "shape"),(← j.get? "values").elems.map (cellOf e)⟩

def datumJson : Datum → Json
  | .truth b => b
  | .whole n => n
  | .real x => .num x
  | .complex re im => .arr [.num re,.num im]
  | .label (.text s) => s
  | .label (.raw bs) => .obj [("hex",Json.hex bs)]
  | .label .other => .null

def gridJson (g : Grid) : Json :=
  .obj [("dtype",g.element.name),("shape",.arr (g.shape.map fun n : Nat => .int n)),
    ("values",.arr (g.cells.map fun c => datumJson (g.element.datum c)))]
def fieldElement? : Option Element := (input.get? key).bind elementOf?
def scalingOf? : Option Weights.Scaling := do
  let q ← j.get? "quantization"
  some ⟨(q "original_dtype").strD,numberOf (q "min"),numberOf (q "scale")⟩
def offeredOf : Weights.Offered := match gridOf? j with
  | some g => .grid g
  | none => match j.get? "scalar", fieldElement? j "dtype" with
    | some _, some e => .single e
    | _, _ => .other
def offerOf? : Option Weights.Offer := match j with
  | .obj _ => some ⟨j.get? "name",(j.get? "data").map offeredOf,scalingOf? j⟩
  | _ => none
def groupsOf : Weights.OfferedGroups := match j with
  | .arr groups => some (groups.map fun g => match g with
    | .arr entries => some (entries.map offerOf?)
    | _ => none)
  | _ => none
def loadedJson (l : Weights.Loaded) : Json := .obj [("name",l.name),("data",gridJson l.data)]
def loadedGroupsJson (flatten : Bool) (groups : List (List Weights.Loaded)) : Json :=
  .arr (if flatten then groups.flatten.map loadedJson else groups.map fun g => .arr (g.map loadedJson))
def weightGroupsJson (groups : List (List Weights.Weight)) : Json :=
  loadedGroupsJson false (groups.map fun g => g.map fun w => ⟨w.name,w.data⟩)
def entryOf? : Option Weights.Loaded := do some ⟨j "name",← (j.get? "data").bind gridOf?⟩

/-! # Written samples -/

open Probe
def countOf : Nat := (j.int?.getD 0).toNat
def spanPart (n : Int) : Option String := if n == 0 then none else some s!"{name}={n}"
def spanSpelling (days seconds micros : Int) : String :=
  let parts := [spanPart "days" days,spanPart "seconds" seconds,spanPart "microseconds" micros].filterMap id
  "datetime.timedelta(" ++ (if parts.isEmpty then "0" else ", ".intercalate parts) ++ ")"
def pathSpelling (s : String) : String :=
  let root := if s.startsWith "//" && !s.startsWith "///" then "//" else if s.startsWith "/" then "/" else ""
  let parts := (Text.split "/" s).filter fun p => p != "" && p != "."
  let joined := root ++ "/".intercalate parts
  if joined.isEmpty then "." else joined
def fractionSpelling (n d : Int) : String :=
  let g : Int := .gcd n d
  let (n,d) := if d < 0 then (-n,-d) else (n,d)
  s!"Fraction({n / g}, {d / g})"

def spelledOf? (j : Json) : Option Sample :=
  let parts := j.elems.map (·.int?.getD 0)
  match kind, parts with
  | "date", [y,m,d] => some (.spelled "date" s!"datetime.date({y}, {m}, {d})")
  | "timedelta", [d,s,m] => some (.spelled "timedelta" (spanSpelling d s m))
  | "decimal", _ => some (.spelled "Decimal" ("Decimal('" ++ j.strD ++ "')"))
  | "fraction", [n,d] => some (.spelled "Fraction" (fractionSpelling n d))
  | "path", _ => some (.spelled "PurePosixPath" ("PurePosixPath(" ++ Text.literalText (pathSpelling j.strD) ++ ")"))
  | "uuid", _ => some (.spelled "UUID" ("UUID('" ++ j.strD ++ "')"))
  | _, _ => none

def nested : Nat → Sample
  | 0 => .whole 0
  | n + 1 => .sequence false [nested n]
def ramp (n : Nat) : Grid := .ofFloats .float32 [n] ((List.range n).map fun k => k.toFloat / 8)

def plainSampleOf (j : Json) : Sample := match kind with
  | "bytes" => .raw .fixed (ofHex j.strD)
  | "bytearray" => .raw .growing (ofHex j.strD)
  | "memoryview" => .raw .view (ofHex j.strD)
  | "int" => .whole ((Text.whole? j.strD).getD 0)
  | "complex" =>
    match j.elems with
    | [re,im] => .complex (numberOf re) (numberOf im)
    | _ => .nothing
  | "range" => .sequence false ((List.range (countOf j)).map fun (k : Nat) => .whole k)
  | "nest" => nested (countOf j)
  | "nd" => (gridOf? j).elim .nothing .array
  | "ramp" => .array (ramp (countOf j))
  | "object" => .object "oracle" "Plain"
  | "param" => .argument j.strD
  | "count" => .callNumber
  | _ => (spelledOf? kind j).getD .nothing

def sampleWithin : Nat → Json → Sample
  | 0, _ => .nothing
  | fuel + 1, j =>
    let sample := sampleWithin fuel
    match j with
    | .null => .nothing
    | .bool b => .truth b
    | .int n => .whole n
    | .num x => .real x
    | .str "NaN" | .str "Infinity" | .str "-Infinity" => .real (numberOf j)
    | .str s => .text s
    | .arr xs => .sequence false (xs.map sample)
    | .obj [("tuple",x)] => .sequence true (x.elems.map sample)
    | .obj [("set",x)] => .members false (Sample.distinct (x.elems.map sample))
    | .obj [("frozenset",x)] => .members true (Sample.distinct (x.elems.map sample))
    | .obj [("dict",x)] =>
      .table (Sample.settled (x.elems.filterMap fun e =>
        match e.elems with
        | [k,v] => some (sample k,sample v)
        | _ => none))
    | .obj [("dataclass",x)] =>
      match x.elems with
      | [a,b] => .pair (sample a) (sample b)
      | _ => .nothing
    | .obj [(kind,x)] => plainSampleOf kind x
    | .obj _ => .nothing

def sampleOf : Sample := sampleWithin j.nodes j
def accessOf : String → Access
  | "spec" => .byFile
  | "loader" => .byLoader
  | "runpy" => .byRunning
  | _ => .byName
def useOf : String → Use
  | "none" => .nothing
  | "bool" => .truth
  | "len" => .length
  | "list" => .items
  | _ => .whole
def actionOf : Action := match j.get? "raise", j.get? "load" with
  | some cause, _ => .fail cause.strD
  | none, some name => .load name.strD (accessOf (j "how").strD) (useOf (j "use").strD)
  | none, none => .give (sampleOf (j "value"))
def functionOf (j : Json) : Function :=
  { name, action := actionOf j
    settings := (j "params").elems.map fun args => args.fields.map fun (k,v) => (k,sampleOf v) }
def isTrue : Bool := (j key).bool?.getD false
def placeOf : Place :=
  { control := isTrue input "control"
    packages := (Text.split "," (input "packages").strD).filter (· != "")
    files := (input "files").fields.map (·.1) }
def probeJson : Json :=
  let functions := match input "functions" with
    | .obj fs => some (fs.map fun (name,j) => functionOf name j)
    | _ => none
  let r := report functions (placeOf input)
  .obj [("exit",r.exit?.elim .null .int),("printed",r.json)]
end TensorKit.Exchange
