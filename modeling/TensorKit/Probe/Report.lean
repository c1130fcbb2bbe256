import TensorKit.Digest
import TensorKit.Grid.Basic
import TensorKit.Text.Literal

/-! # Fingerprints

A fingerprint is the digest of canonical bytes, in which the order of keys and members does not show and numbers keep
six digits.
-/
namespace TensorKit.Probe

/-! ## Samples

A function may also give a part of its own call: an argument or the number of the call; `Sample.filled` puts those in.
-/

inductive Buffer where
  | fixed | growing | view
deriving DecidableEq

inductive Sample where
  | nothing
  | truth (b : Bool)
  | whole (n : Int)
  | real (x : Float)
  | complex (re im : Float)
  | text (s : String)
  | raw (buffer : Buffer) (data : Bytes)
  | sequence (fixed : Bool) (items : List Sample)
  | table (entries : List (Sample × Sample))
  | members (frozen : Bool) (items : List Sample)
  | pair (a b : Sample)
  | array (grid : Grid)
  | spelled (className spelling : String)
  | object (scope className : String)
  | argument (name : String)
  | callNumber

namespace Sample
def typeName : Sample → String
  | nothing | argument _ => "NoneType"
  | truth _ => "bool"
  | whole _ | callNumber => "int"
  | real _ => "float"
  | complex .. => "complex"
  | text _ => "str"
  | raw .fixed _ => "bytes"
  | raw .growing _ => "bytearray"
  | raw .view _ => "memoryview"
  | sequence false _ => "list"
  | sequence true _ => "tuple"
  | table _ => "dict"
  | members false _ => "set"
  | members true _ => "frozenset"
  | pair .. => "Pair"
  | array _ => "ndarray"
  | spelled c _ => c
  | object _ c => c

abbrev Arguments := Named Sample
variable (args : Arguments) (count : Nat)
def filled : Sample → Sample
  | argument name => (args.lookup name).getD nothing
  | callNumber => whole count
  | sequence fixed items => sequence fixed (items.map filled)
  | members frozen items => members frozen (items.map filled)
  | table entries => table (entries.map fun e => (filled e.1,filled e.2))
  | pair a b => pair (filled a) (filled b)
  | s => s
decreasing_by all_goals grind [→ List.sizeOf_lt_of_mem]

def byteSpelling (quote : Char) (b : UInt8) : String :=
  let c := .ofNat b.toNat
  if 127 ≤ b.toNat then "\\x" ++ Text.hexWidth 2 b.toNat else Text.literalChar quote c
def bytesSpelling (bs : Bytes) : String :=
  let has c := bs.contains c.toNat.toUInt8
  let quote := if has '\'' && !has '"' then '"' else '\''
  let q := .singleton quote
  "b" ++ q ++ bs.foldl (fun acc b => acc ++ byteSpelling quote b) "" ++ q
def partStyle : Decimal.Style := { Decimal.Style.pointed with keepPoint := false, negativeZero := "-0", zero := "0" }
def complexSpelling (re im : Float) : String :=
  let imaginary := partStyle.text im ++ "j"
  if re == 0 && !(Decimal.Binary.ofFloat re).neg then imaginary
  else "(" ++ partStyle.text re ++ (if imaginary.startsWith "-" then "" else "+") ++ imaginary ++ ")"

def spelling : Sample → String
  | nothing | argument _ => "None"
  | truth b => if b then "True" else "False"
  | whole n => toString n
  | callNumber => "0"
  | real x => Decimal.Style.pointed.text x
  | complex re im => complexSpelling re im
  | text s => Text.literalText s
  | raw .fixed bs => bytesSpelling bs
  | raw .growing bs => "bytearray(" ++ bytesSpelling bs ++ ")"
  | raw .view _ => "<memory>"
  | sequence false items => "[" ++ ", ".intercalate (items.map spelling) ++ "]"
  | sequence true [x] => "(" ++ x.spelling ++ ",)"
  | sequence true items => "(" ++ ", ".intercalate (items.map spelling) ++ ")"
  | table entries => "\x7b" ++ ", ".intercalate (entries.map fun e => e.1.spelling ++ ": " ++ e.2.spelling) ++ "\x7d"
  | members false [] => "set()"
  | members false items => "\x7b" ++ ", ".intercalate (items.map spelling) ++ "\x7d"
  | members true [] => "frozenset()"
  | members true items => "frozenset(\x7b" ++ ", ".intercalate (items.map spelling) ++ "\x7d)"
  | pair a b => "Pair(a=" ++ a.spelling ++ ", b=" ++ b.spelling ++ ")"
  | array g => "array(" ++ Grid.shapeText g.shape ++ ")"
  | spelled _ s => s
  | object scope c => "<" ++ scope ++ "." ++ c ++ ">"
decreasing_by all_goals grind [→ List.sizeOf_lt_of_mem]

def shown : Sample → String
  | text s => s
  | s => s.spelling
def number? : Sample → Option Float
  | truth b => some (if b then 1 else 0)
  | whole n => some (.ofInt n)
  | real x => some x
  | _ => none

def same (s t : Sample) : Bool := match s, t with
  | whole m, whole n => m == n
  | s, t =>
    match s.number?, t.number? with
    | some x, some y => x == y
    | none, none => s.typeName == t.typeName && s.spelling == t.spelling
    | _, _ => false

def distinct (items : List Sample) : List Sample :=
  items.foldl (fun kept s => if kept.any (same s) then kept else kept ++ [s]) []
def settled (entries : List (Sample × Sample)) : List (Sample × Sample) := entries.foldl (fun kept (k,v) =>
  if kept.any (same k ·.1) then kept.map fun (k',v') => if same k k' then (k',v) else (k',v')
  else kept ++ [(k,v)]) []
end Sample

def numberText (x : Float) : String := Decimal.Style.pointed.text (if x == 0 then 0 else Decimal.significant 6 x)

def elementTag : Element → String
  | .object => "|O"
  | .str => "<U"
  | .bytes => "|S"
  | e => (if e.width == 1 then "|" else "<") ++ s!"{e.name.front}{e.width}"
def arrayEnds : Nat := 2000
def endsOf {α : Type} (items : List α) : List α :=
  if items.length ≤ 2 * arrayEnds then items else items.take arrayEnds ++ items.drop (items.length - arrayEnds)
def arrayBytes (g : Grid) : ByteArray :=
  let shape := if g.shape.isEmpty then [1] else g.shape
  let header := ("A" ++ Grid.shapeText shape ++ elementTag g.element).toUTF8
  if g.element.isFloating then header ++ ("".intercalate ((endsOf g.floats).map numberText)).toUTF8
  else header ++ Digest.ofBytes ⟨g.toBytes.toArray⟩
def depthLimit : Nat := 8
def lengthLimit : Nat := 2000
def deepMark : String := "<deep>"
def keyOrder (a b : Sample) : Bool :=
  if a.typeName == b.typeName then a.spelling ≤ b.spelling else a.typeName ≤ b.typeName

def canonical (fuel : Nat) (s : Sample) : ByteArray := match fuel, s with
  | _, .nothing | _, .argument _ => "None".toUTF8
  | _, .truth b => (if b then "True" else "False").toUTF8
  | _, .whole n => (toString n).toUTF8
  | _, .callNumber => "0".toUTF8
  | _, .real x => (numberText x).toUTF8
  | _, .complex re im => ("c" ++ numberText re ++ numberText im).toUTF8
  | _, .text t => "s".toUTF8 ++ t.toUTF8
  | _, .raw _ bs => "s".toUTF8 ++ ⟨bs.toArray⟩
  | _, .array g => arrayBytes g
  | _, .spelled _ t => t.toUTF8
  | _, .object scope c => ("<" ++ scope ++ "." ++ c ++ ">").toUTF8
  | 0, _ => deepMark.toUTF8
  | fuel + 1, .sequence _ items =>
    (items.take lengthLimit).foldl (fun acc s => acc ++ canonical fuel s) s!"L{items.length}".toUTF8
  | fuel + 1, .members _ items =>
    let prints := (items.map fun s => Digest.text (canonical fuel s)).mergeSort fun a b => decide (a ≤ b)
    s!"S{items.length}".toUTF8 ++ ("".intercalate prints).toUTF8
  | fuel + 1, .table entries =>
    let ordered := entries.mergeSort fun a b => keyOrder a.1 b.1
    ordered.foldl (fun acc (k,v) => acc ++ canonical fuel k ++ canonical fuel v) s!"D{entries.length}".toUTF8
  | fuel + 1, .pair a b => "D2sa".toUTF8 ++ canonical fuel a ++ "sb".toUTF8 ++ canonical fuel b

def Sample.fingerprint (s : Sample) : String := Digest.text (canonical depthLimit s)

/-! # Reports on probed functions

Two calls without arguments show whether a function gives the same value again, one for each set of arguments whether
they matter. In a control run the modules of the repository are replaced by stand-ins: a value that does not change then
owes nothing to the repository.
-/

inductive Access where
  | byName | byFile | byLoader | byRunning
deriving DecidableEq

inductive Use where
  | whole | nothing | truth | length | items
deriving DecidableEq

inductive Action where
  | give (value : Sample)
  | fail (cause : String)
  | load (name : String) (access : Access) (use : Use)

structure Function where
  name : String
  action : Action
  settings : List Sample.Arguments := []

structure Place where
  control : Bool := false
  packages : Strings := []
  files : Strings := []

namespace Place
def isFile (p : Place) (path : String) : Bool := p.files.contains path
def isOwn (name : String) : Bool := name.startsWith "_pti"
def foreignFolders : Strings := ["vendor","third_party","node_modules","site-packages"]
def replacesName (p : Place) (name : String) : Bool :=
  p.control && (p.packages.contains name || (p.isFile (name ++ ".py") && !isOwn name))
def replacesPath (p : Place) (name : String) : Bool :=
  let parts := Text.split "/" name
  p.control && !isOwn (parts.getLastD "") && !parts.dropLast.any foreignFolders.contains
end Place

def libraryNames : Strings :=
  [ "abc","argparse","array","ast","asyncio","base64","bisect","calendar","cmath","codecs",
    "collections","colorsys","contextlib","copy","csv","datetime","decimal","difflib","enum",
    "fractions","functools","gc","glob","gzip","hashlib","heapq","html","inspect","io","itertools",
    "json","keyword","logging","math","numbers","operator","os","pathlib","pickle","platform",
    "pprint","queue","random","re","shutil","signal","socket","stat","statistics","string","struct",
    "subprocess","sys","tempfile","textwrap","threading","time","timeit","token","traceback","types",
    "typing","unicodedata","unittest","urllib","uuid","warnings","weakref","xml","zipfile","zlib" ]

def standIn : Sample := .object "__main__" "_Poison"
def Use.ofStandIn : Use → Sample
  | .whole => standIn
  | .nothing => .whole 5
  | .truth => .truth true
  | .length => .whole 0
  | .items => .sequence false []

variable (f : Function) (p : Place)
def load (name : String) (access : Access) (use : Use) : Except String Sample :=
  let there := p.isFile (name ++ ".py")
  match access with
  | .byName =>
    if p.replacesName name then .ok use.ofStandIn
    else if there || libraryNames.contains name then .error "AttributeError"
    else .error "ModuleNotFoundError"
  | access =>
    if p.replacesPath name then .ok use.ofStandIn
    else if there || access == .byLoader then .error "AttributeError"
    else .error "FileNotFoundError"

variable (args : Sample.Arguments)
def Function.call (count : Nat) : Except String Sample := match f.action with
  | .give value => .ok (value.filled args count)
  | .fail cause => .error cause
  | .load name access use => load p name access use
def settingLabel : String := if args.isEmpty then "-" else ",".intercalate (args.map fun (k,v) => k ++ "=" ++ v.shown)

structure Entry where
  typeName : String
  stable : Strings := []
  bySetting : Named String := []
  arguments : Strings := []
  timed : Strings := []

def setEntry (entries : Named String) (label print : String) : Named String :=
  entries.filter (·.1 != label) ++ [(label,print)]
def plainLabel : String := "<default>"

def Function.examine : Except String Entry := do
  let first ← f.call p [] 1
  if p.control then return { typeName := first.typeName, stable := [first.fingerprint] }
  let second ← f.call p [] 2
  let bySetting ← f.settings.zipIdx.foldlM (fun found (args,i) => do
    return setEntry found (settingLabel args) (← f.call p args (i + 3)).fingerprint) []
  return {
    typeName := first.typeName
    stable := [first.fingerprint,second.fingerprint]
    bySetting
    arguments := f.settings.flatMap fun args => args.map (·.2.fingerprint)
    timed := (plainLabel :: bySetting.map (·.1)).mergeSort fun a b => decide (a ≤ b) }

def Function.entry : Entry := match f.examine p with
  | .ok e => e
  | .error cause => { typeName := "<" ++ cause ++ ">" }
def marker : String := "bench_"

inductive Report where
  | noModule
  | entries (found : List (String × Entry))

def report (functions : Option (List Function)) (p : Place) : Report :=
  functions.elim .noModule fun fs => .entries ((fs.filter (·.name.startsWith marker)).map fun f => (f.name,f.entry p))
def Entry.json (e : Entry) : Json :=
  let texts ts := .arr (ts.map .str)
  .obj [("ret_type",e.typeName),("fp_stable",texts e.stable),
    ("fp_by_param",.obj (e.bySetting.map fun (k,v) => (k,v))),("param_fps",texts e.arguments),
    ("repo_tt_ms",texts e.timed),("repo_frac",texts e.timed),("ext_frac",texts e.timed)]
def Report.json : Report → Json
  | .noModule => .obj [("_import_error","ModuleNotFoundError: import of microbench halted; None in sys.modules")]
  | .entries found => .obj [("semcheck",.obj (found.map fun (n,e) => (n,e.json)))]
def Report.exit? : Report → Option Int
  | .noModule => some 0
  | .entries _ => none
end TensorKit.Probe
