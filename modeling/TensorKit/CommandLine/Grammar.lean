import TensorKit.Json.Basic
import TensorKit.Fault
import TensorKit.Text.Encoding

/-! # Command lines

A command line has flags and places, which are filled in order. A long flag may be cut short as long as one spelling
begins with what is left. After two dashes everything is an argument.
-/
namespace TensorKit.CommandLine
inductive Kind where
  | switch | help | text | number | truth
deriving DecidableEq

structure Flag where
  spellings : Strings
  field : String
  kind : Kind
  choices : List Json := []
  default : Json := .null
  required : Bool := false

/-- A flag that is spelled as its field. -/
def Flag.named (field : String) (kind : Kind) : Flag := { spellings := ["--" ++ field], field, kind }

structure Place where
  field : String
  required : Bool

structure Grammar where
  flags : List Flag
  places : List Place

def helpFlag : Flag := { spellings := ["-h","--help"], field := "help", kind := .help }
variable (g : Grammar)
def Grammar.all : List Flag := helpFlag :: g.flags
def misuse : Refusal := .because .exit "2"

inductive Word where
  | flag (f : Flag) (spelling : String) (value : Option String) (afterEquals : Bool := false)
  | unknown (word : String)
  | argument (word : String)
  | divider

def Grammar.spelled : Named Flag := g.all.flatMap fun f => f.spellings.map fun s => (s,f)
def atEquals (word : String) : Option (String × String) := match word.splitOn "=" with
  | name :: v :: vs => some (name,"=".intercalate (v :: vs))
  | _ => none

def Grammar.candidates (word : String) : List (Flag × String × Option String) :=
  if word.startsWith "--" then
    let (start,value) := (atEquals word).elim (word,none) fun (name,v) => (name,some v)
    g.spelled.filterMap fun (s,f) => if s.startsWith start then some (f,s,value) else none
  else
    let short := .ofList (word.toList.take 2)
    let joined := .ofList (word.toList.drop 2)
    g.spelled.filterMap fun (s,f) =>
      if s == short then some (f,s,some joined) else if s.startsWith word then some (f,s,none) else none

def isNegative (word : String) : Bool := match word.toList with
  | '-' :: rest =>
    let digits cs := cs.all Text.isDecimalDigit
    match (String.ofList rest).splitOn "." with
    | [whole] => !whole.isEmpty && digits whole.toList
    | [whole,part] => !part.isEmpty && digits whole.toList && digits part.toList
    | _ => false
  | _ => false

def Grammar.word (word : String) : Checked Word :=
  if !word.startsWith "-" || word == "-" then .ok (.argument word)
  else match g.spelled.lookup word with
  | some f => .ok (.flag f word none)
  | none =>
    let whole := (atEquals word).bind fun (name,v) => (g.spelled.lookup name).map fun f => (f,name,v)
    match whole with
    | some (f,name,v) => .ok (.flag f name (some v) true)
    | none =>
      match g.candidates word with
      | _ :: _ :: _ => .error misuse
      | [(f,s,v)] => .ok (.flag f s v)
      | [] => if isNegative word || word.contains ' ' then .ok (.argument word) else .ok (.unknown word)

def Grammar.words (g : Grammar) : Strings → Checked (List Word)
  | [] => .ok []
  | "--" :: rest => .ok (.divider :: rest.map .argument)
  | w :: rest => return (← g.word w) :: (← g.words rest)

structure Reading where
  fields : Named Json
  places : List Place
  extras : Strings := []
  seen : Strings := []

variable (r : Reading) (f : Flag)
def Reading.put (field : String) (v : Json) : Reading :=
  { r with fields := r.fields.map fun (k,old) => if k == field then (k,v) else (k,old), seen := field :: r.seen }
def isChoice (v : Json) (choices : List Json) : Bool :=
  choices.any fun c => match c, v with
    | .int a, .int b => a == b
    | .str a, .str b => a == b
    | _, _ => false

def Flag.value (text : String) : Checked Json := do
  if text == "--" then throw (.plain .badValue)
  let v : Json ← match f.kind with
    | .number => do pure ((← (Text.whole? text).getDM (throw misuse)) : Int)
    | .truth => pure (!text.isEmpty)
    | _ => pure text
  if !f.choices.isEmpty && !isChoice v f.choices then throw misuse
  return v

def wordText : Word → String
  | .flag _ s _ _ => s
  | .unknown w => w
  | .argument w => w
  | .divider => "--"
def isFlag (x : Word) : Bool := x matches .flag .. | .unknown _
def Reading.turnOn : Checked Reading :=
  if f.kind == .help then .error (.because .exit "0") else .ok (r.put f.field true)
def Flag.isBare : Bool := f.kind == .switch || f.kind == .help

/-- Flags joined behind one dash, with the value of the last one, and the letters from the first that is no
flag. -/
def Grammar.joined (g : Grammar) (f : Flag) : Chars → Checked (List (Flag × Option String) × Strings)
  | [] => .ok ([(f,none)],[])
  | c :: rest =>
    if f.isBare then
      if c == '=' || c == '-' then .error misuse
      else match g.spelled.lookup (.ofList ['-',c]) with
      | some next => do
        let (flags,extras) ← g.joined next rest
        return ((f,none) :: flags,extras)
      | none => .ok ([(f,none)],[.ofList ('-' :: c :: rest)])
    else .ok ([(f,some (.ofList (if c == '=' then rest else c :: rest)))],[])

def Reading.take : Flag × Option String → Checked Reading
  | (f,some v) => return r.put f.field (← f.value v)
  | (f,none) => r.turnOn f

def fill : List Place → List Word → Option (List (Place × Strings) × List Word)
  | [], ws => some ([],ws)
  | p :: ps, ws =>
    let dividers (ws : List Word) := ws.span (· matches .divider)
    let (before,ws) := dividers ws
    match ws with
    | .argument a :: ws =>
      let (after,ws) := dividers ws
      (fill ps ws).map fun (filled,ws) => ((p,before.map wordText ++ [a] ++ after.map wordText) :: filled,ws)
    | ws =>
      if p.required then none
      else (fill ps ws).map fun (filled,ws) => ((p,before.map wordText) :: filled,ws)

def fillSome (places : List Place) : Nat → List Word → List (Place × Strings) × List Word
  | 0, ws => ([],ws)
  | n + 1, ws => (fill (places.take (n + 1)) ws).getD (fillSome places n ws)
def Reading.fillPlaces (ws : List Word) : Reading × List Word :=
  let (filled,rest) := fillSome r.places r.places.length ws
  let r' := filled.foldl (fun r (p,texts) =>
    match texts.erase "--" with
    | t :: _ => r.put p.field t
    | [] => r) r
  ({ r' with places := r.places.drop filled.length },rest)

def Grammar.read (g : Grammar) : Nat → List Word → Reading → Checked Reading
  | 0, _, r => .ok r
  | fuel + 1, ws, r =>
    if !ws.any isFlag then
      let (r,rest) := r.fillPlaces ws
      .ok { r with extras := r.extras ++ rest.map wordText }
    else match ws with
    | [] => .ok r
    | .flag f s (some v) afterEquals :: rest => do
      if f.isBare then
        if s.startsWith "--" || v.isEmpty || afterEquals then throw misuse
        let (flags,extras) ← g.joined f v.toList
        g.read fuel rest (← flags.foldlM Reading.take { r with extras := r.extras ++ extras })
      else g.read fuel rest (r.put f.field (← f.value v))
    | .flag f _ none _ :: rest => do
      if f.isBare then g.read fuel rest (← r.turnOn f)
      else match rest with
      | .argument a :: rest => g.read fuel rest (r.put f.field (← f.value a))
      | _ => throw misuse
    | .unknown w :: rest => g.read fuel rest { r with extras := r.extras ++ [w] }
    | ws =>
      let (r',rest) := r.fillPlaces ws
      if rest.length < ws.length then g.read fuel rest r'
      else
        let (args,rest) := ws.span fun w => !isFlag w
        g.read fuel rest { r' with extras := r'.extras ++ args.map wordText }

variable (args : Strings)
def Grammar.parseKnown : Checked (Named Json × Strings) := do
  let words ← g.words args
  let fields := g.places.map (fun p => (p.field,Json.null)) ++ g.flags.map fun f =>
    (f.field,if f.kind == .switch then .bool false else f.default)
  let r ← g.read (words.length + 1) words { fields, places := g.places }
  let missing := g.places.any (fun p => p.required && !r.seen.contains p.field) ||
    g.flags.any fun f => f.required && !r.seen.contains f.field
  if missing then throw misuse
  return (r.fields,r.extras)

def Grammar.parse : Checked (Named Json) := do
  let (fields,extras) ← g.parseKnown args
  if !extras.isEmpty then throw misuse
  return fields
end TensorKit.CommandLine
