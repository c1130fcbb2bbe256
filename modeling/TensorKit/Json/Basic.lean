import TensorKit.Decimal.Text

/-! # JSON values

Whole numbers and fractions are kept apart. Objects keep their members in the order in which they were written.
-/
namespace TensorKit
inductive Json where
  | null
  | bool (b : Bool)
  | int (n : Int)
  | num (x : Float)
  | str (s : String)
  | arr (elems : List Json)
  | obj (fields : List (String × Json))

namespace Json
instance : Inhabited Json := ⟨.null⟩
instance : Coe String Json := ⟨.str⟩
instance : Coe Bool Json := ⟨.bool⟩
instance : Coe Int Json := ⟨.int⟩
instance (n : Nat) : OfNat Json n := ⟨.int n⟩
variable (j : Json) (key : String)
def get? : Option Json := match j with
  | .obj fields => (fields.reverse.find? (·.1 == key)).map (·.2)
  | _ => none
def getD (default : Json) : Json := (j.get? key).getD default
def field : Json := j.getD key .null
instance : CoeFun Json fun _ => String → Json := ⟨field⟩
def elems : Json → List Json
  | .arr xs => xs
  | _ => []
def fields : Json → Named Json
  | .obj fs => fs
  | _ => []
def str? : Json → Option String
  | .str s => some s
  | _ => none
def bool? : Json → Option Bool
  | .bool b => some b
  | _ => none
def float? : Json → Option Float
  | .int n => some (.ofInt n)
  | .num x => some x
  | _ => none
def int? : Json → Option Int
  | .int n => some n
  | _ => none
def strD : String := j.str?.getD ""
def getStr? : Option String := (j.get? key).bind str?
def nodes : Json → Nat
  | .arr xs => (xs.map nodes).foldl (· + ·) 1
  | .obj fs => (fs.map (nodes ·.2)).foldl (· + ·) 1
  | _ => 1
decreasing_by all_goals grind [→ List.sizeOf_lt_of_mem]

end Json
end TensorKit

/-! # Writing JSON -/
namespace TensorKit.Json
def hexDigit (n : Nat) : Char := (Nat.toDigits 16 n).headD '0'
def hex (bs : Bytes) : String := .ofList (bs.flatMap fun b => [hexDigit (b.toNat / 16),hexDigit (b.toNat % 16)])
def escapes : List (Char × String) := [('"',"\\\""),('\\',"\\\\"),('\n',"\\n"),('\r',"\\r"),('\t',"\\t")]
def escapeChar (c : Char) : String := match escapes.lookup c with
  | some s => s
  | none =>
    let n := c.toNat
    if n < 32 || n == 127 then "\\u00" ++ .ofList [hexDigit (n / 16),hexDigit (n % 16)]
    else .singleton c
def quote (s : String) : String := s.foldl (fun acc c => acc ++ escapeChar c) "\"" ++ "\""
def renderFloat (x : Float) : String := if x.isNaN || x.isInf then quote (Decimal.text x) else Decimal.text x

/-- How texts and numbers are written, and what stands between members and after names. -/
structure Form where
  quote : String → String
  number : Float → String
  (comma colon : String)

variable (f : Form)
mutual
def write (acc : String) : Json → String
  | .null => acc ++ "null"
  | .bool b => acc ++ (if b then "true" else "false")
  | .int n => acc ++ toString n
  | .num x => acc ++ f.number x
  | .str s => acc ++ f.quote s
  | .arr [] => acc ++ "[]"
  | .arr (x :: xs) => writeElems (write (acc ++ "[") x) xs ++ "]"
  | .obj [] => acc ++ "\x7b\x7d"
  | .obj ((k,v) :: fs) => writeFields (write (acc ++ "\x7b" ++ f.quote k ++ f.colon) v) fs ++ "\x7d"

def writeElems (acc : String) : List Json → String
  | [] => acc
  | x :: xs => writeElems (write (acc ++ f.comma) x) xs
def writeFields (acc : String) : Named Json → String
  | [] => acc
  | (k,v) :: fs => writeFields (write (acc ++ f.comma ++ f.quote k ++ f.colon) v) fs
end

variable (j : Json)
def render : String := write ⟨quote,renderFloat,",",":"⟩ "" j

/-! ## JSON with blanks

Files hold ASCII alone. Fractions keep their point, and what is no number is a bare word.
-/

def unitEscape (n : Nat) : String := "\\u" ++ Decimal.padLeft 4 '0' (.ofList (Nat.toDigits 16 n))

def asciiEscape (c : Char) : String := match escapes.lookup c with
  | some s => s
  | none =>
    let n := c.toNat
    if n == 8 then "\\b"
    else if n == 12 then "\\f"
    else if 32 ≤ n && n ≤ 127 then .singleton c
    else if n < 65536 then unitEscape n
    else unitEscape (55296 + (n - 65536) / 1024) ++ unitEscape (56320 + (n - 65536) % 1024)

def asciiQuote (s : String) : String := s.foldl (fun acc c => acc ++ asciiEscape c) "\"" ++ "\""
def fileNumber : Decimal.Style := { Decimal.Style.pointed with nan := "NaN", infinity := "Infinity" }
def spaced : String := write ⟨asciiQuote,fileNumber.text,", ",": "⟩ "" j
def block (opening closing : String) (margin : Nat) : Strings → String
  | [] => opening ++ closing
  | members =>
    let line n := "\n" ++ .ofList (.replicate n ' ')
    opening ++ line (margin + 2) ++ ("," ++ line (margin + 2)).intercalate members ++ line margin ++ closing

def indentedFrom (margin : Nat) : Json → String
  | .arr xs => block "[" "]" margin (xs.map (indentedFrom (margin + 2)))
  | .obj fs => block "\x7b" "\x7d" margin (fs.map fun f => asciiQuote f.1 ++ ": " ++ indentedFrom (margin + 2) f.2)
  | j => j.spaced
decreasing_by all_goals grind [→ List.sizeOf_lt_of_mem]
def indented : String := indentedFrom 0 j
def fileBytes : Bytes := j.spaced.toUTF8.toList
end TensorKit.Json
