import TensorKit.Named


/-! # Text in units of sixteen bits

Positions and lengths of text count a character beyond the basic plane twice.
-/
namespace TensorKit.Text

/-! ## Splitting text -/

def consFirst (c : Char) : List Chars → List Chars
  | [] => [[c]]
  | p :: ps => (c :: p) :: ps
def splitFrom (separator : Chars) : (skip : Nat) → Chars → List Chars
  | _, [] => [[]]
  | n + 1, _ :: cs => splitFrom separator n cs
  | 0, c :: cs =>
    if separator.isPrefixOf (c :: cs) then [] :: splitFrom separator (separator.length - 1) cs
    else consFirst c (splitFrom separator 0 cs)
def split (separator text : String) : Strings :=
  if separator.isEmpty then text.toList.map Char.toString
  else (splitFrom separator.toList 0 text.toList).map .ofList
variable (c : Char)
def unitsOf : Nat := if c.toNat ≥ 0x10000 then 2 else 1
variable (s : String)
def units : Nat := s.toList.foldl (fun n c => n + unitsOf c) 0
def padRight (width : Nat) : String := s ++ .ofList (.replicate (width - units s) ' ')
def codeUnits : Nats :=
  if c.toNat ≥ 0x10000 then
    let v := c.toNat - 0x10000
    [0xD800 + v / 0x400,0xDC00 + v % 0x400]
  else [c.toNat]
def orderKey : Nats := s.toList.flatMap codeUnits
def lessKey : Nats → Nats → Bool
  | _, [] => false
  | [], _ :: _ => true
  | a :: as, b :: bs => a < b || (a == b && lessKey as bs)
def less (a b : String) : Bool := lessKey (orderKey a) (orderKey b)

/-! # Whole numbers in text

A sign and digits of any script, with single underscores between digits and blanks around the whole.
-/

/-! ## Decimal digits

Every script has ten of them in a row.
-/

def digitZeros : Nats :=
  [ 0x30,0x660,0x6f0,0x7c0,0x966,0x9e6,0xa66,0xae6,0xb66,0xbe6,0xc66,0xce6,0xd66,0xde6,
    0xe50,0xed0,0xf20,0x1040,0x1090,0x17e0,0x1810,0x1946,0x19d0,0x1a80,0x1a90,0x1b50,
    0x1bb0,0x1c40,0x1c50,0xa620,0xa8d0,0xa900,0xa9d0,0xa9f0,0xaa50,0xabf0,0xff10,0x104a0,
    0x10d30,0x11066,0x110f0,0x11136,0x111d0,0x112f0,0x11450,0x114d0,0x11650,0x116c0,0x11730,
    0x118e0,0x11950,0x11c50,0x11d50,0x11da0,0x16a60,0x16ac0,0x16b50,0x1d7ce,0x1d7d8,0x1d7e2,
    0x1d7ec,0x1d7f6,0x1e140,0x1e2f0,0x1e950,0x1fbf0 ]
def digitValue? : Option Nat := (digitZeros.find? fun z => z ≤ c.toNat && c.toNat < z + 10).map fun z => c.toNat - z
def isDecimalDigit : Bool := (digitValue? c).isSome
/-- Blanks in all conventions. -/
def isSpacing (n : Nat) : Bool :=
  (9 ≤ n && n ≤ 13) || (0x2000 ≤ n && n ≤ 0x200a) || [0x20,0xa0,0x1680,0x2028,0x2029,0x202f,0x205f,0x3000].contains n
def isBlank : Bool := isSpacing c.toNat || (0x1c ≤ c.toNat && c.toNat < 0x20) || c.toNat == 0x85
def trimBy (blank : Char → Bool) (cs : Chars) : Chars := ((cs.dropWhile blank).reverse.dropWhile blank).reverse
def trim : String := .ofList (trimBy isBlank s.toList)
def wholeDigits? (value : Nat) (afterDigit : Bool) : Chars → Option Nat
  | [] => if afterDigit then some value else none
  | '_' :: rest => if afterDigit then wholeDigits? value false rest else none
  | c :: rest => (digitValue? c).bind fun d => wholeDigits? (10 * value + d) true rest
def readSign : Chars → Bool × Chars
  | '-' :: cs => (true,cs)
  | '+' :: cs => (false,cs)
  | cs => (false,cs)
def whole? : Option Int :=
  let (neg,ds) := readSign (trim s).toList
  (wholeDigits? 0 false ds).map fun n => if neg then -n else n
end TensorKit.Text

/-! # Text from bytes

Bytes that are no text become the replacement character, one for each longest part that could have begun a character.
-/

/-! ## Parameters of a query -/
namespace TensorKit
def hexDigit? (c : Char) : Option Nat := "0123456789abcdef".toList.idxOf? c.toLower
def ofHex (s : String) : Bytes :=
  let rec go : Chars → Bytes
    | a :: b :: rest => ((hexDigit? a).getD 0 * 16 + (hexDigit? b).getD 0).toUInt8 :: go rest
    | _ => []
  go s.toList
def wordNumber? : String → Option Float
  | "NaN" => some (0.0 / 0.0)
  | "Infinity" => some (1.0 / 0.0)
  | "-Infinity" => some (-1.0 / 0.0)
  | "-0" => some (-0.0)
  | _ => none

namespace Query
def unescape : Chars → Bytes
  | '%' :: a :: b :: rest =>
    match hexDigit? a, hexDigit? b with
    | some x, some y => (x * 16 + y).toUInt8 :: unescape rest
    | _, _ => '%'.toNat.toUInt8 :: unescape (a :: b :: rest)
  | c :: rest => (String.singleton c).toUTF8.toList ++ unescape rest
  | [] => []
termination_by cs => cs.length

def decode (cs : Chars) : String := (String.fromUTF8? ⟨(unescape cs).toArray⟩).getD (.ofList cs)
def isNameChar (c : Char) : Bool := c != '=' && c != '?' && c != '&'
def readParam (cs : Chars) : Chars × Chars × Chars :=
  let name := cs.takeWhile isNameChar
  match cs.dropWhile isNameChar with
  | '=' :: rest => (name,rest.takeWhile (· != '&'),rest.dropWhile (· != '&'))
  | rest => (name,[],rest)

def paramsWithin : Nat → Chars → List (String × String)
  | 0, _ => []
  | fuel + 1, cs =>
    match cs.dropWhile fun c => c != '?' && c != '&' with
    | [] => []
    | _ :: rest =>
      let (name,value,tail) := readParam rest
      if name.isEmpty then paramsWithin fuel rest
      else (decode name,decode value) :: paramsWithin fuel tail

def params (s : String) : List (String × String) := paramsWithin (s.length + 1) s.toList
end Query
end TensorKit

/-! ## Bytes as text in base 64

Reading stops at the first padding mark, takes both alphabets and skips every other character.
-/
namespace TensorKit.Base64
def letter (n : Nat) : Char :=
  if n < 26 then .ofNat ('A'.toNat + n)
  else if n < 52 then .ofNat ('a'.toNat + (n - 26))
  else if n < 62 then .ofNat ('0'.toNat + (n - 52))
  else if n == 62 then '+' else '/'
def value? (c : Char) : Option Nat :=
  if c.isUpper then some (c.toNat - 'A'.toNat)
  else if c.isLower then some (c.toNat - 'a'.toNat + 26)
  else if c.isDigit then some (c.toNat - '0'.toNat + 52)
  else if c == '+' || c == '-' then some 62
  else if c == '/' || c == '_' then some 63
  else none
def letters (n count : Nat) : Chars := (List.range count).map fun i => letter (n / .pow 64 (3 - i) % 64)
def encodeBytes : Bytes → Chars
  | a :: b :: c :: rest => letters (a.toNat * 65536 + b.toNat * 256 + c.toNat) 4 ++ encodeBytes rest
  | [a,b] => letters (a.toNat * 65536 + b.toNat * 256) 3 ++ ['=']
  | [a] => letters (a.toNat * 65536) 2 ++ ['=','=']
  | [] => []
def encode (data : ByteArray) : String := .ofList (encodeBytes data.toList)

def decodeValues : Nats → Bytes
  | a :: b :: c :: d :: rest =>
    let n := a * 262144 + b * 4096 + c * 64 + d
    (n / 65536).toUInt8 :: (n / 256).toUInt8 :: n.toUInt8 :: decodeValues rest
  | [a,b,c] =>
    let n := a * 262144 + b * 4096 + c * 64
    [(n / 65536).toUInt8,(n / 256).toUInt8]
  | [a,b] => [(a * 4 + b / 16).toUInt8]
  | _ => []

def decode (s : String) : ByteArray := ⟨(decodeValues ((s.toList.takeWhile (· != '=')).filterMap value?)).toArray⟩
end TensorKit.Base64
namespace TensorKit.Text
def replacement : Char := .ofNat 0xFFFD

/-- What the first byte of a longer character asks for: the number of bytes to come, the bounds of the
next one, and the first bits. -/
def leadByte (b : Nat) : Option (Nat × Nat × Nat × Nat) :=
  if 0xC2 ≤ b && b ≤ 0xDF then some (1,0x80,0xBF,b - 0xC0)
  else if b == 0xE0 then some (2,0xA0,0xBF,0)
  else if b == 0xED then some (2,0x80,0x9F,0xD)
  else if 0xE1 ≤ b && b ≤ 0xEF then some (2,0x80,0xBF,b - 0xE0)
  else if b == 0xF0 then some (3,0x90,0xBF,0)
  else if b == 0xF4 then some (3,0x80,0x8F,4)
  else if 0xF1 ≤ b && b ≤ 0xF3 then some (3,0x80,0xBF,b - 0xF0)
  else none

def decodeBytes (need low high bits : Nat) : Bytes → Chars
  | [] => if need == 0 then [] else [replacement]
  | b :: rest =>
    let n := b.toNat
    match need with
    | 0 =>
      if n < 0x80 then .ofNat n :: decodeBytes 0 0 0 0 rest
      else
        match leadByte n with
        | some (k,lo,hi,start) => decodeBytes k lo hi start rest
        | none => replacement :: decodeBytes 0 0 0 0 rest
    | k + 1 =>
      if low ≤ n && n ≤ high then
        let bits := bits * 64 + (n - 0x80)
        if k == 0 then .ofNat bits :: decodeBytes 0 0 0 0 rest
        else decodeBytes k 0x80 0xBF bits rest
      else replacement :: decodeBytes 0 0 0 0 (b :: rest)
termination_by bs => (bs.length,need)

def decodeUtf8 (bs : Bytes) : String :=
  let bs := if bs.take 3 == [0xEF,0xBB,0xBF] then bs.drop 3 else bs
  .ofList (decodeBytes 0 0 0 0 bs)

def decodeUnits : Nats → Chars
  | [] => []
  | u :: rest =>
    if 0xD800 ≤ u && u < 0xDC00 then
      match rest with
      | v :: rest' =>
        if 0xDC00 ≤ v && v < 0xE000 then .ofNat (0x10000 + (u - 0xD800) * 0x400 + (v - 0xDC00)) :: decodeUnits rest'
        else replacement :: decodeUnits (v :: rest')
      | [] => [replacement]
    else if 0xDC00 ≤ u && u < 0xE000 then replacement :: decodeUnits rest
    else .ofNat u :: decodeUnits rest
termination_by us => us.length

def unitsOfBytes (lowFirst : Bool) : Bytes → Nats
  | a :: b :: rest =>
    (if lowFirst then a.toNat + 256 * b.toNat else 256 * a.toNat + b.toNat) :: unitsOfBytes lowFirst rest
  | [_] => [0xFFFD]
  | [] => []
def decodeUtf16 (lowFirst : Bool) (bs : Bytes) : String :=
  let us := unitsOfBytes lowFirst bs
  .ofList (decodeUnits (if us.head? == some 0xFEFF then us.drop 1 else us))
def decodeAs? (encoding : String) (bs : Bytes) : Option String := match encoding.toLower with
  | "utf-8" | "utf8" => some (decodeUtf8 bs)
  | "utf-16" | "utf-16le" => some (decodeUtf16 true bs)
  | "utf-16be" => some (decodeUtf16 false bs)
  | _ => none
def exactUtf8? (bs : Bytes) : Option String := String.fromUTF8? ⟨bs.toArray⟩
end TensorKit.Text
