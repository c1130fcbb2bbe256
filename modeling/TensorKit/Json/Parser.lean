import TensorKit.Json.Basic

/-! # Reading JSON

Each value takes at least one character, so the number of characters bounds the depth of the recursion.
-/
namespace TensorKit.Json
open Decimal (readDigits readExponent decimalToFloat)
abbrev Input := List Char
def skipBlank : Input → Input
  | c :: cs => if c == ' ' || c == '\n' || c == '\t' || c == '\r' then skipBlank cs else c :: cs
  | [] => []
def hex4 (a b c d : Char) : Option Nat := [a,b,c,d].foldlM (fun n c => return n * 16 + (← hexDigit? c)) 0

def readString (acc : String) : Input → Option (String × Input)
  | [] => none
  | '"' :: cs => some (acc,cs)
  | '\\' :: 'u' :: a :: b :: c :: d :: '\\' :: 'u' :: a2 :: b2 :: c2 :: d2 :: cs =>
    match hex4 a b c d, hex4 a2 b2 c2 d2 with
    | some hi, some lo =>
      if 0xD800 ≤ hi && hi < 0xDC00 && 0xDC00 ≤ lo && lo < 0xE000 then
        readString (acc.push (Char.ofNat ((hi - 0xD800) * 1024 + (lo - 0xDC00) + 0x10000))) cs
      else readString (acc.push (Char.ofNat hi)) ('\\' :: 'u' :: a2 :: b2 :: c2 :: d2 :: cs)
    | some hi, none => readString (acc.push (Char.ofNat hi)) ('\\' :: 'u' :: a2 :: b2 :: c2 :: d2 :: cs)
    | none, _ => none
  | '\\' :: 'u' :: a :: b :: c :: d :: cs =>
    (hex4 a b c d).elim none fun n => readString (acc.push (Char.ofNat n)) cs
  | '\\' :: c :: cs =>
    match c with
    | 'n' => readString (acc.push '\n') cs
    | 't' => readString (acc.push '\t') cs
    | 'r' => readString (acc.push '\r') cs
    | 'b' => readString (acc.push (Char.ofNat 8)) cs
    | 'f' => readString (acc.push (Char.ofNat 12)) cs
    | c => readString (acc.push c) cs
  | c :: cs => readString (acc.push c) cs

def readNumber (cs : Input) : Option (Json × Input) := do
  let (neg,cs) := match cs with
    | '-' :: cs => (true,cs)
    | cs => (false,cs)
  let (m,n,cs) := readDigits 0 0 cs
  if n == 0 then none
  let (whole,m,places,cs) ← (match cs with
    | '.' :: rest =>
      let (m,k,rest) := readDigits m 0 rest
      if k == 0 then none else some (false,m,k,rest)
    | cs => some (true,m,0,cs))
  let (whole,e,cs) ← (match cs with
    | c :: rest =>
      if c == 'e' || c == 'E' then (readExponent rest).map fun (e,rest) => (false,e,rest)
      else some (whole,0,c :: rest)
    | [] => some (whole,0,[]))
  if whole then
    let v := if neg then -(m : Int) else m
    return (if neg && m == 0 then .num (-0.0) else .int v,cs)
  else
    return (.num (decimalToFloat neg m (e - (places : Int))),cs)

def readWord (word : Input) (value : Json) (cs : Input) : Option (Json × Input) :=
  if word.isPrefixOf cs then some (value,cs.drop word.length) else none

mutual
def readValue : Nat → Input → Option (Json × Input)
  | 0, _ => none
  | fuel + 1, cs =>
    match skipBlank cs with
    | '"' :: cs => (readString "" cs).map fun (s,rest) => (s,rest)
    | '[' :: cs =>
      match skipBlank cs with
      | ']' :: cs => some (.arr [],cs)
      | cs => (readElems fuel cs).map fun (xs,rest) => (.arr xs,rest)
    | '{' :: cs =>
      match skipBlank cs with
      | '}' :: cs => some (.obj [],cs)
      | cs => (readMembers fuel cs).map fun (fs,rest) => (.obj fs,rest)
    | 't' :: cs => readWord ['r','u','e'] true cs
    | 'f' :: cs => readWord ['a','l','s','e'] false cs
    | 'n' :: cs => readWord ['u','l','l'] .null cs
    | 'N' :: cs => readWord ['a','N'] (.num (0.0 / 0.0)) cs
    | 'I' :: cs => readWord "nfinity".toList (.num (1.0 / 0.0)) cs
    | '-' :: 'I' :: cs => readWord "nfinity".toList (.num (-1.0 / 0.0)) cs
    | cs => readNumber cs

def readElems : Nat → Input → Option (List Json × Input)
  | 0, _ => none
  | fuel + 1, cs => do
    let (x,cs) ← readValue fuel cs
    match skipBlank cs with
    | ',' :: cs =>
      let (xs,cs) ← readElems fuel cs
      return (x :: xs,cs)
    | ']' :: cs => return ([x],cs)
    | _ => none

def readMembers : Nat → Input → Option (Named Json × Input)
  | 0, _ => none
  | fuel + 1, cs => do
    let '"' :: cs := skipBlank cs | none
    let (k,cs) ← readString "" cs
    let ':' :: cs := skipBlank cs | none
    let (v,cs) ← readValue fuel cs
    match skipBlank cs with
    | ',' :: cs =>
      let (fs,cs) ← readMembers fuel cs
      return ((k,v) :: fs,cs)
    | '}' :: cs => return ([(k,v)],cs)
    | _ => none
end

def parse (s : String) : Option Json :=
  let cs := s.toList
  match readValue (cs.length + 1) cs with
  | some (j,rest) => if (skipBlank rest).isEmpty then some j else none
  | none => none
end TensorKit.Json
