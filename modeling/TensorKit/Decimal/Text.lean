import TensorKit.Text.Encoding

/-! # Decimal digits of a binary number

A finite double is `m · 2 ^ q`. `shortest` gives the fewest decimal digits that read back as the same double, and
among those the ones nearest to it; `fixed` rounds the exact value to a number of places.
-/
namespace TensorKit.Decimal
/-- A finite number `(-1) ^ neg · m · 2 ^ q` in its storage form. -/
structure Binary where
  neg : Bool
  m : Nat
  q : Int

variable (x : Float) (m : Nat) (cs : Chars) (num den : Nat) (style : Style) (neg : Bool)
def Binary.ofFloat : Binary :=
  let bits := x.toBits.toNat
  let neg := bits / .pow 2 63 == 1
  let e := bits / .pow 2 52 % .pow 2 11
  let f := bits % .pow 2 52
  if e == 0 then ⟨neg,f,-1074⟩ else ⟨neg,f + .pow 2 52,e - 1075⟩
def scaled (num : Nat) (q p : Int) : Nat × Nat :=
  (num * .pow 2 q.toNat * .pow 10 p.toNat,.pow 2 (-q).toNat * .pow 10 (-p).toNat)
def exponent10 (q : Int) : Int :=
  let guess : Int := ((Nat.log2 m) + q) * 30103 / 100000
  let atLeast e : Bool := let (a,b) := scaled m q (-e); b ≤ a
  if atLeast (guess + 1) then guess + 2 else if atLeast guess then guess + 1 else guess

/-- Digits as one number of `count` digits; the value is `digits · 10 ^ (point - count)`. -/
structure Digits where
  (digits count : Nat)
  point : Int

def onGrid (q e : Int) (n : Nat) : Option Nat :=
  let p := n - e
  let (v,den) := scaled (4 * m) (q - 2) p
  let (low,_) := scaled (4 * m - (if m == .pow 2 52 && q > -1074 then 1 else 2)) (q - 2) p
  let (high,_) := scaled (4 * m + 2) (q - 2) p
  let d := v / den
  let closed := m % 2 == 0
  let inside k :=
    let w := k * den
    if closed then low ≤ w && w ≤ high else low < w && w < high
  let below := inside d
  let above := inside (d + 1)
  if below && above then
    let down := v - d * den
    let up := (d + 1) * den - v
    some (if down < up then d else if up < down then d + 1 else if d % 2 == 0 then d else d + 1)
  else if below then some d
  else if above then some (d + 1)
  else none

def leastCount (m : Nat) (q e : Int) (lo : Nat) : Nat → Nat
  | 0 => lo
  | span + 1 =>
    let mid := (span + 1) / 2
    if (onGrid m q e (lo + mid)).isSome then leastCount m q e lo mid
    else leastCount m q e (lo + mid + 1) (span - mid)
termination_by span => span

def stripZeros (d n : Nat) : Nat → Nat × Nat
  | 0 => (d,n)
  | fuel + 1 => if n > 1 && d % 10 == 0 then stripZeros (d / 10) (n - 1) fuel else (d,n)

def shortest (q : Int) : Digits :=
  let e := exponent10 m q
  let n := leastCount m q e 1 16
  let d := (onGrid m q e n).getD 0
  if d ≥ .pow 10 n then ⟨1,1,e + 1⟩
  else
    let (d,n) := stripZeros d n 20
    ⟨d,n,e⟩

def roundHalfUp : Nat := (2 * num + den) / (2 * den)
def roundHalfEven : Nat :=
  let d := num / den
  let twice := 2 * (num % den)
  if twice < den then d else if den < twice then d + 1 else if d % 2 == 0 then d else d + 1

def significant (digits : Nat) (x : Float) : Float :=
  let b := Binary.ofFloat x
  if x.isNaN || x.isInf || b.m == 0 then x
  else
    let places := digits - exponent10 b.m b.q
    let (num,den) := scaled b.m b.q places
    let n := roundHalfEven num den
    let y := if 0 ≤ places then .ofScientific n true places.toNat
      else .ofScientific n false (-places).toNat
    if b.neg then -y else y

/-! # Reading numbers -/

def readDigits (value count : Nat) : Chars → Nat × Nat × Chars
  | c :: cs =>
    if c.isDigit then readDigits (value * 10 + (c.toNat - 48)) (count + 1) cs
    else (value,count,c :: cs)
  | [] => (value,count,[])
def readExponent : Option (Int × Chars) :=
  let (neg,cs) := Text.readSign cs
  let (v,n,rest) := readDigits 0 0 cs
  if n == 0 then none else some (if neg then -v else v,rest)
def decimalToFloat (m : Nat) (e : Int) : Float :=
  let x := if e < 0 then .ofScientific m true (-e).toNat else .ofScientific m false e.toNat
  if neg then -x else x
def isSpace (c : Char) : Bool := Text.isSpacing c.toNat || c.toNat == 0xfeff
def trimSpace : Chars := Text.trimBy isSpace cs

def readUnsigned (cs : Chars) : Option (Float × Chars) :=
  let (m,n,cs) := readDigits 0 0 cs
  let (m,places,n,cs) := match cs with
    | '.' :: rest =>
      let (m,k,rest) := readDigits m 0 rest
      (m,k,n + k,rest)
    | cs => (m,0,n,cs)
  if n == 0 then none
  else
    let plain := (decimalToFloat neg m (-places),cs)
    match cs with
    | c :: rest =>
      if c == 'e' || c == 'E' then
        match readExponent rest with
        | some (e,rest) => some (decimalToFloat neg m (e - places),rest)
        | none => some plain
      else some plain
    | [] => some plain

def readBase (base : Nat) (cs : Chars) : Option Float :=
  if cs.isEmpty then none
  else (cs.foldlM (fun acc c => do
    let d ← hexDigit? c
    if d < base then some (acc * base + d) else none) 0).map .ofNat

def readNumber (s : String) : Option Float := match trimSpace s.toList with
  | [] => some 0
  | '0' :: 'x' :: cs | '0' :: 'X' :: cs => readBase 16 cs
  | '0' :: 'b' :: cs | '0' :: 'B' :: cs => readBase 2 cs
  | '0' :: 'o' :: cs | '0' :: 'O' :: cs => readBase 8 cs
  | cs =>
    let (neg,body) := Text.readSign cs
    if .ofList body == "Infinity" then some (if neg then -1.0 / 0.0 else 1.0 / 0.0)
    else match readUnsigned neg body with
      | some (x,[]) => some x
      | _ => none

/-! # Text of numbers

A `Style` holds the decisions of a spelling.
-/

structure Style where
  (least most : Int)
  keepPoint : Bool
  exponentWidth : Nat
  (nan infinity negativeZero zero : String)

def Style.plain : Style := ⟨-5,21,false,1,"NaN","Infinity","0","0"⟩
def Style.pointed : Style := ⟨-3,16,true,2,"nan","inf","-0.0","0.0"⟩
def padLeft (width : Nat) (fill : Char) (s : String) : String := .ofList (.replicate (width - s.length) fill) ++ s
def zeros (n : Nat) : String := .ofList (.replicate n '0')

def Style.render (d : Digits) : String :=
  let ds := toString d.digits
  let ds := if ds.length < d.count then zeros (d.count - ds.length) ++ ds else ds
  let n := d.point
  let k : Int := ds.length
  if style.least ≤ n && n ≤ style.most then
    if k ≤ n then ds ++ zeros (n - k).toNat ++ (if style.keepPoint then ".0" else "")
    else if 0 < n then
      let cs := ds.toList
      .ofList (cs.take n.toNat) ++ "." ++ .ofList (cs.drop n.toNat)
    else "0." ++ zeros (-n).toNat ++ ds
  else
    let e := n - 1
    let head := .ofList (ds.toList.take 1)
    let tail := String.ofList (ds.toList.drop 1)
    let sign := if e < 0 then "-" else "+"
    let mantissa := if tail.isEmpty then head else head ++ "." ++ tail
    mantissa ++ "e" ++ sign ++ padLeft style.exponentWidth '0' (toString e.natAbs)

def Style.text (x : Float) : String :=
  if x.isNaN then style.nan
  else if x.isInf then (if x < 0 then "-" else "") ++ style.infinity
  else
    let b := Binary.ofFloat x
    if b.m == 0 then if b.neg then style.negativeZero else style.zero
    else (if b.neg then "-" else "") ++ style.render (shortest b.m b.q)
def text : String := Style.plain.text x

def fixed (places : Nat) : String :=
  if x.isNaN then "NaN"
  else if x.isInf then if x < 0 then "-Infinity" else "Infinity"
  else
    let b := Binary.ofFloat x
    let (num,den) := scaled b.m b.q places
    let r := roundHalfUp num den
    let sign := if b.neg && r != 0 then "-" else if b.neg && b.m != 0 then "-" else ""
    let ds := toString r
    let ds := if ds.length ≤ places then zeros (places + 1 - ds.length) ++ ds else ds
    let cs := ds.toList
    let whole := .ofList (cs.take (cs.length - places))
    if places == 0 then sign ++ whole
    else sign ++ whole ++ "." ++ .ofList (cs.drop (cs.length - places))
end TensorKit.Decimal
