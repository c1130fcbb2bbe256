import TensorKit.Json.Basic

/-! # Digests of bytes

Blocks of 64 bytes. The input is closed by a one bit, filled up with zeros, and ends in its own length in bits.
-/
namespace TensorKit.Digest
open List
structure State where
  (a b c d e f g h : UInt32)

variable (s : State)
namespace State
def start : State := ⟨0x6a09e667,0xbb67ae85,0x3c6ef372,0xa54ff53a,0x510e527f,0x9b05688c,0x1f83d9ab,0x5be0cd19⟩
def words : List UInt32 := [s.a,s.b,s.c,s.d,s.e,s.f,s.g,s.h]
def add (t : State) : State := ⟨s.a + t.a,s.b + t.b,s.c + t.c,s.d + t.d,s.e + t.e,s.f + t.f,s.g + t.g,s.h + t.h⟩
end State

def roundConstants : List UInt32 :=
  [ 0x428a2f98,0x71374491,0xb5c0fbcf,0xe9b5dba5,0x3956c25b,0x59f111f1,0x923f82a4,0xab1c5ed5,
    0xd807aa98,0x12835b01,0x243185be,0x550c7dc3,0x72be5d74,0x80deb1fe,0x9bdc06a7,0xc19bf174,
    0xe49b69c1,0xefbe4786,0x0fc19dc6,0x240ca1cc,0x2de92c6f,0x4a7484aa,0x5cb0a9dc,0x76f988da,
    0x983e5152,0xa831c66d,0xb00327c8,0xbf597fc7,0xc6e00bf3,0xd5a79147,0x06ca6351,0x14292967,
    0x27b70a85,0x2e1b2138,0x4d2c6dfc,0x53380d13,0x650a7354,0x766a0abb,0x81c2c92e,0x92722c85,
    0xa2bfe8a1,0xa81a664b,0xc24b8b70,0xc76c51a3,0xd192e819,0xd6990624,0xf40e3585,0x106aa070,
    0x19a4c116,0x1e376c08,0x2748774c,0x34b0bcb5,0x391c0cb3,0x4ed8aa4a,0x5b9cca4f,0x682e6ff3,
    0x748f82ee,0x78a5636f,0x84c87814,0x8cc70208,0x90befffa,0xa4506ceb,0xbef9a3f7,0xc67178f2 ]

def rotate (x n : UInt32) : UInt32 := (x >>> n) ||| (x <<< (32 - n))
variable (block : Array UInt32)
def schedule : Array UInt32 :=
  (range 48).foldl (fun w i =>
    let near := w.getD (i + 1) 0
    let far := w.getD (i + 14) 0
    w.push (w.getD i 0 + (rotate near 7 ^^^ rotate near 18 ^^^ (near >>> 3)) + w.getD (i + 9) 0 +
      (rotate far 17 ^^^ rotate far 19 ^^^ (far >>> 10)))) block
def stir (constant word : UInt32) : State :=
  let choice := (s.e &&& s.f) ^^^ ((~~~ s.e) &&& s.g)
  let majority := (s.a &&& s.b) ^^^ (s.a &&& s.c) ^^^ (s.b &&& s.c)
  let first := s.h + (rotate s.e 6 ^^^ rotate s.e 11 ^^^ rotate s.e 25) + choice + constant + word
  let second := (rotate s.a 2 ^^^ rotate s.a 13 ^^^ rotate s.a 22) + majority
  ⟨first + second,s.a,s.b,s.c,s.d + first,s.e,s.f,s.g⟩
def absorb : State := s.add ((roundConstants.zip (schedule block).toList).foldl (fun t (k,w) => stir t k w) s)
def highBytes (width n : Nat) : List UInt8 := (range width).map fun i => (n / .pow 256 (width - 1 - i) % 256).toUInt8

variable (data : ByteArray)
def closed : ByteArray :=
  let blanks := (119 - data.size % 64) % 64
  (0x80 :: replicate blanks 0 ++ highBytes 8 (8 * data.size)).foldl .push data
def wordAt (data : Array UInt8) (i : Nat) : UInt32 :=
  (range 4).foldl (fun w k => w * 256 + (data.getD (i + k) 0).toUInt32) 0
def blockAt (data : Array UInt8) (i : Nat) : Array UInt32 :=
  ((range 16).map fun k => wordAt data (64 * i + 4 * k)).toArray
def ofBytes : ByteArray :=
  let whole := (closed data).data
  let s := (range (whole.size / 64)).foldl (fun s i => absorb s (blockAt whole i)) .start
  ⟨(s.words.flatMap (highBytes 4 ·.toNat)).toArray⟩
def text : String := Json.hex (ofBytes data).toList
end TensorKit.Digest
