import TensorKit.Text.Encoding

/-! # Messages in bytes

A field has a number, a kind and a value. Bytes are a message if they can be read as such fields, and known texts and
messages within them are what they should be.
-/
namespace TensorKit.Flow.Wire
def varint? : Nat → Bytes → Option (Nat × Bytes)
  | 0, _ => none
  | _, [] => none
  | more + 1, b :: rest =>
    if b.toNat < 128 then some (b.toNat,rest)
    else (varint? more rest).map fun (n,rest) => (b.toNat - 128 + 128 * n,rest)

/-- What is known of the fields of a kind of message. -/
inductive Shape where
  | text
  | message (fields : List (Nat × Shape))

def cut? (n : Nat) (bs : Bytes) : Option (Bytes × Bytes) :=
  if n ≤ bs.length then some (bs.take n,bs.drop n) else none

def fields? : Nat → List (Nat × Shape) → Option Nat → Bytes → Option Bytes
  | 0, _, _, _ => none
  | fuel + 1, known, group, bs =>
    if bs.isEmpty then if group.isNone then some [] else none
    else do
      let (tag,rest) ← varint? 5 bs
      let number := tag / 8
      if number == 0 then none
      else match tag % 8 with
      | 0 => do
        let (_,rest) ← varint? 10 rest
        fields? fuel known group rest
      | 1 => do
        let (_,rest) ← cut? 8 rest
        fields? fuel known group rest
      | 2 => do
        let (n,rest) ← varint? 5 rest
        let (inner,rest) ← cut? n rest
        match known.lookup number with
        | some .text => if (Text.exactUtf8? inner).isNone then none else fields? fuel known group rest
        | some (.message fs) => do
          let _ ← fields? fuel fs none inner
          fields? fuel known group rest
        | none => fields? fuel known group rest
      | 3 => do
        let rest ← fields? fuel [] (some number) rest
        fields? fuel known group rest
      | 4 => if group == some number then some rest else none
      | 5 => do
        let (_,rest) ← cut? 4 rest
        fields? fuel known group rest
      | _ => none

/-- What is known of a graph: its nodes, with their names, operations, inputs, devices and attributes. -/
def graphShape : List (Nat × Shape) :=
  [(1,.message [(1,.text),(2,.text),(3,.text),(4,.text),(5,.message [(1,.text),(2,.message [])]),
    (6,.message [])]),(2,.message []),(4,.message [])]
def isGraph (bs : Bytes) : Bool := (fields? (bs.length + 1) graphShape none bs).isSome
end TensorKit.Flow.Wire
