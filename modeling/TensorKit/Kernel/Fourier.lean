import TensorKit.Tensor.Number

/-! # Fourier transforms

Rows whose length is a power of two are halved again and again, in single precision. Other rows are summed.
-/
namespace TensorKit.Kernel
structure Complex (α : Type) where
  (re im : α)

/-- What a transform computes with: how numbers are stored, and the roots of unity. -/
structure Circle (α : Type) where
  store : α → α
  root : Nat → Nat → Bool → Complex α

namespace Complex
variable {α : Type} [Scalar α] (a b z : Complex α)
def add : Complex α := ⟨a.re + b.re,a.im + b.im⟩
def sub : Complex α := ⟨a.re - b.re,a.im - b.im⟩
def mul : Complex α := ⟨a.re * b.re - a.im * b.im,a.re * b.im + a.im * b.re⟩
def scaleDown (n : Nat) : Complex α := ⟨z.re / Scalar.ofNat n,z.im / Scalar.ofNat n⟩
end Complex

def evenOdd {α : Type} : List α → List α × List α
  | [] => ([],[])
  | [x] => ([x],[])
  | x :: y :: rest =>
    let (es,os) := evenOdd rest
    (x :: es,y :: os)

def Circle.single : Circle Float where
  store := Number.toSingle
  root k n inverse :=
    let x := (if inverse then 2.0 else -2.0) * Number.pi * (.ofNat k / .ofNat n)
    ⟨x.cos,x.sin⟩

variable {α : Type} [Scalar α] (circle : Circle α) (inverse : Bool) (xs : List (Complex α))
def Circle.keep (z : Complex α) : Complex α := ⟨circle.store z.re,circle.store z.im⟩

def fftHalving : Nat → List (Complex α) → List (Complex α)
  | 0, xs => xs
  | depth + 1, xs =>
    let n := xs.length
    if n ≤ 1 then xs
    else
      let (es,os) := evenOdd xs
      let es := fftHalving depth es
      let os := fftHalving depth os
      let turned := os.zipIdx.map fun (o,k) => circle.keep ((circle.keep (circle.root k n inverse)).mul o)
      let pairs := es.zip turned
      pairs.map (fun (e,t) => circle.keep (e.add t)) ++ pairs.map fun (e,t) => circle.keep (e.sub t)

def fourierSum : List (Complex α) :=
  let n := xs.length
  (List.range n).map fun r =>
    let z := xs.zipIdx.foldl
      (fun acc (x,c) => acc.add (x.mul (circle.root (r * c) n inverse))) ⟨Scalar.zero,Scalar.zero⟩
    circle.keep (if inverse then z.scaleDown n else z)
def isPowerOfTwo (n : Nat) : Bool := n == .pow 2 n.log2
def fourier : List (Complex α) :=
  let n := xs.length
  if isPowerOfTwo n then
    let ys := fftHalving circle inverse n.log2 xs
    if inverse then ys.map fun z => circle.keep (z.scaleDown n) else ys
  else fourierSum circle inverse xs
end TensorKit.Kernel
