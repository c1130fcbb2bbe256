import TensorKit.Proofs.Flow.Parts

/-! # Elementwise operations in exact arithmetic

Sums, products, signs and rectifiers of tables. Shapes are aligned at their last axes, and an axis of one number is
stretched. A rectifier with a factor for numbers below zero is a sum of two rectifiers without, whatever the shapes.
-/
namespace TensorKit.Flow
open List
open TensorKit.Convert (nodeName)

/-! ## Stretched tables -/

/-- The common shape of two shapes that are read from the last axis on. -/
def joinDims : Nats → Nats → Option Nats
  | [], t => some t
  | s, [] => some s
  | d :: s, e :: t =>
    if d = e ∨ e = 1 then (joinDims s t).map (d :: ·) else if d = 1 then (joinDims s t).map (e :: ·) else none

theorem joinDims_self (s : Nats) : joinDims s s = some s := by
  induction s with
  | nil => rfl
  | cons d s ih => simp [joinDims,ih]

theorem joinDims_comm (s t : Nats) : joinDims s t = joinDims t s := by
  fun_induction joinDims s t with
  | case1 t => cases t <;> rfl
  | case2 s => cases s <;> rfl
  | case3 d s e t h ih | case4 s e t h ih | case5 d s e t h hd => grind [joinDims]

theorem joinDims_right (h : joinDims s t = some u) : joinDims t u = some u := by
  fun_induction joinDims s t generalizing u with
  | case1 t =>
    cases h
    exact joinDims_self t
  | case2 s hs => rw [joinDims]
  | case3 d s e t hd ih =>
    obtain ⟨v,hv,rfl⟩ := Option.map_eq_some_iff.mp h
    grind [joinDims]
  | case4 s e t hd ih =>
    obtain ⟨v,hv,rfl⟩ := Option.map_eq_some_iff.mp h
    simp [joinDims,ih hv]
  | case5 d s e t hd he => cases h

namespace Table
variable {K : Type}
def map (f : K → K) (t : Table K) : Table K := ⟨t.shape,fun i => f (t.entries i)⟩
@[simp] theorem shape_map (f : K → K) (t : Table K) : (t.map f).shape = t.shape := rfl
variable [Zero K]
/-- The location of a table that is read at a location of a stretched one. -/
def clamp (shape : Shape) (loc : Nats) : Nats :=
  .zipWith (fun d c => if d = 1 then 0 else c) shape (loc.drop (loc.length - shape.length))

def stretched (t : Table K) (loc : Nats) : K := t.get (clamp t.shape loc)

theorem stretched_map (hf : f 0 = 0) (t : Table K) (loc : Nats) : (t.map f).stretched loc = f (t.stretched loc) := by
  have hnumbers : (t.map f).numbers = t.numbers.map f := by simp [numbers,map,Function.comp_def]
  simp only [stretched,get,shape_map,hnumbers,getD_eq_getElem?_getD,getElem?_map]
  cases t.numbers[t.shape.index (clamp t.shape loc)]? <;> simp [hf]

theorem clamp_of_lt {s : Shape} (h : Forall₂ (· < ·) loc s) : clamp s loc = loc := by
  rw [clamp,h.length_eq,Nat.sub_self,drop_zero]
  induction h with
  | nil => rfl
  | @cons c d loc s hlt _ ih =>
    rw [zipWith_cons_cons]
    congr 1
    split
    · omega
    · rfl

theorem stretched_ofCoords {f : Nats → K} (h : i < s.size) :
    (ofCoords s f).stretched (s.coords i) = f (s.coords i) := by
  rw [stretched,shape_ofCoords,clamp_of_lt (Shape.coords_lt h),get_ofCoords h]
def zip (f : K → K → K) (s t : Table K) : Option (Table K) :=
  (joinDims s.shape.reverse t.shape.reverse).map fun u =>
    .ofCoords u.reverse fun loc => f (s.stretched loc) (t.stretched loc)
end Table
section Rectifiers
variable {K : Type} [Field K] [LinearOrder K]
def rectify (x : K) : K := max x 0

/-- A rectifier with a factor for numbers below zero. -/
def prelu (x alpha : K) : K := if 0 ≤ x then x else alpha * x

theorem rectify_add [IsStrictOrderedRing K] (x alpha : K) : rectify x + -alpha * rectify (-x) = prelu x alpha := by
  unfold rectify prelu
  split
  · next h => rw [max_eq_left h,max_eq_right (neg_nonpos.mpr h),mul_zero,add_zero]
  · next h =>
    have h := (not_le.mp h).le
    rw [max_eq_right h,max_eq_left (neg_nonneg.mpr h),zero_add,neg_mul_neg]

/-- Sum, product, signs and rectifiers together make a rectifier with factors. -/
theorem zip_rectify [IsStrictOrderedRing K] (x alpha : Table K) : ((alpha.map Neg.neg).zip (· * ·) ((x.map Neg.neg).map
    rectify)).bind ((x.map rectify).zip (· + ·)) = x.zip prelu alpha := by
  have hrectify : rectify (0 : K) = 0 := max_self 0
  rw [Table.zip,Table.zip,joinDims_comm x.shape.reverse]
  simp only [Table.shape_map]
  cases hjoin : joinDims alpha.shape.reverse x.shape.reverse with
  | none => rfl
  | some u =>
    simp only [Option.map_some,Option.bind_some,Table.zip,Table.shape_map,Table.shape_ofCoords,
      reverse_reverse,joinDims_right hjoin]
    refine congrArg some (Table.ofCoords_congr fun i hi => ?_)
    rw [Table.stretched_ofCoords hi]
    simp only [Table.stretched_map neg_zero,Table.stretched_map hrectify,rectify_add]

/-! ## Their meaning -/

variable (M : Meaning K)
/-- A convolution with an addition; the attributes that say what is done with its result do not say where it reads. -/
def Meaning.biased (attrs : String → AttrOf (Table K) K) (x w b : Table K) : Option (Table K) :=
  let own key := if key = "fused_ops" ∨ key = "num_args" then .unset else attrs key
  (convolve false (layoutOf (attrs "data_format")) (M.geometry own x.shape w.shape) x w).map fun y =>
    biasAdd (layoutOf (attrs "data_format")) y b

/-- A convolution with what is done with its result. -/
def Meaning.fusedConv (name : String) (attrs : String → AttrOf (Table K) K) (ops : Strings) (xs : List (Table K)) :
    Option (Table K) :=
  match ops, xs with
  | ["BiasAdd"], [x,w,b] => M.biased attrs x w b
  | ["BiasAdd","Prelu"], [x,w,b,alpha] => (M.biased attrs x w b).bind (·.zip prelu alpha)
  | _, _ => M.other name "_FusedConv2D" attrs (xs.map some) 0

/-- The meaning in which elementwise operations, also of convolutions, are what they are called. -/
def Meaning.elementwise : Meaning K where
  sqrt := M.sqrt
  geometry := M.geometry
  other name op attrs args port := match op, args.reduceOption with
    | "Add", [x,y] => x.zip (· + ·) y
    | "AddV2", [x,y] => x.zip (· + ·) y
    | "Mul", [x,y] => x.zip (· * ·) y
    | "Neg", [x] => some (x.map Neg.neg)
    | "Relu", [x] => some (x.map rectify)
    | "Identity", [x] => some x
    | "Prelu", [x,alpha] => x.zip prelu alpha
    | "_FusedConv2D", xs => M.fusedConv name attrs (attrs "fused_ops").texts? xs
    | _, _ => M.other name op attrs args port

variable {M} {g : ExactGraph K} {n : ExactNode K} {a b : String} {y : Table K}
theorem evaluates_unary_iff (hg : Distinct g) (hn : n ∈ g) (hinputs : n.inputs = [a]) (ha :
    isControl a = false) (hop : n.op = "Neg" ∧ f = .map Neg.neg ∨ n.op = "Relu" ∧ f = .map rectify ∨ n.op =
    "Identity" ∧ f = id) : Evaluates M.elementwise g n.name 0 y ↔ ∃ v, Gives M.elementwise g a v ∧ f v = y := by
  have hfirst x : M.elementwise.first n [some x] = some (f x) := by
    rcases hop with ⟨hop,rfl⟩ | ⟨hop,rfl⟩ | ⟨hop,rfl⟩ <;>
      simp [Meaning.first,hop,isConv,isDepthwise,isGlobalNorm,Meaning.elementwise]
  simp only [evaluates_one_iff hg hn hinputs ha,hfirst,Option.some.injEq]

theorem evaluates_binary_iff (hg : Distinct g) (hn : n ∈ g) (hinputs : n.inputs = [a,b]) (hdata :
    ∀ r ∈ [a,b], isControl r = false) (hop : (n.op = "Add" ∨ n.op = "AddV2") ∧ f = (· + ·) ∨ n.op = "Mul" ∧ f =
    (· * ·) ∨ n.op = "Prelu" ∧ f = prelu) : Evaluates M.elementwise g n.name 0 y ↔ ∃ v w, Gives M.elementwise g a v ∧
    Gives M.elementwise g b w ∧ v.zip f w = some y := by
  have hfirst (x y) : M.elementwise.first n ([some x,some y] ++ .replicate 0 none) = x.zip f y := by
    rcases hop with ⟨hop | hop,rfl⟩ | ⟨hop,rfl⟩ | ⟨hop,rfl⟩ <;>
      simp [Meaning.first,hop,isConv,isDepthwise,isGlobalNorm,Meaning.elementwise]
  simp only [evaluates_two_iff hg hn (hinputs.trans (append_nil _).symm) hdata (forall_mem_nil _),length_nil,hfirst]
end Rectifiers
section Data
variable {K : Type} {g : ExactGraph K} {n : ExactNode K} {r : String}
theorem Regular.data (hg : Regular g) (hn : n ∈ g) (h : arity? n = some n.inputs.length) (hr : r ∈ n.inputs) :
    isControl r = false := by
  have hmap := hg.arguments n hn _ h
  rw [Nat.sub_self,replicate_zero,append_nil] at hmap
  exact (eq_replicate_iff.mp hmap).2 _ (mem_map_of_mem hr)

theorem Regular.data_unary (hg : Regular g) (hn : n ∈ g) (hinputs : n.inputs = [a])
    (hop : n.op = "Neg" ∨ n.op = "Relu") : isControl a = false := by
  refine hg.data hn ?_ (by simp [hinputs])
  rcases hop with hop | hop <;> simp [arity?,isConv,isDepthwise,normInputs?,hop,hinputs]
theorem Regular.data_binary (hg : Regular g) (hn : n ∈ g) (hinputs : n.inputs = [a,b])
    (hop : (n.op = "Add" ∨ n.op = "AddV2") ∨ n.op = "Mul" ∨ n.op = "Prelu") : ∀ r ∈ [a,b], isControl r = false := by
  refine fun r hr => hg.data hn ?_ (hinputs ▸ hr)
  rcases hop with (hop | hop) | hop | hop <;> simp [arity?,normInputs?,hop,hinputs]
end Data
end TensorKit.Flow
