import TensorKit.Ops.Elementwise
import TensorKit.Proofs.Flow.Elementwise

/-! # Broadcasting

Two shapes are aligned at their last axes. An operand of a kernel is read at the location of the result, without the
axes that it lacks and at 0 where its size is 1.
-/
namespace TensorKit.Shape
open List
variable {s p : Shape} {loc l : Nats}
theorem index_lt (h : Forall₂ (· < ·) loc s) : index s loc < size s := by
  induction h with
  | nil => exact Nat.one_pos
  | @cons c d loc s hc _ ih =>
    rw [size_cons]
    calc c * size s + index s loc < (c + 1) * size s := by rw [Nat.succ_mul]; omega
      _ ≤ d * size s := Nat.mul_le_mul_right _ hc

theorem coords_index (h : Forall₂ (· < ·) loc s) : coords s (index s loc) = loc := by
  induction h with
  | nil => rfl
  | @cons c d loc s hc hloc ih =>
    have hlt := index_lt hloc
    rw [index,coords,Nat.mul_comm,Nat.mul_add_div (Nat.zero_lt_of_lt hlt),Nat.div_eq_of_lt hlt,
      Nat.mul_add_mod,Nat.mod_eq_of_lt hlt,ih,Nat.add_zero]

theorem size_append (p s : Shape) : size (p ++ s) = size p * size s := by
  induction p with
  | nil => rw [nil_append,size_nil,one_mul]
  | cons d p ih => rw [cons_append,size_cons,size_cons,ih,mul_assoc]

theorem index_append (h : l.length = p.length) (s : Shape) (loc : Nats) :
    index (p ++ s) (l ++ loc) = index p l * size s + index s loc := by
  induction p generalizing l with
  | nil =>
    obtain rfl := length_eq_zero_iff.mp h
    simp [index]
  | cons d p ih =>
    obtain ⟨c,l,rfl⟩ := exists_cons_of_length_eq_add_one h
    rw [cons_append,cons_append,index,index,ih (Nat.succ.inj h),size_append,add_mul,mul_assoc,add_assoc]
end TensorKit.Shape
namespace TensorKit.Broadcast
open Flow.Table List
variable {a b s out p q : Shape} {loc m : Nats} {i : Nat}

/-! ## The shape of the result -/

/-- On each axis, counted from the end, two shapes agree or one of them has the size 1. -/
def Compatible (a b : Shape) : Prop := ∀ i, fromEnd a i = fromEnd b i ∨ fromEnd a i = 1 ∨ fromEnd b i = 1

theorem fromEnd_of_le (h : s.length ≤ i) : fromEnd s i = 1 := if_neg (Nat.not_lt.mpr h)
theorem fromEnd_of_lt (h : i < s.length) : fromEnd s i = s[s.length - 1 - i] := by rw [fromEnd,if_pos h,getD_eq_getElem]

theorem shape_eq_error_iff : (∃ f, shape a b = .error f) ↔ ¬ Compatible a b := by
  have hall : Compatible a b ↔ ∀ i < max a.length b.length,
      (fromEnd a i = 1 ∨ fromEnd b i = 1) ∨ fromEnd a i = fromEnd b i := by
    refine ⟨fun h i _ => by have := h i; tauto,fun h i => ?_⟩
    by_cases hi : i < max a.length b.length
    · have := h i hi
      tauto
    · exact .inr (.inl (fromEnd_of_le (by omega)))
  rw [shape]
  split <;> simp_all

theorem shape_eq_ok (h : shape a b = .ok out) : Compatible a b ∧ out.length = max a.length b.length ∧ ∀ i,
    fromEnd out i = if fromEnd a i = 1 then fromEnd b i else fromEnd a i := by
  have hcompatible : Compatible a b := by
    by_contra hc
    simpa [h] using shape_eq_error_iff.mpr hc
  rw [shape] at h
  split at h
  · obtain rfl := Except.ok.inj h
    refine ⟨hcompatible,by simp,fun i => ?_⟩
    by_cases hi : i < max a.length b.length
    · rw [fromEnd_of_lt (by simpa using hi)]
      have hback : max a.length b.length - 1 - (max a.length b.length - 1 - i) = i := by omega
      simp [hback]
    · rw [fromEnd_of_le (by simpa using hi),fromEnd_of_le (s := a) (by omega),fromEnd_of_le (by omega),if_pos rfl]
  · cases h

/-! ## Where an operand is read -/

/-- A shape that is stretched to another: behind the axes that it lacks, its sizes are those of the other or 1. -/
def Stretches (s out : Shape) : Prop := ∃ p q, out = p ++ q ∧ Forall₂ (fun d o => d = 1 ∨ d = o) s q

theorem stretches_of_fromEnd (hlen : s.length ≤ out.length) (h : ∀ i, fromEnd s i = 1 ∨ fromEnd s i = fromEnd out i) :
    Stretches s out := by
  refine ⟨out.take (out.length - s.length),out.drop (out.length - s.length),(take_append_drop ..).symm,
    forall₂_iff_get.mpr ⟨by simp; omega,fun j hj _ => ?_⟩⟩
  have hsize := h (s.length - 1 - j)
  have hback : s.length - 1 - (s.length - 1 - j) = j := by omega
  have hback' : out.length - 1 - (s.length - 1 - j) = out.length - s.length + j := by omega
  rw [fromEnd_of_lt (by omega),fromEnd_of_lt (by omega)] at hsize
  simpa [hback,hback'] using hsize

theorem stretches_of_shape (h : shape a b = .ok out) : Stretches a out ∧ Stretches b out := by
  obtain ⟨hc,hlen,hsize⟩ := shape_eq_ok h
  constructor
  all_goals
    refine stretches_of_fromEnd (by omega) fun i => ?_
    have := hc i
    rw [hsize]
    split <;> omega

variable (h : Forall₂ (fun d o => d = 1 ∨ d = o) s q)
include h
theorem mem_dims : i ∈ dims s (p ++ q) ↔ ∃ o, s[i]? = some 1 ∧ q[i]? = some o ∧ 1 < o := by
  have hlen := h.length_eq
  by_cases hi : i < s.length
  · have hsize := (forall₂_iff_get.mp h).2 i hi (hlen ▸ hi)
    have hout : fromEnd (p ++ q) (s.length - 1 - i) = q[i] := by
      rw [fromEnd_of_lt (by simp; omega),getElem_append_right (by simp; omega)]
      congr 1
      simp
      omega
    simp only [dims]
    grind
  · simp [dims,hi]

theorem zipWith_lt (hm : Forall₂ (· < ·) m q) :
    Forall₂ (· < ·) (zipWith (fun d c => if d = 1 then 0 else c) s m) s := by
  induction h generalizing m with
  | nil => exact .nil
  | @cons d o s q hd _ ih =>
    obtain ⟨c,m,hc,hrest,rfl⟩ := forall₂_cons_right_iff.mp hm
    refine .cons ?_ (ih hrest)
    dsimp only
    split <;> omega
omit h

/-- An operand is read inside its shape. The coordinates of the kernel are those that go with the location, and where no
axis is stretched, the place in the buffer is the place in the result modulo the size of the operand. -/
theorem read_clamp (h : Stretches s out) (hloc : Forall₂ (· < ·) loc out) :
    Forall₂ (· < ·) (clamp s loc) s ∧ Kernel.operandCoords s (dims s out) loc =
    clamp s loc ∧ (dims s out = [] → out.index loc % s.size = s.index (clamp s loc)) := by
  obtain ⟨p,q,rfl,hq⟩ := h
  have hl := forall₂_take_append _ _ _ hloc
  have hm := forall₂_drop_append _ _ _ hloc
  have hlen := hloc.length_eq
  rw [length_append,← hq.length_eq] at hlen
  have hdrop : loc.length - s.length = p.length := by omega
  have hlt := zipWith_lt hq hm
  rw [clamp,Kernel.operandCoords,hdrop]
  generalize hm' : loc.drop p.length = m at hm hlt
  have haxis {i : Nat} hi : ∃ (hs : i < s.length) (hi' : i < q.length),
      (s[i] = 1 ∨ s[i] = q[i]) ∧ m[i] < q[i] ∧ (i ∈ dims s (p ++ q) ↔ s[i] = 1 ∧ 1 < q[i]) := by
    have hi' : i < q.length := hm.length_eq ▸ hi
    have hs : i < s.length := hq.length_eq ▸ hi'
    exact ⟨hs,hi',(forall₂_iff_get.mp hq).2 i hs hi',(forall₂_iff_get.mp hm).2 i hi hi',by simp [mem_dims hq,hs,hi']⟩
  refine ⟨hlt,?_,fun hnone => ?_⟩
  · refine ext_getElem (by simp [hm.length_eq,hq.length_eq]) fun i hi _ => ?_
    grind
  · have hwhole : s = q := ext_getElem hq.length_eq fun i hs hi => by grind
    subst hwhole
    have hsame := clamp_of_lt hm
    rw [clamp,hm.length_eq,Nat.sub_self,drop_zero] at hsame
    rw [hsame] at hlt ⊢
    rw [← take_append_drop p.length loc,hm',Shape.index_append hl.length_eq,Nat.mul_add_mod_self_right,
      Nat.mod_eq_of_lt (Shape.index_lt hlt)]
end TensorKit.Broadcast
namespace TensorKit.Kernel
open Broadcast Flow.Table List
variable {α β γ : Type} [Scalar α] [Scalar β]
theorem readAt_eq {xs : Array α} {s : Shape} (hxs : xs.size = s.size) (h : Forall₂ (· < ·) loc s) :
    xs[s.index loc]? = some (readAt xs (s.index loc)) := by
  have hlt := hxs ▸ Shape.index_lt h
  simp [readAt,hlt]

theorem broadcast_shape_size (op : α → β → γ) (a : NDArray α) (b : NDArray β) (out : Shape) :
    (broadcast op a b out).shape = out ∧ (broadcast op a b out).data.size = out.size := by
  unfold broadcast
  dsimp only
  split <;> exact ⟨rfl,Array.size_ofFn⟩

/-- Two shapes can be broadcast unless they differ on an axis, counted from the end, where neither has the size 1. What
a binary kernel then gives has at every location the value of the operation at the locations of the operands that go
with it, whether it runs over the buffers or over the coordinates. -/
theorem broadcast_elementwise (op : α → β → γ) (a : NDArray α) (b : NDArray β) (ha : a.data.size = a.shape.size)
    (hb : b.data.size = b.shape.size) :
    ((∃ f, Broadcast.shape a.shape b.shape = .error f) ↔ ¬ Compatible a.shape b.shape) ∧
    ∀ out, Broadcast.shape a.shape b.shape = .ok out →
      out.length = max a.shape.length b.shape.length ∧
      (∀ i, fromEnd out i = if fromEnd a.shape i = 1 then fromEnd b.shape i else fromEnd a.shape i) ∧
      (broadcast op a b out).shape = out ∧ (broadcast op a b out).data.size = out.size ∧
      ∀ loc, Forall₂ (· < ·) loc out → ∃ x y, a.data[a.shape.index (clamp a.shape loc)]? = some x ∧
        b.data[b.shape.index (clamp b.shape loc)]? = some y ∧
        (broadcast op a b out).data[out.index loc]? = some (op x y) := by
  refine ⟨shape_eq_error_iff, fun out hout => ?_⟩
  obtain ⟨-, hlen, hsize⟩ := shape_eq_ok hout
  obtain ⟨hsa, hsb⟩ := stretches_of_shape hout
  obtain ⟨hshape, hdata⟩ := broadcast_shape_size op a b out
  refine ⟨hlen, hsize, hshape, hdata, fun loc hloc => ?_⟩
  obtain ⟨hinA, hcoordsA, hmodA⟩ := read_clamp hsa hloc
  obtain ⟨hinB, hcoordsB, hmodB⟩ := read_clamp hsb hloc
  refine ⟨_, _, readAt_eq ha hinA, readAt_eq hb hinB, ?_⟩
  have hlt := Shape.index_lt hloc
  unfold broadcast
  dsimp only
  split
  next hplain =>
    rw [Bool.and_eq_true, List.isEmpty_iff, List.isEmpty_iff] at hplain
    simp [NDArray.ofIndex, hlt, ha, hb, hmodA hplain.1, hmodB hplain.2]
  next => simp [NDArray.ofCoords, NDArray.ofIndex, hlt, Shape.coords_index hloc, hcoordsA, hcoordsB, NDArray.get]

theorem broadcast_elementwise_column : ∃ a b : NDArray Float, a.shape = [2, 1] ∧ b.shape = [3] ∧
    ∃ x y, a.data[1]? = some x ∧ b.data[2]? = some y ∧ (broadcast (· + ·) a b [2, 3]).data[5]? = some (x + y) :=
  ⟨⟨[2, 1], #[1, 2]⟩, ⟨[3], #[3, 4, 5]⟩, rfl, rfl,
    ((broadcast_elementwise (· + ·) ⟨[2, 1], #[1, 2]⟩ ⟨[3], #[3, 4, 5]⟩ rfl rfl).2 [2, 3] rfl).2.2.2.2 [1, 2]
      (by decide)⟩
end TensorKit.Kernel
namespace TensorKit.Ops
open Broadcast List

/-! ## Complex numbers -/

/-- What is read of an operand: where no axis is stretched, nothing in every second one of its copies. -/
def seen (plain : Bool) (s out : Shape) (loc : Nats) (x : NDArray Float) : Float :=
  if plain ∧ out.index loc / s.size % 2 = 1 then Scalar.missing else readAt x.data (s.index (Flow.Table.clamp s loc))

theorem item_plain (hx : x.data.size = s.size) (hmod : out.index loc % s.size = s.index (Flow.Table.clamp s loc)) :
    x.item (out.index loc % (2 * s.size)) = seen true s out loc x := by
  rw [NDArray.item,seen,Nat.mul_comm,Nat.mod_mul,hmod]
  rcases Nat.mod_two_eq_zero_or_one (out.index loc / s.size) with h | h
  · simp [h]
  · have hnone : x.data[s.index (Flow.Table.clamp s loc) + s.size]? = none := by simp [hx]
    simp [h,readAt,hnone]

/-- Complex operands are read at the locations that go with a location of the result. But a kernel that runs over the
buffers takes them for twice as long as they are, and so finds no numbers in every second copy of a smaller operand. -/
theorem complexPart_elementwise (f : ComplexFn) (part : Float × Float → Float) {a b out : Shape} {loc : List Nat}
    {ar ai br bi : NDArray Float} (hout : Broadcast.shape a b = .ok out) (har : ar.data.size = a.size)
    (hai : ai.data.size = a.size) (hbr : br.data.size = b.size) (hbi : bi.data.size = b.size)
    (hloc : Forall₂ (· < ·) loc out) :
    let plain := (dims a out).isEmpty && (dims b out).isEmpty
    (complexPart f a b out ar ai br bi part).data[out.index loc]? = some (part (f (seen plain a out loc ar)
      (seen plain a out loc ai) (seen plain b out loc br) (seen plain b out loc bi))) := by
  obtain ⟨hsa,hsb⟩ := stretches_of_shape hout
  obtain ⟨-,hcoordsA,hmodA⟩ := read_clamp hsa hloc
  obtain ⟨-,hcoordsB,hmodB⟩ := read_clamp hsb hloc
  have hlt := Shape.index_lt hloc
  intro plain
  cases hplain : plain with
  | true =>
    have hboth : dims a out = [] ∧ dims b out = [] := by simpa [plain] using hplain
    simp only [complexPart,NDArray.ofIndex,Array.getElem?_ofFn,hlt,hboth,List.isEmpty_nil,Bool.and_self,if_true,
      dif_pos,item_plain har (hmodA hboth.1),item_plain hai (hmodA hboth.1),item_plain hbr (hmodB hboth.2),
      item_plain hbi (hmodB hboth.2)]
  | false =>
    have hnot : ((dims a out).isEmpty && (dims b out).isEmpty) = false := hplain
    simp [complexPart,NDArray.ofIndex,hlt,hnot,Shape.coords_index hloc,hcoordsA,hcoordsB,seen,NDArray.item]

theorem complexPart_rows : ∃ a b : NDArray Float, a.data = #[1,2] ∧ b.data = #[10,20,30,40] ∧
    (complexPart (fun x _ _ _ => (x, x)) [2] [2,2] [2,2] a a b b Prod.fst).data[2]? = some Scalar.missing :=
  ⟨⟨[2],#[1,2]⟩,⟨[2,2],#[10,20,30,40]⟩,rfl,rfl,
    complexPart_elementwise (fun x _ _ _ => (x, x)) Prod.fst rfl rfl rfl rfl rfl (show Forall₂ _ [1,0] _ by decide)⟩

/-! ## Selection by a condition -/

theorem chosen_at (cs xs ys : Array Float) (hk : k < s.size) (hi : k / (if rank != 1 then 1 else s.getD 1 1) = i) :
    (chosen rank s cs xs ys).data[k]? =
    some (if i < cs.size then if readAt cs i == 1 then readAt xs i else readAt ys i else 0) := by
  simp [chosen,NDArray.ofIndex,hk,← hi]

/-- A condition with a truth for each element selects element by element. A condition with a truth for each row selects
rows if and only if rows have one element or there is none: the operands are read at the number of the row. -/
theorem chosen_rows_iff (n d : Nat) (rest : Shape) :
    (∀ (rank : Nat) (s : Shape) (cs xs ys : Array Float), rank ≠ 1 ∨ s.length = 1 → cs.size = s.size → ∀ k < s.size,
      (chosen rank s cs xs ys).data[k]? = some (if readAt cs k == 1 then readAt xs k else readAt ys k)) ∧
    ((∀ cs xs ys : Array Float, cs.size = n → xs.size = Shape.size (n :: d :: rest) →
      ys.size = Shape.size (n :: d :: rest) → ∀ k < Shape.size (n :: d :: rest),
      (chosen 1 (n :: d :: rest) cs xs ys).data[k]? =
        some (if readAt cs (k / Shape.size (d :: rest)) == 1 then readAt xs k else readAt ys k)) ↔
      Shape.size (n :: d :: rest) = 0 ∨ Shape.size (d :: rest) = 1) := by
  refine ⟨fun rank s cs xs ys hone hcs k hk => ?_,fun h => ?_,?_⟩
  · have hrun : (if rank != 1 then 1 else s.getD 1 1) = 1 := by
      rcases hone with hrank | hs
      · simp [hrank]
      · simp [hs]
    rw [chosen_at cs xs ys hk (by rw [hrun,Nat.div_one]),if_pos (hcs ▸ hk)]
  · by_contra hnot
    rw [not_or,Shape.size_cons] at hnot
    obtain ⟨hn,hrow⟩ := mul_ne_zero_iff.mp hnot.1
    have hlong : 1 < Shape.size (d :: rest) := by omega
    have hsize : 1 < n * Shape.size (d :: rest) := hlong.trans_le (Nat.le_mul_of_pos_left _ (Nat.pos_of_ne_zero hn))
    have hk : 1 < Shape.size (n :: d :: rest) := by rwa [Shape.size_cons]
    -- Only the first row is to be taken, and only the second element of it is not 0.
    have hone := h (.ofFn fun i : Fin n => if i.val = 0 then 1 else 0)
      (.ofFn fun i : Fin (Shape.size (n :: d :: rest)) => if i.val = 1 then 1 else 0)
      (.ofFn fun _ : Fin (Shape.size (n :: d :: rest)) => 0) Array.size_ofFn Array.size_ofFn Array.size_ofFn 1 hk
    have htruth : ((1 : Float) == 1) = true ∧ ((0 : Float) == 1) = false ∧ (0 : Float) ≠ 1 := by decide
    rw [Nat.div_eq_of_lt hlong] at hone
    rcases Nat.lt_trichotomy d 1 with hd | rfl | hd
    · simp [Nat.lt_one_iff.mp hd,Shape.size_cons] at hrow
    · rw [chosen_at _ _ _ hk (i := 1) (by simp)] at hone
      by_cases hmany : 1 < n <;> simp [readAt,hk,Nat.pos_of_ne_zero hn,hmany,htruth] at hone
    · rw [chosen_at _ _ _ hk (i := 0) (by simp [hd])] at hone
      simp [readAt,hk,Nat.zero_lt_of_lt hk,Nat.pos_of_ne_zero hn,htruth] at hone
  · rintro (hnone | hrow) cs xs ys hcs hxs hys k hk
    · omega
    · obtain rfl : d = 1 := Nat.eq_one_of_mul_eq_one_right (by rwa [Shape.size_cons] at hrow)
      rw [chosen_at cs xs ys hk (i := k) (by exact Nat.div_one k),hrow,Nat.div_one,if_pos]
      rwa [hcs,← mul_one n,← hrow,← Shape.size_cons]
end TensorKit.Ops
