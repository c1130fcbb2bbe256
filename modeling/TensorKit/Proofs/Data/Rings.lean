import TensorKit.Data.Ring
import Mathlib.Data.Int.ModEq
import Mathlib.Data.List.Basic

/-! # Ring buffers as queues with two ends

The cells from the start on make up a list. Places are whole numbers, and those that differ by less than the capacity
have cells of their own.
-/
namespace TensorKit.Data
open List
abbrev Items (α : Type) := List (Option α)

inductive RingOp (α : Type) where
  | push (v : Option α)
  | pushAll (vs : Items α)
  | pop
  | unshift (v : Option α)
  | shift
  /-- Takes out the item at a place, counted modulo the length. -/
  | excise (i : Nat)

variable {α σ : Type} {r : Ring α} {s : Int} {n : Nat} {v : Option α}

/-- An answer and the state after it. A refusal leaves the state as it was. -/
def settle (s : σ) : Tried (Option α × σ) → Tried (Option α) × σ
  | .ok (v,s) => (.ok v,s)
  | .error e => (.error e,s)

namespace Deque
variable (limit : Option Nat) (q : Items α)
def put (q' : Items α) : Tried (Option α × Items α) :=
  if limit = some q.length then .error Ring.fullFault else .ok (none,q')
def take (v : Option α) (q' : Items α) : Tried (Option α × Items α) :=
  if q = [] then .error Ring.emptyFault else .ok (v,q')

/-- An operation on a list that may have a limit to its length. -/
def step : RingOp α → Tried (Option α) × Items α
  | .push v => settle q (put limit q (q ++ [v]))
  | .pushAll vs =>
    let room := limit.elim vs.length (· - q.length)
    (if vs.length ≤ room then .ok none else .error Ring.fullFault,q ++ vs.take room)
  | .unshift v => settle q (put limit q (v :: q))
  | .pop => settle q (take q q.getLast?.join q.dropLast)
  | .shift => settle q (take q q.head?.join q.tail)
  | .excise i => settle q (take q (q[i % q.length]?).join (q.dropLast.set (i % q.length) q.getLast?.join))

def view : Items α × Nat × Bool × Bool := (q,q.length,limit = some q.length,q = [])
end Deque

namespace Ring
def perform (r : Ring α) : RingOp α → Tried (Option α) × Ring α
  | .push v => settle r ((none,·) <$> r.push v)
  | .pushAll vs => ((r.pushAll vs).2.elim (.ok none) .error,(r.pushAll vs).1)
  | .unshift v => settle r ((none,·) <$> r.unshift v)
  | .pop => settle r r.pop
  | .shift => settle r r.shift
  | .excise i => settle r (r.excise (i % r.length : Nat))

/-- The cells of so many places. -/
def window (r : Ring α) (s : Int) (n : Nat) : Items α := (range n).map fun i : Nat => r.cell (r.wrap (s + i))
def toList (r : Ring α) : Items α := r.window r.start r.length
def view (r : Ring α) : Items α × Nat × Bool × Bool := (r.toList,r.length,r.isFull,r.isEmpty)
def bound (r : Ring α) : Option Nat := if r.grows then none else some r.capacity

/-- A buffer with so many items from a place on. -/
structure Holds (r : Ring α) (s : Int) (n : Nat) : Prop where
  pos : 0 < r.capacity
  size : r.cells.size = r.capacity
  le : n ≤ r.capacity
  start : r.start = r.wrap s
  stop : r.stop = r.wrap (s + n)

/-! ## Places -/

theorem wrap_wrap_add (h : 0 < r.capacity) (s k : Int) : r.wrap (r.wrap s + k) = r.wrap (s + k) := by
  have hmod : ((r.wrap s : Nat) : Int) = s % (2 * r.capacity) := Int.toNat_of_nonneg (Int.emod_nonneg _ (by omega))
  rw [wrap,hmod,Int.emod_add_emod,wrap]

theorem wrap_mod (r : Ring α) (s : Int) (h : 0 < r.capacity) : r.wrap s % r.capacity = (s % r.capacity).toNat := by
  have hmod := Int.emod_emod_of_dvd s (Int.dvd_mul_left 2 r.capacity)
  rw [← hmod,Int.toNat_emod (Int.emod_nonneg _ (by omega)) (by omega)]
  rfl

theorem window_succ (r : Ring α) (s : Int) (n : Nat) :
    r.window s (n + 1) = r.window s n ++ [r.cell (r.wrap (s + n))] := by
  simp [window,range_succ]

theorem window_cons (r : Ring α) (s : Int) (n : Nat) :
    r.window s (n + 1) = r.cell (r.wrap s) :: r.window (s + 1) n := by
  simp [window,range_succ_eq_map,Function.comp_def,add_comm,add_left_comm]

theorem length_window : (r.window s n).length = n := by simp [window]

/-- Writing to a place changes the item there, and nothing if it is behind the items. -/
theorem window_setCell (h : Holds r t m) (s : Int) (v : Option α) {i : Nat} (hn : n ≤ r.capacity)
    (hi : i < r.capacity) :
    (r.setCell (r.wrap (s + i)) v).window s n = (r.window s n).set i v := by
  refine ext_getElem (by simp [window]) fun k hk hk' => ?_
  have hkc : k < r.capacity := by simp [window] at hk; omega
  have hsame : (s + i) % (r.capacity : Int) = (s + k) % r.capacity ↔ i = k := by
    refine ⟨fun heq => ?_,fun heq => by rw [heq]⟩
    have := Int.ModEq.add_left_cancel' s heq
    exact (Int.natCast_modEq_iff.mp this).eq_of_lt_of_lt hi hkc
  have hpos : (0 : Int) < r.capacity := by exact_mod_cast h.pos
  have hplace : r.wrap (s + i) % r.capacity = r.wrap (s + k) % r.capacity ↔ i = k := by
    rw [wrap_mod _ _ h.pos,wrap_mod _ _ h.pos,← hsame]
    have := Int.emod_nonneg (s + i) hpos.ne'
    have := Int.emod_nonneg (s + k) hpos.ne'
    omega
  have hcell : (r.setCell (r.wrap (s + i)) v).cell (r.wrap (s + k)) = if i = k then v else r.cell (r.wrap (s + k)) := by
    simp only [cell,setCell,Array.getElem?_setIfInBounds,h.size,Nat.mod_lt _ h.pos,hplace]
    split <;> rfl
  simp only [window,getElem_map,getElem_range,getElem_set]
  exact hcell

theorem cell_window (h : i < n) : (r.window s n)[i]? = some (r.cell (r.wrap (s + i))) := by simp [window,h]

namespace Holds
section
variable (h : Holds r s n)
include h

theorem length_eq : r.length = n := by
  have hpos : (0 : Int) < 2 * r.capacity := by have := h.pos; omega
  have hle := h.le
  have hstart : (r.start : Int) = s % (2 * r.capacity) := by
    rw [h.start]
    exact Int.toNat_of_nonneg (Int.emod_nonneg _ hpos.ne')
  have hlt := Int.emod_lt_of_pos s hpos
  have hstop : r.stop = ((r.start + n : Nat) % (2 * r.capacity) : Nat) := by
    rw [h.stop,h.start,← wrap_wrap_add h.pos,wrap]
    norm_cast
  unfold length
  by_cases hlast : r.start + n < 2 * r.capacity
  · rw [Nat.mod_eq_of_lt hlast] at hstop
    split <;> omega
  · rw [Nat.mod_eq_sub_mod (by omega),Nat.mod_eq_of_lt (by omega)] at hstop
    split <;> omega

theorem expand : Holds r.expand 0 n ∧ r.expand.window 0 n = r.window s n := by
  have hpos := h.pos
  have hle := h.le
  have hlen := h.length_eq
  have hcap : r.expand.capacity = 2 * r.capacity := rfl
  have hwrap : ∀ k ≤ n, r.expand.wrap (0 + k) = k := fun k hk => by
    rw [wrap,hcap,zero_add,Int.emod_eq_of_lt] <;> omega
  refine ⟨⟨by omega,?_,by omega,(hwrap 0 (Nat.zero_le n)).symm,hlen.trans (hwrap n le_rfl).symm⟩,?_⟩
  · simp only [Ring.expand,Array.size_append,Array.size_map,Array.size_range,Array.size_replicate]
    omega
  · refine map_congr_left fun k hk => ?_
    have hk : k < n := mem_range.mp hk
    rw [hwrap k hk.le,cell,hcap,Nat.mod_eq_of_lt (by omega),Ring.expand,
      Array.getElem?_append_left (by simpa [hlen] using hk)]
    simp [hlen,hk,h.start,wrap_wrap_add hpos]
end
end Holds

/-- The outcome for a list is that for a buffer, which holds the list afterwards. -/
def Tracks (limit : Option Nat) (a : Tried (Option α) × Ring α) (b : Tried (Option α) × Items α) : Prop :=
  ∃ s n, Holds a.2 s n ∧ a.2.bound = limit ∧ b = (a.1,a.2.window s n)

/-- An insertion is refused by a full buffer, and leads to a buffer with the given items otherwise. -/
def Inserts (r : Ring α) (n : Nat) (x : Tried (Ring α)) (q : Items α) : Prop :=
  (r.bound = some n ∧ x = .error fullFault) ∨
    r.bound ≠ some n ∧ ∃ r' s', x = .ok r' ∧ Holds r' s' (n + 1) ∧ r'.bound = r.bound ∧ r'.window s' (n + 1) = q

namespace Holds
section
variable (h : Holds r s n)
include h

/-- An insertion into a buffer with room is one into any buffer, which may have to grow first. -/
theorem inserts {f : Ring α → Ring α} {g : Items α → Items α} (hf : ∀ {r s}, Holds r s n → n < r.capacity →
      ∃ s', Holds (f r) s' (n + 1) ∧ (f r).bound = r.bound ∧ (f r).window s' (n + 1) = g (r.window s n)) :
    Inserts r n (r.withRoom >>= fun r => pure (f r)) (g (r.window s n)) := by
  have hlen := h.length_eq
  have hle := h.le
  have hpos := h.pos
  by_cases hpacked : n = r.capacity
  · cases hgrows : r.grows with
    | false => exact .inl ⟨by simp [bound,hgrows,hpacked],by simp [withRoom,isPacked,hlen,hpacked,hgrows]⟩
    | true =>
      obtain ⟨s',hs,hb,hw⟩ := hf h.expand.1 (by simp only [Ring.expand]; omega)
      refine .inr ⟨by simp [bound,hgrows],_,s',?_,hs,hb.trans (by simp [bound,Ring.expand,hgrows]),h.expand.2 ▸ hw⟩
      simp [withRoom,isPacked,hlen,hpacked,hgrows]
  · obtain ⟨s',hs,hb,hw⟩ := hf h (by omega)
    refine .inr ⟨?_,_,s',?_,hs,hb,hw⟩
    · unfold bound
      split <;> simp [Ne.symm hpacked]
    · simp [withRoom,isPacked,hlen,hpacked]

theorem push (v : Option α) : Inserts r n (r.push v) (r.window s n ++ [v]) := by
  refine h.inserts (g := (· ++ [v])) fun {r s} h hlt => ⟨s,⟨h.pos,by simp [setCell,h.size],hlt,h.start,?_⟩,rfl,?_⟩
  · change r.wrap (r.stop + 1) = r.wrap (s + (n + 1 : Nat))
    rw [h.stop,wrap_wrap_add h.pos,Nat.cast_succ,add_assoc]
  · have hset := window_setCell h s v hlt hlt
    rw [window_succ r,set_append_right _ _ length_window.le,length_window,Nat.sub_self,← h.stop] at hset
    exact hset

theorem unshift (v : Option α) : Inserts r n (r.unshift v) (v :: r.window s n) := by
  refine h.inserts fun {r s} h hlt => ?_
  have hfirst : r.wrap (r.start - 1) = r.wrap (s - 1) := by
    rw [h.start]
    exact wrap_wrap_add h.pos s (-1)
  refine ⟨s - 1,⟨h.pos,by simp [setCell,h.size],hlt,hfirst,h.stop.trans (congrArg r.wrap (by omega))⟩,rfl,?_⟩
  have hset := window_setCell h (s - 1) v hlt h.pos
  rw [window_cons r,Nat.cast_zero,add_zero,← hfirst,sub_add_cancel] at hset
  exact hset
end

section
variable (h : Holds r s (n + 1))
include h

theorem requireSome : r.requireSome = .ok () := by simp [Ring.requireSome,isEmpty,h.length_eq]

theorem shift : ∃ r', r.shift = .ok (r.cell (r.wrap s),r') ∧ Holds r' (s + 1) n ∧ r'.bound = r.bound ∧
    r'.window (s + 1) n = r.window (s + 1) n := by
  have hle := h.le
  refine ⟨{ r.setCell r.start none with start := r.wrap (r.start + 1) },?_,
    ⟨h.pos,?_,(Nat.le_succ n).trans hle,?_,?_⟩,rfl,?_⟩
  · rw [Ring.shift,h.requireSome,h.start]
    rfl
  · simp [setCell,h.size]
  · change r.wrap (r.start + 1) = r.wrap (s + 1)
    rw [h.start,wrap_wrap_add h.pos]
  · exact h.stop.trans (congrArg r.wrap (by omega))
  · have hset := window_setCell h s none hle h.pos
    rw [window_cons,window_cons,Nat.cast_zero,add_zero,← h.start] at hset
    exact (cons.inj hset).2

theorem pop : ∃ r', r.pop = .ok (r.cell (r.wrap (s + n)),r') ∧ Holds r' s n ∧ r'.capacity = r.capacity ∧
    r'.bound = r.bound ∧ r'.window s n = r.window s n := by
  have hle := h.le
  have hlast : r.wrap (r.stop - 1) = r.wrap (s + n) := by
    rw [h.stop,sub_eq_add_neg,wrap_wrap_add h.pos]
    exact congrArg r.wrap (by omega)
  refine ⟨{ r.setCell (r.wrap (s + n)) none with stop := r.wrap (s + n) },?_,
    ⟨h.pos,?_,(Nat.le_succ n).trans hle,h.start,rfl⟩,rfl,rfl,?_⟩
  · rw [Ring.pop,h.requireSome,hlast]
    rfl
  · simp [setCell,h.size]
  · exact (window_setCell h s none (by omega) hle).trans (set_eq_of_length_le length_window.le)

theorem excise (hi : i < n + 1) : ∃ r', r.excise i = .ok (r.cell (r.wrap (s + i)),r') ∧ Holds r' s n ∧
    r'.bound = r.bound ∧ r'.window s n = (r.window s n).set i (r.cell (r.wrap (s + n))) := by
  have hle := h.le
  obtain ⟨r',hpop,h',hcap,hbound,hw⟩ := h.pop
  have hplace : r.wrap (r.start + i) = r.wrap (s + i) := by rw [h.start,wrap_wrap_add h.pos]
  have hsame : r.wrap (s + i) = r'.wrap (s + i) := by rw [wrap,wrap,hcap]
  refine ⟨r'.setCell (r.wrap (s + i)) (r.cell (r.wrap (s + n))),?_,⟨h'.pos,?_,h'.le,h'.start,h'.stop⟩,hbound,?_⟩
  · rw [Ring.excise,h.requireSome,hpop,hplace]
    rfl
  · simpa [setCell] using h'.size
  · rw [hsame,window_setCell h' s _ h'.le (by omega),hw]
end

section
variable (h : Holds r s n)
include h

theorem le_bound (hl : r.bound = some l) : n ≤ l := by
  have hle := h.le
  unfold bound at hl
  split at hl <;> simp_all

theorem pushAll (vs : Items α) :
    Tracks r.bound (r.perform (.pushAll vs)) (Deque.step r.bound (r.window s n) (.pushAll vs)) := by
  induction vs generalizing r s n with
  | nil => exact ⟨s,n,h,rfl,by simp [Deque.step,perform,Ring.pushAll]⟩
  | cons v vs ih =>
    rcases h.push v with ⟨hfull,hpush⟩ | ⟨hroom,r',s',hpush,h',hbound,hw⟩
    · have hall : r.pushAll (v :: vs) = (r,some fullFault) := by
        simp only [Ring.pushAll,foldl_cons,hpush]
        exact foldl_fixed' (fun _ => rfl) vs
      exact ⟨s,n,by simp [Ring.perform,hall,Deque.step,hfull,length_window,h]⟩
    · have hall : r.pushAll (v :: vs) = r'.pushAll vs := by simp only [Ring.pushAll,foldl_cons,hpush]
      have hnext := ih h'
      rw [hbound,hw] at hnext
      convert hnext using 1
      · simp only [Ring.perform,hall]
      · simp only [Deque.step,length_append,length_window,length_cons,length_nil]
        cases hl : r.bound with
        | none => simp
        | some l =>
          have hlt : n < l := (h.le_bound hl).lt_of_ne fun heq => hroom (heq ▸ hl)
          have hsub : l - n = l - (n + 1) + 1 := by omega
          simp [hsub]

theorem inserted {q : Items α} (hx : Inserts r n x q) :
    Tracks r.bound (settle r ((none,·) <$> x)) (settle (r.window s n) (Deque.put r.bound (r.window s n) q)) := by
  rcases hx with ⟨hfull,rfl⟩ | ⟨hroom,r',s',rfl,h',hbound,rfl⟩
  · exact ⟨s,n,by simp [Deque.put,settle,hfull,length_window,h]⟩
  · exact ⟨s',n + 1,by simp [Deque.put,settle,hroom,length_window,h',hbound]⟩

theorem removed {q : Items α} (hx : x = do r.requireSome; y) (hy : ∀ {m}, n = m + 1 →
      ∃ r' s', x = .ok (v,r') ∧ Holds r' s' m ∧ r'.bound = r.bound ∧ r'.window s' m = q) :
    Tracks r.bound (settle r x) (settle (r.window s n) (Deque.take (r.window s n) v q)) := by
  cases n with
  | zero =>
    have hnone : x = .error emptyFault := by
      rw [hx,Ring.requireSome,isEmpty,h.length_eq]
      rfl
    exact ⟨s,0,by simp [hnone,Deque.take,settle,window,h]⟩
  | succ n =>
    obtain ⟨r',s',rfl,h',hbound,rfl⟩ := hy rfl
    exact ⟨s',n,by simp [Deque.take,settle,window_succ,h',hbound]⟩

theorem perform (op : RingOp α) : Tracks r.bound (r.perform op) (Deque.step r.bound (r.window s n) op) := by
  cases op with
  | push v => exact h.inserted (h.push v)
  | unshift v => exact h.inserted (h.unshift v)
  | pushAll vs => exact h.pushAll vs
  | pop =>
    refine h.removed rfl ?_
    rintro n rfl
    obtain ⟨r',hpop,h',-,hbound,hw⟩ := h.pop
    exact ⟨r',s,by simp [hpop,window_succ],h',hbound,by simp [hw,window_succ]⟩
  | shift =>
    refine h.removed rfl ?_
    rintro n rfl
    obtain ⟨r',hshift,h',hbound,hw⟩ := h.shift
    exact ⟨r',s + 1,by simp [hshift,window_cons],h',hbound,by simp [hw,window_cons]⟩
  | excise i =>
    refine h.removed rfl ?_
    rintro n rfl
    rw [h.length_eq,length_window]
    have hi := Nat.mod_lt i n.succ_pos
    obtain ⟨r',hexcise,h',hbound,hw⟩ := h.excise hi
    exact ⟨r',s,by rw [hexcise,cell_window hi]; rfl,h',hbound,by simp [hw,window_succ]⟩

end
end Holds

end Ring
end TensorKit.Data
