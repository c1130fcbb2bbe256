import Mathlib.Data.List.Forall2
import Mathlib.Data.List.Basic
import TensorKit.Layers.Recurrence

/-! # Recurrences of stacked cells

A layer of cells on top of each other does at every step what layers in series do one after the other.
-/
namespace TensorKit.Layers.Recurrence
open List
variable {τ σ : Type} (o : SequenceOps Tried τ)
/-- A layer of one cell that returns sequences. -/
def layer (c : RecurrentCell Tried τ) : RecurrentCell Tried τ where
  count := c.count
  step x states := do
    let (_,all,after) ← overTime c o x states false none true
    pure (all.getD x,after)

/-- Outputs that can be stacked to a sequence, which comes apart into them. -/
def Stackable (out : τ → Prop) : Prop :=
  ∀ ys, ys ≠ [] → (∀ y ∈ ys, out y) → ∃ all, o.stack ys = .ok all ∧ timeSteps o all = .ok ys

/-- The cell has states of some sizes, and keeps them where it reads what it is made for. -/
def Keeps (fits : σ → τ → Prop) (inp out : τ → Prop) (sizes : List σ) (c : RecurrentCell Tried τ) : Prop :=
  c.count = sizes.length ∧ ∀ x s y after, inp x → Forall₂ fits sizes s → c.step x s = .ok (y,after) →
    out y ∧ Forall₂ fits sizes after

/-- Each cell is made for the outputs of the one before it. -/
inductive InSeries (o : SequenceOps Tried τ) (fits : σ → τ → Prop) :
    (τ → Prop) → List (List σ) → List (RecurrentCell Tried τ) → Prop
  | nil {inp} : InSeries o fits inp [] []
  | cons {inp out first c sizes cells} : Keeps fits inp out first c → Stackable o out →
      InSeries o fits out sizes cells → InSeries o fits inp (first :: sizes) (c :: cells)

/-! ## One step and all steps -/

variable {fits : σ → τ → Prop} {inp inp' out : τ → Prop} {o : SequenceOps Tried τ} {c : RecurrentCell Tried τ}
  {first : List σ} {sizes : List (List σ)} {cells : List (RecurrentCell Tried τ)} {nested ends : List (List τ)} {x y : τ}
  {xs ys s after : List τ}
theorem bind_ok_iff {ε α β : Type} {x : Except ε α} {k : α → Except ε β} {b : β} :
    (x >>= k) = .ok b ↔ ∃ a, x = .ok a ∧ k a = .ok b := by
  cases x with
  | error e => exact ⟨(nomatch ·),fun ⟨_,h,_⟩ => nomatch h⟩
  | ok a => exact ⟨fun h => ⟨a,rfl,h⟩,fun ⟨_,h,hk⟩ => Except.ok.inj h ▸ hk⟩

def pass (o : SequenceOps Tried τ) (c : RecurrentCell Tried τ) (xs s : List τ) : Tried (List τ × List τ) :=
  run o.toBatchOps c xs none false s

theorem pass_cons_iff : pass o c (x :: xs) s = .ok (ys,after) ↔ ∃ y s' rest, c.step x s = .ok (y,s') ∧
    pass o c xs s' = .ok (rest,after) ∧ y :: rest = ys := by
  refine bind_ok_iff.trans ⟨fun ⟨⟨y,s'⟩,hstep,h⟩ => ?_,fun ⟨y,s',rest,hstep,hrest,h⟩ => ?_⟩
  · obtain ⟨⟨rest,_⟩,hrest,h⟩ := bind_ok_iff.mp h
    cases h
    exact ⟨y,s',rest,hstep,hrest,rfl⟩
  · exact ⟨_,hstep,bind_ok_iff.mpr ⟨_,hrest,h ▸ rfl⟩⟩

theorem chain_cons_iff : chain (c :: cells) (s :: nested) x = .ok (y,ends) ↔ ∃ z s' rest, c.step x s = .ok (z,s') ∧
    chain cells nested z = .ok (y,rest) ∧ s' :: rest = ends := by
  refine bind_ok_iff.trans ⟨fun ⟨⟨z,s'⟩,hstep,h⟩ => ?_,fun ⟨z,s',rest,hstep,hrest,h⟩ => ?_⟩
  · obtain ⟨⟨_,rest⟩,hrest,h⟩ := bind_ok_iff.mp h
    cases h
    exact ⟨z,s',rest,hstep,hrest,rfl⟩
  · exact ⟨_,hstep,bind_ok_iff.mpr ⟨_,hrest,h ▸ rfl⟩⟩

theorem cut_flatten (ls : List (List τ)) : cut (ls.map length) ls.flatten = ls := by
  induction ls with
  | nil => rfl
  | cons l ls ih => rw [map_cons,flatten_cons,cut,take_left,drop_left,ih]

theorem pass_kept (hc : Keeps fits inp out first c) (hxs : ∀ x ∈ xs, inp x) (hf : Forall₂ fits first s)
    (h : pass o c xs s = .ok (ys,after)) : ys.length = xs.length ∧ ∀ y ∈ ys, out y := by
  induction xs generalizing s ys with
  | nil =>
    cases h
    simp
  | cons x xs ih =>
    obtain ⟨hx,hxs⟩ := forall_mem_cons.mp hxs
    obtain ⟨y,s',rest,hstep,hpass,rfl⟩ := pass_cons_iff.mp h
    obtain ⟨hy,hf'⟩ := hc.2 _ _ _ _ hx hf hstep
    obtain ⟨hlen,hall⟩ := ih hxs hf' hpass
    exact ⟨congrArg (· + 1) hlen,forall_mem_cons.mpr ⟨hy,hall⟩⟩

theorem layer_step_iff (hx : timeSteps o x = .ok xs) : (layer o c).step x s = .ok (y,after) ↔
    ∃ ys, pass o c xs s = .ok (ys,after) ∧ o.stack ys = .ok y := by
  have htime : overTime c o x s false none true = (pass o c xs s >>= fun r =>
      o.stack r.1 >>= fun all => pure (r.1.getLast?,some all,r.2)) := by
    rw [overTime,hx]
    rfl
  simp only [layer,htime,bind_assoc,pure_bind,bind_ok_iff]
  constructor
  · rintro ⟨⟨ys,_⟩,hpass,_,hstack,h⟩
    cases h
    exact ⟨ys,hpass,hstack⟩
  · rintro ⟨ys,hpass,hstack⟩
    exact ⟨_,hpass,_,hstack,rfl⟩

/-! ## Cells on top of each other -/

theorem pass_stacked_nil (xs : List τ) : pass o (stacked []) xs [] = .ok (xs,[]) := by
  induction xs with
  | nil => rfl
  | cons x xs ih => exact pass_cons_iff.mpr ⟨x,[],xs,rfl,ih,rfl⟩

variable (h : InSeries o fits inp sizes cells) (hs : Forall₂ (Forall₂ fits) sizes nested)
include h hs
theorem chain_kept (hx : inp x) (hchain : chain cells nested x = .ok (y,ends)) : Forall₂ (Forall₂ fits) sizes ends := by
  induction h generalizing nested x ends with
  | nil =>
    cases hchain
    exact .nil
  | cons hc _ _ ih =>
    obtain ⟨s,nested,hf,hrest,rfl⟩ := forall₂_cons_left_iff.mp hs
    obtain ⟨z,s',_,hstep,hothers,rfl⟩ := chain_cons_iff.mp hchain
    obtain ⟨hz,hf'⟩ := hc.2 _ _ _ _ hx hf hstep
    exact .cons hf' (ih hrest hz hothers)

theorem stacked_step_iff : (stacked cells).step x (joinStates nested) = .ok (y,after) ↔
    ∃ ends, chain cells nested x = .ok (y,ends) ∧ joinStates ends = after := by
  have hcounts : cells.map (·.count) = nested.map length := by
    induction h generalizing nested with
    | nil =>
      cases hs
      rfl
    | cons hc _ _ ih =>
      obtain ⟨s,nested,hf,hrest,rfl⟩ := forall₂_cons_left_iff.mp hs
      rw [map_cons,map_cons,ih hrest,hc.1,hf.length_eq]
  simp only [stacked,hcounts,splitStates,joinStates,← map_reverse,cut_flatten,reverse_reverse,bind_ok_iff]
  constructor
  · rintro ⟨⟨_,ends⟩,hchain,h⟩
    cases h
    exact ⟨ends,hchain,rfl⟩
  · rintro ⟨ends,hchain,rfl⟩
    exact ⟨_,hchain,rfl⟩

theorem pass_stacked_kept (hxs : ∀ x ∈ xs, inp x) (hpass :
    pass o (stacked cells) xs (joinStates nested) = .ok (ys,after)) : Forall₂ fits (joinStates sizes) after := by
  induction xs generalizing nested ys with
  | nil =>
    cases hpass
    exact rel_flatten (forall₂_reverse_iff.mpr hs)
  | cons x xs ih =>
    obtain ⟨hx,hxs⟩ := forall_mem_cons.mp hxs
    obtain ⟨y,_,rest,hstep,hpass,-⟩ := pass_cons_iff.mp hpass
    obtain ⟨ends,hchain,rfl⟩ := (stacked_step_iff h hs).mp hstep
    exact ih (chain_kept h hs hx hchain) hxs hpass

/-- The fold over time of a cell below others is the fold of the cell and then that of the others. -/
theorem pass_stacked_cons (hc : Keeps fits inp' inp first c)
    (hstack : Stackable o inp) (hxs : ∀ x ∈ xs, inp' x) (hf : Forall₂ fits first s) :
    pass o (stacked (c :: cells)) xs (joinStates (s :: nested)) = .ok (ys,after) ↔ ∃ mid s' rest, pass o c xs s =
    .ok (mid,s') ∧ pass o (stacked cells) mid (joinStates nested) = .ok (ys,rest) ∧ rest ++ s' = after := by
  induction xs generalizing s nested ys after with
  | nil => simp [pass,run,steps,fold,pure,Except.pure,joinStates]
  | cons x xs ih =>
    obtain ⟨hx,hxs⟩ := forall_mem_cons.mp hxs
    simp only [pass_cons_iff,stacked_step_iff (.cons hc hstack h) (.cons hf hs),chain_cons_iff]
    constructor
    · rintro ⟨z,_,zs,⟨_,⟨y,s₁,rest₁,hstep,hchain,rfl⟩,rfl⟩,hpass,rfl⟩
      obtain ⟨hy,hf'⟩ := hc.2 _ _ _ _ hx hf hstep
      obtain ⟨mid,s',rest,hown,hothers,rfl⟩ := (ih (chain_kept h hs hy hchain) hxs hf').mp hpass
      exact ⟨y :: mid,s',rest,⟨y,s₁,mid,hstep,hown,rfl⟩,pass_cons_iff.mpr
        ⟨z,_,zs,(stacked_step_iff h hs).mpr ⟨rest₁,hchain,rfl⟩,hothers,rfl⟩,rfl⟩
    · rintro ⟨_,s',rest,⟨y,s₁,mid,hstep,hown,rfl⟩,hothers,rfl⟩
      obtain ⟨z,_,zs,hz,hothers,rfl⟩ := pass_cons_iff.mp hothers
      obtain ⟨rest₁,hchain,rfl⟩ := (stacked_step_iff h hs).mp hz
      obtain ⟨hy,hf'⟩ := hc.2 _ _ _ _ hx hf hstep
      exact ⟨z,_,zs,⟨_,⟨y,s₁,rest₁,hstep,hchain,rfl⟩,rfl⟩,
        (ih (chain_kept h hs hy hchain) hxs hf').mpr ⟨mid,s',rest,hown,hothers,rfl⟩,rfl⟩

variable (hx : timeSteps o x = .ok xs) (hne : xs ≠ []) (hinp : ∀ x ∈ xs, inp x)
include hx hne hinp
/-- What the steps of the cells on top of each other give is what layers in series give. -/
theorem pass_stacked_iff (hnone : cells = [] → o.stack xs = .ok x) :
    (∃ ys, pass o (stacked cells) xs (joinStates nested) = .ok (ys,after) ∧ o.stack ys = .ok y) ↔ ∃ ends,
    chain (cells.map (layer o)) nested x = .ok (y,ends) ∧ joinStates ends = after := by
  induction h generalizing nested x xs after with
  | nil =>
    cases hs
    have hstack := hnone rfl
    constructor
    · rintro ⟨ys,hpass,hy⟩
      cases hpass.symm.trans (pass_stacked_nil xs)
      cases hy.symm.trans hstack
      exact ⟨[],rfl,rfl⟩
    · rintro ⟨_,hchain,rfl⟩
      cases hchain
      exact ⟨xs,pass_stacked_nil xs,hstack⟩
  | @cons inp out first c sizes cells hc hstack h ih =>
    obtain ⟨s,nested,hf,hs',rfl⟩ := forall₂_cons_left_iff.mp hs
    -- The sequence that the first layer gives comes apart into the outputs of its cell.
    have hfirst {mid s'} (hmid : pass o c xs s = .ok (mid,s')) : mid ≠ [] ∧ (∀ y ∈ mid, out y) ∧
        ∃ z, o.stack mid = .ok z ∧ timeSteps o z = .ok mid := by
      obtain ⟨hlen,hall⟩ := pass_kept hc hinp hf hmid
      have hmid : mid ≠ [] := ne_nil_of_length_pos (hlen ▸ length_pos_of_ne_nil hne)
      exact ⟨hmid,hall,hstack mid hmid hall⟩
    simp only [map_cons,chain_cons_iff,layer_step_iff hx,pass_stacked_cons h hs' hc hstack hinp hf]
    constructor
    · rintro ⟨ys,⟨mid,s',rest,hown,hothers,rfl⟩,hy⟩
      obtain ⟨hmid,hall,z,hz,hback⟩ := hfirst hown
      obtain ⟨ends,hchain,rfl⟩ := (ih hs' hback hmid hall fun _ => hz).mp ⟨ys,hothers,hy⟩
      exact ⟨_,⟨z,s',ends,⟨mid,hown,hz⟩,hchain,rfl⟩,by simp [joinStates]⟩
    · rintro ⟨_,⟨z,s',ends,⟨mid,hown,hz⟩,hchain,rfl⟩,rfl⟩
      obtain ⟨hmid,hall,z',hz',hback⟩ := hfirst hown
      cases hz.symm.trans hz'
      obtain ⟨ys,hothers,hy⟩ := (ih hs' hback hmid hall fun _ => hz).mpr ⟨ends,hchain,rfl⟩
      exact ⟨ys,⟨mid,s',_,hown,hothers,by simp [joinStates]⟩,hy⟩
omit h hs hx hne hinp
/-- A layer of cells on top of each other gives the outputs of as many layers in series, and the last states of these,
those of the last layer first. -/
theorem layer_stacked (hcells : InSeries o fits inp sizes cells) (hsome : cells ≠ [])
    (hstates : Forall₂ (Forall₂ fits) sizes nested) (hx : timeSteps o x = .ok xs) (hne : xs ≠ []) (hinp : ∀ x ∈ xs, inp x) :
    (layer o (stacked cells)).step x (joinStates nested) = .ok (y, after) ↔ ∃ ends,
      chain (cells.map (layer o)) nested x = .ok (y, ends) ∧ joinStates ends = after ∧
        Forall₂ fits (joinStates sizes) after := by
  rw [layer_step_iff hx]
  constructor
  · intro hlayer
    obtain ⟨ends, hchain, hends⟩ := (pass_stacked_iff hcells hstates hx hne hinp (absurd · hsome)).mp hlayer
    obtain ⟨ys, hpass, -⟩ := hlayer
    exact ⟨ends, hchain, hends, pass_stacked_kept hcells hstates hinp hpass⟩
  · rintro ⟨ends, hchain, hends, -⟩
    exact (pass_stacked_iff hcells hstates hx hne hinp (absurd · hsome)).mpr ⟨ends, hchain, hends⟩

/-- Sequences of numbers, one at each time. -/
def numberOps : SequenceOps Tried Nats where
  mul a _ := .ok a
  add a _ := .ok a
  complement := .ok
  rank _ := 3
  transpose _ := .ok
  toTruths := .ok
  widen := .ok
  unstack x := .ok (x.map ([·]))
  stack xs := .ok xs.flatten

/-- A cell that adds its input to its state. -/
def summing : RecurrentCell Tried Nats where
  count := 1
  step x s := let n := x.headD 0 + (s.headD []).headD 0; .ok ([n],[[n]])

theorem keeps_summing (inp : Nats → Prop) : Keeps (fun _ _ => True) inp (fun y => ∃ n, y = [n]) [()] summing := by
  refine ⟨rfl,?_⟩
  rintro _ _ _ _ - - ⟨⟩
  simp

theorem stackable_numbers : Stackable numberOps fun y => ∃ n, y = [n] := by
  refine fun ys hne hys => ⟨ys.flatten,rfl,congrArg Except.ok ?_⟩
  clear hne
  induction ys with
  | nil => rfl
  | cons y ys ih =>
    obtain ⟨⟨n,rfl⟩,hrest⟩ := forall_mem_cons.mp hys
    exact congrArg ([n] :: ·) (ih hrest)

theorem layer_stacked_summing : (layer numberOps (stacked [summing, summing])).step [1, 2] [[0], [0]] =
    .ok ([1, 4], [[4], [3]]) := by
  have hcells : InSeries numberOps _ (fun _ => True) [[()], [()]] [summing, summing] :=
    .cons (keeps_summing _) stackable_numbers (.cons (keeps_summing _) stackable_numbers .nil)
  have htimes : timeSteps numberOps [1, 2] = .ok [[1], [2]] := rfl
  have hstates : Forall₂ (Forall₂ fun (_ : Unit) (_ : Nats) => True) [[()], [()]] [[[0]], [[0]]] := by simp
  exact (layer_stacked hcells (by simp) hstates htimes (by simp) (by simp)).mpr
    ⟨[[[3]], [[4]]], rfl, rfl, by simp [joinStates]⟩
end TensorKit.Layers.Recurrence
