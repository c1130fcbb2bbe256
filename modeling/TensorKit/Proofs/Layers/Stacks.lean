import TensorKit.Layers.Topology
import Mathlib.Data.List.Basic
import Mathlib.Data.List.Induction

/-! # What a stack of layers shows

A tensor is known by the layers that it went through, so that what a model computes can be read off its output. What a
run gives follows the layers that were on the stack when the model was assembled, and not those that are on it.
-/
namespace TensorKit.Layers
open List
/-- A tensor without values: the layer that its input was made for, and the layers that it went through. -/
abbrev Trace (α : Type) := α × List α

/-- The tensors that a model starts from and the one that it gives. -/
abbrev Ends (α : Type) := List (Trace α) × Trace α

/-- A stack, and what the calls of each layer gave. -/
structure Bench (α : Type) where
  stack : Stack α (Trace α) (Ends α) := {}
  calls : α → List (Trace α) := fun _ => []

variable {α β : Type} [DecidableEq α]
def Bench.record (a : α) (t : Trace α) (w : Bench α) : Bench α :=
  { w with calls := fun b => w.calls b ++ if a = b then [t] else [] }
def noShape : Fault := .badValue
  "The first layer in a Sequential model must get an `inputShape` or `batchInputShape` argument."
def calledOften (n : Nat) : Fault := .badValue s!"the layer has {n} pre-existing inbound connections"

/-- Layers of which some have a shape of input, applied to tensors without values. -/
def benchHooks (hasShape : α → Bool) : StackHooks (EStateM Fault (Bench α)) α (Trace α) (Ends α) where
  get := return (← get).stack
  set s := modify fun w => { w with stack := s }
  start a := do
    match (← get).calls a with
    | [] =>
      if !hasShape a then throw noShape
      modify (·.record a (a,[a]))
      return ([(a,[])],(a,[a]))
    | [t] => return ([(t.1,[])],t)
    | ts => throw (calledOften ts.length)
  apply a t := do
    modify (·.record a (t.1,t.2 ++ [a]))
    return (t.1,t.2 ++ [a])
  outputOf a := do
    match (← get).calls a with
    | [t] => return t
    | ts => throw (calledOften ts.length)
  renew _ := pure ()
  assemble ins out := pure (ins,out)

inductive StackOp (α : Type) where
  | add (a : α)
  | pop
  | assemble
  | predict

/-- The bench that an operation leaves, even if it fails. -/
def leaves {γ : Type} : EStateM.Result Fault (Bench α) γ → Bench α
  | .ok _ w => w
  | .error _ w => w

variable (hasShape : α → Bool) (f : α → β → β) (ops : List (StackOp α))
def StackOp.perform (w : Bench α) : StackOp α → Bench α
  | .add a => leaves (((benchHooks hasShape).add a).run w)
  | .pop => leaves ((benchHooks hasShape).pop.run w)
  | .assemble => leaves ((benchHooks hasShape).assembled.run w)
  | .predict => leaves ((benchHooks hasShape).current.run w)

def benchAfter : Bench α := ops.foldl (StackOp.perform hasShape) {}
def compose (as : List α) (x : β) : β := as.foldl (fun y a => f a y) x

/-- What the model that runs computes, if its output comes from its inputs. -/
def prediction (x : β) (w : Bench α) : Tried β := match (benchHooks hasShape).current.run w with
  | .ok (ins,out) _ =>
    if (out.1,[]) ∈ ins then .ok (compose f out.2 x)
    else .error (.badValue "the output cannot be computed from the inputs")
  | .error e _ => .error e

/-! ## The layers that are shown -/

/-- The layers on a stack, and those of the model that runs. -/
structure Shown (α : Type) where
  layers : List α := []
  shown : Option (List α) := none

def Shown.assembled (r : Shown α) : Shown α := if r.layers = [] then r else { r with shown := some r.layers }

def Shown.step (r : Shown α) : StackOp α → Shown α
  | .add a => if r.layers = [] ∧ !hasShape a then r else { r with layers := r.layers ++ [a] }
  | .pop => { r with layers := r.layers.dropLast }
  | .assemble => r.assembled
  | .predict => if r.shown.isSome then r else r.assembled

def shownAfter : Shown α := ops.foldl (·.step hasShape ·) {}
def StackOp.added : StackOp α → List α
  | .add a => [a]
  | _ => []

/-- The ends of layers of which each is applied to what the one before it gives. -/
def ends : List α → Option (Ends α)
  | [] => none
  | a :: as => some ([(a,[])],(a,a :: as))

/-- A bench shows what is on the stack and what was assembled. Layers that were not used have not been called. -/
structure Bench.Shows (w : Bench α) (r : Shown α) (used : List α) : Prop where
  layers : w.stack.layers = r.layers
  ends : w.stack.output.map (w.stack.inputs,·) = ends r.layers
  model : w.stack.model = r.shown.bind Layers.ends
  assembled : ∀ as ∈ r.shown, as ≠ []
  given : ∀ as b, as ++ [b] <+: r.layers → w.calls b = ((Layers.ends (as ++ [b])).map (·.2)).toList
  fresh : ∀ a ∉ used, w.calls a = []

/-! ## Steps and runs -/

variable {hasShape} {w : Bench α} {r : Shown α} {used : List α}
namespace Bench.Shows
omit [DecidableEq α] in
theorem ends_eq (h : w.Shows r used) (he : Layers.ends r.layers = some ([(a,[])],(a,as))) :
    w.stack.inputs = [(a,[])] ∧ w.stack.output = some (a,as) := by
  obtain ⟨out,hout,hboth⟩ := Option.map_eq_some_iff.mp (h.ends.trans he)
  obtain ⟨hins,rfl⟩ := Prod.mk.inj hboth
  exact ⟨hins,hout⟩

theorem record (h : w.Shows r used) (ha : a ∉ used) (hc : r.layers ++ [a] = c :: as) :
    Bench.Shows { w.record a (c,c :: as) with
        stack := { w.stack with layers := c :: as, inputs := [(c,[])], output := some (c,c :: as) } }
      { r with layers := c :: as } (used ++ [a]) where
  layers := rfl
  ends := rfl
  model := h.model
  assembled := h.assembled
  given bs b hpre := by
    change w.calls b ++ _ = _
    rcases prefix_concat_iff.mp (hc ▸ hpre) with heq | hold
    · obtain ⟨-,rfl⟩ : bs = r.layers ∧ b = a := by simpa using heq
      simp [h.fresh b ha,heq,hc,Layers.ends]
    · -- A layer of the stack has been called, and so it is not the one that is added.
      have hne : a ≠ b := by
        rintro rfl
        have hcalls := h.given bs a hold
        rw [h.fresh a ha] at hcalls
        cases bs <;> cases hcalls
      simp [hne,h.given bs b hold]
  fresh b hb := by
    obtain ⟨hb,hne⟩ : b ∉ used ∧ b ≠ a := by simpa using hb
    simp [Bench.record,h.fresh b hb,Ne.symm hne]

theorem add (h : w.Shows r used) (ha : a ∉ used) :
    (StackOp.perform hasShape w (.add a)).Shows (r.step hasShape (.add a)) (used ++ [a]) := by
  have hlayers := h.layers
  cases hr : r.layers with
  | nil =>
    have hout : w.stack.output = none := by simpa [hr,Layers.ends] using h.ends
    cases hshape : hasShape a with
    | false =>
      have hold := { h with fresh := fun b hb => h.fresh b fun hmem => hb (mem_append_left [a] hmem) }
      simpa [StackOp.perform,StackHooks.add,benchHooks,Shown.step,leaves,hout,h.fresh a ha,hshape,hr] using hold
    | true =>
      have hnew := h.record ha (show r.layers ++ [a] = a :: [] by rw [hr]; rfl)
      simpa [StackOp.perform,StackHooks.add,benchHooks,Shown.step,leaves,hout,h.fresh a ha,hshape,hr,hlayers,
        Bench.record] using hnew
  | cons c cs =>
    obtain ⟨hins,hout⟩ := h.ends_eq (by rw [hr]; rfl)
    have hnew := h.record ha (show r.layers ++ [a] = c :: (cs ++ [a]) by rw [hr]; rfl)
    simpa [StackOp.perform,StackHooks.add,benchHooks,Shown.step,leaves,hout,hr,hlayers,hins,Bench.record] using hnew

theorem pop (h : w.Shows r used) : (StackOp.perform hasShape w .pop).Shows (r.step hasShape .pop) used := by
  have hlayers := h.layers
  rcases eq_nil_or_concat' r.layers with hnil | ⟨as,a,hlast⟩
  · obtain ⟨⟨layers,inputs,output,model⟩,calls⟩ := w
    obtain ⟨layers',shown⟩ := r
    cases hnil
    cases hlayers
    exact h
  have hgiven : ∀ bs b, bs ++ [b] <+: as → w.calls b = ((Layers.ends (bs ++ [b])).map (·.2)).toList := fun bs b hpre =>
    h.given bs b (hlast ▸ hpre.trans (prefix_append as [a]))
  rw [hlast] at hlayers
  rw [Shown.step,hlast,dropLast_concat]
  rcases eq_nil_or_concat' as with rfl | ⟨bs,b,rfl⟩
  · have hend : StackOp.perform hasShape w .pop = { w with stack := { w.stack with layers := [], output := none } } := by
      simp [StackOp.perform,StackHooks.pop,benchHooks,leaves,hlayers]
    rw [hend]
    exact { h with layers := rfl, ends := rfl, given := hgiven }
  · obtain ⟨c,cs,hcs⟩ := exists_cons_of_ne_nil (show bs ++ [b] ≠ [] by simp)
    have hcalls : w.calls b = [(c,c :: cs)] := by rw [hgiven bs b (prefix_refl _),hcs]; rfl
    have hend : StackOp.perform hasShape w .pop =
        { w with stack := { w.stack with layers := bs ++ [b], output := some (c,c :: cs) } } := by
      simp [StackOp.perform,StackHooks.pop,benchHooks,leaves,hlayers,hcalls]
    obtain ⟨hins,-⟩ := h.ends_eq (a := c) (by rw [hlast,hcs]; rfl)
    rw [hend]
    exact { h with layers := rfl, ends := by simp [hins,hcs,Layers.ends], given := hgiven }

variable (hasShape) in
/-- Assembling is where the layers on the stack become those that are shown. -/
theorem assemble (h : w.Shows r used) : (∃ e w',
    Layers.ends r.layers = some e ∧ (benchHooks hasShape).assembled.run w = .ok e w' ∧ w'.Shows r.assembled used) ∨
    r.layers = [] ∧ (∃ e, (benchHooks hasShape).assembled.run w = .error e w) ∧ w.Shows r.assembled used := by
  unfold Shown.assembled
  cases hr : r.layers with
  | nil =>
    have hout : w.stack.output = none := by simpa [hr,Layers.ends] using h.ends
    obtain ⟨⟨layers,inputs,output,model⟩,calls⟩ := w
    cases hout
    exact .inr ⟨rfl,by cases inputs <;> exact ⟨_,rfl⟩,by rwa [if_pos rfl]⟩
  | cons c cs =>
    obtain ⟨hins,hout⟩ := h.ends_eq (by rw [hr]; rfl)
    refine .inl ⟨_,{ w with stack := { w.stack with model := Layers.ends (c :: cs) } },rfl,?_,?_⟩
    · obtain ⟨⟨layers,inputs,output,model⟩,calls⟩ := w
      cases hins
      cases hout
      rfl
    · rw [if_neg (by simp),← hr]
      exact { h with model := rfl, assembled := by simp [hr] }

/-- A run shows the layers that were assembled, or else assembles those on the stack. -/
theorem predict (h : w.Shows r used) : (StackOp.perform hasShape w .predict).Shows (r.step hasShape .predict) used ∧
    ∀ x, r.layers ≠ [] → prediction hasShape f x w = .ok (compose f (r.shown.getD r.layers) x) := by
  have hget : (benchHooks hasShape).get.run w = .ok w.stack w := rfl
  have hmodel := h.model
  cases hshown : r.shown with
  | some as =>
    obtain ⟨a,as,rfl⟩ := exists_cons_of_ne_nil (h.assembled as hshown)
    rw [hshown,Option.bind_some,Layers.ends] at hmodel
    have hcurrent : (benchHooks hasShape).current.run w = .ok ([(a,[])],(a,a :: as)) w := by
      simp [StackHooks.current,hget,hmodel]
    simp [StackOp.perform,prediction,hcurrent,leaves,Shown.step,hshown,h]
  | none =>
    have hcurrent : (benchHooks hasShape).current.run w = (benchHooks hasShape).assembled.run w := by
      simp [StackHooks.current,hget,hmodel,hshown]
    rw [StackOp.perform,Shown.step,hshown]
    rcases h.assemble hasShape with ⟨e,w',he,hrun,hw'⟩ | ⟨hnil,⟨_,hrun⟩,hw⟩
    · refine ⟨by rwa [hcurrent,hrun],fun x hne => ?_⟩
      obtain ⟨a,as,hr⟩ := exists_cons_of_ne_nil hne
      rw [hr] at he
      cases he
      simp [prediction,hcurrent,hrun,hr]
    · exact ⟨by rwa [hcurrent,hrun],fun x hne => absurd hnil hne⟩

/-- One operation. -/
theorem step {op : StackOp α} (h : w.Shows r used) (hop : ∀ a ∈ op.added, a ∉ used) :
    (op.perform hasShape w).Shows (r.step hasShape op) (used ++ op.added) := by
  cases op with
  | add a => exact h.add (hop a (by simp [StackOp.added]))
  | pop => exact (append_nil used).symm ▸ h.pop
  | assemble =>
    simp only [StackOp.perform,StackOp.added,append_nil]
    rcases h.assemble hasShape with ⟨e,w',-,hrun,hw'⟩ | ⟨-,⟨_,hrun⟩,hw⟩ <;> rw [hrun] <;> assumption
  | predict => exact (append_nil used).symm ▸ (h.predict fun _ (y : Unit) => y).1
end Bench.Shows

/-- Operations one after the other, where each layer is added once. -/
theorem shows_after (hops : (ops.flatMap StackOp.added).Nodup) :
    (benchAfter hasShape ops).Shows (shownAfter hasShape ops) (ops.flatMap StackOp.added) := by
  induction ops using reverseRecOn with
  | nil => exact ⟨rfl,rfl,rfl,by simp [shownAfter],by simp [shownAfter],fun _ _ => rfl⟩
  | append_singleton ops op ih =>
    rw [flatMap_append,flatMap_singleton] at hops ⊢
    obtain ⟨hfirst,-,hdisjoint⟩ := nodup_append.mp hops
    rw [benchAfter,shownAfter,foldl_append,foldl_append]
    exact (ih hfirst).step fun a ha hmem => hdisjoint a hmem a ha rfl

variable (hasShape) in
/-- With layers that are each added once, a run gives what the layers compute that were on the stack when the model was
assembled, by the first run or on purpose after that. -/
theorem predict_shows_assembled {ops : List (StackOp α)} (hfresh : (ops.flatMap StackOp.added).Nodup) {r : Shown α}
    (hr : shownAfter hasShape ops = r) : (benchAfter hasShape ops).stack.layers = r.layers ∧
      ∀ x, r.layers ≠ [] →
        prediction hasShape f x (benchAfter hasShape ops) = .ok (compose f (r.shown.getD r.layers) x) := by
  have hshows := @shows_after _ _ hasShape ops hfresh
  rw [hr] at hshows
  exact ⟨hshows.layers, (hshows.predict f).2⟩

/-- Layers that write a digit each. The layer that was taken away is still shown, until the model is assembled again. -/
theorem predict_shows_assembled_digits :
    let ops : List (StackOp Nat) := [.add 1, .add 2, .predict, .pop]
    let f (a y : Nat) := 10 * y + a
    prediction (· == 1) f 0 (benchAfter (· == 1) ops) = .ok 12 ∧
      prediction (· == 1) f 0 (benchAfter (· == 1) (ops ++ [.assemble])) = .ok 1 := by
  intro ops f
  have hfresh : (ops.flatMap StackOp.added).Nodup := by decide
  have hfresh' : ((ops ++ [StackOp.assemble]).flatMap StackOp.added).Nodup := by decide
  exact ⟨(predict_shows_assembled (· == 1) f hfresh rfl).2 0 (by decide),
    (predict_shows_assembled (· == 1) f hfresh' rfl).2 0 (by decide)⟩

/-- A layer that is added after a run is not shown. -/
theorem predict_add_predict :
    let f (a y : Nat) := 10 * y + a
    let w := benchAfter (· == 1) [.add 1, .predict, .add 2]
    w.stack.layers = [1, 2] ∧ prediction (· == 1) f 0 w = .ok 1 ∧ compose f [1, 2] 0 = 12 :=
  ⟨rfl, rfl, rfl⟩
end TensorKit.Layers
