import Mathlib
import TensorKit.Layers.Execute

/-! # The masks that layers are called with

A mask that is handed to a call stays in force for the calls after it: each call gets the mask of its first input if
one of its inputs has a mask, and else the mask of the latest call before it that had one.
-/
namespace TensorKit.Layers
open List
variable {m : Type → Type} [Monad m] [MonadExceptOf Fault m] {τ : Type}
inductive Event (τ : Type) where
  | handed (mask : Option τ)
  | called (t : Nat)

/-- A call as a run comes to it, with the masks of its inputs. -/
structure MaskedCall (τ : Type) where
  tensor : Nat
  masks : List (Option τ)

namespace MaskedCall
def isMasked (c : MaskedCall τ) : Bool := c.masks.any (·.isSome)
def events (c : MaskedCall τ) : List (Event τ) :=
  (if c.isMasked then [.handed c.masks.head?.join] else []) ++ [.called c.tensor]
end MaskedCall
namespace Runner
/-- The runner that also notes what it does with masks. -/
@[simps]
def noting (r : Runner m τ) : Runner (StateT (List (Event τ)) m) τ where
  wiring := r.wiring
  isInput := r.isInput
  keepsValues := r.keepsValues
  masks := r.masks
  siblings t := r.siblings t
  handMask mask := do
    modify (· ++ [.handed mask])
    r.handMask mask
  apply t vs := do
    modify (· ++ [.called t])
    r.apply t vs
  maskOf t vs masks := r.maskOf t vs masks
  fit t v := r.fit t v
  isDisposed v := r.isDisposed v
  dispose vs := r.dispose vs

variable (r : Runner m τ) (given : Feeds τ) (wanted : Strings) (training : Bool)
/-- The call that a run makes for a tensor, if any. -/
def callAt (run : Run τ) (t : Nat) : List (MaskedCall τ) :=
  if r.isInput t then [] else [⟨t,(r.wiring.inputs t).map run.feeds.mask?⟩]

/-- A step of a run, with the calls up to it. -/
def listing (x : Run τ × List (MaskedCall τ)) (t : Nat) : m (Run τ × List (MaskedCall τ)) := do
  return (← visit r given wanted training x.1 t,x.2 ++ r.callAt x.1 t)
end Runner
section Noting
variable [LawfulMonad m] (r : Runner m τ) (given : Feeds τ) (wanted : Strings) (training : Bool)
theorem takeValue_noting (feeds : Feeds τ) (input : Nat) :
    takeValue r.noting feeds input = liftM (takeValue r feeds input) := by
  unfold takeValue
  cases feeds.value? input with
  | none => rfl
  | some v => exact (liftM_pure v).symm

omit [MonadExceptOf Fault m] [LawfulMonad m] in
theorem liftM_ite {α : Type} (c : Prop) [Decidable c] (x y : m α) :
    (liftM (if c then x else y) : StateT (List (Event τ)) m α) = if c then liftM x else liftM y := by
  split <;> rfl

theorem takeInputs_noting (inputs : Nats) (run : Run τ) :
    takeInputs r.noting given wanted training inputs run = liftM (takeInputs r given wanted training inputs run) := by
  induction inputs generalizing run with
  | nil => simp [takeInputs]
  | cons input rest ih => simp [takeInputs,takeValue_noting,ih,liftM_ite]

omit [MonadExceptOf Fault m] in
theorem enterOutputs_noting (mask : Option τ) (xs : List (Nat × Option τ)) (run : Run τ) :
    enterOutputs r.noting wanted mask xs run = liftM (enterOutputs r wanted mask xs run) := by
  induction xs generalizing run with
  | nil => simp [enterOutputs]
  | cons x xs ih => simp [enterOutputs,ih,liftM_ite]

theorem visit_noting (run : Run τ) (t : Nat) (es : List (Event τ)) :
    (visit r.noting given wanted training run t).run es = do
      return (← visit r given wanted training run t,es ++ (r.callAt run t).flatMap MaskedCall.events) := by
  cases hin : r.isInput t with
  | true => simp [visit,hin,Runner.callAt]
  | false =>
    cases hany : ((r.wiring.inputs t).map run.feeds.mask?).any (·.isSome) <;> cases hm : r.masks t <;>
      cases training <;> simp [visit,hin,hany,hm,takeInputs_noting,enterOutputs_noting,Runner.callAt,
        MaskedCall.events,MaskedCall.isMasked]

theorem run_noting (sorted : Nats) (run : Run τ) (calls : List (MaskedCall τ)) :
    (sorted.foldlM (visit r.noting given wanted training) run).run (calls.flatMap MaskedCall.events) =
    (fun x => (x.1,x.2.flatMap MaskedCall.events)) <$> sorted.foldlM (r.listing given wanted training) (run,calls) := by
  induction sorted generalizing run calls with
  | nil => simp
  | cons t ts ih =>
    have hstep run' := ih run' (calls ++ r.callAt run t)
    simp only [flatMap_append] at hstep
    simp [visit_noting,Runner.listing,hstep]
end Noting

/-! ## Masks in force -/

variable (own : Option τ) (es : List (Event τ)) (c : MaskedCall τ)
/-- The mask that a call would get after some events, where the caller gave one of its own at first. -/
def inForce : Option τ :=
  es.foldl (fun mask e => match e with
    | .handed mask' => mask'
    | .called _ => mask) own

/-- The mask that a call should get. -/
def MaskedCall.due : Option τ := if c.isMasked then c.masks.head?.join else none

theorem inForce_append_events :
    inForce own (es ++ c.events) = if c.isMasked then c.masks.head?.join else inForce own es := by
  cases h : c.isMasked <;> simp [inForce,MaskedCall.events,h]

theorem inForce_events (calls : List (MaskedCall τ)) : inForce own (calls.flatMap MaskedCall.events) =
    ((calls.reverse.find? MaskedCall.isMasked).map fun c => c.masks.head?.join).getD own := by
  induction calls using reverseRecOn with
  | nil => rfl
  | append_singleton calls c ih =>
    rw [flatMap_append,flatMap_singleton,inForce_append_events,ih]
    cases h : c.isMasked <;> simp [h]

/-- The masks that the layers get in a run, from what it notes. A call gets the mask it should get exactly if one of its
inputs has a mask or none is left in force by the latest call before it that had one. -/
theorem execute_masks [LawfulMonad m] (r : Runner m τ) (given : Feeds τ) (fetches sorted : List Nat)
    (counts : List (String × Int)) (training : Bool) (own : Option τ) :
    ((r.noting.execute given fetches sorted counts training).run [] = do
      let wanted := fetches.map r.wiring.name
      let (run, calls) ← sorted.foldlM (r.listing given wanted training) (.start given wanted counts, [])
      r.dispose (run.feeds.masks.map (·.2))
      return (run.outputs, calls.flatMap MaskedCall.events)) ∧
    ∀ (before : List (MaskedCall τ)) (c : MaskedCall τ),
      inForce own ((before ++ [c]).flatMap MaskedCall.events) = c.due ↔ c.isMasked = true ∨
        ((before.reverse.find? MaskedCall.isMasked).map fun c => c.masks.head?.join).getD own = none := by
  refine ⟨?_, fun before c => ?_⟩
  · simp only [Runner.execute, StateT.run_bind]
    rw [← List.flatMap_nil, run_noting]
    simp
  · rw [List.flatMap_append, List.flatMap_singleton, inForce_append_events, inForce_events, MaskedCall.due]
    cases c.isMasked <;> simp

/-- A layer gives a mask, which the one behind it is handed. Two layers beside them have nothing to do with it. -/
def branches : Runner (Tried) Nat where
  wiring := ⟨fun t => ["masking","left","source","right"].getD t "",fun t => [[],[0],[],[2]].getD t []⟩
  isInput _ := false
  keepsValues _ := false
  masks t := t == 0
  siblings t := pure [t]
  handMask _ := pure ()
  apply t _ := pure [t]
  maskOf _ _ _ := pure (some 7)
  fit t _ := pure t
  isDisposed _ := pure false
  dispose _ := pure ()

theorem execute_masks_branches : inForce none (([⟨0, []⟩, ⟨1, [some 7]⟩] : List (MaskedCall Nat)).flatMap
    MaskedCall.events) = some 7 :=
  ((execute_masks branches {} [1, 3] [0, 1, 2, 3] [] true none).2 [⟨0, []⟩] ⟨1, [some 7]⟩).mpr (.inl rfl)

/-- The mask of one branch is in force when the last layer of the other is called. -/
theorem branches_masks : ∃ es, (branches.noting.execute {} [1, 3] [0, 1, 2, 3] [] true).run [] =
    .ok ([some 1, some 3], es ++ [.called 3]) ∧ inForce none es = some 7 :=
  ⟨[.called 0, .handed (some 7), .called 1, .called 2], by cbv, rfl⟩
end TensorKit.Layers
