import TensorKit.Proofs.Ops.NewTensors
import TensorKit.Proofs.Autodiff.ChainRule
import TensorKit.Proofs.Engine.Nesting

/-! # Who owns a gradient

Rules make the gradients that they hand out, but for two: the remainder hands on the gradient of its result, and a split
may hand back that of one of its parts.
-/
namespace TensorKit.Autodiff
open List
open Engine Ops Operations
variable {D : Set Nat}
variable (x g : Tensor) (name : String) (gs : InputGradients) (shape out : Shape)
/-- Gradients that hand out tensors of `D` only, once `D` has all tensors that are still to be made. -/
class Lends (D : Set Nat) (gs : InputGradients) : Prop where
  each : ∀ g ∈ gs, Mints D g.2

instance lends_nil : Lends D [] := ⟨nofun⟩
instance lends_cons (g : Op) (gs : InputGradients) [hg : Mints D g] [hgs : Lends D gs] : Lends D ((name,g) :: gs) :=
  ⟨forall_mem_cons.mpr ⟨hg,hgs.each⟩⟩
instance lends_append (hs : InputGradients) [hgs : Lends D gs] [hhs : Lends D hs] : Lends D (gs ++ hs) :=
  ⟨forall_mem_append.mpr ⟨hgs.each,hhs.each⟩⟩

/-- A rule that is built from kernels and comes to such gradients. -/
class Grants (D : Set Nat) (x : Eng InputGradients) : Prop where
  built : Built x
  within : Ensures D x (Lends D ·)

instance grants_pure [h : Lends D gs] : Grants D (pure gs) := ⟨inferInstance,.pure h⟩
instance grants_bind {α : Type} {x : Eng α} {k : α → Eng InputGradients} [hx : Built x] [hk : ∀ a, Grants D (k a)] :
    Grants D (x >>= k) :=
  ⟨.bind hx fun a => (hk a).built,.bind hx (.triv x) fun a _ => (hk a).within⟩

/-- A gradient that is computed at once. -/
instance grants_made {x : Op} [hx : Mints D x] : Grants D (x >>= fun g => pure [(name,pure g)]) where
  built := .bind hx.built fun _ => inferInstance
  within := .bind hx.built hx.within fun g hg => by
    have := yields_pure hg
    exact .pure inferInstance

instance grants_made_two (name' : String) {x y : Op} [hx : Mints D x] [hy : Mints D y] : Grants D
    (x >>= fun g => y >>= fun g' => pure [(name,pure g),(name',pure g')]) where
  built := .bind hx.built fun _ => .bind hy.built fun _ => inferInstance
  within := .bind hx.built hx.within fun g hg => .bind hy.built hy.within fun g' hg' => by
    have := yields_pure hg
    have := yields_pure hg'
    exact .pure inferInstance

/-! ## Elementwise operations -/

-- a rule has many steps, and each of them counts
set_option synthInstance.maxSize 512
instance : Mints D (oneMinus x) := yields_bind
instance (op : UnaryOp) (s dy : Tensor) : Grants D (unaryGradient op s dy >>= fun g => pure [("$x",g)]) := by
  cases op <;> simp only [unaryGradient,bind_assoc,pure_bind] <;> infer_instance
instance : Built (foldStretched g shape out) := built_ite
instance : Built (foldToShape g shape out) := built_ite

theorem yields_foldToShape {g : Tensor} (hg : g.id ∈ D) (shape out : Shape) : Mints D (foldToShape g shape out) := by
  have : Mints D (pure g) := yields_pure fun t ht => by rwa [mem_singleton.mp ht]
  unfold foldToShape
  infer_instance
instance {x : Op} [hx : Mints D x] : Mints D (x >>= (foldToShape · shape out)) :=
  hx.bind (fun g hg => yields_foldToShape (hg g (mem_singleton_self g)) shape out) fun _ => inferInstance

theorem lends_binaryGradient (h : op = .mod → dy.id ∈ D) (out : Shape) (n : TapeNode) :
    Lends D (binaryGradient op out n dy) := by
  cases op with
  | mod =>
    have := yields_foldToShape (h rfl) (saved1 n).shape out
    unfold binaryGradient
    infer_instance
  | _ =>
    unfold binaryGradient
    infer_instance

/-! ## The other operations -/

instance (dy : Tensor) (reps : Nats) : Mints D (tileGradient x dy reps) := by
  have hsum : ∀ ks : Nats, Mints D (zerosLike x >>= fun z => ks.foldlM (fun g k => do
      let start := (Shape.coords reps k).zipWith (· * ·) x.shape
      add g (← sliceNat dy start x.shape)) z) := fun ks =>
    (inferInstance : Mints D (zerosLike x)).bind
      (fun z hz => yields_foldlM inferInstance (fun g k _ => inferInstance) ks hz) fun z => inferInstance
  unfold tileGradient
  infer_instance

instance (indices : Tensor) : Mints D (gatherOrZero x indices) := yields_bind
instance (indices dy : Tensor) (axis : Nat) (shape : Shape) : Mints D (gatherGradient indices dy axis shape) := yields_bind
instance (tA tB : Bool) (a b dy : Tensor) : Mints D (productGradients tA tB a b dy).1 := by
  cases tA <;> cases tB <;> simp only [productGradients] <;> infer_instance
instance (tA tB : Bool) (a b dy : Tensor) : Mints D (productGradients tA tB a b dy).2 := by
  cases tA <;> cases tB <;> simp only [productGradients] <;> infer_instance
instance (p : WindowParams) (start : String) : Built (requireUndilated p start) := built_ite
instance (activation : String) (dy y : Tensor) : Built (activationGradient activation dy y) := by
  unfold activationGradient
  split <;> infer_instance
instance (bias : Option Shape) (dy : Tensor) : Lends D (biasGradient bias dy) := by
  unfold biasGradient
  cases bias <;> infer_instance
instance (p : WindowParams) (x f dy : Tensor) : Lends D (conv2dGradients p x f dy) := lends_cons _ _ _
instance (mean : Tensor) (axes : Nats) (g : Tensor) : Mints D (sharedGradient mean axes g) := yields_ite

instance (mean inverse scaleValue dy : Tensor) (images : Shape) :
    Mints D (normalisedGradient x mean inverse scaleValue dy images) := by
  unfold normalisedGradient
  infer_instance

set_option synthInstance.maxSize 4096 in
instance (epsilon : Float) (n : TapeNode) (dy : Tensor) : Grants D (batchNormGradients epsilon n dy) := by
  unfold batchNormGradients
  cases n.saved[3]? <;> infer_instance

instance lends_map {β : Type} (bs : List β) (name : β → String) (g : β → Op) [h : ∀ b, Mints D (g b)] : Lends D (bs.map fun b => (name b,g b)) where
  each := by
    intro _ hmem
    obtain ⟨b,-,rfl⟩ := mem_map.mp hmem
    exact h b

/-- Rules that may hand on the gradient of a result instead of making a new one. -/
def handsOn : Rule → Bool
  | .binary .mod _ | .split _ => true
  | _ => false

theorem grants_backward (n : TapeNode)
    (h : handsOn rule → (dys.headD default).id ∈ D ∧ ∀ t ∈ dys, t.id ∈ D) : Grants D (backward n rule dys) := by
  cases rule with
  | savedZeros =>
    simp only [backward]
    split <;> infer_instance
  | binary op out =>
    have : Lends D (binaryGradient op out n (dys.headD default)) :=
      lends_binaryGradient (fun hop => (h (by rw [hop]; rfl)).1) out n
    unfold backward
    infer_instance
  | extremum axes perm => cases perm <;> simp only [backward,bind_pure] <;> infer_instance
  | split axis =>
    have := yields_concat (h rfl).2 axis
    unfold backward
    infer_instance
  | concat sizes axis =>
    have hparts : Yields D id (split (dys.headD default) (.sizes (nat sizes)) axis) := inferInstance
    refine ⟨.bind hparts.built fun _ => inferInstance,.bind hparts.built hparts.within fun parts hnew => .pure ⟨?_⟩⟩
    intro g hg
    obtain ⟨⟨t,i⟩,ht,rfl⟩ := mem_map.mp hg
    refine yields_pure fun u hu => ?_
    rw [mem_singleton.mp hu]
    exact hnew t (fst_mem_of_mem_zipIdx ht)
  | softmaxCrossEntropy dim =>
    let dy := dys.headD default
    let s := Axes.keepDims dy.shape [dim]
    have hboth : Grants D (do
        let labels ← (do mul (← reshapeTo dy s) (← sub (← toFloat (saved1 n)) (← exp (saved2 n))))
        let logits ← (do mul (← reshapeTo dy s) (← sub (← exp (saved2 n)) (← toFloat (saved1 n))))
        return [("0",pure labels),("1",pure logits)]) := inferInstance
    simpa only [backward,bind_assoc] using hboth
  | _ =>
    simp only [backward]
    infer_instance
end TensorKit.Autodiff

/-! # What a gradient leaves behind

Going back through a tape adds gradients up and disposes the old sums. These are mostly tensors that a rule made, but
may be lent: the gradient that the walk starts with, and whatever functions of the user give. A lent gradient that is
added to is disposed under the hands of its owner; otherwise the walk disposes nothing from before.
-/
open List
namespace TensorKit.Tape
open Autodiff (handsOn)
def isCustom : Rule → Bool
  | .custom _ => true
  | _ => false

/-- Whether an operation may pass on a gradient that it did not make. -/
def passesOn (lent : Nats) (n : TapeNode) : Bool :=
  n.rule.any fun rule => isCustom rule || handsOn rule && (n.outputs.isEmpty || n.outputs.any (lent.contains ·.id))

/-- Tensors whose gradient may be lent, when that of the tensors in `start` is. -/
def lent (start : Nats) : Tape → Nats
  | [] => start
  | n :: rest => if passesOn (lent start rest) n then n.inputs.map (·.2.id) ++ lent start rest else lent start rest

/-- The tensors that get a gradient on the way back from `y`, once for each time. -/
def arrivals (y : Nat) : Tape → Nats
  | [] => [y]
  | n :: rest => arrivals y rest ++ n.inputs.map (·.2.id)

/-- No tensor whose gradient may be lent gets a second one. -/
def LentOnce (start : Nats) (tape : Tape) (y : Nat) : Prop :=
  ∀ i ∈ lent start tape, (arrivals y tape).count i ≤ 1

variable {start : Nats} {n : TapeNode} {rest : Tape}
theorem mem_lent_cons (h : i ∈ lent start rest) : i ∈ lent start (n :: rest) := by
  unfold lent
  split
  · exact mem_append_right _ h
  · exact h

theorem input_mem_lent (h : passesOn (lent start rest) n = true)
    (hinput : input ∈ n.inputs) : input.2.id ∈ lent start (n :: rest) := by
  rw [lent,if_pos h]
  exact mem_append_left _ (mem_map_of_mem hinput)
end TensorKit.Tape
namespace TensorKit.Autodiff
open Engine Ops Operations Tape
variable {α β : Type} {D : Set Nat}

/-! ## Actions that may dispose -/

/-- An action that disposes only tensors of `D`, and has an answer with `Q`, once `D` has all tensors that are
still to be made. -/
structure Within (D : Set Nat) (x : Eng α) (Q : α → Prop) : Prop where
  works : ∀ e, Scoped e → (∀ i, e.cells.size ≤ i → i ∈ D) → Worked D e (after x e)
  answers : Ensures D x Q

namespace Within
variable {Q : α → Prop} {R : β → Prop}
theorem of_built (hb : Built x) (h : Ensures D x Q) : Within D x Q :=
  ⟨fun e hs _ => (hb.works e hs).mono (Set.empty_subset D),h⟩
theorem pure (h : Q a) : Within D (pure a) Q := .of_built inferInstance (.pure h)

theorem bind (hx : Within D x Q) (hk : ∀ a, Q a → Within D (k a) R) : Within D (x >>= k) R := by
  have hthen : ∀ e, Scoped e → (∀ i, e.cells.size ≤ i → i ∈ D) → ∀ a e', x e = .ok a e' →
      Q a ∧ Worked D e e' ∧ ∀ i, e'.cells.size ≤ i → i ∈ D := by
    intro e hs hD a e' hrun
    have hfirst := hx.works e hs hD
    rw [after_ok hrun] at hfirst
    exact ⟨hx.answers e hs hD a e' hrun,hfirst,fun i hi => hD i (hfirst.foot.size.trans hi)⟩
  constructor
  · intro e hs hD
    rw [after_bind]
    cases hrun : x e with
    | ok a e' =>
      obtain ⟨ha,hfirst,hD'⟩ := hthen e hs hD a e' hrun
      exact hfirst.trans ((hk a ha).works e' hfirst.foot.stack hD')
    | error f e' =>
      have hfirst := hx.works e hs hD
      rwa [after_error hrun] at hfirst
  · intro e hs hD b e'' hboth
    rw [run_bind] at hboth
    cases hrun : x e with
    | error f e' => rw [hrun] at hboth; cases hboth
    | ok a e' =>
      rw [hrun] at hboth
      obtain ⟨ha,hfirst,hD'⟩ := hthen e hs hD a e' hrun
      exact (hk a ha).answers e' hfirst.foot.stack hD' b e'' hboth
end Within

variable {e : Engine} {e' : Engine}
theorem worked_of_disposes (h : Disposes S e e') (hs : Scoped e) (hS : S ⊆ D)
    (hrecord : record e' = record e) : Worked D e e' := by
  refine (h.footprint hs hS hrecord).worked (congrArg Prod.fst hrecord) fun i hi => ?_
  rw [h.fades.kept,cellAt_of_le hi]

theorem within_dispose (ht : t.id ∈ D) : Within D (dispose t) fun _ => True where
  works e hs _ := by
    rw [after_ok (run_dispose t e)]
    exact worked_of_disposes (disposes_discarded e t) hs (Set.singleton_subset_iff.mpr ht) (record_discarded e t)
  answers := .triv _

/-! ## One step back -/

section
variable {custom : CustomGradient Eng} {n : TapeNode} {grads : InputGradients} {owed arrived : Nats}
  {found : Found Tensor}

instance (n : TapeNode) (name : String) (x dx : Tensor) : Built (requireGradient n name x dx) := built_ite

theorem within_accept (n : TapeNode) (name : String) (x : Tensor) {g : Op} (hb : Built g) :
    Within D ((tensorCalculus custom).accept n name x g) fun dx => Mints D g → dx.id ∈ D := by
  have hscope : Ensures D (scopedWith HasTensors.tensors unnamed g)
      fun dx => Mints D g → dx.id ∈ D := by
    refine .scope _ _ fun e hs hD dx e' hrun hg => ?_
    exact hg.within e hs hD dx e' hrun dx (mem_singleton_self dx)
  refine (Within.of_built (.scope _ _ hb) hscope).bind fun dx hdx => ?_
  exact (Within.of_built (inferInstanceAs (Built (requireGradient n name x dx))) (.triv _)).bind fun _ _ => .pure hdx

theorem within_add (ha : a.id ∈ D) (b : Tensor) : Within D ((tensorCalculus custom).add a b) fun s => s.id ∈ D := by
  have hadd : Mints D (Ops.add a b) := inferInstance
  refine (Within.of_built hadd.built hadd.within).bind fun s hs => ?_
  exact (within_dispose ha).bind fun _ _ => .pure (hs s (mem_singleton_self s))

theorem within_missing (n : TapeNode) (name : String) (known : Strings) :
    Within D ((tensorCalculus custom).missing n name known) fun _ => False :=
  .of_built (built_fail _) (.fail _)

theorem within_collect (n : TapeNode) (hb : ∀ g ∈ grads, Built g.2) (input : String × Tensor) (hold : ∀ g, found.lookup
    input.2.id = some g → g.id ∈ D) : Within D (collect (tensorCalculus custom) n grads found input) fun found' =>
    ∃ dx, found' = found.put input.2.id dx ∧ (Lends D grads → dx.id ∈ D) := by
  unfold collect
  cases hg : grads.lookup input.1 with
  | none => exact (within_missing n input.1 _).bind fun _ h => h.elim
  | some g =>
    obtain ⟨before,behind,rfl,-⟩ := lookup_eq_some_iff.mp hg
    have hmem : (input.1,g) ∈ before ++ (input.1,g) :: behind := mem_append_right _ mem_cons_self
    refine (within_accept n input.1 input.2 (hb _ hmem)).bind fun dx hdx => ?_
    cases hfound : found.lookup input.2.id with
    | none => exact .pure ⟨dx,rfl,fun hlends => hdx (hlends.each _ hmem)⟩
    | some old => exact (within_add (hold old hfound) dx).bind fun s hs => .pure ⟨s,rfl,fun _ => hs⟩

/-- What was found is lent or in `D`, and found for tensors at which a gradient arrived. -/
structure Fair (D : Set Nat) (lent arrived : Nats) (found : Found Tensor) : Prop where
  owned : ∀ k g, found.lookup k = some g → k ∈ lent ∨ g.id ∈ D
  reached : ∀ k g, found.lookup k = some g → k ∈ arrived

theorem Fair.set (h : Fair D owed arrived found) (hg : k ∈ owed ∨ g.id ∈ D) :
    Fair D owed (arrived ++ [k]) (found.put k g) := by
  constructor
  · intro j u hj
    rw [lookup_put] at hj
    split at hj
    next hjk =>
      cases hj
      exact hjk ▸ hg
    next => exact h.owned j u hj
  · intro j u hj
    rw [lookup_put] at hj
    split at hj
    next hjk => simp [hjk]
    next => exact mem_append_left _ (h.reached j u hj)

theorem within_collects (n : TapeNode) (hb : ∀ g ∈ grads, Built g.2) {inputs : Named Tensor} (hfair : Fair D
    owed arrived found) (hgrads : Lends D grads ∨ ∀ input ∈ inputs, input.2.id ∈ owed) (honce : D = .univ ∨
    ∀ i ∈ owed, (arrived ++ inputs.map (·.2.id)).count i ≤ 1) : Within D (inputs.foldlM (collect (tensorCalculus custom)
    n grads) found) (Fair D owed (arrived ++ inputs.map (·.2.id))) := by
  induction inputs generalizing found arrived with
  | nil =>
    rw [map_nil,append_nil]
    exact .pure hfair
  | cons input inputs ih =>
    have hold : ∀ g, found.lookup input.2.id = some g → g.id ∈ D := by
      intro g hg
      rcases honce with rfl | honce
      · exact Set.mem_univ g.id
      · -- a lent gradient that has arrived would be followed by a second one
        refine (hfair.owned _ g hg).resolve_left fun hlent => ?_
        have hfew := honce _ hlent
        have harrived := one_le_count_iff.mpr (hfair.reached _ g hg)
        rw [map_cons,count_append,count_cons_self] at hfew
        omega
    have hsplit : arrived ++ (input :: inputs).map (·.2.id) = arrived ++ [input.2.id] ++ inputs.map (·.2.id) := by simp
    rw [hsplit] at honce ⊢
    refine (within_collect n hb input hold).bind fun found' => ?_
    rintro ⟨dx,rfl,hdx⟩
    refine ih (hfair.set ?_) (hgrads.imp_right fun h i hi => h i (mem_cons_of_mem _ hi)) honce
    exact hgrads.elim (fun hl => .inr (hdx hl)) fun h => .inl (h input mem_cons_self)

instance (o : Tensor) : Mints D ((tensorCalculus custom).zero o) := by
  unfold tensorCalculus
  dsimp only [liftM,monadLift]
  infer_instance

theorem within_pull (hcustom : ∀ handle dys saved, Built (custom handle dys saved)) (hown : ∀ rule,
    n.rule = some rule → passesOn owed n = false → handsOn rule → (dys.headD default).id ∈ D ∧ ∀ t ∈ dys, t.id ∈ D) :
    Within D (pull custom n dys) fun grads => (∀ g ∈ grads, Built g.2) ∧ (passesOn owed n = false → Lends D grads) := by
  unfold pull
  split
  next => exact .of_built (built_fail _) (.fail _)
  next handle hrule =>
    refine (Within.of_built (hcustom handle dys n.saved) (.triv _)).bind fun gs _ => .pure ⟨?_,?_⟩
    · intro g hg
      obtain ⟨⟨t,i⟩,-,rfl⟩ := mem_map.mp hg
      exact built_pure t
    · intro hkeeps
      simp [passesOn,hrule,isCustom] at hkeeps
  next rule hother hrule =>
    have hall : Grants .univ (backward n rule dys) := grants_backward n fun _ => by simp
    have hgrants : Ensures D (backward n rule dys) fun gs =>
        (∀ g ∈ gs, Built g.2) ∧ (passesOn owed n = false → Lends D gs) := by
      refine fun e hs hD gs e' hrun => ⟨fun g hg => ?_,fun hkeeps => ?_⟩
      · exact ((hall.within e hs (fun _ _ => trivial) gs e' hrun).each g hg).built
      · exact (grants_backward n (hown rule hrule hkeeps)).within e hs hD gs e' hrun
    refine (Within.of_built hall.built hgrants).bind fun gs hgs => ?_
    exact (map_id gs).symm ▸ .pure hgs

theorem Fair.mono (h : Fair D owed arrived found) (hlent : ∀ i ∈ owed, i ∈ owed') : Fair D owed' arrived found :=
  ⟨fun k g hk => (h.owned k g hk).imp_left (hlent k),h.reached⟩
def resultGradient (custom : CustomGradient Eng) (found : Found Tensor) (o : Tensor) : Op :=
  match found.lookup o.id with
  | some g => pure g
  | none => (tensorCalculus custom).zero o
instance (found : Found Tensor) (o : Tensor) : Built (resultGradient custom found o) := by
  unfold resultGradient
  cases found.lookup o.id <;> infer_instance

theorem stepBack_def (n : TapeNode) (found : Found Tensor) : stepBack (tensorCalculus custom) n found = n.outputs.mapM
    (resultGradient custom found) >>= fun dys => pull custom n dys >>= fun grads => n.inputs.foldlM
    (collect (tensorCalculus custom) n grads) found := by
  refine congrArg (fun f => n.outputs.mapM f >>= _) (funext fun o => ?_)
  unfold resultGradient
  cases found.lookup o.id <;> rfl

theorem within_results (n : TapeNode) (hfair : Fair D owed arrived found) : Within D (n.outputs.mapM (resultGradient
    custom found)) fun dys => ∀ rule, n.rule = some rule → passesOn owed n = false → handsOn rule →
    (dys.headD default).id ∈ D ∧ ∀ t ∈ dys, t.id ∈ D := by
  have hone : ∀ o ∈ n.outputs, Ensures D (resultGradient custom found o)
      fun g => (∃ o ∈ n.outputs, o.id ∈ owed) ∨ g.id ∈ D := by
    intro o ho
    unfold resultGradient
    cases hfound : found.lookup o.id with
    | some g => exact .pure ((hfair.owned o.id g hfound).imp_left fun h => ⟨o,ho,h⟩)
    | none =>
      have hzero : Mints D ((tensorCalculus custom).zero o) := inferInstance
      exact hzero.within.imp fun g hg => .inr (hg g (mem_singleton_self g))
  refine .of_built inferInstance ((Ensures.mapM inferInstance hone).imp fun dys hdys rule hrule hkeeps hhands => ?_)
  obtain ⟨hlength,hdys⟩ := hdys
  obtain ⟨-,hnone⟩ : isCustom rule = false ∧ n.outputs ≠ [] ∧ ∀ o ∈ n.outputs, o.id ∉ owed := by
    simpa [passesOn,hrule,hhands] using hkeeps
  have hall : ∀ t ∈ dys, t.id ∈ D := fun t ht => (hdys t ht).resolve_left fun ⟨o,ho,hlent⟩ => hnone.2 o ho hlent
  refine ⟨?_,hall⟩
  cases dys with
  | nil => exact absurd (length_eq_zero_iff.mp hlength.symm) hnone.1
  | cons t dys => exact hall t mem_cons_self

variable (hcustom : ∀ handle dys saved, Built (custom handle dys saved))
include hcustom
/-- One step back: what is found stays fair, as long as no lent gradient gets a second one. -/
theorem within_stepBack {rest : Tape} (hfair : Fair D (lent start rest) arrived found)
    (honce : D = .univ ∨ ∀ i ∈ lent start (n :: rest), (arrived ++ n.inputs.map (·.2.id)).count i ≤ 1) : Within
    D (stepBack (tensorCalculus custom) n found) (Fair D (lent start (n :: rest)) (arrived ++ n.inputs.map (·.2.id))) :=
    by
  rw [stepBack_def]
  refine (within_results n hfair).bind fun dys hdys => (within_pull hcustom hdys).bind fun grads hgrads => ?_
  refine within_collects n hgrads.1 (hfair.mono fun _ => mem_lent_cons) ?_ honce
  cases hpass : passesOn (lent start rest) n with
  | false => exact .inl (hgrads.2 hpass)
  | true => exact .inr fun input => input_mem_lent hpass

theorem within_backpropagate (tape : Tape) (hstart : y ∈ start ∨ dy.id ∈ D)
    (honce : D = .univ ∨ LentOnce start tape y) :
    Within D (backpropagate (tensorCalculus custom) tape [(y,dy)]) (Fair D (lent start tape) (arrivals y tape)) := by
  induction tape with
  | nil =>
    have hfound : ∀ k g, List.lookup k [(y,dy)] = some g → k = y ∧ dy = g := by
      intro k g hk
      rw [lookup_cons] at hk
      split at hk
      next hky => exact ⟨beq_iff_eq.mp hky,Option.some.inj hk⟩
      next => cases hk
    refine .pure ⟨fun k g hk => ?_,fun k g hk => ?_⟩
    · obtain ⟨rfl,rfl⟩ := hfound k g hk
      exact hstart
    · exact mem_singleton.mpr (hfound k g hk).1
  | cons n rest ih =>
    have hrest : D = .univ ∨ LentOnce start rest y := honce.imp_right fun h i hi => by
      have hall := h i (mem_lent_cons hi)
      rw [arrivals,count_append] at hall
      omega
    rw [backpropagate_cons]
    exact (ih hrest).bind fun found hfair => within_stepBack hcustom hfair honce
end

/-! ## The tape -/

def taped (e : Engine) : Engine :=
  { e with
    tape := if e.gradientDepth == 0 then #[] else e.tape
    gradientDepth := e.gradientDepth + 1 }
def untaped (e : Engine) : Engine := { e with gradientDepth := e.gradientDepth - 1 }
def emptied (e : Engine) : Engine := { e with tape := #[] }

theorem run_recording (x : Eng α) (e : Engine) :
    recording x e = match x (taped e) with
      | .ok r e' => .ok r (untaped e')
      | .error f e' => .error f (untaped e') := by
  have hstart : (liftM startTape : Eng Unit) e = .ok () (taped e) := rfl
  simp only [recording,run_bind,hstart,tryCatch,tryCatchThe,MonadExceptOf.tryCatch,EStateM.tryCatch]
  cases x (taped e) with
  | ok r e' | error f e' => rfl

theorem footprint_untaped (h : Footprint D (taped e) e') : Footprint D e (untaped e') := by
  have hdepths := h.depths
  simp only [record,taped,Prod.mk.injEq] at hdepths
  refine { h with stack := h.stack.like rfl, depths := ?_ }
  simp only [record,untaped,hdepths,Nat.add_sub_cancel]

theorem booked_taped (h : e.gradientDepth = 0) : Booked e.cells.size [] (taped e) where
  saved node hnode := by simp [taped,h] at hnode
  kept i hi hkept _ := by
    change (e.cellAt i).kept = true at hkept
    rw [cellAt_of_le hi] at hkept
    cases hkept

theorem after_recording {x : Eng α} (hx : Built x) (hs : Scoped e) (h : e.gradientDepth = 0) :
    Footprint ∅ e (after (recording x) e) ∧ Booked e.cells.size [] (after (recording x) e) := by
  have hinner := hx.works (taped e) (hs.like rfl)
  have hbooked := hinner.kept e.cells.size le_rfl (booked_taped h)
  unfold Engine.after at hinner hbooked ⊢
  rw [run_recording]
  cases hrun : x (taped e) with
  | ok r e' | error f e' =>
    rw [hrun] at hinner hbooked
    exact ⟨footprint_untaped hinner.foot,hbooked.saved,hbooked.kept⟩

theorem run_clearTape (h : e.gradientDepth = 0) :
    ∃ e', clearTape e = .ok () (emptied e') ∧ Disposes {i | Saved e i} e e' ∧ record e' = record e := by
  refine ⟨(e.tape.toList.flatMap (·.saved)).foldl discarded e,?_,?_,view_foldl record_discarded _ e⟩
  · have hnode : ∀ (n : TapeNode) e, (forIn n.saved .unit fun t _ => do
        Engine.dispose t
        pure (.yield .unit) : Eng PUnit) e = .ok ⟨⟩ (n.saved.foldl discarded e) := fun n e =>
      run_forIn_yield n.saved (fun t e => by rw [run_bind_ok (run_dispose t e)]; rfl) e
    rw [clearTape,run_bind_ok (run_get e),if_pos (by simp [h]),run_bind_ok (run_get e),← Array.forIn_toList,
      run_bind_ok (run_forIn_yield e.tape.toList (g := fun e n => n.saved.foldl discarded e) (fun n e => ?_) e),
      foldl_flatMap]
    · rfl
    · rw [run_bind_ok (hnode n e)]
      rfl
  · have hsaved : {i | Saved e i} = {i | ∃ t ∈ e.tape.toList.flatMap (·.saved), i ∈ ({t.id} : Set Nat)} := by
      ext i
      constructor
      · rintro ⟨node,hnode,t,ht,rfl⟩
        exact ⟨t,mem_flatMap.mpr ⟨node,hnode,ht⟩,rfl⟩
      · rintro ⟨t,ht,rfl⟩
        obtain ⟨node,hnode,ht⟩ := mem_flatMap.mp ht
        exact ⟨node,hnode,t,ht,rfl⟩
    rw [hsaved]
    exact addsUp_disposes.foldl _ fun e' _ t _ => disposes_discarded e' t

theorem footprint_emptied (h : Footprint D e e') : Footprint D e (emptied e') := { h with stack := h.stack.like rfl }

theorem booked_emptied (h : Booked n [] e) (hgone : ∀ i, Saved e i → (e.cellAt i).disposed = true) :
    Booked n [] (emptied e) where
  saved node hnode := absurd hnode not_mem_nil
  kept i hi hkept hlive := by
    rcases h.kept i hi hkept hlive with hsaved | hother
    · change (e.cellAt i).disposed = false at hlive
      rw [hgone i hsaved] at hlive
      cases hlive
    · exact .inr hother

/-- How the way back ends: with a footprint in `D` and all that is kept accounted for. If it answers, all that
was saved before is disposed, and the tape is empty. -/
structure Ends (D : Set Nat) (n : Nat) (x : Eng β) (e : Engine) : Prop where
  foot : Footprint D e (after x e)
  booked : Booked n [] (after x e)
  cleared : ∀ b e', x e = .ok b e' → e'.tape = #[] ∧ ∀ i, Saved e i → (e'.cellAt i).disposed = true

section
variable {x : Eng β} {e e' : Engine} {n : Nat}
theorem Ends.of_error (hrun : x e = .error f e') (hfoot : Footprint D e e') (hb : Booked n [] e') : Ends D n x e := by
  rw [← after_error hrun] at hfoot hb
  exact ⟨hfoot,hb,fun b e'' hok => by rw [hrun] at hok; cases hok⟩

theorem Ends.of_ok (hrun : x e = .ok b e') (hfoot : Footprint D e e') (hb : Booked n [] e')
    (htape : e'.tape = #[]) (hgone : ∀ i, Saved e i → (e'.cellAt i).disposed = true) : Ends D n x e := by
  refine ⟨by rwa [after_ok hrun],by rwa [after_ok hrun],fun b e'' hok => ?_⟩
  rw [hrun] at hok
  cases hok
  exact ⟨htape,hgone⟩

theorem ends_clearing (hpre : Within D pre Q) (k : α → β) (hs : Scoped e)
    (hdepth : e.gradientDepth = 0) (hn : n ≤ e.cells.size) (hD : ∀ i, n ≤ i → i ∈ D) (hb : Booked n [] e) :
    Ends D n (pre >>= fun a => clearTape >>= fun _ => pure (k a)) e := by
  have hfirst := hpre.works e hs fun i hi => hD i (hn.trans hi)
  have hbooked := hfirst.kept n hn hb
  cases hrun : pre e with
  | error f e₁ =>
    rw [after_error hrun] at hfirst hbooked
    exact .of_error (by rw [run_bind,hrun]) hfirst.foot hbooked
  | ok a e₁ =>
    rw [after_ok hrun] at hfirst hbooked
    have hdepth₁ : e₁.gradientDepth = 0 := (congrArg Prod.fst hfirst.foot.depths).trans hdepth
    obtain ⟨e₂,hclear,hgone,hrecord⟩ := run_clearTape hdepth₁
    have htape : e₂.tape = e₁.tape := congrArg Prod.fst hrecord
    have hboth : (pre >>= fun a => clearTape >>= fun _ => pure (k a)) e = .ok (k a) (emptied e₂) := by
      rw [run_bind_ok hrun,run_bind_ok hclear]
      rfl
    have hsaved : {i | Saved e₁ i} ⊆ D := by
      rintro i ⟨node,hnode,t,ht,rfl⟩
      exact hD _ (hbooked.saved node hnode t ht)
    have hfoot : Footprint D e₁ e₂ := hgone.footprint hfirst.foot.stack hsaved hrecord
    refine .of_ok hboth (footprint_emptied (hfirst.foot.trans hfoot)) (booked_emptied ?_ ?_) rfl ?_
    · exact hfoot.booked htape (fun i hi => by rw [hgone.fades.kept,cellAt_of_le hi]) hbooked
    · rintro i ⟨node,hnode,hsaved⟩
      exact (hgone.disposed i).mpr (.inr (.inl ⟨node,htape ▸ hnode,hsaved⟩))
    · rintro i ⟨node,hnode,ht⟩
      exact (hgone.disposed i).mpr (.inr (.inl ⟨node,hfirst.tape node hnode,ht⟩))

theorem Ends.scope (tensors : β → Tensors) (name : String) (hs : Scoped e) (h : Ends D n x (e.opened name)) :
    Ends D n (scopedWith tensors name x) e := by
  obtain ⟨hfoot,hbooked,hcleared⟩ := h
  have hrun := run_scopedWith tensors name x e
  cases hx : x (e.opened name) with
  | error f e' =>
    rw [hx] at hrun
    rw [after_error hx] at hfoot hbooked
    exact .of_error hrun (hfoot.closed hs []) (hbooked.closed [])
  | ok b e' =>
    rw [hx] at hrun
    rw [after_ok hx] at hfoot hbooked
    obtain ⟨htape,hgone⟩ := hcleared b e' hx
    refine .of_ok hrun (hfoot.closed hs (tensors b)) (hbooked.closed (tensors b)) ?_ fun i hi => ?_
    · exact (congrArg Prod.fst (record_closed e' (tensors b))).trans htape
    · by_contra hlive
      have hbefore := live_of_closed (Bool.eq_false_of_not_eq_true hlive)
      rw [hgone i hi] at hbefore
      cases hbefore
end
section
variable {custom : CustomGradient Eng}
theorem ends_walkBack (hcustom : ∀ handle dys saved, Built (custom handle dys saved))
    (xs : Tensors) (y : Tensor) (tape : Tape) (hstart : ∀ d, dy = some d → y.id ∈ start ∨ d.id ∈ D)
    (honce : D = .univ ∨ LentOnce start tape y.id) (hs : Scoped e) (hdepth : e.gradientDepth = 0) (hn :
    n ≤ e.cells.size) (hD : ∀ i, n ≤ i → i ∈ D) (hb : Booked n [] e) : Ends D n (walkBack custom xs dy y tape) e := by
  refine .scope _ _ hs ?_
  have hopened : Booked n [] (e.opened "backward") := ⟨hb.saved,hb.kept⟩
  cases dy with
  | some d =>
    have hway := within_backpropagate hcustom tape (hstart d rfl) honce
    exact ends_clearing hway _ (hs.opened _) hdepth hn hD hopened
  | none =>
    have hones : Mints D (ones y.shape .float32) := inferInstance
    have hway := (Within.of_built hones.built hones.within).bind fun s hs =>
      within_backpropagate hcustom tape (.inr (hs s (mem_singleton_self s))) honce
    have hends := ends_clearing hway (fun found => (⟨y,xs.map (found.lookup ·.id)⟩ : Differentiated))
      (hs.opened "backward") hdepth hn hD hopened
    rwa [bind_assoc] at hends

/-! ## The whole call -/

/-- The function runs once while a tape records it. -/
def recorded (f : Op) : Op := recording (scopedWith HasTensors.tensors "forward" f)

/-- The operations on the tape that lead from `xs` to `y`. -/
def wayBack (xs : Tensors) (y : Tensor) (e : Engine) : Tape := between e.tape.toList (xs.map (·.id)) y.id

theorem run_gradients_checked (custom : CustomGradient Eng) (f : Op) (xs : Tensors) (dy : Option Tensor)
    (allowNone : Bool) (e : Engine) : (∃ fault, gradients custom f xs dy allowNone e = .error fault e) ∨ ∃ k : Tensor →
    Eng Differentiated, gradients custom f xs dy allowNone e = (recorded f >>= k) e ∧ ∀ y e₁, (∃ fault, k y e₁ = .error
    fault e₁) ∨ k y e₁ = walkBack custom xs dy y (wayBack xs y e₁) e₁ := by
  have hwalk : ∀ y e₁ message, let k : Eng Differentiated := do
        let e ← get
        if !allowNone && (wayBack xs y e).isEmpty then fail message
        walkBack custom xs dy y (wayBack xs y e)
      (∃ fault, k e₁ = .error fault e₁) ∨ k e₁ = walkBack custom xs dy y (wayBack xs y e₁) e₁ := by
    intro y e₁ message
    dsimp only
    rw [run_bind_ok (run_get e₁)]
    split
    · exact .inl ⟨_,rfl⟩
    · exact .inr rfl
  unfold gradients
  by_cases hxs : xs.isEmpty
  · exact .inl ⟨_,by rw [if_pos hxs]; rfl⟩
  rw [if_neg hxs]
  cases dy with
  | none => exact .inr ⟨_,rfl,fun y e₁ => hwalk y e₁ _⟩
  | some d =>
    by_cases hd : d.dtype != .float32
    · exact .inl ⟨_,by simp only [if_pos hd]; rfl⟩
    · simp only [if_neg hd]
      exact .inr ⟨_,rfl,fun y e₁ => hwalk y e₁ _⟩

/-- A call fails at once, or after the function ran, or it walks back. -/
theorem run_gradients (custom : CustomGradient Eng) (f : Op) (xs : Tensors) (dy : Option Tensor)
    (allowNone : Bool) (e : Engine) : (∃ fault, gradients custom f xs dy allowNone e = .error fault e) ∨ (∃ fault,
    gradients custom f xs dy allowNone e = .error fault (after (recorded f) e)) ∨ ∃ y e₁, recorded f e = .ok y e₁ ∧
    gradients custom f xs dy allowNone e = walkBack custom xs dy y (wayBack xs y e₁) e₁ := by
  rcases run_gradients_checked custom f xs dy allowNone e with hrefused | ⟨k,hrun,hk⟩
  · exact .inl hrefused
  rw [hrun]
  cases hf : recorded f e with
  | error fault e₁ =>
    rw [run_bind,hf,after_error hf]
    exact .inr (.inl ⟨fault,rfl⟩)
  | ok y e₁ =>
    rw [run_bind_ok hf,after_ok hf]
    rcases hk y e₁ with hrefused | hwalk
    · exact .inr (.inl hrefused)
    · exact .inr (.inr ⟨y,e₁,rfl,hwalk⟩)

/-- What is true after a call, however it ends. -/
structure Left (D : Set Nat) (f : Op) (x : Eng β) (e : Engine) : Prop where
  foot : Footprint D e (after x e)
  kept : ∀ i, e.cells.size ≤ i → ((after x e).cellAt i).kept = true → ((after x e).cellAt i).disposed = false →
    Saved (after x e) i ∨ Part (after x e) i
  cleared : ∀ b, answer x e = .ok b →
    (after x e).tape = #[] ∧ ∀ i, Saved (after (recorded f) e) i → ((after x e).cellAt i).disposed = true

theorem left_gradients {f : Op} (hf : Built f) (hcustom : ∀ handle dys saved, Built (custom handle dys saved))
    (xs : Tensors) (dy : Option Tensor) (allowNone : Bool) (hs : Scoped e) (houter : e.gradientDepth =
    0) (hD : ∀ i, e.cells.size ≤ i → i ∈ D) (hfair : ∀ y e₁, recorded f e = .ok y e₁ → ∃ start, (∀ d, dy = some d →
    y.id ∈ start ∨ d.id ∈ D) ∧ (D = .univ ∨ LentOnce start (wayBack xs y e₁) y.id)) : Left D f (gradients custom f xs
    dy allowNone) e := by
  have hbuilt : Built (scopedWith HasTensors.tensors "forward" f) := inferInstance
  obtain ⟨hfoot,hbooked⟩ := after_recording hbuilt hs houter
  change Footprint ∅ e (after (recorded f) e) at hfoot
  change Booked e.cells.size [] (after (recorded f) e) at hbooked
  have hfail {fault e'} (hrun : gradients custom f xs dy allowNone e = .error fault e') (hfoot : Footprint D e e')
      (hkept : ∀ i, e.cells.size ≤ i → (e'.cellAt i).kept = true → (e'.cellAt i).disposed = false →
        Saved e' i ∨ Part e' i) : Left D f (gradients custom f xs dy allowNone) e := by
    refine ⟨by rwa [after_error hrun],by rwa [after_error hrun],fun b hb => ?_⟩
    rw [answer_error hrun] at hb
    cases hb
  rcases run_gradients custom f xs dy allowNone e with ⟨fault,hrun⟩ | ⟨fault,hrun⟩ | ⟨y,e₁,hrec,hrun⟩
  · refine hfail hrun (.refl D hs) fun i hi hkept => ?_
    rw [cellAt_of_le hi] at hkept
    cases hkept
  · refine hfail hrun (hfoot.mono (Set.empty_subset D)) fun i hi hkept hlive => ?_
    exact (hbooked.kept i hi hkept hlive).imp_right fun h => h.resolve_right (by simp)
  · obtain ⟨start,hstart,honce⟩ := hfair y e₁ hrec
    rw [after_ok hrec] at hfoot hbooked
    have hdepth : e₁.gradientDepth = 0 := (congrArg Prod.fst hfoot.depths).trans houter
    have hends := ends_walkBack hcustom xs y (wayBack xs y e₁) hstart honce hfoot.stack hdepth hfoot.size hD hbooked
    have hafter : after (gradients custom f xs dy allowNone) e =
        after (walkBack custom xs dy y (wayBack xs y e₁)) e₁ := by
      unfold Engine.after
      rw [hrun]
    refine ⟨?_,fun i hi hkept hlive => ?_,fun b hb => ?_⟩
    · rw [hafter]
      exact (hfoot.mono (Set.empty_subset D)).trans hends.foot
    · rw [hafter] at hkept hlive ⊢
      exact (hends.booked.kept i hi hkept hlive).imp_right fun h => h.resolve_right (by simp)
    · rw [hafter,after_ok hrec]
      cases hwalk : walkBack custom xs dy y (wayBack xs y e₁) e₁ with
      | ok b' e' =>
        rw [after_ok hwalk]
        exact hends.cleared b' e' hwalk
      | error fault e' =>
        rw [answer_error (hrun.trans hwalk)] at hb
        cases hb

theorem disposed_of_footprint (h : Sound e known) (hfoot : Footprint D e e') (ht : t ∈ known) (htD : t.id ∉ D) :
    (e'.cellAt t.id).disposed = (e.cellAt t.id).disposed := by
  have hmade := h.made t ht
  refine Bool.eq_iff_iff.mpr ⟨fun hdisposed => ?_,hfoot.gone t.id hmade⟩
  rcases hfoot.spared t.id hmade hdisposed with hbefore | hp | hD
  · exact hbefore
  · exact absurd hp (h.whole t ht)
  · exact absurd hD htD

/-- However an outermost call ends, the depths are as before, and a new tensor that is kept and not disposed is
saved on a tape that was left, or part of complex data. If the call answers, then no tape is left, and all that
was saved is disposed. A tensor from before stays, up to the gradient `dy` from outside, as long as functions of
the user give no gradient to a tensor that has more than one; and `dy` stays too, if no rule passes it on to such
a tensor. -/
theorem gradients_cleanUp {known : List Tensor} {e : Engine} (hreach : Reachable e known)
    (houter : e.gradientDepth = 0) {f : Eng Tensor} (hf : Built f)
    (hcustom : ∀ handle dys saved, Built (custom handle dys saved)) (xs : List Tensor) (dy : Option Tensor)
    (allowNone : Bool) :
    let call := gradients custom f xs dy allowNone
    let e' := after call e
    (e'.gradientDepth = e.gradientDepth ∧ e'.kernelDepth = e.kernelDepth) ∧
    (∀ i, e.cells.size ≤ i → (e'.cellAt i).kept = true → (e'.cellAt i).disposed = false →
      Saved e' i ∨ Part e' i) ∧
    (∀ d, answer call e = .ok d →
      e'.tape = #[] ∧ ∀ i, Saved (after (recorded f) e) i → (e'.cellAt i).disposed = true) ∧
    ((∀ y e₁, recorded f e = .ok y e₁ → LentOnce [] (wayBack xs y e₁) y.id) →
      ∀ t ∈ known, dy.map (·.id) ≠ some t.id → (e'.cellAt t.id).disposed = (e.cellAt t.id).disposed) ∧
    ((∀ y e₁, recorded f e = .ok y e₁ → LentOnce [y.id] (wayBack xs y e₁) y.id) →
      ∀ t ∈ known, (e'.cellAt t.id).disposed = (e.cellAt t.id).disposed) := by
  have hsound := hreach.sound
  have hends {D : Set Nat} := left_gradients (D := D) hf hcustom xs dy allowNone hsound.stack houter
  have hleft := hends (D := Set.univ) (fun _ _ => trivial) fun _ _ _ => ⟨[], fun _ _ => Or.inr trivial, Or.inl rfl⟩
  refine ⟨?_, hleft.kept, hleft.cleared, fun honce t ht hdy => ?_, fun honce t ht => ?_⟩
  · exact ⟨congrArg Prod.fst hleft.foot.depths, congrArg Prod.snd hleft.foot.depths⟩
  · let D : Set Nat := {i | e.cells.size ≤ i ∨ dy.map (·.id) = some i}
    have hfoot := hends (D := D) (fun _ => Or.inl) fun y e₁ hrec =>
      ⟨[], fun d hd => Or.inr (Or.inr (by rw [hd]; rfl)), Or.inr (honce y e₁ hrec)⟩
    exact disposed_of_footprint hsound hfoot.foot ht fun h => h.elim (Nat.not_le_of_lt (hsound.made t ht)) hdy
  · have hfoot := hends (D := {i | e.cells.size ≤ i}) (fun _ => id) fun y e₁ hrec =>
      ⟨[y.id], fun _ _ => Or.inl (List.mem_singleton_self _), Or.inr (honce y e₁ hrec)⟩
    exact disposed_of_footprint hsound hfoot.foot ht (Nat.not_le_of_lt (hsound.made t ht))
end

def loanWork : Routine := .call (.make [1] .float32 (.numbers #[3])) <| .call (.make [1] .float32 (.numbers #[1])) .done
def loanEngine : Engine := play {} loanWork.calls
def loanInput : Tensor := ⟨0,[1],.float32⟩
def loanGradient : Tensor := ⟨1,[1],.float32⟩
def noCustom : CustomGradient Eng := fun _ _ _ => fail "no such function"
theorem reachable_loanEngine : Reachable loanEngine [loanInput,loanGradient] := by
  refine ⟨loanWork,by decide +kernel,?_,rfl⟩
  exact .refl _
theorem built_noCustom (handle : Nat) (dys saved : Tensors) : Built (noCustom handle dys saved) := built_fail _

theorem gradients_cleanUp_square :
    let call := gradients noCustom (square loanInput) [loanInput] (some loanGradient) false
    let e' := after call loanEngine
    Reachable loanEngine [loanInput, loanGradient] ∧ loanEngine.gradientDepth = 0 ∧ Built (square loanInput) ∧
    (∀ handle dys saved, Built (noCustom handle dys saved)) ∧
    (e'.gradientDepth = loanEngine.gradientDepth ∧ e'.kernelDepth = loanEngine.kernelDepth) ∧
    (∀ i, loanEngine.cells.size ≤ i → (e'.cellAt i).kept = true → (e'.cellAt i).disposed = false →
      Saved e' i ∨ Part e' i) ∧
    (∀ d, answer call loanEngine = .ok d → e'.tape = #[] ∧
      ∀ i, Saved (after (recorded (square loanInput)) loanEngine) i → (e'.cellAt i).disposed = true) ∧
    ((∀ y e₁, recorded (square loanInput) loanEngine = .ok y e₁ → LentOnce [] (wayBack [loanInput] y e₁) y.id) →
      ∀ t ∈ [loanInput, loanGradient], (some loanGradient).map (·.id) ≠ some t.id →
        (e'.cellAt t.id).disposed = (loanEngine.cellAt t.id).disposed) ∧
    ((∀ y e₁, recorded (square loanInput) loanEngine = .ok y e₁ → LentOnce [y.id] (wayBack [loanInput] y e₁) y.id) →
      ∀ t ∈ [loanInput, loanGradient], (e'.cellAt t.id).disposed = (loanEngine.cellAt t.id).disposed) :=
  ⟨reachable_loanEngine, rfl, inferInstance, built_noCustom,
    gradients_cleanUp reachable_loanEngine rfl inferInstance built_noCustom [loanInput] (some loanGradient) false⟩

/-- A function that fails after one of its operations has saved what its gradient needs. -/
def abandoned : Op := square loanInput >>= fun _ => fail "no result"

/-- What a function has saved before it fails stays kept and is never disposed; and the gradient from outside is
disposed under the hands of its owner where the remainder passes it on to a tensor that has two. -/
theorem gradients_not_cleanUp :
    (Reachable loanEngine [loanInput, loanGradient] ∧ loanEngine.gradientDepth = 0 ∧ Built abandoned ∧
      loanEngine.cells.size ≤ 3 ∧
      Saved (after (gradients noCustom abandoned [loanInput] none false) loanEngine) 3 ∧
      ((after (gradients noCustom abandoned [loanInput] none false) loanEngine).cellAt 3).kept = true ∧
      ((after (gradients noCustom abandoned [loanInput] none false) loanEngine).cellAt 3).disposed = false) ∧
    Built (mod loanInput loanInput) ∧
      (loanEngine.cellAt loanGradient.id).disposed = false ∧
      ((after (gradients noCustom (mod loanInput loanInput) [loanInput] (some loanGradient) false)
        loanEngine).cellAt loanGradient.id).disposed = true := by
  have hsaved : ∃ node ∈ (after (gradients noCustom abandoned [loanInput] none false) loanEngine).tape.toList,
      (node.saved.map (·.id)).contains 3 = true := List.any_eq_true.mp (by decide +kernel)
  obtain ⟨node, hnode, h⟩ := hsaved
  obtain ⟨t, ht, hid⟩ := List.mem_map.mp (List.contains_iff_mem.mp h)
  have hbuilt : Built abandoned := inferInstanceAs (Built (square loanInput >>= fun _ => fail "no result"))
  have hmod : Built (mod loanInput loanInput) := inferInstanceAs (Built (arithmetic .mod true loanInput loanInput))
  refine ⟨⟨reachable_loanEngine, rfl, hbuilt, ?_, ⟨node, hnode, t, ht, hid⟩, ?_, ?_⟩, hmod, ?_, ?_⟩
  all_goals decide +kernel
end TensorKit.Autodiff
