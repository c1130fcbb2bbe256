import TensorKit.Proofs.Engine.Kernels
import TensorKit.Proofs.Engine.Variables
import TensorKit.Autodiff.Backward

/-! # What operations make

The operations that gradients are made of are built from kernels, and what they give is new. Both are classes of actions,
which an operation inherits from its parts. The one exception is a concatenation in which a single tensor has elements.
-/
namespace TensorKit.Engine
variable {α β : Type} {D : Set Nat}
variable {x : Eng α} {k : α → Eng β} {forward : Eng (Tensor × Tensors)} {f : α → β → Eng α} {a : α}

/-! ## How actions built from kernels are put together -/

instance built_pure (a : α) : Built (pure a : Eng α) := .look fun _ => rfl
instance built_fail (message : String) : Built (fail message : Eng α) := .look fun _ => rfl
instance built_lift (x : Tried α) : Built (liftM x : Eng α) := .look fun e => by cases x <;> rfl
instance built_bind [hx : Built x] [hk : ∀ a, Built (k a)] : Built (x >>= k) := .bind hx hk

/-- What would follow a failure plays no role. -/
instance built_fail_bind (message : String) (k : α → Eng β) : Built (fail message >>= k : Eng β) := .look fun _ => rfl

instance built_ite {c : Prop} [Decidable c] {y : Eng α} [hx : Built x] [hy : Built y] : Built (if c then x else y) := by
  split
  · exact hx
  · exact hy

instance built_scopedWith (tensors : α → Tensors) (name : String) [hx : Built x] : Built (scopedWith tensors name x) :=
  .scope tensors name hx
instance built_runKernel (inputs : Named Tensor) (rule : Option Rule) [hf : Built forward] :
    Built (runKernel inputs rule forward) :=
  .kernel _ inputs _ hf

instance built_foldlM (bs : List β) (a : α) [h : ∀ a b, Built (f a b)] : Built (bs.foldlM f a) := by
  induction bs generalizing a with
  | nil => exact built_pure a
  | cons b bs ih => exact .bind (h a b) ih

instance built_mapM (bs : List β) {f : β → Eng α} [h : ∀ b, Built (f b)] : Built (bs.mapM f) := by
  induction bs with
  | nil =>
    rw [List.mapM_nil]
    infer_instance
  | cons b bs ih =>
    rw [List.mapM_cons]
    infer_instance

instance built_forIn (bs : List β) {f : β → α → Eng (ForInStep α)} (a : α) [h : ∀ b a, Built (f b a)] :
    Built (forIn bs a f) := by
  induction bs generalizing a with
  | nil =>
    rw [List.forIn_nil]
    infer_instance
  | cons b bs ih =>
    rw [List.forIn_cons]
    refine .bind (h b a) fun r => ?_
    cases r with
    | done a => exact built_pure a
    | yield a => exact ih a

/-! ## Answers -/

/-- The answer of an action satisfies `Q`, once `D` has all tensors that are still to be made. -/
def Ensures (D : Set Nat) (x : Eng α) (Q : α → Prop) : Prop :=
  ∀ e, Scoped e → (∀ i, e.cells.size ≤ i → i ∈ D) → ∀ a e', x e = .ok a e' → Q a

variable (outputs : α → Tensors) (inputs : Named Tensor) (rule : α → Option Rule)
namespace Ensures
variable {Q : α → Prop} {R : β → Prop}
theorem imp (h : Ensures D x Q) (himp : ∀ a, Q a → Q' a) : Ensures D x Q' :=
  fun e hs hD a e' hrun => himp a (h e hs hD a e' hrun)
theorem triv (x : Eng α) : Ensures D x fun _ => True := fun _ _ _ _ _ _ => trivial
theorem pure (h : Q a) : Ensures D (pure a) Q := by
  rintro e - - a' e' ⟨⟩
  exact h
theorem fail (message : String) : Ensures D (fail message) Q := by rintro e - - a e' ⟨⟩

theorem bind (hx : Built x) (h : Ensures D x Q) (hk : ∀ a, Q a → Ensures D (k a) R) : Ensures D (x >>= k) R := by
  intro e hs hD b e'' hrun
  rw [run_bind] at hrun
  cases hfirst : x e with
  | error f e' => rw [hfirst] at hrun; cases hrun
  | ok a e' =>
    rw [hfirst] at hrun
    have hfoot := (hx.works e hs).foot
    rw [after_ok hfirst] at hfoot
    exact hk a (h e hs hD a e' hfirst) e' hfoot.stack (fun i hi => hD i (hfoot.size.trans hi)) b e'' hrun

theorem scope (tensors : α → Tensors) (name : String) (h : Ensures D x Q) :
    Ensures D (scopedWith tensors name x) Q := by
  intro e hs hD a e'' hrun
  rw [run_scopedWith] at hrun
  cases hinner : x (e.opened name) with
  | error f e' => rw [hinner] at hrun; cases hrun
  | ok a' e' =>
    rw [hinner] at hrun
    cases hrun
    exact h (e.opened name) (hs.opened name) hD a e' hinner

theorem kernel {forward : Eng (α × Tensors)} (hf : Built forward) (h : Ensures D forward (Q ·.1)) :
    Ensures D (runKernelsWith outputs inputs rule forward) Q := by
  intro e hs hD a e'' hrun
  have hin : Scoped e.entered := hs.like rfl
  have hstack := (hf.works e.entered hin).foot.stack
  cases hinner : forward e.entered with
  | error f e' =>
    rw [run_kernels_error outputs inputs rule hinner] at hrun
    cases hrun
  | ok r e' =>
    obtain ⟨r,save⟩ := r
    rw [after_ok hinner] at hstack
    have hQ := h e.entered hin hD (r,save) e' hinner
    rcases run_kernels_ok outputs inputs rule hinner hstack with hok | ⟨ys,e₂,node,-,-,hok⟩
    all_goals
      rw [hok] at hrun
      cases hrun
      exact hQ

theorem foldlM (hf : ∀ a b, Built (f a b)) (h : ∀ a b, Q a → Ensures D (f a b) Q) (bs : List β) (ha : Q a) :
    Ensures D (bs.foldlM f a) Q := by
  induction bs generalizing a with
  | nil => exact pure ha
  | cons b bs ih => exact bind (hf a b) (h a b ha) fun a' ha' => ih ha'

theorem mapM {f : β → Eng α} (hf : ∀ b, Built (f b)) {bs : List β} (h : ∀ b ∈ bs, Ensures D (f b) Q) :
    Ensures D (bs.mapM f) fun as => as.length = bs.length ∧ ∀ a ∈ as, Q a := by
  induction bs with
  | nil => exact pure (by simp)
  | cons b bs ih =>
    rw [List.mapM_cons]
    refine bind (hf b) (h b List.mem_cons_self) fun a ha =>
      bind (built_mapM bs) (ih fun b hb => h b (List.mem_cons_of_mem _ hb)) fun as has => pure ⟨?_,fun a' ha' => ?_⟩
    · rw [List.length_cons,List.length_cons,has.1]
    · rcases List.mem_cons.mp ha' with rfl | ha'
      · exact ha
      · exact has.2 a' ha'
end Ensures

/-! ## New tensors -/

/-- An action built from kernels that hands out tensors of `D` only, once `D` has all tensors that are still to
be made. The tensors are those that `p` finds in its answer. -/
class Yields (D : Set Nat) (p : α → Tensors) (x : Eng α) : Prop where
  built : Built x
  within : Ensures D x fun a => ∀ t ∈ p a, t.id ∈ D

/-- Such an action with a tensor for its answer. -/
abbrev Mints (D : Set Nat) (x : Op) : Prop := Yields D .singleton x

instance (priority := low) built_of_yields {x : Op} [h : Mints .univ x] : Built x := h.built

section
variable {p : α → Tensors} {q : β → Tensors}
theorem Yields.bind (hx : Yields D p x) (hk : ∀ a, (∀ t ∈ p a, t.id ∈ D) → Yields D q (k a)) (hb : ∀ a, Built (k a)) : Yields D q (x >>= k) where
  built := .bind hx.built hb
  within := .bind hx.built hx.within fun a ha => (hk a ha).within
theorem Yields.after (hx : Built x) (hk : ∀ a, Yields D q (k a)) : Yields D q (x >>= k) where
  built := .bind hx fun a => (hk a).built
  within := .bind hx (.triv x) fun a _ => (hk a).within
theorem yields_pure (h : ∀ t ∈ p a, t.id ∈ D) : Yields D p (pure a : Eng α) := ⟨inferInstance,.pure h⟩
instance yields_bind [hx : Built x] [hk : ∀ a, Yields D q (k a)] : Yields D q (x >>= k) := .after hx hk

/-- A kernel's result, with what it saves. -/
instance yields_saving (save : α → Tensors) [hx : Yields D p x] :
    Yields D (p ∘ Prod.fst) (x >>= fun a => pure (a,save a)) :=
  hx.bind (fun _ ha => yields_pure ha) fun _ => inferInstance

instance yields_fail (message : String) : Yields D p (fail message : Eng α) := ⟨inferInstance,.fail message⟩
instance yields_fail_bind (message : String) (k : α → Eng β) : Yields D q (fail message >>= k : Eng β) :=
  ⟨inferInstance,by rintro e - - b e' ⟨⟩⟩

instance yields_ite {c : Prop} [Decidable c] {y : Eng α} [hx : Yields D p x] [hy : Yields D p y] :
    Yields D p (if c then x else y) := by
  split
  · exact hx
  · exact hy

instance yields_scopedWith (tensors : α → Tensors) (name : String) [hx : Yields D p x] :
    Yields D p (scopedWith tensors name x) :=
  ⟨.scope tensors name hx.built,.scope tensors name hx.within⟩
instance yields_inScope [HasTensors α] (name : String) [hx : Yields D p x] : Yields D p (inScope name x) :=
  yields_scopedWith _ name

theorem Yields.kernels {forward : Eng (α × Tensors)} (hf : Yields D (p ∘ Prod.fst) forward) :
    Yields D p (runKernelsWith outputs inputs rule forward) :=
  ⟨.kernel outputs inputs rule hf.built,.kernel outputs inputs rule hf.built hf.within⟩
instance yields_runKernel (inputs : Named Tensor) (rule : Option Rule)
    [hf : Yields D (.singleton ∘ Prod.fst) forward] : Mints D (runKernel inputs rule forward) :=
  hf.kernels _ inputs _
instance yields_kernel1 (x : Tensor) (rule : Option Rule) {forward : Op} [hf : Mints D forward] :
    Mints D (Ops.kernel1 x rule forward) := yields_runKernel _ _
theorem yields_foldlM (hb : ∀ a b, Built (f a b)) (hf : ∀ a b, (∀ t ∈ p a, t.id ∈ D) → Yields D p (f a b)) (bs : List β)
    (ha : ∀ t ∈ p a, t.id ∈ D) : Yields D p (bs.foldlM f a) :=
  ⟨inferInstance,.foldlM hb (fun a b ha => (hf a b ha).within) bs ha⟩
theorem yields_mapM {f : β → Op} (hf : ∀ b, Mints D (f b)) (bs : List β) : Yields D id (bs.mapM f) :=
  have : ∀ b, Built (f b) := fun b => (hf b).built
  ⟨inferInstance,(Ensures.mapM this fun b _ => (hf b).within).imp fun _ has t ht =>
    has.2 t ht t (List.mem_singleton_self t)⟩
end

theorem yields_next {x : Op} (hb : Built x) (h : ∀ e a e', x e = .ok a e' → a.id = e.cells.size) : Mints D x :=
  ⟨hb,fun e _ hD a e' hrun t ht => by
    rw [List.mem_singleton.mp ht,h e a e' hrun]
    exact hD _ le_rfl⟩

theorem yields_make (shape : Shape) (dtype : DType) {data : Data} (hdata : data.parts = []) :
    Mints D (make shape dtype data) := by
  refine yields_next (.make shape dtype hdata) fun e a e' hrun => ?_
  obtain ⟨e₁,hmake,-⟩ := run_make shape dtype data e
  rw [hmake] at hrun
  cases hrun
  rfl

instance (shape : Shape) (dtype : DType) (values : Array ByteArray) : Mints D (make shape dtype (.strings values)) :=
  yields_make shape dtype rfl

instance yields_share (x : Tensor) (shape : Shape) (dtype : DType) : Mints D (share x shape dtype) := by
  refine yields_next (.share x shape dtype) fun e a e' hrun => ?_
  rw [run_share] at hrun
  cases hrun
  rfl

instance yields_makeComplex (re im : Tensor) : Mints D (Ops.makeComplex re im) := by
  refine yields_next (.complex re im) fun e a e' hrun => ?_
  rw [run_makeComplex re im rfl rfl rfl] at hrun
  cases hrun
  rfl

instance yields_ofNumbers (shape : Shape) (dtype : DType) (values : Array Float) :
    Mints D (ofNumbers shape dtype values) :=
  yields_make shape dtype rfl
instance yields_store (dtype : DType) (x : NDArray Float) : Mints D (store dtype x) := yields_ofNumbers x.shape dtype _
instance yields_ofArray (dtype : DType) (x : NDArray Float) : Mints D (ofArray dtype x) :=
  yields_ofNumbers x.shape dtype _

/-! ## Reading -/

instance built_dataOf (t : Tensor) : Built (dataOf t) := .look fun e => by rw [after_ok (run_dataOf t e)]
instance built_plainNumbers (t : Tensor) : Built (plainNumbers t) := by
  refine .bind (built_dataOf t) fun data => ?_
  cases data <;> infer_instance
instance built_numbers (t : Tensor) : Built (numbers t) := by
  refine .bind (built_dataOf t) fun data => ?_
  cases data <;> infer_instance
instance built_read (t : Tensor) : Built (read t) := built_bind

instance built_requireLive (t : Tensor) : Built (requireLive t) := .look fun e => by
  unfold requireLive isDisposed after
  cases h : (e.cellAt t.id).disposed with
  | false => simp [run_bind,run_map,h]
  | true => simp [run_bind,run_map,h]; rfl

namespace Operations
open Ops
variable (t a b x re im base exponent condition indices segments dy y f : Tensor) (ts xs : Tensors)
  (name label fn what stop side format : String) (start size sizes : Ints) (shape inShape filterShape : Shape)
  (v value bias alpha beta : Float) (dtype : DType) (axis radius : Int) (op : BinaryOp) (names : String × String)
  (saves exclusive reversed keepDims transposeA transposeB alignCorners : Bool) (perm : Option Ints)
  (axes reps block : Nats) (paddings crops : List (Int × Int)) (how : Division) (count rank found wanted : Nat)
  (p : WindowParams) (w : Window) (s : PoolSpec) (filter : Window.Extent)

-- an operation has many steps, and each of them counts
set_option synthInstance.maxSize 1024
instance : Built (parts t) := by
  refine .bind (built_dataOf t) fun data => ?_
  cases data <;> infer_instance
instance : Built (requireReal ts name) := built_ite
instance : Built (requireBlock block) := @built_ite _ _ _ _ _ (.look fun _ => rfl) _
instance (a b : Shape) (start : String) : Built (requireSameShape a b start) := built_ite

/-! ## Basic operations -/

instance : Mints D (clone x) := yields_inScope _
instance : Mints D (complex re im) := yields_inScope _
instance yields_constant : Mints D (constant shape v dtype) := by
  unfold constant
  split <;> infer_instance
instance : Mints D (zerosLike x) := yields_inScope _
instance : Mints D (castData x dtype) := by
  unfold castData
  cases dtype <;> infer_instance
instance yields_cast : Mints D (Ops.cast x dtype) := yields_inScope _

instance : Built (matchTypes a b) := built_ite
instance yields_reshape (shape : Ints) : Mints D (reshape x shape) := yields_inScope _
instance : Mints D (expandDims x axis) := yields_inScope _
instance (f : {α : Type} → [Inhabited α] → NDArray α → NDArray α) : Mints D (move x f) := by
  refine .after (built_dataOf x) fun data => ?_
  cases data <;> infer_instance

/-! ## Elementwise operations -/

instance (op : UnaryOp) : Mints D (unaryData op x) := yields_bind
instance yields_unary (op : UnaryOp) : Mints D (unary op x) := yields_inScope _

instance (f : ComplexFn) : Mints D (complexData f a b) := yields_bind

instance : Mints D (binaryData op a b) := by
  unfold binaryData
  dsimp only
  split <;> infer_instance

instance : Mints D (binaryKernel op names saves a b) := yields_bind
instance yields_arithmetic : Mints D (arithmetic op saves a b) := yields_inScope _

instance : Mints D (div a b) := yields_inScope _

instance : Mints D (maximum a b) := yields_inScope _
instance : Mints D (pow base exponent) := yields_inScope _
instance yields_compare : Mints D (Ops.compare op a b) := yields_inScope _

instance : Mints D (logicalAnd a b) := yields_inScope _

instance : Mints D (logicalNot x) := yields_inScope _
instance : Mints D (mulStrict a b) := yields_inScope _
instance : Mints D (divStrict a b) := yields_inScope _
instance : Mints D (select condition a b) := yields_inScope _

/-! ## Operations that move elements -/

instance yields_transpose : Mints D (transpose x perm) := yields_inScope _
instance : Built (outOfRange shape start) := built_fail _
instance : Mints D (sliceData x start size) := yields_bind
instance yields_slice (size : Option Ints) : Mints D (slice x start size) := yields_inScope _
instance (axes : Option Ints) : Mints D (reverse x axes) := by
  unfold reverse
  cases axes <;> infer_instance
instance : Mints D (tile x reps) := yields_inScope _
instance : Mints D (pad x paddings value) := yields_inScope _
instance (axis : Nat) : Mints D (concatData xs axis) := yields_ite

/-- A concatenation gives a new tensor, or the only one of its inputs that has elements. -/
theorem yields_concatAlong {xs : Tensors} (hxs : ∀ t ∈ xs, t.id ∈ D) (axis : Nat) : Mints D (concatAlong xs axis) := by
  unfold concatAlong
  dsimp only
  split
  · infer_instance
  · split
    next t ht =>
      have hmem : t ∈ xs := List.mem_of_mem_filter (ht ▸ List.mem_singleton_self t)
      refine yields_pure fun u hu => ?_
      rw [List.mem_singleton.mp hu]
      exact hxs t hmem
    next => infer_instance

theorem yields_concat {xs : Tensors} (hxs : ∀ t ∈ xs, t.id ∈ D) (axis : Int) : Mints D (concat xs axis) := by
  have := (yields_concatAlong hxs ·)
  unfold concat
  cases xs <;> infer_instance
instance : Built (concat xs axis) :=
  have hall : Mints .univ (concat xs axis) := yields_concat (fun _ _ => Set.mem_univ _) axis
  hall.built

instance : Mints D (stack xs axis) := by
  have hjoined : ∀ ts : Tensors, Mints D (ts.mapM (expandDims · axis) >>= (concat · axis)) := fun ts =>
    (yields_mapM (fun t => inferInstance) ts).bind (fun us hus => yields_concat hus axis) fun us => inferInstance
  unfold stack
  split <;> infer_instance

instance (axis : Nat) (acc : Tensors × Int) (size : Int) : Built (splitStep x axis acc size) := built_bind

instance (axis : Nat) : Yields D id (splitSizes x sizes axis) := by
  have hstep : ∀ acc size, (∀ t ∈ acc.1, t.id ∈ D) →
      Yields D Prod.fst (splitStep x axis acc size) := fun acc size hacc =>
    (yields_slice x _ _).bind (fun t ht => yields_pure fun u hu => by
      rcases List.mem_append.mp hu with hu | hu
      · exact hacc u hu
      · exact ht u hu) fun _ => inferInstance
  have hparts : Yields D Prod.fst (sizes.foldlM (splitStep x axis) ([],0)) :=
    yields_foldlM inferInstance hstep sizes (by simp)
  have hforward : Yields D (id ∘ Prod.fst) (sizes.foldlM (splitStep x axis) ([],0) >>= fun r =>
      pure (r.1,([] : Tensors))) := hparts.bind (fun _ hr => yields_pure hr) fun _ => inferInstance
  unfold splitSizes runKernels
  exact hforward.kernels id _ _

instance : Yields D id (split x how axis) := by
  unfold split
  cases how <;> infer_instance
instance (axis : Nat) : Mints D (gatherData x indices axis) := by
  refine .after inferInstance fun _ => .after inferInstance fun _ => .after inferInstance fun data => ?_
  cases data <;> infer_instance
instance : Mints D (gather x indices axis) := yields_inScope _

section
variable {x : Eng Tensor} [hx : Mints D x] (c : Prop) [Decidable c] (k : Tensor → Eng Tensor) [hk : ∀ y, Mints D (k y)]

/-- What is made may stay as it is, or go through one more operation. -/
instance yields_or_self : Mints D (x >>= fun y => if c then k y else pure y) := by
  refine hx.bind (fun y hy => ?_) fun y => ?_
  · have := yields_pure hy
    infer_instance
  · have := (hk y).built
    infer_instance

instance yields_or_self_saving (save : Tensor → Tensors) : Yields D (.singleton ∘ Prod.fst)
    (x >>= fun y => (if c then k y else pure y) >>= fun z => pure (z,save z)) := by
  rw [← bind_assoc]
  infer_instance
end

instance : Mints D (cumsumLast x axis exclusive reversed) := yields_runKernel _ _
instance : Mints D (cumsum x axis exclusive reversed) := yields_inScope _
instance : Mints D (batchToSpaceND x block crops) := yields_inScope _
instance : Mints D (spaceToBatchND x block paddings) := yields_inScope _

/-! ## Reductions and products -/

instance : Built (bringLast x axes) := by
  unfold bringLast
  split <;> infer_instance
instance (f : Floats → Float) : Mints D (reduceData x axes dtype f) := yields_bind
instance yields_sum (axes : Option Ints) : Mints D (sum x axes keepDims) := by
  unfold sum keepAxes
  infer_instance
instance : Mints D (unsortedSegmentSum x segments count) := yields_inScope _
instance : Mints D (productData a b transposeA transposeB) := yields_bind
instance : Mints D (matMul a b transposeA transposeB) := yields_inScope _

/-! ## Windows and images -/

instance : Built (withBatch rank x) := built_ite
instance : Built (requireWholePad label p) := by
  unfold requireWholePad
  split <;> infer_instance
instance : Built (requireOneOf fn p) := built_ite
instance : Mints D (convData x f w) := yields_bind
instance : Built (requireRank rank fn what t stop) := built_ite
instance : Built (requireDepth fn side found wanted) := built_ite
instance (axis : Nat) : Built (gradientArgs rank fn inShape dy f axis) := built_ite
instance : Mints D (conv2d x f p format) := by
  unfold conv2d dropBatch
  infer_instance
instance : Mints D (conv2dInput inShape dy f p) := by
  unfold conv2dInput dropBatch
  infer_instance
instance : Mints D (conv2dFilter x dy filterShape p) := yields_inScope _
instance : Mints D (depthwiseInput dy f w) := by
  unfold depthwiseInput dropBatch
  infer_instance
instance : Mints D (depthwiseFilter x dy w) := yields_inScope _
instance : Mints D (conv3dInput inShape dy f p) := by
  unfold conv3dInput dropBatch
  infer_instance
instance : Mints D (conv3dFilter x dy filterShape p) := yields_bind
instance (x : Option Tensor) : Mints D (poolGradient s dy inShape x filter p) := by
  unfold poolGradient
  cases x <;> infer_instance
instance : Mints D (resizeBilinearGradient dy x alignCorners) := yields_runKernel _ _
instance : Mints D (resizeNearestGradient dy x alignCorners) := yields_runKernel _ _
instance : Mints D (localResponseGradient dy x y radius bias alpha beta) := yields_runKernel _ _
end Operations
end TensorKit.Engine
