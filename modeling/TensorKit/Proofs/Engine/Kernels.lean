import TensorKit.Proofs.Engine.Footprint

/-! # Actions built from kernels

Kernels save views for the tape that no scope disposes. Each stands in the node of its kernel, so a tensor that is kept
is always accounted for, whatever is put together from kernels.
-/
namespace TensorKit.Engine
open List
variable {α β : Type}
variable {n : Nat} {ts : Tensors} {e e' e'' : Engine} {x : Eng α} {D : Set Nat} (shape : Shape) (dtype : DType)
/-- A tensor that the tape has saved. -/
def Saved (e : Engine) (i : Nat) : Prop := ∃ node ∈ e.tape.toList, ∃ t ∈ node.saved, t.id = i

/-- Tensors from number `n` on that are kept and not disposed are saved on the tape, parts of data, or among
`ts`. Of older tensors the tape has saved none. -/
structure Booked (n : Nat) (ts : Tensors) (e : Engine) : Prop where
  saved : ∀ node ∈ e.tape.toList, ∀ t ∈ node.saved, n ≤ t.id
  kept : ∀ i, n ≤ i → (e.cellAt i).kept = true → (e.cellAt i).disposed = false →
    Saved e i ∨ Part e i ∨ ∃ t ∈ ts, t.id = i

/-- What an action does: it leaves a footprint, only adds to the tape, and accounts for what it keeps. -/
structure Worked (D : Set Nat) (e e' : Engine) : Prop where
  foot : Footprint D e e'
  tape : ∀ node ∈ e.tape.toList, node ∈ e'.tape.toList
  kept : ∀ n ≤ e.cells.size, Booked n [] e → Booked n [] e'

/-- The same from every state with its scopes in order, whether the action answers or fails. -/
def Works (D : Set Nat) (x : Eng α) : Prop := ∀ e, Scoped e → Worked D e (after x e)

/-- What is kept after a step that leaves the tape alone was kept before and is still a part if it was one, or it
has become a part. -/
theorem Booked.of_step (h : Booked n ts e) (htape : e'.tape = e.tape) (hstep : ∀ i, (e'.cellAt i).kept = true →
    (e'.cellAt i).disposed = false → ((e.cellAt i).kept = true ∧ (e.cellAt i).disposed = false ∧ (Part e i → Part e'
    i)) ∨ Part e' i) : Booked n ts e' := by
  refine ⟨htape ▸ h.saved,fun i hi hkept hlive => ?_⟩
  rcases hstep i hkept hlive with ⟨hkept,hlive,hpart⟩ | hpart
  · rcases h.kept i hi hkept hlive with ⟨node,hnode,hsaved⟩ | hp | ht
    · exact .inl ⟨node,htape ▸ hnode,hsaved⟩
    · exact .inr (.inl (hpart hp))
    · exact .inr (.inr ht)
  · exact .inr (.inl hpart)

theorem Booked.closed (h : Booked n ts e) (result : Tensors) : Booked n ts (e.closed result) :=
  h.of_step (congrArg Prod.fst (record_closed e result)) fun i hkept hlive =>
    .inl ⟨kept_closed e result i ▸ hkept,live_of_closed hlive,(·.closed hlive)⟩

theorem Footprint.booked (h : Footprint D e e') (htape : e'.tape = e.tape)
    (hnew : ∀ i, e.cells.size ≤ i → (e'.cellAt i).kept = false) (ha : Booked n ts e) : Booked n ts e' := by
  refine ha.of_step htape fun i hkept hlive => ?_
  by_cases hsize : i < e.cells.size
  · exact .inl ⟨h.kept hsize ▸ hkept,h.live hsize hlive,(h.whole i hsize · hlive)⟩
  · rw [hnew i (Nat.le_of_not_lt hsize)] at hkept
    cases hkept

theorem Footprint.worked (h : Footprint D e e') (htape : e'.tape = e.tape)
    (hnew : ∀ i, e.cells.size ≤ i → (e'.cellAt i).kept = false) : Worked D e e' :=
  ⟨h,fun _ hnode => htape ▸ hnode,fun _ _ ha => h.booked htape hnew ha⟩

namespace Worked
theorem refl (D : Set Nat) (h : Scoped e) : Worked D e e := ⟨.refl D h,fun _ hnode => hnode,fun _ _ ha => ha⟩
theorem trans (h : Worked D e e') (h' : Worked D e' e'') : Worked D e e'' where
  foot := h.foot.trans h'.foot
  tape node hnode := h'.tape node (h.tape node hnode)
  kept n hn ha := h'.kept n (hn.trans h.foot.size) (h.kept n hn ha)
theorem mono (h : Worked D e e') (hD : D ⊆ D') : Worked D' e e' := ⟨h.foot.mono hD,h.tape,h.kept⟩

theorem closed (hs : Scoped e) (h : Worked D (e.opened name) e') (result : Tensors) :
    Worked D e (e'.closed result) where
  foot := h.foot.closed hs result
  tape node hnode := by
    have htape : (e'.closed result).tape = e'.tape := congrArg Prod.fst (record_closed e' result)
    rw [htape]
    exact h.tape node hnode
  kept n hn ha := (h.kept n hn ⟨ha.saved,ha.kept⟩).closed result
end Worked

/-! ## Actions one after the other -/

theorem after_bind (x : Eng α) (k : α → Eng β) (e : Engine) : after (x >>= k) e = match x e with
      | .ok a e' => after (k a) e'
      | .error _ e' => e' := by
  rw [after,run_bind]
  cases x e <;> rfl

namespace Works
theorem look (h : ∀ e, after x e = e) : Works D x := fun e hs => by
  rw [h e]
  exact .refl D hs

theorem bind {k : α → Eng β} (hx : Works D x) (hk : ∀ a, Works D (k a)) : Works D (x >>= k) := by
  intro e hs
  have hfirst := hx e hs
  rw [after_bind]
  cases h : x e with
  | ok a e' =>
    rw [after_ok h] at hfirst
    exact hfirst.trans (hk a e' hfirst.foot.stack)
  | error f e' =>
    rw [after_error h] at hfirst
    exact hfirst

theorem scope (tensors : α → Tensors) (name : String) (hx : Works D x) : Works D (scopedWith tensors name x) := by
  intro e hs
  have hinner := hx (e.opened name) (hs.opened name)
  unfold after at hinner ⊢
  rw [run_scopedWith]
  cases h : x (e.opened name) with
  | ok r e' =>
    rw [h] at hinner
    exact hinner.closed hs (tensors r)
  | error f e' =>
    rw [h] at hinner
    exact hinner.closed hs []
end Works

/-! ## New tensors -/

theorem kept_enrolled (e : Engine) (t : Tensor) (i : Nat) : ((e.enrolled t).cellAt i).kept = (e.cellAt i).kept := by
  unfold enrolled
  split
  · rw [kept_tracked,cellAt_counted]
  · rw [cellAt_counted]

theorem kept_withNew (hc : c.kept = false) (hi : e.cells.size ≤ i) : ((e.withNew c).cellAt i).kept = false := by
  rw [cellAt_withNew]
  split
  · exact hc
  · rw [cellAt_of_le hi]

theorem worked_enrolled (hs : Scoped e) (hloose : c.scopeId = none) (hkept : c.kept = false)
    (ht : t.id = e.cells.size) : Worked ∅ e ((e.withNew c).enrolled t) := by
  refine (footprint_enrolled hs hloose ht).worked ?_ fun i hi => ?_
  · exact congrArg Prod.fst (record_enrolled (e.withNew c) t)
  · rw [kept_enrolled,kept_withNew hkept hi]

theorem works_share (x : Tensor) (shape : Shape) (dtype : DType) : Works ∅ (share x shape dtype) := fun e hs => by
  rw [after_ok (run_share x shape dtype e)]
  exact worked_enrolled hs rfl rfl rfl

theorem bufferAt_withRoom (e : Engine) (ht : t.id = e.cells.size) :
    (e.withRoom.enrolled t).bufferAt e.buffers.size = some ⟨t.dtype,.absent,initialBytes t,1⟩ := by
  have hcell : e.withRoom.cellAt t.id = { dataId := e.buffers.size } := by rw [withRoom,cellAt_withNew,if_pos ht]
  have hroom : e.buffers.size < e.withRoom.buffers.size := by simp [withRoom,withNew]
  have hnone : e.withRoom.bufferAt e.buffers.size = none := by
    rw [withRoom,bufferAt_withNew,bufferAt_withPlace,bufferAt_of_le le_rfl]
  rw [(alike_enrolled _ t).bufferAt,bufferAt_counted,hcell,if_pos ⟨rfl,hroom⟩,claimed,hcell,hnone]

theorem works_make {data : Data} (hdata : data.parts = []) : Works ∅ (make shape dtype data) := by
  intro e hs
  let t : Tensor := ⟨e.cells.size,shape,dtype⟩
  have hplace := footprint_withPlace hs
  have hfoot : Footprint ∅ e (e.withRoom.enrolled t) := hplace.trans (footprint_enrolled hplace.stack rfl rfl)
  have htape : (e.withRoom.enrolled t).tape = e.tape := congrArg Prod.fst (record_enrolled e.withRoom t)
  have hnew : ∀ i, e.cells.size ≤ i → ((e.withRoom.enrolled t).cellAt i).kept = false := by
    intro i hi
    rw [kept_enrolled]
    exact kept_withNew rfl hi
  obtain ⟨e',hrun,rfl | rfl⟩ := run_make shape dtype data e
  · rw [after_ok hrun]
    exact hfoot.worked htape hnew
  · have hempty : ∀ b, (e.withRoom.enrolled t).bufferAt ((e.withRoom.enrolled t).cellAt t.id).dataId = some b →
        b.data.parts = [] := by
      intro b hb
      rw [dataId_withRoom e rfl,bufferAt_withRoom e rfl] at hb
      cases hb
      rfl
    rw [after_ok hrun]
    refine (hfoot.written hempty (by simp [hdata])).worked ?_ fun i hi => ?_
    · rw [← htape]
      exact congrArg Prod.fst (record_written _ t data)
    · rw [cellAt_written]
      exact hnew i hi

/-! ## Kernels -/

def withNode (e : Engine) (node : TapeNode) : Engine :=
  { e with tape := e.tape.push node, nextNodeId := e.nextNodeId + 1 }
theorem mem_tape_withNode {node n : TapeNode} : n ∈ (e.withNode node).tape.toList ↔ n ∈ e.tape.toList ∨ n = node := by
  simp [withNode]

theorem Booked.withNode (h : Booked n (ts ++ us) e) (hnode : node.saved = us)
    (hus : ∀ t ∈ us, n ≤ t.id) : Booked n ts (e.withNode node) where
  saved m hm t ht := by
    rcases mem_tape_withNode.mp hm with hm | rfl
    · exact h.saved m hm t ht
    · exact hus t (hnode ▸ ht)
  kept i hi hkept hlive := by
    rcases h.kept i hi hkept hlive with ⟨m,hm,hsaved⟩ | hp | ⟨t,ht,rfl⟩
    · exact .inl ⟨m,mem_tape_withNode.mpr (.inl hm),hsaved⟩
    · exact .inr (.inl hp)
    · rcases mem_append.mp ht with ht | ht
      · exact .inr (.inr ⟨t,ht,rfl⟩)
      · exact .inl ⟨node,mem_tape_withNode.mpr (.inr rfl),t,hnode ▸ ht,rfl⟩

theorem Booked.keptAt (h : Booked n ts e) (t : Tensor) : Booked n (ts ++ [t]) (e.keptAt t.id) where
  saved := h.saved
  kept i hi hkept hlive := by
    by_cases hit : t.id = i
    · exact .inr (.inr ⟨t,by simp,hit⟩)
    · rw [Engine.keptAt,cellAt_withCell_of_ne hit] at hkept hlive
      rcases h.kept i hi hkept hlive with hsaved | hp | ⟨u,hu,hui⟩
      · exact .inl hsaved
      · exact .inr (.inl hp)
      · exact .inr (.inr ⟨u,mem_append_left _ hu,hui⟩)

theorem Footprint.withNode (h : Footprint D e e') (node : TapeNode) : Footprint D e (e'.withNode node) :=
  { h with stack := h.stack.like rfl }

/-- Views were made and kept that a node is still to account for. -/
structure Saves (ys : Tensors) (e e' : Engine) : Prop where
  foot : Footprint ∅ e e'
  tape : ∀ node ∈ e.tape.toList, node ∈ e'.tape.toList
  new : ∀ y ∈ ys, e.cells.size ≤ y.id
  kept : ∀ n ts, Booked n ts e → Booked n (ts ++ ys) e'

theorem Saves.trans (h : Saves ys e e') (h' : Saves zs e' e'') : Saves (ys ++ zs) e e'' where
  foot := h.foot.trans h'.foot
  tape node hnode := h'.tape node (h.tape node hnode)
  new y hy := by
    rcases mem_append.mp hy with hy | hy
    · exact h.new y hy
    · exact h.foot.size.trans (h'.new y hy)
  kept n ts ha := by
    rw [← append_assoc]
    exact h'.kept n (ts ++ ys) (h.kept n ts ha)

theorem run_saveTensor (x : Tensor) (hs : Scoped e) :
    ∃ e', saveTensor x e = .ok (e.viewOf x) e' ∧ Saves [e.viewOf x] e e' := by
  have hview := worked_enrolled (c := { dataId := (e.cellAt x.id).dataId }) hs rfl rfl (show (e.viewOf x).id = _ from rfl)
  have htape := record_enrolled (e.sharing x) (e.viewOf x)
  have hrun := run_share x x.shape x.dtype e
  have hnew : ∀ i, e.cells.size ≤ i → (((e.sharing x).enrolled (e.viewOf x)).cellAt i).kept = false :=
    fun i hi => by rw [kept_enrolled,kept_withNew rfl hi]
  change share x x.shape x.dtype e = .ok (e.viewOf x) ((e.sharing x).enrolled (e.viewOf x)) at hrun
  generalize (e.sharing x).enrolled (e.viewOf x) = e₁ at hview htape hrun hnew
  obtain ⟨name,hname⟩ : ∃ name, scopeName e₁ = .ok name e₁ := run_scopeName e₁
  let node : TapeNode := ⟨e₁.nextNodeId,name,[("0",x)],[e.viewOf x],some .clone,[]⟩
  refine ⟨(e₁.withNode node).keptAt (e.viewOf x).id,?_,(hview.foot.withNode node).keptAt le_rfl,
    fun m hm => ?_,?_,fun n ts ha => ?_⟩
  · rw [saveTensor,run_bind_ok hrun,run_bind_ok hname]
    rfl
  · exact mem_tape_withNode.mpr (.inl (hview.tape m hm))
  · intro y hy
    rw [mem_singleton.mp hy]
    exact le_rfl
  · have hmade := hview.foot.booked (congrArg Prod.fst htape) hnew ha
    rw [← append_nil ts] at hmade
    have hnoted : Booked n ts (e₁.withNode node) := hmade.withNode rfl nofun
    exact hnoted.keptAt (e.viewOf x)

theorem run_saves (save : Tensors) (hs : Scoped e) : ∃ ys e', save.mapM saveTensor e = .ok ys e' ∧ Saves ys e e' := by
  induction save generalizing e with
  | nil =>
    refine ⟨[],e,by rw [mapM_nil]; rfl,.refl ∅ hs,fun _ h => h,nofun,fun n ts ha => ?_⟩
    rw [append_nil]
    exact ha
  | cons x save ih =>
    obtain ⟨e₁,hrun,hone⟩ := run_saveTensor x hs
    obtain ⟨ys,e₂,hrest,hmore⟩ := ih hone.foot.stack
    refine ⟨e.viewOf x :: ys,e₂,?_,hone.trans hmore⟩
    rw [mapM_cons,run_bind_ok hrun,run_bind_ok hrest]
    rfl

def entered (e : Engine) : Engine := { e with kernelDepth := e.kernelDepth + 1 }
def exited (e : Engine) : Engine := { e with kernelDepth := e.kernelDepth - 1 }

theorem Footprint.exited (h : Footprint D e.entered e') : Footprint D e e'.exited := by
  have hdepths := h.depths
  simp only [record,entered,Prod.mk.injEq] at hdepths
  refine { h with stack := h.stack.like rfl, depths := ?_ }
  simp only [record,Engine.exited,hdepths,Nat.add_sub_cancel]

theorem Booked.exited (h : Booked n ts e) : Booked n ts e.exited := ⟨h.saved,h.kept⟩
theorem Worked.exited (h : Worked D e.entered e') : Worked D e e'.exited :=
  ⟨h.foot.exited,h.tape,fun n hn ha => (h.kept n hn ⟨ha.saved,ha.kept⟩).exited⟩

section
variable (outputs : α → Tensors) (inputs : Named Tensor) (rule : α → Option Rule)
  {forward : Eng (α × Tensors)} {e e₁ : Engine}

theorem run_kernels_error (h : forward e.entered = .error f e₁) :
    runKernelsWith outputs inputs rule forward e = .error f e₁.exited := by
  obtain ⟨name,hname⟩ := run_scopeName e
  unfold entered at h
  rw [runKernelsWith,runSaving,run_bind_ok (run_isTapeOn e),run_bind_ok hname,run_bind,run_insideKernel]
  simp only [run_bind,h]
  rfl

theorem run_kernels_ok {save : Tensors} (h : forward e.entered = .ok (r,save) e₁) (hs : Scoped e₁) :
    runKernelsWith outputs inputs rule forward e = .ok r e₁.exited ∨ ∃ ys e₂ node, Saves ys e₁ e₂ ∧ node.saved = ys ∧
    runKernelsWith outputs inputs rule forward e = .ok r (e₂.exited.withNode node) := by
  obtain ⟨name,hname⟩ := run_scopeName e
  obtain ⟨ys,e₂,hsaves,hkept⟩ := run_saves save hs
  have hlift : (liftM (save.mapM saveTensor) : Eng Tensors) e₁ = .ok ys e₂ := hsaves
  unfold entered at h
  rw [runKernelsWith,runSaving,run_bind_ok (run_isTapeOn e),run_bind_ok hname,run_bind,run_insideKernel]
  cases (e.gradientDepth > 0 && e.kernelDepth == 0) with
  | false =>
    left
    simp only [run_bind,h]
    rfl
  | true =>
    right
    simp only [run_bind,h,↓reduceIte,hlift]
    exact ⟨ys,e₂,_,hkept,rfl,rfl⟩

theorem Works.kernel (hf : Works D forward) : Works D (runKernelsWith outputs inputs rule forward) := by
  intro e hs
  have hinner := hf e.entered (hs.like rfl)
  cases h : forward e.entered with
  | error f e₁ =>
    rw [after_error h] at hinner
    rw [after_error (run_kernels_error outputs inputs rule h)]
    exact hinner.exited
  | ok a e₁ =>
    rw [after_ok h] at hinner
    rcases run_kernels_ok outputs inputs rule h hinner.foot.stack with hrun | ⟨ys,e₂,node,hsaves,hnode,hrun⟩
    · rw [after_ok hrun]
      exact hinner.exited
    · rw [after_ok hrun]
      refine ⟨((hinner.foot.trans (hsaves.foot.mono (Set.empty_subset D))).exited).withNode node,fun m hm => ?_,
        fun n hn ha => ?_⟩
      · exact mem_tape_withNode.mpr (.inl (hsaves.tape m (hinner.tape m hm)))
      · have hexited := (hsaves.kept n [] (hinner.kept n hn ⟨ha.saved,ha.kept⟩)).exited
        exact hexited.withNode hnode fun t ht => hn.trans (hinner.foot.size.trans (hsaves.new t ht))
end

/-! ## Complex data -/

theorem works_clone (x : Tensor) : Works ∅ (Ops.clone x) := by
  have hshare : Works ∅ (share x x.shape x.dtype >>= fun y => pure (y,([] : Tensors))) :=
    (works_share x x.shape x.dtype).bind fun _ => .look fun _ => rfl
  unfold Ops.clone inScope Ops.kernel1 runKernel
  exact (hshare.kernel _ _ _).scope _ _

theorem bufferAt_clone (x : Tensor) (h : e.bufferAt d = some b) :
    ∃ uses, (after (Ops.clone x) e).bufferAt d = some { b with refCount := uses } := by
  obtain ⟨depth,halike⟩ := alike_clone x e
  rw [halike.bufferAt,bufferAt_counted]
  have hbefore : ((e.inClone depth).sharing x).bufferAt d = some b := h
  split
  next hd =>
    rw [claimed,hd.1,hbefore]
    exact ⟨_,rfl⟩
  next => exact ⟨b.refCount,hbefore⟩

theorem bufferAt_make_absent (e : Engine) :
    ∃ b, (after (make shape dtype .absent) e).bufferAt e.buffers.size = some b ∧ b.data.parts = [] := by
  obtain ⟨e',hrun,rfl | rfl⟩ := run_make shape dtype .absent e
  · rw [after_ok hrun,bufferAt_withRoom e rfl]
    exact ⟨_,rfl,rfl⟩
  · rw [after_ok hrun,bufferAt_written,dataId_withRoom e rfl,if_pos rfl,bufferAt_withRoom e rfl]
    exact ⟨_,rfl,by rw [filled_data]; rfl⟩

theorem kept_of_keptAt (h : ((e.keptAt i).cellAt j).kept = true) (hij : i ≠ j) : (e.cellAt j).kept = true := by
  unfold keptAt at h
  rwa [cellAt_withCell_of_ne hij] at h

theorem works_makeComplex (re im : Tensor) : Works ∅ (Ops.makeComplex re im) := by
  intro e hs
  generalize h₁ : after (make re.shape .complex64 .absent) e = e₁
  generalize h₂ : after (Ops.clone re) e₁ = e₂
  generalize h₃ : after (Ops.clone im) e₂ = e₃
  have hmake : Worked ∅ e e₁ := h₁ ▸ works_make _ _ rfl e hs
  have hclone : Worked ∅ e₁ e₂ := h₂ ▸ works_clone re e₁ hmake.foot.stack
  have hclone' : Worked ∅ e₂ e₃ := h₃ ▸ works_clone im e₂ hclone.foot.stack
  have hall := (hmake.trans hclone).trans hclone'
  have hz : (e₁.cellAt e.cells.size).dataId = e.buffers.size ∧ e.cells.size < e₁.cells.size := h₁ ▸ cellAt_make _ _ _ e
  obtain ⟨b₁,hb₁,hparts⟩ : ∃ b, e₁.bufferAt e.buffers.size = some b ∧ b.data.parts = [] :=
    h₁ ▸ bufferAt_make_absent _ _ e
  obtain ⟨uses,hb₂⟩ := bufferAt_clone re hb₁
  rw [h₂] at hb₂
  obtain ⟨uses',hb₃⟩ := bufferAt_clone im hb₂
  rw [h₃] at hb₃
  rw [after_ok (run_makeComplex re im h₁ h₂ h₃)]
  generalize hrun : (e₃.keptAt (e₁.viewOf re).id).keptAt (e₂.viewOf im).id = e₄
  have halike : Alike e₃ e₄ := hrun ▸ (alike_keptAt e₃ _).trans (alike_keptAt _ _)
  have hdata : (e₄.cellAt e.cells.size).dataId = e.buffers.size := by
    rw [halike.dataId,hclone'.foot.dataId (hz.2.trans_le hclone.foot.size),hclone.foot.dataId hz.2,hz.1]
  have hb₄ : e₄.bufferAt e.buffers.size = some { b₁ with refCount := uses' } := by rw [halike.bufferAt,hb₃]
  have hempty : ∀ b, e₄.bufferAt (e₄.cellAt e.cells.size).dataId = some b → b.data.parts = [] := by
    intro b hb
    rw [hdata,hb₄] at hb
    cases hb
    exact hparts
  have hfoot : Footprint ∅ e e₄ := hrun ▸
    (hall.foot.keptAt (i := (e₁.viewOf re).id) hmake.foot.size).keptAt (hmake.foot.size.trans hclone.foot.size)
  let t : Tensor := ⟨e.cells.size,re.shape,.complex64⟩
  let data : Data := .complex (e₁.viewOf re) (e₂.viewOf im)
  have htape : (e₄.written t data).tape = e₃.tape := by
    rw [show (e₄.written t data).tape = e₄.tape from congrArg Prod.fst (record_written e₄ t data),← hrun]
    rfl
  have hpart : ∀ p ∈ data.parts, Part (e₄.written t data) p.id := fun p hp => by
    refine ⟨e.buffers.size,filled { b₁ with refCount := uses' } data,?_,p,by rwa [filled_data],rfl⟩
    rw [bufferAt_written,if_pos hdata,hb₄]
    rfl
  refine ⟨hfoot.written hempty ?_,fun node hnode => htape ▸ hall.tape node hnode,fun n hn ha => ?_⟩
  · intro p hp
    rcases mem_cons.mp hp with rfl | hp
    · exact hmake.foot.size
    · rw [mem_singleton.mp hp]
      exact hmake.foot.size.trans hclone.foot.size
  · refine (hall.kept n hn ha).of_step htape fun i hkept hlive => ?_
    rw [cellAt_written] at hkept hlive
    by_cases hre : (e₁.viewOf re).id = i
    · exact .inr (hre ▸ hpart (e₁.viewOf re) mem_cons_self)
    by_cases him : (e₂.viewOf im).id = i
    · exact .inr (him ▸ hpart (e₂.viewOf im) (mem_cons_of_mem _ mem_cons_self))
    rw [halike.disposed] at hlive
    exact .inl ⟨kept_of_keptAt (kept_of_keptAt (hrun ▸ hkept) him) hre,hlive,
      fun hp => ((part_alike halike i).mpr hp).written hempty data⟩

/-! ## Everything built from them -/

/-- Actions that are built from kernels: they look at the engine, make tensors on data of their own or of
others, put complex ones together, run kernels, and do so in scopes and one after the other. -/
class inductive Built : {α : Type} → Eng α → Prop where
  | look {α : Type} {x : Eng α} (h : ∀ e, after x e = e) : Built x
  | bind {α β : Type} {x : Eng α} {k : α → Eng β} (hx : Built x) (hk : ∀ a, Built (k a)) : Built (x >>= k)
  | make (shape : Shape) (dtype : DType) {data : Data} (h : data.parts = []) : Built (make shape dtype data)
  | share (x : Tensor) (shape : Shape) (dtype : DType) : Built (share x shape dtype)
  | complex (re im : Tensor) : Built (Ops.makeComplex re im)
  | scope {α : Type} (tensors : α → Tensors) (name : String) {x : Eng α} (hx : Built x) :
      Built (scopedWith tensors name x)
  | kernel {α : Type} (outputs : α → Tensors) (inputs : Named Tensor) (rule : α → Option Rule)
      {forward : Eng (α × Tensors)} (hf : Built forward) : Built (runKernelsWith outputs inputs rule forward)

theorem Built.works (h : Built x) : Works ∅ x := by
  induction h with
  | look h => exact .look h
  | bind _ _ ihx ihk => exact ihx.bind ihk
  | make shape dtype h => exact works_make shape dtype h
  | share x shape dtype => exact works_share x shape dtype
  | complex re im => exact works_makeComplex re im
  | scope tensors name _ ih => exact ih.scope tensors name
  | kernel outputs inputs rule _ ih => exact ih.kernel outputs inputs rule
end TensorKit.Engine
