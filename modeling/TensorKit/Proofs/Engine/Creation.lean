import TensorKit.Proofs.Engine.Ledger
import TensorKit.Proofs.Engine.Scopes

/-! # Making tensors

Every way to make a tensor leaves what was there as it is, tracks what is new in the innermost scope and keeps the
books right. This is one relation between states, of which all ways are cases.
-/
namespace TensorKit.Engine
open List
variable {e e' e'' : Engine} {i : Nat} {t y : Tensor} (x : Tensor)
variable {data : Data} {k : Nat} {name : String} {rest : List Scope}
/-- A tensor that registered data is made of. -/
def Part (e : Engine) (i : Nat) : Prop := ∃ d b, e.bufferAt d = some b ∧ ∃ p ∈ b.data.parts, p.id = i

theorem Part.lt_size (hw : WellFormed e) (h : Part e i) : i < e.cells.size := by
  obtain ⟨d,b,hb,p,hp,rfl⟩ := h
  exact (hw.parts d b hb p hp).1
theorem Part.fades (hf : Fades e e') (h : Part e' i) : Part e i := by
  obtain ⟨d,b',hb',hp⟩ := h
  obtain ⟨b,hb,hdata⟩ := hf.data hb'
  exact ⟨d,b,hb,hdata ▸ hp⟩
theorem part_alike (h : Alike e e') (i : Nat) : Part e' i ↔ Part e i := by simp only [Part,h.bufferAt]

theorem Part.counted (h : Part (e.counted t) i) : Part e i := by
  obtain ⟨d,b,hb,p,hp,rfl⟩ := h
  rw [bufferAt_counted] at hb
  split at hb
  next hd =>
    cases hb
    unfold claimed at hp
    split at hp
    next b hb => exact ⟨d,b,hd.1 ▸ hb,p,hp,rfl⟩
    next => cases hp
  next => exact ⟨d,b,hb,p,hp,rfl⟩

theorem Part.of_written (h : Part (e.written t data) i) : Part e i ∨ ∃ p ∈ data.parts, p.id = i := by
  obtain ⟨d,b,hb,p,hp,rfl⟩ := h
  rw [bufferAt_written] at hb
  split at hb
  · obtain ⟨b₀,-,rfl⟩ := Option.map_eq_some_iff.mp hb
    rw [filled_data] at hp
    exact .inr ⟨p,hp,rfl⟩
  · exact .inl ⟨d,b,hb,p,hp,rfl⟩

/-- New tensors, beside all that was there. The first of them is no part of any data. -/
structure Creates (e e' : Engine) : Prop where
  store : WellFormed e'
  stack : Scoped e'
  size : e.cells.size ≤ e'.cells.size
  cell : ∀ i < e.cells.size, e'.cellAt i = e.cellAt i
  room : e.buffers.size ≤ e'.buffers.size
  buffer : ∀ d b, e.bufferAt d = some b → ∃ r, e'.bufferAt d = some { b with refCount := r }
  parts : ∀ i, Part e' i → Part e i ∨ e.cells.size < i
  scopes : ∃ ts, e'.scopes = pushed ts e.scopes
  next : e.nextScopeId ≤ e'.nextScopeId
  books : imbalance e' = imbalance e

namespace Creates
theorem refl (hw : WellFormed e) (hs : Scoped e) : Creates e e where
  store := hw
  stack := hs
  size := le_rfl
  cell _ _ := rfl
  room := le_rfl
  buffer _ b hb := ⟨b.refCount,hb⟩
  parts _ hi := .inl hi
  scopes := ⟨[],(pushed_nil _).symm⟩
  next := le_rfl
  books := rfl

variable (h : Creates e e')
include h
theorem trans (h' : Creates e' e'') : Creates e e'' where
  store := h'.store
  stack := h'.stack
  size := h.size.trans h'.size
  cell i hi := (h'.cell i (hi.trans_le h.size)).trans (h.cell i hi)
  room := h.room.trans h'.room
  buffer d b hb := by
    obtain ⟨r,hb'⟩ := h.buffer d b hb
    obtain ⟨r',hb''⟩ := h'.buffer d _ hb'
    exact ⟨r',hb''⟩
  parts i hi := by
    rcases h'.parts i hi with hi | hi
    · exact h.parts i hi
    · exact .inr (h.size.trans_lt hi)
  scopes := by
    obtain ⟨ts,hts⟩ := h.scopes
    obtain ⟨us,hus⟩ := h'.scopes
    exact ⟨us ++ ts,by rw [hus,hts,pushed_pushed]⟩
  next := h.next.trans h'.next
  books := h'.books.trans h.books

theorem keptAt (hi : e.cells.size ≤ i) : Creates e (e'.keptAt i) := { h with
  store := h.store.alike (alike_keptAt e' i)
  stack := h.stack.same rfl rfl
    fun j => by unfold Engine.keptAt; rw [cellAt_withCell]; split <;> rfl
    fun j hj => h.stack.untracked j ((alike_keptAt e' i).variableInfo j ▸ hj)
  size := h.size.trans (alike_keptAt e' i).size.ge
  cell := fun j hj => by
    rw [Engine.keptAt,cellAt_withCell_of_ne (by omega)]
    exact h.cell j hj
  books := (imbalance_alike (alike_keptAt e' i)).trans h.books }

theorem withRecord (tape : Array TapeNode) (node depth : Nat) : Creates e (e'.withRecord tape node depth) := { h with
  store := h.store.alike (alike_withRecord e' tape node depth)
  stack := h.stack.like rfl
  books := (imbalance_alike (alike_withRecord e' tape node depth)).trans h.books }

theorem written (hd : e.buffers.size ≤ (e'.cellAt t.id).dataId)
    (hparts : ∀ p ∈ data.parts, p.id < e'.cells.size ∧ (e'.cellAt p.id).dataId < (e'.cellAt t.id).dataId ∧ (e'.cellAt p.id).variableInfo = none)
    (hnew : ∀ p ∈ data.parts, e.cells.size < p.id) : Creates e (e'.written t data) where
  store := h.store.written hparts
  stack := h.stack.written t data
  size := by rw [(written_frame e' t data).1]; exact h.size
  cell i hi := by rw [cellAt_written]; exact h.cell i hi
  room := by rw [(written_frame e' t data).2.1]; exact h.room
  buffer d b hb := by
    have hold := lt_size_of_bufferAt hb
    rw [bufferAt_written,if_neg (by omega)]
    exact h.buffer d b hb
  parts i hi := by
    rcases hi.of_written with hi | ⟨p,hp,rfl⟩
    · exact h.parts i hi
    · exact .inr (hnew p hp)
  scopes := by rw [(written_frame e' t data).2.2.1]; exact h.scopes
  next := by rw [(written_frame e' t data).2.2.2]; exact h.next
  books := (imbalance_written e' t data).trans h.books
end Creates

/-! ## Views and variables -/

theorem cellAt_tracked_of_ne (h : t.id ≠ i) : (e.tracked t).cellAt i = e.cellAt i := by
  unfold tracked
  split
  · rfl
  · exact cellAt_withCell_of_ne h _

theorem cellAt_enrolled_of_ne (h : t.id ≠ i) : (e.enrolled t).cellAt i = e.cellAt i := by
  unfold enrolled
  split
  · rw [cellAt_tracked_of_ne h,cellAt_counted]
  · exact cellAt_counted e t i

theorem enrolled_scopes (e : Engine) (t : Tensor) :
    ∃ ts, (e.enrolled t).scopes = pushed ts e.scopes ∧ ∀ x ∈ ts, x = t := by
  unfold enrolled
  split
  · exact ⟨[t],by rw [tracked_scopes,(counted_frame e t).2.2.1],by simp⟩
  · exact ⟨[],by rw [pushed_nil,(counted_frame e t).2.2.1],nofun⟩

theorem enrolled_next (e : Engine) (t : Tensor) : (e.enrolled t).nextScopeId = e.nextScopeId := by
  unfold enrolled
  split
  · rw [tracked_next,(counted_frame e t).2.2.2]
  · exact (counted_frame e t).2.2.2

variable (hw : WellFormed e)
include hw
variable (hs : Scoped e) (shape : Shape) (dtype : DType)
include hs
theorem creates_enrolled (hdata : c.dataId < e.buffers.size) (hloose : c.scopeId = none)
    (hlive : c.disposed = false) (ht : t.id = e.cells.size) : Creates e ((e.withNew c).enrolled t) := by
  have hcell : (e.withNew c).cellAt t.id = c := by rw [cellAt_withNew,if_pos ht]
  have hcounted := alike_enrolled (e.withNew c) t
  obtain ⟨ts,hscopes,-⟩ := enrolled_scopes (e.withNew c) t
  have hsize : ((e.withNew c).enrolled t).cells.size = e.cells.size + 1 := by
    rw [hcounted.size,(size_counted _ t).1,size_withNew]
  refine ⟨(hw.withNew hdata).enrolled t,(hs.withNew hloose).enrolled ?_ ?_,?_,fun i hi => ?_,?_,
    fun d b hb => ?_,fun i hi => ?_,⟨ts,hscopes⟩,(enrolled_next (e.withNew c) t).ge,?_⟩
  · rw [ht,size_withNew]; exact Nat.lt_succ_self _
  · rw [hcell,hloose]
  · omega
  · rw [cellAt_enrolled_of_ne (by omega),cellAt_withNew,if_neg (by omega)]
  · rw [hcounted.buffers,(size_counted _ t).2]
    exact le_rfl
  · rw [hcounted.bufferAt,bufferAt_counted,claimed,hcell]
    by_cases hd : c.dataId = d
    · subst hd
      rw [if_pos ⟨rfl,hdata⟩,bufferAt_withNew,hb]
      exact ⟨_,rfl⟩
    · rw [if_neg (hd ·.1)]
      exact ⟨b.refCount,hb⟩
  · exact .inl ((part_alike hcounted i).mp hi).counted
  · rw [imbalance_alike hcounted,imbalance_counted (by rw [hcell]; exact hdata),hcell,imbalance_withNew,
      cellTally,hlive]
    simp

theorem creates_share {x : Tensor} (hx : x.id < e.cells.size) (shape : Shape)
    (dtype : DType) : Creates e (after (share x shape dtype) e) := by
  rw [after_ok (run_share x shape dtype e)]
  exact creates_enrolled hw hs (hw.inRange x.id hx) rfl rfl rfl
omit hw in
omit hs in
theorem part_withPlace (i : Nat) : Part { e with buffers := e.buffers.push none } i ↔ Part e i := by
  simp only [Part,bufferAt_withPlace]

theorem creates_withPlace : Creates e { e with buffers := e.buffers.push none } := { Creates.refl hw hs with
  store := hw.withPlace
  stack := hs.like rfl
  room := by simp
  buffer := fun d b hb => ⟨b.refCount,by rw [bufferAt_withPlace,hb]⟩
  parts := fun i hi => .inl ((part_withPlace i).mp hi)
  books := imbalance_withPlace e }

theorem creates_withVariable {x : Tensor} (hx : x.id < e.cells.size)
    (trainable : Bool) (name : Option String) : Creates e (e.withVariable x trainable name) := by
  have hsame : Creates e (e.numbered name) := { Creates.refl hw hs with
    store := hw.alike (alike_numbered e name)
    stack := hs.like rfl
    books := imbalance_alike (alike_numbered e name) }
  exact hsame.trans (creates_enrolled hsame.store hsame.stack (hw.inRange x.id hx) rfl rfl rfl)

/-! ## Data of its own -/

theorem creates_withRoom (ht : t.id = e.cells.size) : Creates e (e.withRoom.enrolled t) := by
  have hplace := creates_withPlace hw hs
  exact hplace.trans (creates_enrolled hplace.store hplace.stack (by simp) rfl rfl ht)
omit hw in
omit hs in
theorem dataId_withRoom (e : Engine) (ht : t.id = e.cells.size) :
    ((e.withRoom.enrolled t).cellAt t.id).dataId = e.buffers.size := by
  rw [(alike_enrolled _ t).dataId,cellAt_counted,withRoom,cellAt_withNew,if_pos ht]

theorem creates_make (hdata : data.parts = []) : Creates e (after (make shape dtype data) e) := by
  obtain ⟨e',hrun,rfl | rfl⟩ := run_make shape dtype data e
  · rw [after_ok hrun]
    exact creates_withRoom hw hs rfl
  · rw [after_ok hrun]
    refine (creates_withRoom hw hs rfl).written (dataId_withRoom e rfl).ge ?_ ?_
    · simp [hdata]
    · simp [hdata]
omit hs
omit hw

theorem cellAt_make (data : Data) (e : Engine) : ((after (make shape dtype data)
    e).cellAt e.cells.size).dataId = e.buffers.size ∧ e.cells.size < (after (make shape dtype data) e).cells.size := by
  have hd := dataId_withRoom e (t := ⟨e.cells.size,shape,dtype⟩) rfl
  have hsize : e.cells.size < (e.withRoom.enrolled ⟨e.cells.size,shape,dtype⟩).cells.size := by
    rw [(alike_enrolled _ _).size,(size_counted _ _).1,withRoom,size_withNew]
    exact Nat.lt_succ_self _
  obtain ⟨e',hrun,rfl | rfl⟩ := run_make shape dtype data e
  · rw [after_ok hrun]
    exact ⟨hd,hsize⟩
  · rw [after_ok hrun,cellAt_written,(written_frame _ _ _).1]
    exact ⟨hd,hsize⟩

/-! ## Complex data -/

variable (h : e.scopes = ⟨k,name,[y]⟩ :: rest)
include h
theorem closed_of_own_result : e.closed [y] = adopted k { e with scopes := rest } y := by
  rw [closed_eq_sweep h]
  simp [swept]
theorem alike_closed_own_result : Alike e (e.closed [y]) := by
  rw [closed_of_own_result h]
  exact (alike_withScopes e rest _).trans (alike_adopted k _ y)
omit h

theorem creates_of_own_scope (name : String) (halike : Alike e e₁) (hcell : ∀ i, e₁.cellAt i = e.cellAt
    i) (hnext : e.nextScopeId ≤ e₁.nextScopeId) (hmade : Creates e₁ e₂) (hscopes : e₂.scopes = ⟨e.nextScopeId,name,
    [y]⟩ :: e.scopes) (hy : e.cells.size ≤ y.id) : Creates e (e₂.closed [y]) := by
  have hstack := hmade.stack.closed [y]
  have hafter := alike_closed_own_result hscopes
  rw [closed_of_own_result hscopes] at hstack hafter ⊢
  have hadopted : adopted e.nextScopeId { e₂ with scopes := e.scopes } y = { e₂ with scopes := e.scopes } ∨
      adopted e.nextScopeId { e₂ with scopes := e.scopes } y = ({ e₂ with scopes := e.scopes } : Engine).tracked y := by
    unfold adopted
    split
    · exact .inr rfl
    · exact .inl rfl
  refine ⟨hmade.store.alike hafter,hstack,?_,fun i hi => ?_,?_,fun d b hb => ?_,fun i hi => ?_,?_,?_,?_⟩
  · rw [hafter.size,← halike.size]
    exact hmade.size
  · have hold : e₂.cellAt i = e.cellAt i := (hmade.cell i (by rwa [halike.size])).trans (hcell i)
    rcases hadopted with h | h
    · rw [h]
      exact hold
    · rw [h,cellAt_tracked_of_ne (by omega)]
      exact hold
  · rw [hafter.buffers,← halike.buffers]
    exact hmade.room
  · rw [hafter.bufferAt]
    exact hmade.buffer d b (halike.bufferAt d ▸ hb)
  · rw [← part_alike halike,← halike.size]
    exact hmade.parts i ((part_alike hafter i).mp hi)
  · rcases hadopted with h | h
    · exact ⟨[],by rw [h,pushed_nil]⟩
    · exact ⟨[y],by rw [h,tracked_scopes]⟩
  · rcases hadopted with h | h
    · rw [h]
      exact hnext.trans hmade.next
    · rw [h,tracked_next]
      exact hnext.trans hmade.next
  · rw [imbalance_alike hafter,hmade.books,imbalance_alike halike]

/-- A view in a scope of its own, before that scope ends. -/
def cloning (e : Engine) (x : Tensor) (depth : Nat) : Engine := ((e.inClone depth).sharing x).enrolled (e.viewOf x)

theorem cloning_scopes (e : Engine) (x : Tensor) (depth : Nat) :
    (e.cloning x depth).scopes = ⟨e.nextScopeId,"clone",[e.viewOf x]⟩ :: e.scopes := by
  rw [cloning,enrolled,if_pos,tracked_scopes,(counted_frame _ _).2.2.1]
  · rfl
  · have hsize : (e.viewOf x).id = (e.inClone depth).cells.size := rfl
    rw [cellAt_withNew,if_pos hsize]
    rfl

theorem after_clone (e : Engine) : ∃ depth tape node depth',
    after (Ops.clone x) e = ((e.cloning x depth).withRecord tape node depth').closed [e.viewOf x] := by
  obtain ⟨depth,tape,node,depth',hrun⟩ := run_clone x e
  exact ⟨depth,tape,node,depth',after_ok hrun⟩

theorem alike_clone (e : Engine) :
    ∃ depth, Alike (((e.inClone depth).sharing x).counted (e.viewOf x)) (after (Ops.clone x) e) := by
  obtain ⟨depth,tape,node,depth',hafter⟩ := after_clone x e
  have hclosed := alike_closed_own_result
    (show ((e.cloning x depth).withRecord tape node depth').scopes = _ from cloning_scopes e x depth)
  exact ⟨depth,hafter ▸ (alike_enrolled _ _).trans ((alike_withRecord _ tape node depth').trans hclosed)⟩

theorem creates_clone {x : Tensor} (hw : WellFormed e) (hs : Scoped e) (hx : x.id < e.cells.size) :
    Creates e (after (Ops.clone x) e) := by
  obtain ⟨depth,tape,node,depth',hafter⟩ := after_clone x e
  have halike : Alike e (e.inClone depth) := (alike_withScopes e _ _).trans (alike_withRecord _ _ _ _)
  have hmade : Creates (e.inClone depth) (e.cloning x depth) :=
    creates_enrolled (hw.alike halike) ((hs.opened "clone").like rfl) (hw.inRange x.id hx) rfl rfl rfl
  rw [hafter]
  exact creates_of_own_scope "clone" halike (fun _ => rfl) (Nat.le_succ _) (hmade.withRecord tape node depth')
    (cloning_scopes e x depth) le_rfl

theorem cellAt_clone (e : Engine) : ((after (Ops.clone x) e).cellAt e.cells.size).dataId = (e.cellAt x.id).dataId ∧
    ((after (Ops.clone x) e).cellAt e.cells.size).variableInfo = none ∧ e.cells.size < (after (Ops.clone x)
    e).cells.size := by
  obtain ⟨depth,hcell⟩ := alike_clone x e
  have hsize : e.cells.size = (e.inClone depth).cells.size := rfl
  rw [hcell.dataId,hcell.variableInfo,hcell.size,(size_counted _ _).1,size_withNew,cellAt_counted,
    cellAt_withNew,if_pos hsize]
  exact ⟨rfl,rfl,Nat.lt_succ_self _⟩

theorem creates_makeComplex (hw : WellFormed e) (hs : Scoped e) (hre : re.id < e.cells.size)
    (him : im.id < e.cells.size) : Creates e (after (Ops.makeComplex re im) e) := by
  generalize h₁ : after (make re.shape .complex64 .absent) e = e₁
  generalize h₂ : after (Ops.clone re) e₁ = e₂
  generalize h₃ : after (Ops.clone im) e₂ = e₃
  have hmake : Creates e e₁ := h₁ ▸ creates_make hw hs _ _ rfl
  have hclone : Creates e₁ e₂ := h₂ ▸ creates_clone hmake.store hmake.stack (hre.trans_le hmake.size)
  have hclone' : Creates e₂ e₃ :=
    h₃ ▸ creates_clone hclone.store hclone.stack (him.trans_le (hmake.size.trans hclone.size))
  have hz : (e₁.cellAt e.cells.size).dataId = e.buffers.size ∧ e.cells.size < e₁.cells.size := h₁ ▸ cellAt_make _ _ _ e
  have hp : (e₂.cellAt e₁.cells.size).dataId = (e₁.cellAt re.id).dataId ∧
      (e₂.cellAt e₁.cells.size).variableInfo = none ∧ e₁.cells.size < e₂.cells.size := h₂ ▸ cellAt_clone re e₁
  have hq : (e₃.cellAt e₂.cells.size).dataId = (e₂.cellAt im.id).dataId ∧
      (e₃.cellAt e₂.cells.size).variableInfo = none ∧ e₂.cells.size < e₃.cells.size := h₃ ▸ cellAt_clone im e₂
  rw [after_ok (run_makeComplex re im h₁ h₂ h₃)]
  -- the parts are views of data that is older than that of the whole
  have hzcell : (e₃.cellAt e.cells.size).dataId = e.buffers.size := by
    rw [hclone'.cell _ (by omega),hclone.cell _ hz.2,hz.1]
  have hpcell : e₃.cellAt e₁.cells.size = e₂.cellAt e₁.cells.size := hclone'.cell _ hp.2.2
  have hpold : (e₃.cellAt e₁.cells.size).dataId < e.buffers.size := by
    rw [hpcell,hp.1,hmake.cell _ hre]
    exact hw.inRange re.id hre
  have hqold : (e₃.cellAt e₂.cells.size).dataId < e.buffers.size := by
    rw [hq.1,hclone.cell _ (him.trans_le hmake.size),hmake.cell _ him]
    exact hw.inRange im.id him
  have hkept := (((hmake.trans hclone).trans hclone').keptAt (i := e₁.cells.size) hmake.size).keptAt
    (i := e₂.cells.size) (hmake.size.trans hclone.size)
  have halike := (alike_keptAt e₃ e₁.cells.size).trans (alike_keptAt _ e₂.cells.size)
  refine hkept.written ?_ ?_ ?_
  · rw [halike.dataId,hzcell]
  · intro p hp'
    rw [halike.dataId,halike.dataId,halike.variableInfo,halike.size,hzcell]
    rcases mem_cons.mp hp' with rfl | hp'
    · exact ⟨hp.2.2.trans_le hclone'.size,hpold,by rw [viewOf,hpcell]; exact hp.2.1⟩
    · rw [mem_singleton.mp hp']
      exact ⟨hq.2.2,hqold,hq.2.1⟩
  · intro p hp'
    rcases mem_cons.mp hp' with rfl | hp'
    · exact hz.2
    · rw [mem_singleton.mp hp']
      exact hz.2.trans hp.2.2
end TensorKit.Engine
