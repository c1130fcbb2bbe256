import TensorKit.Proofs.Engine.Runs

/-! # The life of variables

A variable shares data with the tensor it was made from, turns to other data when it is assigned, and gives data back
every time it is disposed. There are two ways to do harm: to dispose a variable again while its data is held by someone
else, and to assign to it data that its own release takes away.
-/
namespace TensorKit.Engine
open List
variable {v x : Tensor} {i : Nat} {s : Step} (e : Engine) (t : Tensor)
def content (e : Engine) (i : Nat) : Data := match e.bufferAt (e.cellAt i).dataId with
  | some b => b.data
  | none => .absent

theorem run_dataOf (e : Engine) : dataOf t e = .ok (e.content t.id) e := by
  simp only [dataOf,content,run_bind,run_get,run_cell,getD_buffers]
  cases e.bufferAt (e.cellAt t.id).dataId with
  | some b | none => rfl

theorem answer_dataOf (e : Engine) : answer (dataOf t) e = .ok (e.content t.id) := answer_ok (run_dataOf t e)

/-- The tensor whose data a call is to change. -/
def Call.target : Call → Option Nat
  | .assign v _ => some v.id
  | _ => none

/-- Only a live tensor is assigned to a variable. -/
def Call.GivesLive : Call → Prop
  | .assign _ x => (e.cellAt x.id).disposed = false
  | _ => True

instance : DecidablePred (Call.GivesLive e)
  | .assign _ x => inferInstanceAs (Decidable ((e.cellAt x.id).disposed = false))
  | .make _ _ _ | .share _ _ _ | .complex _ _ | .newVariable _ _ _ | .dispose _ | .keep _ | .startScope _ | .endScope _ =>
    .isTrue trivial

/-- A step after which tensors and uses are counted right, that took no data from another live tensor, and
after which a variable that was assigned reads as the tensor did. -/
structure Upholds (s : Step) : Prop where
  tensors : s.next.numTensors = liveTensors s.next
  refCounts : ∀ d, uses s.next d = holders s.next d
  others : ∀ i < s.before.cells.size, s.call.target ≠ some i → (s.next.cellAt i).disposed = false →
    Retained s.before s.next i
  reads : ∀ v x, s.call = .assign v x → x.dtype = v.dtype → x.shape = v.shape →
    answer (dataOf v) s.next = answer (dataOf x) s.before

/-- Data that can do with one use less: there is another use, or nothing was written to it. -/
def Spare (e : Engine) (d : Nat) : Prop := ∀ b, e.bufferAt d = some b → 2 ≤ b.refCount ∨ b.data = .absent

/-- A variable is disposed again only when its data is gone. Once disposed it is assigned only the data it
had, and data it has only when that can do with one use less. -/
def Harmless : Call → Prop
  | .dispose t => (e.cellAt t.id).variableInfo.isSome → (e.cellAt t.id).disposed = true →
      e.bufferAt (e.cellAt t.id).dataId = none
  | .assign v x => x.dtype = v.dtype → x.shape = v.shape →
      ((e.cellAt v.id).disposed = true → (e.cellAt x.id).dataId = (e.cellAt v.id).dataId) ∧
      ((e.cellAt x.id).dataId = (e.cellAt v.id).dataId → Spare e (e.cellAt v.id).dataId)
  | _ => True

/-! ## Assignment -/

/-- Data of a live tensor, which is no part of other data, is given to a variable while the books are right. -/
structure Gives (e : Engine) (v x : Tensor) : Prop where
  store : WellFormed e
  books : imbalance e = 0
  target : v.id < e.cells.size
  source : x.id < e.cells.size
  live : (e.cellAt x.id).disposed = false
  whole : ¬ Part e x.id

section Assigned
variable {e : Engine}
theorem dataId_assigned_of_ne (hi : i ≠ v.id) : ((e.assigned v x).cellAt i).dataId = (e.cellAt i).dataId := by
  rw [assigned,(alike_enrolled _ v).dataId,cellAt_counted,cellAt_withCell_of_ne (.symm hi),
    (disposes_released e v).fades.dataId]

namespace Gives
variable (h : Gives e v x)
include h
theorem target_released : v.id < (e.released v).cells.size := by
  rw [(disposes_released e v).fades.size]
  exact h.target
theorem room_released : (e.cellAt x.id).dataId < (e.released v).buffers.size := by
  rw [(disposes_released e v).fades.room]
  exact h.store.inRange x.id h.source
theorem cellAt_assigned_self : ((e.assigned v x).cellAt v.id).dataId = (e.cellAt x.id).dataId := by
  rw [assigned,(alike_enrolled _ v).dataId,cellAt_counted,cellAt_withCell_self h.target_released]

theorem bufferAt_assigned_of_ne (hd : (e.cellAt x.id).dataId ≠ d) :
    (e.assigned v x).bufferAt d = (e.released v).bufferAt d := by
  rw [assigned,(alike_enrolled _ v).bufferAt,bufferAt_counted,cellAt_withCell_self h.target_released,if_neg (hd ·.1)]
  rfl

theorem bufferAt_assigned_self : ∃ b', (e.assigned v x).bufferAt (e.cellAt x.id).dataId = some b' ∧
    b'.data = ((e.released v).bufferAt (e.cellAt x.id).dataId).elim .absent Buffer.data := by
  have hcell := cellAt_withCell_self h.target_released (f := fun c => { c with dataId := (e.cellAt x.id).dataId })
  rw [assigned,(alike_enrolled _ v).bufferAt,bufferAt_counted,hcell,if_pos ⟨rfl,h.room_released⟩]
  refine ⟨_,rfl,?_⟩
  rw [claimed,hcell,bufferAt_withCell]
  cases (e.released v).bufferAt (e.cellAt x.id).dataId with
  | some b | none => rfl

theorem imbalance_assigned : imbalance (e.assigned v x) = imbalance (e.released v) -
    use (if (e.cellAt v.id).disposed then (e.cellAt x.id).dataId else (e.cellAt v.id).dataId) := by
  have hsize := h.target_released
  have hflag : ((e.released v).cellAt v.id).disposed = (e.cellAt v.id).disposed := disposed_releaseWithin_self h.store
  rw [assigned,imbalance_alike (alike_enrolled _ v),imbalance_counted,cellAt_withCell_self hsize,
    imbalance_withCell hsize]
  · simp only [cellTally,hflag,(disposes_released e v).fades.dataId]
    cases (e.cellAt v.id).disposed with
    | true => simp
    | false => simp only [Bool.false_eq_true,↓reduceIte]; abel
  · rw [cellAt_withCell_self hsize]
    exact h.room_released
end Gives
end Assigned

theorem live_released {e : Engine} (hi : (e.cellAt i).disposed = false) (hwhole : ¬ Part e i) :
    ((e.released v).cellAt i).disposed = false := by
  have hiff := (disposes_released e v).disposed i
  have hlost : ¬ Lost e (e.released v) i := by
    rintro ⟨d,b,hb,-,hp⟩
    exact hwhole ⟨d,b,hb,hp⟩
  simpa [hi,hlost] using hiff

namespace Gives
variable {e : Engine} {b : Buffer} (h : Gives e v x)
include h
/-- The data of a live tensor outlives the release of a variable, unless it was the variable's and the
release was of its last use. -/
theorem survives_iff (hb : e.bufferAt (e.cellAt x.id).dataId = some b) : ((e.released v).bufferAt (e.cellAt
    x.id).dataId).elim .absent Buffer.data = b.data ↔ ((e.cellAt x.id).dataId = (e.cellAt v.id).dataId → Spare e
    (e.cellAt v.id).dataId) := by
  have hfades := (disposes_released e v).fades
  by_cases hk : (e.cellAt x.id).dataId = (e.cellAt v.id).dataId
  · rw [hk] at hb
    have hspare : Spare e (e.cellAt v.id).dataId ↔ 2 ≤ b.refCount ∨ b.data = .absent := by
      refine ⟨(· b hb),fun h b' hb' => ?_⟩
      rw [hb] at hb'
      cases hb'
      exact h
    simp only [hk,hspare]
    rw [bufferAt_released_self h.store hb,returned]
    split
    next hr =>
      have hlast : ¬ 2 ≤ b.refCount := by omega
      simp [hlast,eq_comm]
    next hr =>
      have hmore : 2 ≤ b.refCount := by omega
      simp [hmore]
  · have hzero : (imbalance (e.released v)).2.1 ((e.released v).cellAt x.id).dataId = 0 := by
      rw [imbalance_released h.store h.books,hfades.dataId]
      split
      · simp [use,hk]
      · rfl
    obtain ⟨b',hb'⟩ := registered_of_live (live_released h.live h.whole) hzero
    rw [hfades.dataId] at hb'
    obtain ⟨b₀,hb₀,hdata⟩ := hfades.data hb'
    rw [hb] at hb₀
    cases hb₀
    simp [hb',hdata,hk]

theorem content_assigned :
    (e.assigned v x).content v.id = ((e.released v).bufferAt (e.cellAt x.id).dataId).elim .absent Buffer.data := by
  obtain ⟨b',hb',hdata⟩ := h.bufferAt_assigned_self
  rw [content,h.cellAt_assigned_self,hb']
  exact hdata

/-- An assignment to a live variable keeps the books right. One to a disposed variable does if it is to
the data that the variable had. -/
theorem imbalance_assigned_eq_zero (hdata : (e.cellAt v.id).disposed = true → (e.cellAt x.id).dataId =
    (e.cellAt v.id).dataId) : imbalance (e.assigned v x) = 0 := by
  rw [h.imbalance_assigned,imbalance_released h.store h.books]
  cases hd : (e.cellAt v.id).disposed with
  | true =>
    obtain ⟨b,hb⟩ := registered_of_live h.live (by rw [h.books]; rfl)
    rw [hdata hd] at hb ⊢
    simp [hb]
  | false =>
    obtain ⟨b,hb⟩ := registered_of_live hd (by rw [h.books]; rfl)
    simp [hb]

theorem dataId_eq_of_counted (hd : (e.cellAt v.id).disposed = true)
    (hcount : uses (e.assigned v x) (e.cellAt x.id).dataId = holders (e.assigned v x) (e.cellAt x.id).dataId) :
    (e.cellAt x.id).dataId = (e.cellAt v.id).dataId := by
  by_contra hk
  have hzero := imbalance_uses (e.assigned v x) (e.cellAt x.id).dataId
  rw [hcount,h.imbalance_assigned,imbalance_released h.store h.books] at hzero
  split at hzero
  · simp [use,hk] at hzero
  · simp [use] at hzero

theorem retained_assigned (hbooks : imbalance (e.assigned v x) = 0)
    (hspare : (e.cellAt x.id).dataId = (e.cellAt v.id).dataId → Spare e (e.cellAt v.id).dataId) (hi : i ≠ v.id)
    (hilive : ((e.assigned v x).cellAt i).disposed = false) : Retained e (e.assigned v x) i := by
  have hsame := dataId_assigned_of_ne (e := e) (x := x) hi
  refine ⟨hsame,?_⟩
  by_cases hk : (e.cellAt x.id).dataId = (e.cellAt i).dataId
  · obtain ⟨b,hb⟩ := registered_of_live h.live (by rw [h.books]; rfl)
    obtain ⟨b',hb',hdata⟩ := h.bufferAt_assigned_self
    exact ⟨b,b',hk ▸ hb,hk ▸ hb',hdata.trans ((h.survives_iff hb).mpr hspare)⟩
  · obtain ⟨b',hb'⟩ := registered_of_live hilive (by rw [hbooks]; rfl)
    rw [hsame] at hb'
    have hreleased := hb'
    rw [h.bufferAt_assigned_of_ne hk] at hreleased
    obtain ⟨b,hb,hdata⟩ := (disposes_released e v).fades.data hreleased
    exact ⟨b,b',hb,hb',hdata⟩
end Gives

/-! ## Steps -/

/-- What holds along runs as long as no step does harm. -/
structure Fair (e : Engine) (known : Tensors) : Prop where
  sound : Sound e known
  books : imbalance e = 0

theorem fair_empty : Fair {} [] := ⟨sound_empty,rfl⟩

theorem upholds_of_books (hg : imbalance s.next = 0) (hothers : ∀ i < s.before.cells.size, s.call.target ≠ some i →
    (s.next.cellAt i).disposed = false → Retained s.before s.next i) (hreads : ∀ v x, s.call = .assign v x → x.dtype =
    v.dtype → x.shape = v.shape → answer (dataOf v) s.next = answer (dataOf x) s.before) : Upholds s := by
  obtain ⟨htensors,huses,-⟩ := (imbalance_eq_zero_iff s.next).mp hg
  exact ⟨htensors,huses,hothers,hreads⟩

section Steps
variable {e e₁ : Engine} {known : List Tensor} {c : Call}
theorem ne_assign_of_target (h : c.target = none) (v x : Tensor) : c ≠ .assign v x := by
  rintro rfl
  cases h

variable (h : Fair e known)
include h
theorem upholds_of_creates (hc : Creates e (after c.run e)) (hno : c.target = none) :
    imbalance (after c.run e) = 0 ∧ Upholds ⟨e,known,c⟩ := by
  have hbooks := hc.books.trans h.books
  exact ⟨hbooks,upholds_of_books hbooks (fun i hi _ hlive => retained_of_creates h.books hc hi hlive)
    fun v x heq => absurd heq (ne_assign_of_target hno v x)⟩

omit h in
theorem upholds_of_fades (hf : Fades e e₁) (ha : Alike e₁ (after c.run e)) (hg : imbalance (after c.run e) = 0)
    (hno : c.target = none) : imbalance (after c.run e) = 0 ∧ Upholds ⟨e,known,c⟩ :=
  ⟨hg,upholds_of_books hg (fun _ _ _ hlive => retained_of_fades hf ha hg hlive)
    fun v x heq => absurd heq (ne_assign_of_target hno v x)⟩

theorem upholds_newVariable (hx : x ∈ known) (trainable : Bool) (name : Option String) : imbalance
    (after (Call.newVariable x trainable name).run e) = 0 ∧ Upholds ⟨e,known,.newVariable x trainable name⟩ := by
  rcases newVariable_cases h.sound hx trainable name with hmakes | ⟨-,hmade,hafter⟩
  · exact upholds_of_creates h hmakes.creates rfl
  · -- the variable that is refused is counted and given back again
    have hbooks := hmade.books.trans h.books
    have hnew : ((e.withVariable x trainable name).cellAt e.cells.size).disposed = false := by
      rw [withVariable,(alike_enrolled _ _).disposed,cellAt_counted,cellAt_withNew]
      exact congrArg Cell.disposed (if_pos rfl)
    have hgone : imbalance (after (Call.newVariable x trainable name).run e) = 0 := by
      rw [hafter]
      exact imbalance_released_marked (t := ⟨e.cells.size,x.shape,x.dtype⟩) hmade.store hbooks hnew
    have hfades : Fades (e.withVariable x trainable name) (after (Call.newVariable x trainable name).run e) := by
      rw [hafter]
      exact (disposes_released _ _).fades.trans (fades_marked _ _)
    refine ⟨hgone,upholds_of_books hgone (fun i hi _ hlive => ?_)
      fun v y heq => absurd heq (ne_assign_of_target rfl v y)⟩
    obtain ⟨hid,b₁,b',hb₁,hb',hdata⟩ := retained_of_fades hfades (.refl _) hgone hlive
    obtain ⟨hid',b,b₁',hb,hb₁',hdata'⟩ := retained_of_creates h.books hmade hi (hfades.live hlive)
    rw [hid'] at hid hb₁ hb'
    rw [hb₁] at hb₁'
    cases hb₁'
    exact ⟨hid,b,b',hb,hb',hdata.trans hdata'⟩

theorem upholds_dispose_iff (t : Tensor) : (Upholds ⟨e,known,.dispose t⟩ → Harmless e (.dispose
    t)) ∧ (Harmless e (.dispose t) → imbalance (after (Call.dispose t).run e) = 0 ∧ Upholds ⟨e,known,.dispose t⟩) :=
    by
  have hafter := after_dispose t e
  by_cases hagain : (e.cellAt t.id).variableInfo.isSome ∧ (e.cellAt t.id).disposed = true
  · have hbooks := imbalance_discarded_again h.sound.store h.books hagain.2 hagain.1
    refine ⟨fun hup _ _ => ?_,fun hsafe => ?_⟩
    · by_contra hreg
      rw [if_pos (Option.isSome_iff_ne_none.mpr hreg)] at hbooks
      have hcount := imbalance_tensors (e.discarded t)
      have htensors : (e.discarded t).numTensors = liveTensors (e.discarded t) := hafter ▸ hup.tensors
      rw [hbooks,htensors,sub_self] at hcount
      exact one_ne_zero hcount
    · rw [hsafe hagain.1 hagain.2] at hbooks
      refine upholds_of_fades (disposes_discarded e t).fades (hafter ▸ .refl _) ?_ rfl
      rw [hafter,hbooks]
      rfl
  · have hsafe : Harmless e (.dispose t) := fun hv hd => absurd ⟨hv,hd⟩ hagain
    refine ⟨fun _ => hsafe,fun _ => upholds_of_fades (disposes_discarded e t).fades (hafter ▸ .refl _) ?_ rfl⟩
    rw [hafter]
    cases hd : (e.cellAt t.id).disposed with
    | false => exact imbalance_discarded_of_live h.sound.store h.books hd
    | true =>
      have hv : (e.cellAt t.id).variableInfo = none := by
        by_contra hv
        exact hagain ⟨Option.isSome_iff_ne_none.mpr hv,hd⟩
      exact imbalance_discarded h.sound.store h.books hv

theorem upholds_assign_iff (hx : x ∈ known) (hv : (e.cellAt v.id).variableInfo.isSome) (hlive :
    (e.cellAt x.id).disposed = false) : (Upholds ⟨e,known,.assign v x⟩ → Harmless e (.assign v x)) ∧
    (Harmless e (.assign v x) → imbalance (after (Call.assign v x).run e) = 0 ∧ Upholds ⟨e,known,.assign v x⟩) := by
  have hgives : Gives e v x := ⟨h.sound.store,h.books,lt_size_of_variable hv,h.sound.made x hx,hlive,h.sound.whole x hx⟩
  by_cases heq : x.dtype = v.dtype ∧ x.shape = v.shape
  · have hafter := (after_assign v x e).trans (if_pos heq)
    obtain ⟨b,hb⟩ := registered_of_live hlive (by rw [h.books]; rfl)
    have hcontent : e.content x.id = b.data := by unfold content; rw [hb]
    constructor
    · intro hup _ _
      refine ⟨fun hd => ?_,?_⟩
      · have hcount : uses (e.assigned v x) (e.cellAt x.id).dataId =
            holders (e.assigned v x) (e.cellAt x.id).dataId := hafter ▸ hup.refCounts _
        exact hgives.dataId_eq_of_counted hd hcount
      · have hreads : answer (dataOf v) (e.assigned v x) = answer (dataOf x) e := hafter ▸ hup.reads v x rfl heq.1 heq.2
        rw [answer_dataOf,answer_dataOf,Except.ok.injEq,hgives.content_assigned,hcontent] at hreads
        exact (hgives.survives_iff hb).mp hreads
    · intro hsafe
      obtain ⟨hdata,hspare⟩ := hsafe heq.1 heq.2
      have hbooks := hgives.imbalance_assigned_eq_zero hdata
      have hgone : imbalance (after (Call.assign v x).run e) = 0 := by rw [hafter]; exact hbooks
      refine ⟨hgone,upholds_of_books hgone (fun i _ hne hilive => ?_) ?_⟩
      · rw [Step.next,hafter] at hilive ⊢
        have hi : i ≠ v.id := fun hiv => hne (by rw [hiv]; rfl)
        exact hgives.retained_assigned hbooks hspare hi hilive
      · rintro v' x' ⟨rfl,rfl⟩ _ _
        rw [Step.next,hafter,answer_dataOf,answer_dataOf,hgives.content_assigned,hcontent,(hgives.survives_iff hb).mpr hspare]
  · have hafter := (after_assign v x e).trans (if_neg heq)
    have hgone : imbalance (after (Call.assign v x).run e) = 0 := by rw [hafter]; exact h.books
    refine ⟨fun _ hd hs => absurd ⟨hd,hs⟩ heq,fun _ => ⟨hgone,upholds_of_books hgone ?_ ?_⟩⟩
    · intro i _ _ hilive
      have halike : Alike e (after (Call.assign v x).run e) := by rw [hafter]; exact .refl e
      exact retained_of_fades (.refl e) halike hgone hilive
    · rintro v' x' ⟨rfl,rfl⟩ hd hs
      exact absurd ⟨hd,hs⟩ heq
end Steps

theorem imbalance_closed {e : Engine} (h : Fair e known) (result : Tensors) : imbalance (e.closed result) = 0 := by
  cases hs : e.scopes with
  | nil => rw [closed_of_no_scope hs,h.books]
  | cons s rest =>
    rw [imbalance_alike (alike_closed hs result)]
    refine imbalance_sweep h.sound.store h.books (fun t ht => ?_) result
    -- cells of variables name no scope, so none is tracked
    have hid := (h.sound.stack.tracks s (hs ▸ mem_cons_self) t.id).mp ⟨t,ht,rfl⟩
    by_contra hv
    rw [h.sound.stack.untracked t.id (Option.isSome_iff_ne_none.mpr hv)] at hid
    cases hid

theorem upholds_step (h : Fair s.before s.known) (ha : s.Admitted) (hlive : s.call.GivesLive s.before) : (Upholds s →
    Harmless s.before s.call) ∧ (Harmless s.before s.call → imbalance s.next = 0 ∧ Upholds s) := by
  obtain ⟨e,known,c⟩ := s
  obtain ⟨hknown,hallowed⟩ := ha
  cases c with
  | make shape dtype data =>
    exact ⟨fun _ => trivial,fun _ => upholds_of_creates h (makes_make h.sound shape dtype hallowed).creates rfl⟩
  | share x shape dtype =>
    exact ⟨fun _ => trivial,fun _ => upholds_of_creates h
      (makes_share h.sound (hknown x mem_cons_self) shape dtype).creates rfl⟩
  | complex re im =>
    exact ⟨fun _ => trivial,fun _ => upholds_of_creates h (makes_complex h.sound (hknown re mem_cons_self)
      (hknown im (mem_cons_of_mem re mem_cons_self))).creates rfl⟩
  | newVariable x trainable name =>
    exact ⟨fun _ => trivial,fun _ => upholds_newVariable h (hknown x mem_cons_self) trainable name⟩
  | assign v x => exact upholds_assign_iff h (hknown x (mem_cons_of_mem v mem_cons_self)) hallowed hlive
  | dispose t => exact upholds_dispose_iff h t
  | keep t =>
    have halike : Alike e (after (Call.keep t).run e) := by rw [after_keep]; exact alike_keptAt e t.id
    exact ⟨fun _ => trivial,fun _ => upholds_of_fades (.refl e) halike ((imbalance_alike halike).trans h.books) rfl⟩
  | startScope name =>
    have halike : Alike e (after (Call.startScope name).run e) := by rw [after_startScope]; exact alike_withScopes e _ _
    exact ⟨fun _ => trivial,fun _ => upholds_of_fades (.refl e) halike ((imbalance_alike halike).trans h.books) rfl⟩
  | endScope result =>
    have hafter := after_endScope result e
    have hbooks : imbalance (after (Call.endScope result).run e) = 0 := by
      rw [hafter]; exact imbalance_closed h result.tensors
    refine ⟨fun _ => trivial,fun _ => ?_⟩
    cases hs : e.scopes with
    | nil =>
      refine upholds_of_fades (.refl e) ?_ hbooks rfl
      rw [hafter,closed_of_no_scope hs]
      exact .refl e
    | cons s rest =>
      refine upholds_of_fades (disposes_sweep e s.track result.tensors).fades ?_ hbooks rfl
      rw [hafter]
      exact alike_closed hs result.tensors

theorem Fair.step (h : Fair s.before s.known) (ha : s.Admitted) (hlive : s.call.GivesLive s.before)
    (hsafe : Harmless s.before s.call) : Fair s.next s.knows :=
  ⟨h.sound.step ha,((upholds_step h ha hlive).2 hsafe).1⟩

/-- A program with variables upholds the promise at every step exactly when each of its steps is harmless. -/
theorem variables_upheld_iff (p : Routine)
    (h : ∀ s ∈ steps {} [] p.calls, s.Admitted ∧ s.call.GivesLive s.before) :
    (∀ s ∈ steps {} [] p.calls, Upholds s) ↔ ∀ s ∈ steps {} [] p.calls, Harmless s.before s.call := by
  constructor
  · intro hup
    have hfair := (steps_keep p.calls fair_empty fun s hs hfair => hfair.step (h s hs).1 (h s hs).2
      ((upholds_step hfair (h s hs).1 (h s hs).2).1 (hup s hs))).1
    exact fun s hs => (upholds_step (hfair s hs) (h s hs).1 (h s hs).2).1 (hup s hs)
  · intro hsafe
    have hfair := (steps_keep p.calls fair_empty fun s hs hfair => hfair.step (h s hs).1 (h s hs).2 (hsafe s hs)).1
    exact fun s hs => ((upholds_step (hfair s hs) (h s hs).1 (h s hs).2).2 (hsafe s hs)).2

/-- A variable that is given the data of a second tensor, its own data, and disposed while the tensor lives. -/
def reassignedOnce : Routine :=
  .call (.make [2] .float32 (.numbers #[1,2])) <|
  .call (.newVariable ⟨0,[2],.float32⟩ true (some "weights")) <|
  .call (.make [2] .float32 (.numbers #[3,4])) <|
  .call (.assign ⟨1,[2],.float32⟩ ⟨2,[2],.float32⟩) <|
  .call (.assign ⟨1,[2],.float32⟩ ⟨1,[2],.float32⟩) <|
  .call (.dispose ⟨1,[2],.float32⟩) .done

theorem reassignedOnce_admitted : ∀ s ∈ steps {} [] reassignedOnce.calls, s.Admitted ∧ s.call.GivesLive s.before := by
  decide +kernel

theorem variables_upheld_iff_reassignedOnce :
    (∀ s ∈ steps {} [] reassignedOnce.calls, s.Admitted ∧ s.call.GivesLive s.before) ∧
      ((∀ s ∈ steps {} [] reassignedOnce.calls, Upholds s) ↔
        ∀ s ∈ steps {} [] reassignedOnce.calls, Harmless s.before s.call) :=
  ⟨reassignedOnce_admitted, variables_upheld_iff reassignedOnce reassignedOnce_admitted⟩

/-- A variable that is disposed twice while the tensor it was made from lives. -/
def disposedTwice : Routine :=
  .call (.make [2] .float32 (.numbers #[1,2])) <|
  .call (.newVariable ⟨0,[2],.float32⟩ true none) <|
  .call (.dispose ⟨1,[2],.float32⟩) <| .call (.dispose ⟨1,[2],.float32⟩) .done

theorem disposedTwice_admitted : ∀ s ∈ steps {} [] disposedTwice.calls, s.Admitted ∧ s.call.GivesLive s.before := by
  decide +kernel

/-- The second disposal takes the data of the tensor, which is still live. -/
theorem disposed_twice_not_upheld :
    (∀ s ∈ steps {} [] disposedTwice.calls, s.Admitted ∧ s.call.GivesLive s.before) ∧
    (¬ ∀ s ∈ steps {} [] disposedTwice.calls, Upholds s) ∧
    ((play {} disposedTwice.calls).cellAt 0).disposed = false ∧
    ((play {} disposedTwice.calls).bufferAt 0).isNone = true := by
  refine ⟨disposedTwice_admitted, fun h => ?_, by decide, by decide⟩
  simp only [disposedTwice, Routine.calls, steps, List.forall_mem_cons] at h
  have hcount := h.2.2.2.1.tensors
  exact absurd hcount (by decide)
end TensorKit.Engine
