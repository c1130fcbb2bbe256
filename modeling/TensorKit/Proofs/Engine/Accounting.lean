import TensorKit.Proofs.Engine.Runs

/-! # Memory is accounted for

Programs without complex tensors and variables: after every step the counters of the engine say what is
there, down to the bytes, and data that a live tensor holds is neither released nor changed.
-/
namespace TensorKit.Engine
open Finset
variable {t : Tensor} {data : Data} (e : Engine)
def recordedBytes : Nat := ∑ d ∈ range e.buffers.size, (e.bufferAt d).elim 0 Buffer.bytes

/-- The counters say what is there. -/
structure Accounted (e : Engine) : Prop where
  refCounts : ∀ d b, e.bufferAt d = some b → b.refCount = holders e d
  tensors : e.numTensors = liveTensors e
  buffers : e.numDataBuffers = registeredData e
  bytes : e.numBytes = recordedBytes e
  strings : ∀ d b, e.bufferAt d = some b → b.dtype = .string → b.bytes = b.data.stringBytes
  held : ∀ i, (e.cellAt i).disposed = false → ∃ b, e.bufferAt (e.cellAt i).dataId = some b

/-- Tensors that are live afterwards have the data that they had before. -/
def Retains (e e' : Engine) : Prop := ∀ i < e.cells.size, (e'.cellAt i).disposed = false → Retained e e' i

/-- A call that deals with neither complex tensors nor variables. -/
def Call.Plain : Call → Prop
  | .make _ dtype _ | .share _ _ dtype => dtype ≠ .complex64
  | .complex _ _ | .newVariable _ _ _ | .assign _ _ => False
  | _ => True

instance : DecidablePred Call.Plain
  | .make _ dtype _ | .share _ _ dtype => inferInstanceAs (Decidable (dtype ≠ _))
  | .complex _ _ | .newVariable _ _ _ | .assign _ _ => .isFalse id
  | .dispose _ | .keep _ | .startScope _ | .endScope _ => .isTrue trivial

/-! ## Bytes -/

/-- Recorded bytes, less those that are counted. -/
def slack : ℤ := recordedBytes e - e.numBytes

/-- A store without complex data and variables whose bytes are counted right. -/
structure Simple (e : Engine) : Prop where
  data : ∀ d b, e.bufferAt d = some b → b.data.parts = []
  strings : ∀ d b, e.bufferAt d = some b → b.dtype = .string → b.bytes = b.data.stringBytes
  free : ∀ i, (e.cellAt i).variableInfo = none
  counted : slack e = 0

variable {e : Engine}
theorem slack_of_set (hd : d < e.buffers.size) (hb : e'.buffers = e.buffers.setIfInBounds d b) :
    slack e' = slack e + (b.elim 0 Buffer.bytes - (e.bufferAt d).elim 0 Buffer.bytes) - (e'.numBytes - e.numBytes) := by
  simp only [slack,recordedBytes,Nat.cast_sum]
  rw [sum_of_set (fun _ b => ((b.elim 0 Buffer.bytes : ℕ) : ℤ)) hd hb]
  ring

namespace Simple
variable {e e' : Engine}
theorem empty : Simple {} where
  data d b hb := by rw [bufferAt_of_le (Nat.zero_le d)] at hb; cases hb
  strings d b hb := by rw [bufferAt_of_le (Nat.zero_le d)] at hb; cases hb
  free i := by rw [cellAt_of_le (Nat.zero_le i)]
  counted := rfl

variable (h : Simple e)
include h
theorem alike (ha : Alike e e') : Simple e' where
  data d b hb := h.data d b (ha.bufferAt d ▸ hb)
  strings d b hb := h.strings d b (ha.bufferAt d ▸ hb)
  free i := by rw [ha.variableInfo]; exact h.free i
  counted := by
    have hsame : slack e' = slack e := by simp only [slack,recordedBytes,ha.buffers,ha.bufferAt,ha.bytes]
    rw [hsame,h.counted]

theorem withNew (hc : c.variableInfo = none) : Simple (e.withNew c) where
  data := h.data
  strings := h.strings
  free i := by
    rw [cellAt_withNew]
    split
    · exact hc
    · exact h.free i
  counted := h.counted

theorem withPlace : Simple { e with buffers := e.buffers.push none } where
  data d b hb := h.data d b (bufferAt_withPlace e d ▸ hb)
  strings d b hb := h.strings d b (bufferAt_withPlace e d ▸ hb)
  free := h.free
  counted := by
    have hsame : slack { e with buffers := e.buffers.push none } = slack e := by
      simp only [slack,recordedBytes,Array.size_push,sum_range_succ,bufferAt_withPlace,
        bufferAt_of_le le_rfl,Option.elim_none,add_zero]
    rw [hsame,h.counted]

theorem enrolled (hd : (e.cellAt t.id).dataId < e.buffers.size) : Simple (e.enrolled t) := by
  refine .alike ?_ (alike_enrolled e t)
  refine ⟨fun d b hb => ?_,fun d b hb hs => ?_,fun i => ?_,?_⟩
  · rw [bufferAt_counted] at hb
    split at hb
    next heq =>
      cases hb
      unfold claimed
      split
      next b hb => exact h.data _ b hb
      next => rfl
    next => exact h.data d b hb
  · rw [bufferAt_counted] at hb
    split at hb
    next heq =>
      cases hb
      unfold claimed at hs ⊢
      split at hs
      next b hb => exact h.strings _ b hb hs
      next => simp_all [initialBytes,Data.stringBytes]
    next => exact h.strings d b hb hs
  · rw [cellAt_counted]
    exact h.free i
  · have hsame : slack (e.counted t) = slack e := by
      rw [slack_of_set hd (counted_frame e t).2.1,(counted_counts e t).2.2,claimed]
      cases hb : e.bufferAt (e.cellAt t.id).dataId with
      | some b | none => simp
    rw [hsame,h.counted]

theorem written (t : Tensor) (hdata : data.parts = []) : Simple (e.written t data) := by
  refine ⟨fun d b hb => ?_,fun d b hb hs => ?_,fun i => ?_,?_⟩
  · rw [bufferAt_written] at hb
    split at hb
    · obtain ⟨b₀,-,rfl⟩ := Option.map_eq_some_iff.mp hb
      rw [filled_data,hdata]
    · exact h.data d b hb
  · rw [bufferAt_written] at hb
    split at hb
    · obtain ⟨b₀,-,rfl⟩ := Option.map_eq_some_iff.mp hb
      unfold filled at hs ⊢
      split at hs
      next => simp_all
      next hne => simp_all
    · exact h.strings d b hb hs
  · rw [cellAt_written]
    exact h.free i
  · cases hb : e.bufferAt (e.cellAt t.id).dataId with
    | none => rw [written_of_none hb,h.counted]
    | some b =>
      rw [slack_of_set (lt_size_of_bufferAt hb) (buffers_written hb data),hb,written_of_some hb,h.counted]
      simp only [withBuffer,Option.elim_some]
      ring

theorem unused (ht : t.dtype ≠ .complex64)
    (hb : e.bufferAt (e.cellAt t.id).dataId = some b) : Simple (e.unused t b) := by
  have hf := fades_unused hb
  refine ⟨fun d b' hb' => ?_,fun d b' hb' hs => ?_,fun i => ?_,?_⟩
  · obtain ⟨b₀,hb₀,hdata⟩ := hf.data hb'
    rw [hdata]
    exact h.data d b₀ hb₀
  · obtain ⟨b₀,hb₀,heq,-⟩ := hf.buffer d b' hb'
    rw [heq] at hs ⊢
    exact h.strings d b₀ hb₀ hs
  · rw [cellAt_unused]
    exact h.free i
  · rw [slack_of_set (lt_size_of_bufferAt hb) (unused_frame e t b).2.1,(unused_counts e t b).2.2,hb,returned,
      h.counted]
    by_cases hr : b.refCount ≤ 1
    · simp [hr,ht]
    · simp [hr]

theorem marked (i : Nat) : Simple (e.marked i) where
  data := h.data
  strings := h.strings
  free j := by rw [(fades_marked e i).variableInfo]; exact h.free j
  counted := h.counted
end Simple
namespace Simple
variable {e : Engine}
theorem released (h : Simple e) (ht : t.dtype ≠ .complex64) : Simple (e.released t) := by
  unfold Engine.released
  cases hb : e.bufferOf t with
  | none =>
    rw [after_releaseWithin_none hb]
    exact h
  | some b =>
    have hnone : leftovers b = [] := by rw [leftovers,h.data _ b hb,ite_self]
    rw [after_releaseWithin_some hb,hnone]
    exact h.unused ht hb

theorem discarded (h : Simple e) (ht : t.dtype ≠ .complex64) : Simple (e.discarded t) := by
  cases hd : (e.cellAt t.id).disposed with
  | true => rw [discarded_of_disposed hd (h.free t.id)]; exact h
  | false => exact ((h.released ht).marked t.id).alike (alike_discarded (.inr hd))

theorem sweep (h : Simple e) {track : Tensors} (htrack : ∀ t ∈ track, t.dtype ≠ .complex64)
    (result : Tensors) : Simple (track.reverse.foldl (swept result) e) := by
  refine List.foldlRecOn (motive := Simple) track.reverse (swept result) h fun e' h' t ht => ?_
  unfold swept
  split
  · exact h'.discarded (htrack t (List.mem_reverse.mp ht))
  · exact h'
end Simple

/-! ## Runs -/

/-- What holds along runs of plain calls. -/
structure PlainRun (e : Engine) (known : Tensors) : Prop where
  sound : Sound e known
  simple : Simple e
  books : imbalance e = 0
  knownTypes : ∀ t ∈ known, t.dtype ≠ .complex64
  trackedTypes : ∀ s ∈ e.scopes, ∀ t ∈ s.track, t.dtype ≠ .complex64

theorem plainRun_empty : PlainRun {} [] := ⟨sound_empty,.empty,rfl,List.forall_mem_nil _,List.forall_mem_nil _⟩

theorem PlainRun.accounted (h : PlainRun e known) : Accounted e := by
  obtain ⟨htensors,huses,hbuffers⟩ := (imbalance_eq_zero_iff e).mp h.books
  refine ⟨fun d b hb => ?_,htensors,hbuffers,?_,h.simple.strings,fun i hi => ?_⟩
  · rw [← huses d,uses,hb]
    rfl
  · exact (sub_eq_zero.mp h.simple.counted).symm
  · exact registered_of_live hi (by rw [h.books]; rfl)

theorem tracked_pushed {P : Tensor → Prop} {scopes : List Scope}
    (h : ∀ s ∈ scopes, ∀ t ∈ s.track, P t) (hts : ∀ t ∈ ts, P t) : ∀ s ∈ pushed ts scopes, ∀ t ∈ s.track, P t := by
  cases scopes with
  | nil => exact List.forall_mem_nil _
  | cons s rest =>
    intro x hx t ht
    rcases List.mem_cons.mp hx with rfl | hx
    · rcases List.mem_append.mp ht with ht | ht
      · exact hts t ht
      · exact h s List.mem_cons_self t ht
    · exact h x (List.mem_cons_of_mem s hx) t ht

theorem simple_make (h : Simple e) (shape : Shape) (dtype : DType) (hdata : data.parts = []) :
    Simple (after (make shape dtype data) e) ∧ ∃ ts,
    (after (make shape dtype data) e).scopes = pushed ts e.scopes ∧ ∀ t ∈ ts, t.dtype = dtype := by
  have hroom : (e.withRoom.cellAt e.cells.size).dataId < e.withRoom.buffers.size := by
    rw [withRoom,cellAt_withNew,if_pos rfl]
    exact (Array.size_push ..).symm ▸ Nat.lt_succ_self _
  have hmade : Simple (e.withRoom.enrolled ⟨e.cells.size,shape,dtype⟩) := (h.withPlace.withNew rfl).enrolled hroom
  obtain ⟨ts,hscopes,hts⟩ := enrolled_scopes e.withRoom ⟨e.cells.size,shape,dtype⟩
  have htypes : ∀ t ∈ ts, t.dtype = dtype := fun t ht => by rw [hts t ht]
  obtain ⟨e',hrun,rfl | rfl⟩ := run_make shape dtype data e
  · rw [after_ok hrun]
    exact ⟨hmade,ts,hscopes,htypes⟩
  · rw [after_ok hrun,(written_frame _ _ _).2.2.1]
    exact ⟨hmade.written _ hdata,ts,hscopes,htypes⟩

theorem simple_share (h : Simple e) (hd : (e.cellAt x.id).dataId < e.buffers.size) (shape : Shape) (dtype : DType) :
    Simple (after (share x shape dtype) e) ∧ ∃ ts,
    (after (share x shape dtype) e).scopes = pushed ts e.scopes ∧ ∀ t ∈ ts, t.dtype = dtype := by
  rw [after_ok (run_share x shape dtype e)]
  obtain ⟨ts,hscopes,hts⟩ := enrolled_scopes (e.sharing x) ⟨e.cells.size,shape,dtype⟩
  refine ⟨(h.withNew rfl).enrolled ?_,ts,hscopes,fun t ht => by rw [hts t ht]⟩
  rw [cellAt_withNew,if_pos rfl]
  exact hd

namespace PlainRun
variable {e e' : Engine} {known : List Tensor}
variable (h : PlainRun e known)
include h
theorem makes (hm : Makes c e) (hsimple : Simple (after c.run e)) (hscopes : ∃ ts, (after c.run e).scopes =
    pushed ts e.scopes ∧ ∀ t ∈ ts, t.dtype = dtype) (hgained : ∀ t ∈ c.gained e, t.dtype = dtype)
    (hdtype : dtype ≠ .complex64) : PlainRun (after c.run e) (known ++ c.gained e) ∧ Retains e (after c.run e) := by
  obtain ⟨ts,hscopes,hts⟩ := hscopes
  refine ⟨⟨h.sound.makes hm,hsimple,hm.creates.books.trans h.books,fun t ht => ?_,?_⟩,
    fun i hi hlive => retained_of_creates h.books hm.creates hi hlive⟩
  · rcases List.mem_append.mp ht with ht | ht
    · exact h.knownTypes t ht
    · rwa [hgained t ht]
  · rw [hscopes]
    exact tracked_pushed h.trackedTypes fun t ht => by rwa [hts t ht]

theorem alike (ha : Alike e e') (hsound : Sound e' known)
    (htypes : ∀ s ∈ e'.scopes, ∀ t ∈ s.track, t.dtype ≠ .complex64) : PlainRun e' known ∧ Retains e e' := by
  have hbooks := (imbalance_alike ha).trans h.books
  exact ⟨⟨hsound,h.simple.alike ha,hbooks,h.knownTypes,htypes⟩,fun i _ => retained_of_fades (.refl e) ha hbooks⟩

theorem discarded (ht : t.dtype ≠ .complex64) (hsound : Sound (e.discarded t) known) :
    PlainRun (e.discarded t) known ∧ Retains e (e.discarded t) := by
  have hfades := (disposes_discarded e t).fades
  have hbooks := imbalance_discarded h.sound.store h.books (h.simple.free t.id)
  refine ⟨⟨hsound,h.simple.discarded ht,hbooks,h.knownTypes,?_⟩,fun i _ => retained_of_fades hfades (.refl _) hbooks⟩
  rw [hfades.scopes]
  exact h.trackedTypes

theorem closed (hresult : ∀ t ∈ result, t ∈ known)
    (hsound : Sound (e.closed result) known) : PlainRun (e.closed result) known ∧ Retains e (e.closed result) := by
  cases hs : e.scopes with
  | nil =>
    rw [closed_of_no_scope hs]
    exact h.alike (.refl e) h.sound h.trackedTypes
  | cons s rest =>
    have htrack : ∀ t ∈ s.track, t.dtype ≠ .complex64 := h.trackedTypes s (hs ▸ List.mem_cons_self)
    have hfades := (disposes_sweep e s.track result).fades
    have halike := alike_closed hs result
    have hbooks : imbalance (e.closed result) = 0 := by
      rw [imbalance_alike halike]
      exact imbalance_sweep h.sound.store h.books (fun t _ => h.simple.free t.id) result
    refine ⟨⟨hsound,(h.simple.sweep htrack result).alike halike,hbooks,h.knownTypes,?_⟩,
      fun i _ => retained_of_fades hfades halike hbooks⟩
    obtain ⟨ts,hscopes,hsub,-⟩ := (closes h.sound.stack hs result).scopes
    rw [hscopes]
    refine tracked_pushed (fun x hx => h.trackedTypes x (hs ▸ List.mem_cons_of_mem s hx)) fun t ht => ?_
    exact h.knownTypes t (hresult t (hsub t ht))
end PlainRun

theorem PlainRun.step {s : Step} (h : PlainRun s.before s.known) (ha : s.Admitted) (hp : s.call.Plain) :
    PlainRun s.next s.knows ∧ Retains s.before s.next := by
  have hsound := h.sound.step ha
  obtain ⟨e,known,c⟩ := s
  obtain ⟨hknown,hallowed⟩ := ha
  unfold Step.next Step.knows at *
  cases c with
  | make shape dtype data =>
    obtain ⟨hsimple,hscopes⟩ := simple_make h.simple shape dtype hallowed
    rw [← after_make] at hsimple hscopes
    refine h.makes (makes_make h.sound shape dtype hallowed) hsimple hscopes (fun t ht => ?_) hp
    rw [gained_make,List.mem_singleton] at ht
    rw [ht]
  | share x shape dtype =>
    have hx := hknown x List.mem_cons_self
    obtain ⟨hsimple,hscopes⟩ := simple_share h.simple (h.sound.store.inRange x.id (h.sound.made x hx)) shape dtype
    rw [← after_share] at hsimple hscopes
    refine h.makes (makes_share h.sound hx shape dtype) hsimple hscopes (fun t ht => ?_) hp
    rw [gained_share,List.mem_singleton] at ht
    rw [ht]
  | complex re im | newVariable x trainable name | assign v x => exact hp.elim
  | dispose t =>
    rw [after_dispose,gained_dispose,List.append_nil] at *
    exact h.discarded (h.knownTypes t (hknown t List.mem_cons_self)) hsound
  | keep t =>
    obtain ⟨hrun,hretains⟩ := h.alike (alike_keptAt e t.id) (h.sound.keptAt t.id) h.trackedTypes
    refine ⟨⟨hsound,hrun.simple,hrun.books,fun x hx => h.knownTypes x ?_,hrun.trackedTypes⟩,hretains⟩
    exact List.append_subset.mpr ⟨fun _ => id,hknown⟩ hx
  | startScope name =>
    rw [gained_startScope,List.append_nil] at *
    refine h.alike (alike_withScopes e _ _) hsound fun s hs => ?_
    rcases List.mem_cons.mp hs with rfl | hs
    · exact List.forall_mem_nil _
    · exact h.trackedTypes s hs
  | endScope result =>
    rw [after_endScope,gained_endScope,List.append_nil] at *
    exact h.closed hknown hsound

/-- After every step of a program without complex tensors and variables, all memory is accounted for, and
no step touches the data of a tensor that it leaves live. -/
theorem memory_accounted (p : Routine) (h : ∀ s ∈ steps {} [] p.calls, s.Admitted ∧ s.call.Plain) :
    (∀ s ∈ steps {} [] p.calls, Accounted s.next ∧ Retains s.before s.next) ∧ Accounted (after p.run {}) := by
  obtain ⟨hrun, hlast⟩ := steps_keep p.calls plainRun_empty fun s hs hrun => (hrun.step (h s hs).1 (h s hs).2).1
  refine ⟨fun s hs => ?_, ?_⟩
  · obtain ⟨hnext, hretains⟩ := (hrun s hs).step (h s hs).1 (h s hs).2
    exact ⟨hnext.accounted, hretains⟩
  · rw [after_ok (run_routine p {})]
    exact hlast.accounted

/-- Two functions in scopes of their own, of which the inner one throws, and a view disposed twice. -/
def sharedLabels : Routine :=
  .tidy "outer"
    (.call (.make [2] .float32 .absent) <| .call (.share ⟨0,[2],.float32⟩ [2,1] .float32) <|
      .tidy "inner" (.call (.make [1] .string (.strings #[⟨#[97,98]⟩])) .done) (.error (.failure "")) .done)
    (.ok (.list [.tensor ⟨1,[2,1],.float32⟩])) <|
  .call (.dispose ⟨1,[2,1],.float32⟩) <| .call (.dispose ⟨1,[2,1],.float32⟩) .done

theorem sharedLabels_admitted : ∀ s ∈ steps {} [] sharedLabels.calls, s.Admitted ∧ s.call.Plain := by decide +kernel

theorem memory_accounted_sharedLabels :
    (∀ s ∈ steps {} [] sharedLabels.calls, s.Admitted ∧ s.call.Plain) ∧
      (∀ s ∈ steps {} [] sharedLabels.calls, Accounted s.next ∧ Retains s.before s.next) ∧
      Accounted (after sharedLabels.run {}) :=
  ⟨sharedLabels_admitted, memory_accounted sharedLabels sharedLabels_admitted⟩
end TensorKit.Engine
