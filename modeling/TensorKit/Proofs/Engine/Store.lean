import TensorKit.Proofs.Engine.Disposal

/-! # The store of cells and buffers

Tensors are cells that name their data by a number. Complex data is made of tensors whose data is older.
This order is why a release comes to an end, and why it never touches data younger than what it releases.
-/
namespace TensorKit.Engine
variable {i fuel k : Nat} {t : Tensor} {s : Scope} {rest : List Scope} {b : Buffer}
/-- The same store, but for where tensors are tracked and which ones are kept. -/
structure Alike (e e' : Engine) : Prop where
  size : e'.cells.size = e.cells.size
  cell : ∀ i, e'.cellAt i = { e.cellAt i with kept := (e'.cellAt i).kept, scopeId := (e'.cellAt i).scopeId }
  buffers : e'.buffers = e.buffers
  tensors : e'.numTensors = e.numTensors
  dataBuffers : e'.numDataBuffers = e.numDataBuffers
  bytes : e'.numBytes = e.numBytes

namespace Alike
variable {e e' e'' : Engine}
theorem refl (e : Engine) : Alike e e := ⟨rfl,fun _ => rfl,rfl,rfl,rfl,rfl⟩

variable (h : Alike e e')
include h
theorem trans (h' : Alike e' e'') : Alike e e'' where
  size := h'.size.trans h.size
  cell i := by
    have hi := h'.cell i
    rw [h.cell i] at hi
    exact hi
  buffers := h'.buffers.trans h.buffers
  tensors := h'.tensors.trans h.tensors
  dataBuffers := h'.dataBuffers.trans h.dataBuffers
  bytes := h'.bytes.trans h.bytes

theorem dataId (i : Nat) : (e'.cellAt i).dataId = (e.cellAt i).dataId := by rw [h.cell i]
theorem disposed (i : Nat) : (e'.cellAt i).disposed = (e.cellAt i).disposed := by rw [h.cell i]
theorem variableInfo (i : Nat) : (e'.cellAt i).variableInfo = (e.cellAt i).variableInfo := by rw [h.cell i]
theorem bufferAt (d : Nat) : e'.bufferAt d = e.bufferAt d := by
  unfold Engine.bufferAt
  rw [h.buffers]
omit h

theorem foldl {α : Type} {f : Engine → α → Engine} (h : ∀ e a, Alike e (f e a)) (xs : List α) (e : Engine) :
    Alike e (xs.foldl f e) := by
  induction xs generalizing e with
  | nil => exact refl e
  | cons a rest ih => exact (h e a).trans (ih (f e a))
end Alike
variable (e : Engine)
theorem alike_withCell (i : Nat) (f : Cell → Cell)
    (hf : ∀ c, f c = { c with kept := (f c).kept, scopeId := (f c).scopeId }) : Alike e (e.withCell i f) where
  size := size_withCell e i f
  cell j := by
    rw [cellAt_withCell]
    split
    · exact hf (e.cellAt j)
    · rfl
  buffers := rfl
  tensors := rfl
  dataBuffers := rfl
  bytes := rfl

theorem alike_keptAt (i : Nat) : Alike e (e.keptAt i) := alike_withCell e i _ fun _ => rfl
theorem alike_withScopes (scopes : List Scope) (next : Nat) :
    Alike e { e with scopes := scopes, nextScopeId := next } := ⟨rfl,fun _ => rfl,rfl,rfl,rfl,rfl⟩

theorem alike_tracked (t : Tensor) : Alike e (e.tracked t) := by
  unfold tracked
  cases e.scopes with
  | nil => exact .refl e
  | cons s rest => exact (alike_withCell e t.id _ fun _ => rfl).trans (alike_withScopes _ _ _)

theorem alike_adopted (k : Nat) (e : Engine) (t : Tensor) : Alike e (adopted k e t) := by
  unfold adopted
  split
  · exact alike_tracked e t
  · exact .refl e

theorem alike_withRecord (tape : Array TapeNode) (node depth : Nat) :
    Alike e (e.withRecord tape node depth) := ⟨rfl,fun _ => rfl,rfl,rfl,rfl,rfl⟩
theorem alike_numbered (name : Option String) : Alike e (e.numbered name) := ⟨rfl,fun _ => rfl,rfl,rfl,rfl,rfl⟩
variable (names : Named Tensor)
theorem alike_withRegistered : Alike e { e with registered := names } := ⟨rfl,fun _ => rfl,rfl,rfl,rfl,rfl⟩

theorem alike_enrolled (t : Tensor) : Alike (e.counted t) (e.enrolled t) := by
  unfold enrolled
  split
  · exact alike_tracked _ t
  · exact .refl _

theorem alike_marked {e : Engine} (h : (e.cellAt i).disposed = true) : Alike e (e.marked i) where
  size := size_withCell e i _
  cell j := by
    rw [marked,cellAt_withCell]
    split
    next hij => rw [← hij.1,← h]
    next => rfl
  buffers := rfl
  tensors := rfl
  dataBuffers := rfl
  bytes := rfl

theorem alike_marked_withRegistered (i : Nat) :
    Alike (e.marked i) (({ e with registered := names } : Engine).marked i) :=
  ⟨rfl,fun _ => rfl,rfl,rfl,rfl,rfl⟩

theorem alike_discarded {e : Engine} (h : (e.cellAt t.id).variableInfo.isSome ∨ (e.cellAt t.id).disposed = false) :
    Alike ((e.released t).marked t.id) (e.discarded t) := by
  unfold discarded
  cases hv : (e.cellAt t.id).variableInfo with
  | some v => exact alike_marked_withRegistered (e.released t) _ t.id
  | none =>
    have hlive : (e.cellAt t.id).disposed = false := h.resolve_left (by simp [hv])
    simp only [hlive]
    exact .refl _

theorem closed_eq_sweep {e : Engine} (h : e.scopes = s :: rest) (result : Tensors) :
    e.closed result = result.foldl (adopted s.id) { s.track.reverse.foldl (swept result) e with scopes := rest } := by
  rw [closed,h]

theorem alike_closed {e : Engine} (h : e.scopes = s :: rest) (result : Tensors) :
    Alike (s.track.reverse.foldl (swept result) e) (e.closed result) := by
  rw [closed_eq_sweep h]
  exact (alike_withScopes _ rest _).trans (.foldl (alike_adopted s.id) result _)
theorem closed_of_no_scope {e : Engine} (h : e.scopes = []) (result : Tensors) : e.closed result = e := by
  rw [closed,h]

/-! ## Uses of data -/

def claimed (t : Tensor) : Buffer := match e.bufferAt (e.cellAt t.id).dataId with
  | some b => { b with refCount := b.refCount + 1 }
  | none => ⟨t.dtype,.absent,initialBytes t,1⟩

variable (t : Tensor)
theorem counted_frame : (e.counted t).cells = e.cells ∧ (e.counted t).buffers = e.buffers.setIfInBounds
    (e.cellAt t.id).dataId (some (e.claimed t)) ∧ (e.counted t).scopes = e.scopes ∧ (e.counted t).nextScopeId =
    e.nextScopeId := by
  unfold counted claimed
  cases hb : e.bufferOf t with
  | some b | none => refine ⟨?_,?_,?_,?_⟩ <;> simp only [hb] <;> rfl

theorem counted_counts : (e.counted t).numTensors = e.numTensors + 1 ∧ (e.counted t).numDataBuffers =
    e.numDataBuffers + (if (e.bufferAt (e.cellAt t.id).dataId).isSome then 0 else 1) ∧ (e.counted t).numBytes =
    e.numBytes + (if (e.bufferAt (e.cellAt t.id).dataId).isSome then 0 else initialBytes t) := by
  unfold counted
  cases hb : e.bufferAt (e.cellAt t.id).dataId with
  | some b | none => refine ⟨?_,?_,?_⟩ <;> simp [hb,withBuffer]

@[simp] theorem cellAt_counted (i : Nat) : (e.counted t).cellAt i = e.cellAt i := by
  unfold cellAt
  rw [(counted_frame e t).1]

theorem bufferAt_counted (d : Nat) : (e.counted t).bufferAt d = if (e.cellAt t.id).dataId =
    d ∧ (e.cellAt t.id).dataId < e.buffers.size then some (e.claimed t) else e.bufferAt d := by
  rw [← bufferAt_withBuffer]
  unfold bufferAt withBuffer
  rw [(counted_frame e t).2.1]

theorem size_counted : (e.counted t).cells.size = e.cells.size ∧ (e.counted t).buffers.size = e.buffers.size := by
  rw [(counted_frame e t).1,(counted_frame e t).2.1]
  simp

/-- The buffer of a tensor after data was written to it. -/
def filled (b : Buffer) (data : Data) : Buffer :=
  if b.dtype == .string then { b with data, bytes := data.stringBytes } else { b with data }

@[simp] theorem filled_data (b : Buffer) (data : Data) : (filled b data).data = data := by
  unfold filled
  split <;> rfl
@[simp] theorem filled_refCount (b : Buffer) (data : Data) : (filled b data).refCount = b.refCount := by
  unfold filled
  split <;> rfl

theorem bufferAt_withPlace (d : Nat) :
    ({ e with buffers := e.buffers.push none } : Engine).bufferAt d = e.bufferAt d := by
  simp only [bufferAt,Array.getD_eq_getD_getElem?,Array.getElem?_push]
  by_cases hd : d = e.buffers.size
  · simp [hd]
  · simp [hd]

variable {t}
theorem written_of_none {e : Engine} (h : e.bufferOf t = none) (data : Data) : e.written t data = e := by
  simp only [written,h]

theorem written_of_some {e : Engine} (h : e.bufferOf t = some b) (data : Data) :
    e.written t data = ({ e with numBytes := e.numBytes + (filled b data).bytes - b.bytes } : Engine).withBuffer
    (e.cellAt t.id).dataId (some (filled b data)) := by
  simp only [written,filled,h]
  by_cases hs : b.dtype = .string
  · simp only [hs,beq_self_eq_true,↓reduceIte]
  · simp only [beq_iff_eq,hs,↓reduceIte,add_sub_cancel_right]

variable (t) (data : Data)
theorem written_frame : (e.written t data).cells = e.cells ∧ (e.written t data).buffers.size =
    e.buffers.size ∧ (e.written t data).scopes = e.scopes ∧ (e.written t data).nextScopeId = e.nextScopeId := by
  cases hb : e.bufferOf t with
  | none => rw [written_of_none hb]; exact ⟨rfl,rfl,rfl,rfl⟩
  | some b => rw [written_of_some hb]; exact ⟨rfl,size_withBuffer _ _ _,rfl,rfl⟩

theorem bufferAt_written (d : Nat) : (e.written t data).bufferAt d =
    if (e.cellAt t.id).dataId = d then (e.bufferAt d).map (filled · data) else e.bufferAt d := by
  cases hb : e.bufferAt (e.cellAt t.id).dataId with
  | none =>
    rw [written_of_none hb]
    by_cases hd : (e.cellAt t.id).dataId = d
    · rw [if_pos hd,← hd,hb]; rfl
    · rw [if_neg hd]
  | some b =>
    have hlt := lt_size_of_bufferAt hb
    rw [written_of_some hb,bufferAt_withBuffer]
    by_cases hd : (e.cellAt t.id).dataId = d
    · rw [if_pos hd,if_pos ⟨hd,hlt⟩,← hd,hb]; rfl
    · rw [if_neg hd,if_neg (hd ·.1)]; rfl

@[simp] theorem cellAt_written (i : Nat) : (e.written t data).cellAt i = e.cellAt i := by
  unfold cellAt
  rw [(written_frame e t data).1]

/-! ## Well-formed stores -/

/-- Tensors have data that was made, registered data is used, and data is made of tensors that are no
variables and have older data. -/
structure WellFormed (e : Engine) : Prop where
  inRange : ∀ i < e.cells.size, (e.cellAt i).dataId < e.buffers.size
  used : ∀ d b, e.bufferAt d = some b → 0 < b.refCount
  parts : ∀ d b, e.bufferAt d = some b → ∀ p ∈ b.data.parts,
    p.id < e.cells.size ∧ (e.cellAt p.id).dataId < d ∧ (e.cellAt p.id).variableInfo = none

theorem wellFormed_empty : WellFormed {} where
  inRange i hi := absurd hi (Nat.not_lt_zero i)
  used d b hb := by rw [bufferAt_of_le (Nat.zero_le d)] at hb; cases hb
  parts d b hb := by rw [bufferAt_of_le (Nat.zero_le d)] at hb; cases hb

variable {t}
namespace WellFormed
variable {e e' : Engine}
variable (hw : WellFormed e)
include hw
theorem alike (h : Alike e e') : WellFormed e' where
  inRange i hi := by
    rw [h.dataId,h.buffers]
    exact hw.inRange i (h.size ▸ hi)
  used d b hb := hw.used d b (h.bufferAt d ▸ hb)
  parts d b hb p hp := by
    rw [h.size,h.dataId,h.variableInfo]
    exact hw.parts d b (h.bufferAt d ▸ hb) p hp

theorem fades (h : Fades e e') : WellFormed e' where
  inRange i hi := by
    rw [h.dataId,h.room]
    exact hw.inRange i (h.size ▸ hi)
  used d b' hb' := by
    obtain ⟨b,hb,-,hr⟩ := h.buffer d b' hb'
    exact hr (hw.used d b hb)
  parts d b' hb' p hp := by
    obtain ⟨b,hb,hdata⟩ := h.data hb'
    rw [h.size,h.dataId,h.variableInfo]
    exact hw.parts d b hb p (hdata ▸ hp)

theorem withNew (hc : c.dataId < e.buffers.size) : WellFormed (e.withNew c) where
  inRange i hi := by
    rw [size_withNew] at hi
    rw [cellAt_withNew]
    split
    · exact hc
    · exact hw.inRange i (by omega)
  used := hw.used
  parts d b hb p hp := by
    obtain ⟨hlt,hold,hvar⟩ := hw.parts d b hb p hp
    rw [size_withNew,cellAt_withNew,if_neg hlt.ne]
    exact ⟨by omega,hold,hvar⟩

theorem withPlace : WellFormed { e with buffers := e.buffers.push none } where
  inRange i hi := by
    have := hw.inRange i hi
    rw [Array.size_push]
    exact Nat.lt_succ_of_lt this
  used d b hb := hw.used d b (bufferAt_withPlace e d ▸ hb)
  parts d b hb := hw.parts d b (bufferAt_withPlace e d ▸ hb)

theorem counted (t : Tensor) : WellFormed (e.counted t) where
  inRange i hi := by
    rw [cellAt_counted,(size_counted e t).2]
    exact hw.inRange i ((size_counted e t).1 ▸ hi)
  used d b hb := by
    rw [bufferAt_counted] at hb
    split at hb
    · cases hb
      unfold claimed
      split
      · exact Nat.succ_pos _
      · exact Nat.one_pos
    · exact hw.used d b hb
  parts d b hb p hp := by
    rw [(size_counted e t).1,cellAt_counted]
    rw [bufferAt_counted] at hb
    split at hb
    next h =>
      cases hb
      unfold claimed at hp
      split at hp
      next b hb => exact hw.parts d b (h.1 ▸ hb) p hp
      next => cases hp
    next => exact hw.parts d b hb p hp

theorem enrolled (t : Tensor) : WellFormed (e.enrolled t) := (hw.counted t).alike (alike_enrolled e t)

theorem written {data : Data} (h : ∀ p ∈ data.parts, p.id < e.cells.size ∧ (e.cellAt p.id).dataId <
    (e.cellAt t.id).dataId ∧ (e.cellAt p.id).variableInfo = none) : WellFormed (e.written t data) where
  inRange i hi := by
    rw [cellAt_written,(written_frame e t data).2.1]
    exact hw.inRange i ((written_frame e t data).1 ▸ hi)
  used d b hb := by
    rw [bufferAt_written] at hb
    split at hb
    · obtain ⟨b₀,hb₀,rfl⟩ := Option.map_eq_some_iff.mp hb
      rw [filled_refCount]
      exact hw.used d b₀ hb₀
    · exact hw.used d b hb
  parts d b hb p hp := by
    rw [(written_frame e t data).1,cellAt_written]
    rw [bufferAt_written] at hb
    split at hb
    next hd =>
      obtain ⟨b₀,hb₀,rfl⟩ := Option.map_eq_some_iff.mp hb
      rw [filled_data] at hp
      exact hd ▸ h p hp
    next => exact hw.parts d b hb p hp

theorem withDataId (hi : (e.cellAt i).variableInfo.isSome) (hd : d < e.buffers.size) :
    WellFormed (e.withCell i fun c => { c with dataId := d }) where
  inRange j hj := by
    rw [size_withCell] at hj
    rw [cellAt_withCell]
    split
    · exact hd
    · exact hw.inRange j hj
  used := hw.used
  parts k b hb p hp := by
    obtain ⟨hlt,hold,hvar⟩ := hw.parts k b hb p hp
    have hne : i ≠ p.id := by
      rintro rfl
      rw [hvar] at hi
      cases hi
    rw [size_withCell,cellAt_withCell_of_ne hne]
    exact ⟨hlt,hold,hvar⟩
end WellFormed

/-! ## Releases go down -/

/-- The parts that a release leaves behind have older data. -/
theorem bufferAt_releaseWithin_succ {e : Engine} (hw : WellFormed e) (hb : e.bufferOf t = some b)
    (hk : (e.cellAt t.id).dataId ≤ k) (hpart : ∀ {p e}, WellFormed e → (e.cellAt p.id).dataId < k →
    (after (releaseWithin fuel p) e).bufferAt k = e.bufferAt k) : (after (releaseWithin (fuel + 1) t) e).bufferAt k =
    if (e.cellAt t.id).dataId = k then returned b else e.bufferAt k := by
  rw [after_releaseWithin_some hb,← bufferAt_unused hb]
  refine (List.foldlRecOn (motive := fun e' => Fades e e' ∧ e'.bufferAt k = (e.unused t b).bufferAt k)
    (leftovers b) (retired fuel) ⟨fades_unused hb,rfl⟩ ?_).2
  rintro e' ⟨hf,hsame⟩ p hp
  refine ⟨hf.trans (disposes_retired (disposes_releaseWithin fuel) e' p).fades,?_⟩
  unfold retired
  split
  · exact hsame
  · have hold := (hw.parts _ b hb p (mem_parts_of_mem_leftovers hp)).2.1
    exact (hpart (hw.fades hf) (by rw [hf.dataId]; omega)).trans hsame

theorem bufferAt_releaseWithin_of_lt {e : Engine} (hw : WellFormed e) (hk : (e.cellAt t.id).dataId < k) :
    (after (releaseWithin fuel t) e).bufferAt k = e.bufferAt k := by
  induction fuel generalizing t e with
  | zero => rfl
  | succ fuel ih =>
    cases hb : e.bufferOf t with
    | none => rw [after_releaseWithin_none hb]
    | some b => rw [bufferAt_releaseWithin_succ hw hb hk.le ih,if_neg hk.ne]

theorem dataId_lt_of_lost {e : Engine} (hw : WellFormed e) (h : Lost e (after (releaseWithin fuel t) e) i) :
    (e.cellAt i).dataId < (e.cellAt t.id).dataId := by
  obtain ⟨d,b,hb,hn,p,hp,rfl⟩ := h
  have hle : d ≤ (e.cellAt t.id).dataId := by
    by_contra hd
    rw [bufferAt_releaseWithin_of_lt hw (Nat.lt_of_not_le hd),hb] at hn
    cases hn
  exact ((hw.parts d b hb p hp).2.1).trans_le hle

theorem disposed_releaseWithin_self {e : Engine} (hw : WellFormed e) :
    ((after (releaseWithin fuel t) e).cellAt t.id).disposed = (e.cellAt t.id).disposed := by
  have h := (disposes_releaseWithin fuel t e).disposed t.id
  have hl : ¬ Lost e (after (releaseWithin fuel t) e) t.id := fun hl => lt_irrefl _ (dataId_lt_of_lost hw hl)
  simp only [Set.mem_empty_iff_false,hl,or_false] at h
  exact Bool.eq_iff_iff.mpr h

theorem bufferAt_released_self {e : Engine} (hw : WellFormed e) (hb : e.bufferOf t = some b) :
    (e.released t).bufferAt (e.cellAt t.id).dataId = returned b :=
  (bufferAt_releaseWithin_succ hw hb le_rfl bufferAt_releaseWithin_of_lt).trans (if_pos rfl)
end TensorKit.Engine
