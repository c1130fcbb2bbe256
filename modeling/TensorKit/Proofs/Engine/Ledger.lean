import TensorKit.Proofs.Engine.Store

/-! # The books of the engine

What the engine ought to have counted can be read off the store. The difference to what it has counted is a tally that
every elementary step changes by a known amount, so the books are right if the steps of an operation add up to nothing.
-/
namespace TensorKit.Engine
open Finset
variable {e : Engine} {i : Nat} {t : Tensor}
variable {d fuel : Nat} {e' : Engine} {b : Buffer}
/-- Live tensors that hold the data under a number. -/
def holders (e : Engine) (d : Nat) : Nat :=
  #{i ∈ range e.cells.size | (e.cellAt i).disposed = false ∧ (e.cellAt i).dataId = d}

def liveTensors (e : Engine) : Nat := #{i ∈ range e.cells.size | (e.cellAt i).disposed = false}
def registeredData (e : Engine) : Nat := #{d ∈ range e.buffers.size | (e.bufferAt d).isSome}

/-- Uses of the data under a number that the engine has recorded. -/
def uses (e : Engine) (d : Nat) : Nat := (e.bufferAt d).elim 0 Buffer.refCount

/-- Counts of tensors, of uses for each number of data, and of data. -/
abbrev Tally := ℤ × (ℕ → ℤ) × ℤ

def use (d : ℕ) : Tally := (1,Pi.single d 1,0)
def cellTally (c : Cell) : Tally := if c.disposed then 0 else use c.dataId

/-- Registered data counts as one, and against it stand the uses recorded for it. -/
def bufferTally (d : ℕ) : Option Buffer → Tally
  | none => 0
  | some b => (0,-Pi.single d b.refCount,1)

/-- What is there, less what the books say. -/
def imbalance (e : Engine) : Tally :=
  ∑ i ∈ range e.cells.size, cellTally (e.cellAt i) + ∑ d ∈ range e.buffers.size, bufferTally d (e.bufferAt d) -
    (e.numTensors,0,e.numDataBuffers)

variable (e)
theorem imbalance_tensors : (imbalance e).1 = (liveTensors e : ℤ) - e.numTensors := by
  have hcell : ∀ c, (cellTally c).1 = if c.disposed = false then 1 else 0 := by
    intro c
    cases h : c.disposed <;> simp [cellTally,use,h]
  have hbuffer : ∀ d b, (bufferTally d b).1 = 0 := by
    intro d b
    cases b <;> rfl
  simp only [imbalance,Prod.fst_sub,Prod.fst_add,Prod.fst_sum,hcell,hbuffer,sum_const_zero,add_zero,
    liveTensors,natCast_card_filter]

theorem imbalance_uses (d : Nat) : (imbalance e).2.1 d = (holders e d : ℤ) - uses e d := by
  have hcell : ∀ c, (cellTally c).2.1 d = if c.disposed = false ∧ c.dataId = d then 1 else 0 := by
    intro c
    cases h : c.disposed <;> simp [cellTally,use,h,Pi.single_apply,eq_comm]
  have hbuffer : ∑ k ∈ range e.buffers.size, (bufferTally k (e.bufferAt k)).2.1 d = -(uses e d) := by
    rw [sum_eq_single d]
    · cases hb : e.bufferAt d <;> simp [bufferTally,uses,hb]
    · intro k _ hk
      cases e.bufferAt k <;> simp [bufferTally,Ne.symm hk]
    · intro hd
      rw [bufferAt_of_le (by simpa using hd)]
      rfl
  simp only [imbalance,Prod.snd_sub,Prod.snd_add,Prod.snd_sum,Prod.fst_sub,Prod.fst_add,Prod.fst_sum,Pi.add_apply,Finset.sum_apply,hcell,hbuffer,sub_zero,holders,natCast_card_filter]
  ring

theorem imbalance_data : (imbalance e).2.2 = (registeredData e : ℤ) - e.numDataBuffers := by
  have hcell : ∀ c, (cellTally c).2.2 = 0 := by
    intro c
    cases h : c.disposed <;> simp [cellTally,use,h]
  have hbuffer : ∀ d b, (bufferTally d b).2.2 = if b.isSome then 1 else 0 := by
    intro d b
    cases b <;> rfl
  simp only [imbalance,Prod.snd_sub,Prod.snd_add,Prod.snd_sum,hcell,hbuffer,sum_const_zero,zero_add,
    registeredData,natCast_card_filter]

theorem imbalance_eq_zero_iff : imbalance e = 0 ↔ e.numTensors = liveTensors e ∧
    (∀ d, uses e d = holders e d) ∧ e.numDataBuffers = registeredData e := by
  rw [Prod.ext_iff,Prod.ext_iff,funext_iff]
  simp only [imbalance_tensors,imbalance_uses,imbalance_data,Prod.fst_zero,Prod.snd_zero,Pi.zero_apply,
    sub_eq_zero,Nat.cast_inj]
  simp only [eq_comm]

variable {e}
theorem holders_pos (hi : (e.cellAt i).disposed = false) (hd : (e.cellAt i).dataId = d) : 0 < holders e d :=
  card_pos.mpr ⟨i,by simp [hi,hd,lt_size_of_live hi]⟩

theorem registered_of_live (hi : (e.cellAt i).disposed = false) (h : (imbalance e).2.1 (e.cellAt i).dataId = 0) :
    ∃ b, e.bufferAt (e.cellAt i).dataId = some b := by
  rw [imbalance_uses] at h
  have hpos := holders_pos hi rfl
  cases hb : e.bufferAt (e.cellAt i).dataId with
  | some b => exact ⟨b,rfl⟩
  | none =>
    simp only [uses,hb,Option.elim_none] at h
    omega

/-! ## Elementary steps -/

theorem sum_range_of_eq_off {M : Type} [AddCommGroup M] {f g : ℕ → M} (hj : j < n)
    (h : ∀ i, i ≠ j → g i = f i) : ∑ i ∈ range n, g i = ∑ i ∈ range n, f i + (g j - f j) := by
  rw [← add_sum_erase _ g (mem_range.mpr hj),← add_sum_erase _ f (mem_range.mpr hj),
    sum_congr rfl fun i hi => h i (ne_of_mem_erase hi)]
  abel

/-- A sum over all data after a change of one. -/
theorem sum_of_set {M : Type} [AddCommGroup M] (f : ℕ → Option Buffer → M) {b : Option Buffer} (hd : d < e.buffers.size)
    (hb : e'.buffers = e.buffers.setIfInBounds d b) : ∑ k ∈ range e'.buffers.size, f k (e'.bufferAt k) = ∑ k ∈ range
    e.buffers.size, f k (e.bufferAt k) + (f d b - f d (e.bufferAt d)) := by
  have hbuffer : ∀ k, e'.bufferAt k = if d = k ∧ d < e.buffers.size then b else e.bufferAt k := by
    intro k
    rw [← bufferAt_withBuffer]
    unfold bufferAt withBuffer
    rw [hb]
  have hsum := sum_range_of_eq_off (f := fun k => f k (e.bufferAt k)) (g := fun k => f k (e'.bufferAt k)) hd
    fun k hk => by rw [hbuffer,if_neg (hk ·.1.symm)]
  rw [hbuffer,if_pos ⟨rfl,hd⟩] at hsum
  rw [hb,Array.size_setIfInBounds,hsum]

theorem buffers_written (hb : e.bufferOf t = some b) (data : Data) :
    (e.written t data).buffers = e.buffers.setIfInBounds (e.cellAt t.id).dataId (some (filled b data)) := by
  rw [written_of_some hb]
  rfl

theorem imbalance_alike (h : Alike e e') : imbalance e' = imbalance e := by
  have hcell : ∀ i, cellTally (e'.cellAt i) = cellTally (e.cellAt i) := by
    intro i
    unfold cellTally
    rw [h.disposed,h.dataId]
  simp only [imbalance,h.size,h.buffers,hcell,h.bufferAt,h.tensors,h.dataBuffers]

theorem imbalance_withNew (e : Engine) (c : Cell) : imbalance (e.withNew c) = imbalance e + cellTally c := by
  have hold : ∀ i ∈ range e.cells.size, cellTally ((e.withNew c).cellAt i) = cellTally (e.cellAt i) := by
    intro i hi
    rw [cellAt_withNew,if_neg (mem_range.mp hi).ne]
  have hnew : (e.withNew c).cellAt e.cells.size = c := by rw [cellAt_withNew,if_pos rfl]
  have hsum : imbalance (e.withNew c) = (∑ i ∈ range e.cells.size, cellTally (e.cellAt i) + cellTally c) +
      ∑ d ∈ range e.buffers.size, bufferTally d (e.bufferAt d) - (e.numTensors,0,e.numDataBuffers) := by
    rw [imbalance,size_withNew,sum_range_succ,sum_congr rfl hold,hnew]
    rfl
  rw [hsum,imbalance]
  abel

theorem imbalance_withCell (hi : i < e.cells.size) (f : Cell → Cell) :
    imbalance (e.withCell i f) = imbalance e + (cellTally (f (e.cellAt i)) - cellTally (e.cellAt i)) := by
  have hsum := sum_range_of_eq_off (f := fun j => cellTally (e.cellAt j))
    (g := fun j => cellTally ((e.withCell i f).cellAt j)) hi
    fun j hj => by rw [cellAt_withCell_of_ne (.symm hj)]
  rw [cellAt_withCell_self hi] at hsum
  rw [imbalance,size_withCell,hsum,imbalance]
  abel

theorem imbalance_withPlace (e : Engine) : imbalance { e with buffers := e.buffers.push none } = imbalance e := by
  simp only [imbalance,Array.size_push,sum_range_succ,bufferAt_withPlace,bufferAt_of_le le_rfl,bufferTally,add_zero]
  rfl

theorem imbalance_of_set {b : Option Buffer} (hd : d < e.buffers.size) (hc : e'.cells = e.cells) (hb : e'.buffers =
    e.buffers.setIfInBounds d b) : imbalance e' = imbalance e + (bufferTally d b - bufferTally d (e.bufferAt d)) -
    (e'.numTensors - e.numTensors,0,e'.numDataBuffers - e.numDataBuffers) := by
  have hcell : ∀ i, e'.cellAt i = e.cellAt i := fun i => by unfold cellAt; rw [hc]
  have hcounts : ((e'.numTensors,0,e'.numDataBuffers) : Tally) = (e.numTensors,0,e.numDataBuffers) +
      (e'.numTensors - e.numTensors,0,e'.numDataBuffers - e.numDataBuffers) := by
    simp
  rw [imbalance,imbalance,hcounts,sum_of_set bufferTally hd hb,hc,sum_congr rfl fun i _ => by rw [hcell i]]
  abel

theorem imbalance_counted (hd : (e.cellAt t.id).dataId < e.buffers.size) :
    imbalance (e.counted t) = imbalance e - use (e.cellAt t.id).dataId := by
  have hcounts := counted_counts e t
  rw [imbalance_of_set hd (counted_frame e t).1 (counted_frame e t).2.1,hcounts.1,hcounts.2.1,claimed]
  cases hb : e.bufferAt (e.cellAt t.id).dataId with
  | some b => ext <;> simp [bufferTally,use,Pi.single_add,sub_eq_add_neg]
  | none => ext <;> simp [bufferTally,use,sub_eq_add_neg]

theorem imbalance_written (e : Engine) (t : Tensor) (data : Data) : imbalance (e.written t data) = imbalance e := by
  cases hb : e.bufferAt (e.cellAt t.id).dataId with
  | none => rw [written_of_none hb]
  | some b =>
    rw [imbalance_of_set (lt_size_of_bufferAt hb) (written_frame e t data).1 (buffers_written hb data),hb,
      written_of_some hb]
    ext <;> simp [bufferTally,withBuffer]

theorem imbalance_unused (h : e.bufferAt (e.cellAt t.id).dataId = some b) (hr : 0 < b.refCount) :
    imbalance (e.unused t b) = imbalance e + use (e.cellAt t.id).dataId := by
  have hcounts := unused_counts e t b
  rw [imbalance_of_set (lt_size_of_bufferAt h) (unused_frame e t b).1 (unused_frame e t b).2.1,hcounts.1,
    hcounts.2.1,h,returned]
  by_cases hlast : b.refCount ≤ 1
  · have hone : b.refCount = 1 := by omega
    ext <;> simp [bufferTally,use,hone]
  · have hcast : ((b.refCount - 1 : ℕ) : ℤ) = b.refCount - 1 := by omega
    ext <;> simp [bufferTally,use,hlast,hcast,Pi.single_sub]

theorem imbalance_marked (hi : (e.cellAt i).disposed = false) :
    imbalance (e.marked i) = imbalance e - use (e.cellAt i).dataId := by
  rw [marked,imbalance_withCell (lt_size_of_live hi)]
  simp only [cellTally,hi,↓reduceIte,Bool.false_eq_true]
  abel

/-! ## Releases and disposals -/

theorem use_below (h : k < d) : (use d).2.1 k = 0 := by simp [use,h.ne]

variable (hw : WellFormed e)
include hw
theorem imbalance_retired (hrelease : ∀ b, e.bufferAt (e.cellAt p.id).dataId =
    some b → imbalance (after (releaseWithin fuel p) e) = imbalance e + use (e.cellAt p.id).dataId)
    (hg : (imbalance e).2.1 (e.cellAt p.id).dataId = 0) : imbalance (retired fuel e p) = imbalance e := by
  unfold retired
  split
  next => rfl
  next hp =>
    have hlive : (e.cellAt p.id).disposed = false := by simpa using hp
    obtain ⟨b,hb⟩ := registered_of_live hlive hg
    have hafter : ((after (releaseWithin fuel p) e).cellAt p.id).disposed = false := by
      rw [disposed_releaseWithin_self hw,hlive]
    rw [imbalance_marked hafter,(disposes_releaseWithin fuel p e).fades.dataId,hrelease b hb,add_sub_cancel_right]

/-- A release takes one use out of the books. What goes along with it is counted right if older data is. -/
theorem imbalance_releaseWithin (hfuel : (e.cellAt t.id).dataId < fuel)
    (hg : ∀ d < (e.cellAt t.id).dataId, (imbalance e).2.1 d = 0) (hb : e.bufferOf t = some b) :
    imbalance (after (releaseWithin fuel t) e) = imbalance e + use (e.cellAt t.id).dataId := by
  induction fuel generalizing t e b with
  | zero => exact absurd hfuel (Nat.not_lt_zero _)
  | succ fuel ih =>
    rw [after_releaseWithin_some hb]
    refine (List.foldlRecOn (motive := fun e' => Fades e e' ∧
      imbalance e' = imbalance e + use (e.cellAt t.id).dataId) (leftovers b) (retired fuel)
      ⟨fades_unused hb,imbalance_unused hb (hw.used _ b hb)⟩ ?_).2
    rintro e' ⟨hf,hsum⟩ p hp
    have hold : (e'.cellAt p.id).dataId < (e.cellAt t.id).dataId := by
      rw [hf.dataId]
      exact (hw.parts _ b hb p (mem_parts_of_mem_leftovers hp)).2.1
    have hbelow : ∀ d < (e.cellAt t.id).dataId, (imbalance e').2.1 d = 0 := by
      intro d hd
      rw [hsum,Prod.snd_add,Prod.fst_add,Pi.add_apply,hg d hd,use_below hd,add_zero]
    refine ⟨hf.trans (disposes_retired (disposes_releaseWithin fuel) e' p).fades,?_⟩
    rw [imbalance_retired (hw.fades hf) (fun b' hb' => ih (hw.fades hf) (by omega)
      (fun d hd => hbelow d (hd.trans hold)) hb') (hbelow _ hold),hsum]

variable (hg : imbalance e = 0)
include hg
theorem imbalance_released : imbalance (e.released t) =
    if (e.bufferAt (e.cellAt t.id).dataId).isSome then use (e.cellAt t.id).dataId else 0 := by
  unfold released
  cases hb : e.bufferAt (e.cellAt t.id).dataId with
  | none => rw [after_releaseWithin_none hb,hg]; rfl
  | some b =>
    rw [imbalance_releaseWithin hw (Nat.lt_succ_self _) (fun d _ => by rw [hg]; rfl) hb,hg,zero_add]
    rfl

theorem imbalance_released_marked (hlive : (e.cellAt t.id).disposed = false) :
    imbalance ((e.released t).marked t.id) = 0 := by
  obtain ⟨b,hb⟩ := registered_of_live hlive (by rw [hg]; rfl)
  have hrelease : imbalance (e.released t) = use (e.cellAt t.id).dataId := by rw [imbalance_released hw hg,hb]; rfl
  have hstill : ((e.released t).cellAt t.id).disposed = false := by rw [released,disposed_releaseWithin_self hw,hlive]
  rw [imbalance_marked hstill,hrelease,(disposes_released e t).fades.dataId,sub_self]

theorem imbalance_discarded_of_live (hlive : (e.cellAt t.id).disposed = false) : imbalance (e.discarded t) = 0 := by
  rw [imbalance_alike (alike_discarded (.inr hlive)),imbalance_released_marked hw hg hlive]
omit hw in
omit hg in
theorem discarded_of_disposed (hd : (e.cellAt t.id).disposed = true) (hv : (e.cellAt t.id).variableInfo = none) :
    e.discarded t = e := by
  simp [discarded,hv,hd]

/-- Disposing a tensor that is no variable never harms the books, however often it is done. -/
theorem imbalance_discarded (hv : (e.cellAt t.id).variableInfo = none) : imbalance (e.discarded t) = 0 := by
  cases hd : (e.cellAt t.id).disposed with
  | true => rw [discarded_of_disposed hd hv,hg]
  | false => exact imbalance_discarded_of_live hw hg hd

/-- Disposing a variable once more takes a use out of the books that is not its own. -/
theorem imbalance_discarded_again (hd : (e.cellAt t.id).disposed = true) (hv : (e.cellAt t.id).variableInfo.isSome) :
    imbalance (e.discarded t) =
    if (e.bufferAt (e.cellAt t.id).dataId).isSome then use (e.cellAt t.id).dataId else 0 := by
  rw [imbalance_alike (alike_discarded (.inl hv)),
    imbalance_alike (alike_marked ((disposes_released e t).fades.stays _ hd)),imbalance_released hw hg]

theorem imbalance_sweep {track : Tensors} (htrack : ∀ t ∈ track, (e.cellAt t.id).variableInfo = none)
    (result : Tensors) : imbalance (track.reverse.foldl (swept result) e) = 0 := by
  refine (List.foldlRecOn (motive := fun e' => Fades e e' ∧ imbalance e' = 0) track.reverse (swept result)
    ⟨.refl e,hg⟩ ?_).2
  rintro e' ⟨hf,hsum⟩ t ht
  unfold swept
  split
  · have hvar : (e'.cellAt t.id).variableInfo = none := by rw [hf.variableInfo,htrack t (List.mem_reverse.mp ht)]
    exact ⟨hf.trans (disposes_discarded e' t).fades,imbalance_discarded (hw.fades hf) hsum hvar⟩
  · exact ⟨hf,hsum⟩
end TensorKit.Engine
