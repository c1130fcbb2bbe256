import TensorKit.Proofs.Engine.Creation

/-! # What kernels leave behind

An action built from kernels leaves tensors from before as they are, apart from the parts of data that goes, and adds
only new tensors to scopes. A tensor that it made and that is kept is saved on the tape or a part of data.
-/
namespace TensorKit.Engine
open List
variable {i : Nat} (e : Engine) (t : Tensor) (result : Tensors)

/-! ## The tape and the depths -/

/-- The tape, with how deep the engine is in gradients and in kernels. -/
def record (e : Engine) : Array TapeNode × Nat × Nat := (e.tape,e.gradientDepth,e.kernelDepth)

theorem view_foldl {β : Type} {v : Engine → β} (h : ∀ e t, v (f e t) = v e)
    (ts : Tensors) (e : Engine) : v (ts.foldl f e) = v e := by
  induction ts generalizing e with
  | nil => rfl
  | cons t ts ih => rw [foldl_cons,ih,h]

theorem record_tracked : record (e.tracked t) = record e := by
  unfold tracked
  cases e.scopes <;> rfl
theorem record_counted : record (e.counted t) = record e := by
  unfold counted
  cases hb : e.bufferOf t with
  | none | some b => simp only [hb]; rfl

theorem record_enrolled : record (e.enrolled t) = record e := by
  unfold enrolled
  split
  · rw [record_tracked,record_counted]
  · exact record_counted e t

theorem record_written (data : Data) : record (e.written t data) = record e := by
  cases hb : e.bufferOf t with
  | none => rw [written_of_none hb]
  | some b => rw [written_of_some hb]; rfl
theorem record_unused (b : Buffer) : record (e.unused t b) = record e := by
  unfold unused
  by_cases hr : b.refCount ≤ 1 <;> simp only [hr] <;> rfl

theorem record_releaseWithin (fuel : Nat) (t : Tensor) (e : Engine) :
    record (after (releaseWithin fuel t) e) = record e := by
  induction fuel generalizing t e with
  | zero => rfl
  | succ fuel ih =>
    cases hb : e.bufferOf t with
    | none => rw [after_releaseWithin_none hb]
    | some b =>
      have hretired : ∀ e p, record (retired fuel e p) = record e := by
        intro e p
        unfold retired
        split
        · rfl
        · exact ih p e
      rw [after_releaseWithin_some hb,view_foldl hretired,record_unused]

theorem record_discarded : record (e.discarded t) = record e := by
  unfold discarded
  split
  · exact record_releaseWithin _ t e
  · split
    · rfl
    · exact record_releaseWithin _ t e

theorem record_closed : record (e.closed result) = record e := by
  cases hs : e.scopes with
  | nil => rw [closed_of_no_scope hs]
  | cons s rest =>
    have hadopted : ∀ e t, record (adopted s.id e t) = record e := by
      intro e t
      unfold adopted
      split
      · exact record_tracked e t
      · rfl
    have hswept : ∀ e t, record (swept result e t) = record e := by
      intro e t
      unfold swept
      split
      · exact record_discarded e t
      · rfl
    rw [closed_eq_sweep hs,view_foldl hadopted]
    exact view_foldl hswept s.track.reverse e

theorem kept_closed (i : Nat) : ((e.closed result).cellAt i).kept = (e.cellAt i).kept := by
  cases hs : e.scopes with
  | nil => rw [closed_of_no_scope hs]
  | cons s rest =>
    have hadopted : ∀ e t, ((adopted s.id e t).cellAt i).kept = (e.cellAt i).kept := by
      intro e t
      unfold adopted
      split
      · exact kept_tracked e t i
      · rfl
    rw [closed_eq_sweep hs]
    exact (view_foldl (v := fun e => (e.cellAt i).kept) hadopted result _).trans
      ((disposes_sweep e s.track result).fades.kept i)

variable {e}
theorem Part.written {t : Tensor} (h : Part e i) (hempty : ∀ b, e.bufferOf t =
    some b → b.data.parts = []) (data : Data) : Part (e.written t data) i := by
  obtain ⟨d,b,hb,p,hp,rfl⟩ := h
  refine ⟨d,b,?_,p,hp,rfl⟩
  rw [bufferAt_written,if_neg,hb]
  rintro rfl
  rw [hempty b hb] at hp
  cases hp

/-! ## Footprints -/

/-- From `e` to `e'` new tensors were made. Of those from before only members of `D`, and parts of data,
may have been disposed. -/
structure Footprint (D : Set Nat) (e e' : Engine) : Prop where
  size : e.cells.size ≤ e'.cells.size
  cell : ∀ i < e.cells.size, e'.cellAt i = { e.cellAt i with disposed := (e'.cellAt i).disposed }
  gone : ∀ i < e.cells.size, (e.cellAt i).disposed = true → (e'.cellAt i).disposed = true
  spared : ∀ i < e.cells.size, (e'.cellAt i).disposed = true → (e.cellAt i).disposed = true ∨ Part e i ∨ i ∈ D
  parts : ∀ i, Part e' i → Part e i ∨ e.cells.size ≤ i
  whole : ∀ i < e.cells.size, Part e i → (e'.cellAt i).disposed = false → Part e' i
  scopes : ∃ ts, e'.scopes = pushed ts e.scopes ∧ ∀ t ∈ ts, e.cells.size ≤ t.id
  stack : Scoped e'
  depths : (record e').2 = (record e).2

namespace Footprint
variable {D : Set Nat} {e e' e'' : Engine}
theorem refl (D : Set Nat) (h : Scoped e) : Footprint D e e where
  size := le_rfl
  cell _ _ := rfl
  gone _ _ hi := hi
  spared _ _ hi := .inl hi
  parts _ hi := .inl hi
  whole _ _ hi _ := hi
  scopes := ⟨[],(pushed_nil _).symm,nofun⟩
  stack := h
  depths := rfl

variable (h : Footprint D e e')
include h
variable (hi : i < e.cells.size)
include hi
theorem live (hlive : (e'.cellAt i).disposed = false) : (e.cellAt i).disposed = false := by
  cases hd : (e.cellAt i).disposed with
  | false => rfl
  | true => rw [h.gone i hi hd] at hlive; cases hlive

omit hi in
theorem trans (h' : Footprint D e' e'') : Footprint D e e'' where
  size := h.size.trans h'.size
  cell i hi := by rw [h'.cell i (hi.trans_le h.size),h.cell i hi]
  gone i hi hd := h'.gone i (hi.trans_le h.size) (h.gone i hi hd)
  spared i hi hd := by
    rcases h'.spared i (hi.trans_le h.size) hd with hd | hp | hD
    · exact h.spared i hi hd
    · exact .inr (.inl ((h.parts i hp).resolve_right (Nat.not_le.mpr hi)))
    · exact .inr (.inr hD)
  parts i hi := by
    rcases h'.parts i hi with hi | hi
    · exact h.parts i hi
    · exact .inr (h.size.trans hi)
  whole i hi hp hlive := by
    have hi' := hi.trans_le h.size
    exact h'.whole i hi' (h.whole i hi hp (h'.live hi' hlive)) hlive
  scopes := by
    obtain ⟨ts,hts,hnew⟩ := h.scopes
    obtain ⟨us,hus,hnew'⟩ := h'.scopes
    refine ⟨us ++ ts,by rw [hus,hts,pushed_pushed],fun t ht => ?_⟩
    rcases mem_append.mp ht with ht | ht
    · exact h.size.trans (hnew' t ht)
    · exact hnew t ht
  stack := h'.stack
  depths := h'.depths.trans h.depths

omit hi in
theorem mono (hD : D ⊆ D') : Footprint D' e e' :=
  { h with spared := fun i hi hd => (h.spared i hi hd).imp_right (.imp_right (@hD i)) }
theorem kept : (e'.cellAt i).kept = (e.cellAt i).kept := by rw [h.cell i hi]
theorem scopeId : (e'.cellAt i).scopeId = (e.cellAt i).scopeId := by rw [h.cell i hi]
theorem dataId : (e'.cellAt i).dataId = (e.cellAt i).dataId := by rw [h.cell i hi]
omit hi

theorem keptAt (hi : e.cells.size ≤ i) : Footprint D e (e'.keptAt i) := by
  have hcell : ∀ j < e.cells.size, (e'.keptAt i).cellAt j = e'.cellAt j := fun j hj =>
    cellAt_withCell_of_ne (by omega) _
  refine ⟨h.size.trans (alike_keptAt e' i).size.ge,fun j hj => ?_,fun j hj => ?_,fun j hj => ?_,h.parts,
    fun j hj => ?_,h.scopes,?_,h.depths⟩
  · rw [hcell j hj]; exact h.cell j hj
  · rw [hcell j hj]; exact h.gone j hj
  · rw [hcell j hj]; exact h.spared j hj
  · rw [hcell j hj]; exact h.whole j hj
  · refine h.stack.same rfl rfl (fun j => ?_) fun j hj => h.stack.untracked j ((alike_keptAt e' i).variableInfo j ▸ hj)
    rw [Engine.keptAt,cellAt_withCell]
    split <;> rfl

theorem written {t : Tensor} (hempty : ∀ b, e'.bufferAt (e'.cellAt t.id).dataId =
    some b → b.data.parts = []) (hnew : ∀ p ∈ data.parts, e.cells.size ≤ p.id) : Footprint D e (e'.written t data) where
  size := by rw [(written_frame e' t data).1]; exact h.size
  cell i hi := by rw [cellAt_written]; exact h.cell i hi
  gone i hi := by rw [cellAt_written]; exact h.gone i hi
  spared i hi := by rw [cellAt_written]; exact h.spared i hi
  parts i hi := by
    rcases hi.of_written with hi | ⟨p,hp,rfl⟩
    · exact h.parts i hi
    · exact .inr (hnew p hp)
  whole i hi hp hlive := by
    rw [cellAt_written] at hlive
    exact (h.whole i hi hp hlive).written hempty data
  scopes := by rw [(written_frame e' t data).2.2.1]; exact h.scopes
  stack := h.stack.written t data
  depths := by rw [record_written]; exact h.depths
end Footprint

/-! ## Steps -/

theorem Part.of_counted (h : Part e i) : Part (e.counted t) i := by
  obtain ⟨d,b,hb,p,hp,rfl⟩ := h
  by_cases hd : (e.cellAt t.id).dataId = d
  · subst hd
    refine ⟨(e.cellAt t.id).dataId,e.claimed t,?_,p,?_,rfl⟩
    · rw [bufferAt_counted,if_pos ⟨rfl,lt_size_of_bufferAt hb⟩]
    · rw [claimed,hb]
      exact hp
  · exact ⟨d,b,by rw [bufferAt_counted,if_neg (hd ·.1),hb],p,hp,rfl⟩

theorem footprint_enrolled {t : Tensor} (hs : Scoped e) (hloose : c.scopeId = none)
    (ht : t.id = e.cells.size) : Footprint ∅ e ((e.withNew c).enrolled t) := by
  have halike := alike_enrolled (e.withNew c) t
  have hcell : ∀ i < e.cells.size, ((e.withNew c).enrolled t).cellAt i = e.cellAt i := fun i hi => by
    rw [cellAt_enrolled_of_ne (by omega),cellAt_withNew,if_neg (by omega)]
  obtain ⟨ts,hscopes,hts⟩ := enrolled_scopes (e.withNew c) t
  refine ⟨?_,fun i hi => by rw [hcell i hi],fun i hi hd => by rwa [hcell i hi],
    fun i hi hd => .inl (by rwa [hcell i hi] at hd),fun i hi => ?_,fun i _ hp _ => ?_,⟨ts,hscopes,?_⟩,?_,?_⟩
  · rw [halike.size,(size_counted _ t).1,size_withNew]
    exact Nat.le_succ _
  · exact .inl ((part_alike halike i).mp hi).counted
  · exact (part_alike halike i).mpr (.of_counted t hp)
  · intro x hx
    rw [hts x hx,ht]
  · refine (hs.withNew hloose).enrolled ?_ ?_
    · rw [ht,size_withNew]
      exact Nat.lt_succ_self _
    · rw [cellAt_withNew,if_pos ht,hloose]
  · rw [record_enrolled]
    rfl

theorem footprint_withPlace (hs : Scoped e) : Footprint ∅ e { e with buffers := e.buffers.push none } :=
  { Footprint.refl ∅ hs with
    parts := fun i hi => .inl ((part_withPlace i).mp hi)
    whole := fun i _ hp _ => (part_withPlace i).mpr hp
    stack := hs.like rfl }

variable {e' : Engine}
theorem Disposes.part (h : Disposes S e e') (hp : Part e i) (hlive : (e'.cellAt i).disposed = false) : Part e' i := by
  obtain ⟨d,b,hb,hp⟩ := hp
  cases hb' : e'.bufferAt d with
  | none =>
    rw [(h.disposed i).mpr (.inr (.inr ⟨d,b,hb,hb',hp⟩))] at hlive
    cases hlive
  | some b' =>
    obtain ⟨b₀,hb₀,hdata⟩ := h.fades.data hb'
    cases hb.symm.trans hb₀
    exact ⟨d,b',hb',hdata ▸ hp⟩

theorem Disposes.footprint (h : Disposes S e e') (hs : Scoped e) (hD : S ⊆ D)
    (hrecord : record e' = record e) : Footprint D e e' where
  size := h.fades.size.ge
  cell i _ := h.fades.cell i
  gone i _ := h.fades.stays i
  spared i _ hd := by
    rcases (h.disposed i).mp hd with hd | hS | ⟨d,b,hb,-,hp⟩
    · exact .inl hd
    · exact .inr (.inr (hD hS))
    · exact .inr (.inl ⟨d,b,hb,hp⟩)
  parts i hi := .inl (hi.fades h.fades)
  whole _ _ := h.part
  scopes := ⟨[],by rw [h.fades.scopes,pushed_nil],nofun⟩
  stack := hs.fades h.fades
  depths := by rw [hrecord]

/-! ## The end of a scope -/

variable {result}
theorem live_of_closed (hlive : ((e.closed result).cellAt i).disposed = false) : (e.cellAt i).disposed = false := by
  cases hscopes : e.scopes with
  | nil => rwa [closed_of_no_scope hscopes] at hlive
  | cons s rest =>
    rw [(alike_closed hscopes result).disposed] at hlive
    exact (disposes_sweep e s.track result).fades.live hlive

theorem Part.closed (h : Part e i)
    (hlive : ((e.closed result).cellAt i).disposed = false) : Part (e.closed result) i := by
  cases hscopes : e.scopes with
  | nil => rwa [closed_of_no_scope hscopes]
  | cons s rest =>
    have halike := alike_closed hscopes result
    rw [halike.disposed] at hlive
    exact (part_alike halike i).mpr ((disposes_sweep e s.track result).part h hlive)

theorem Footprint.closed (hs : Scoped e)
    (h : Footprint D (e.opened name) e') (result : Tensors) : Footprint D e (e'.closed result) := by
  obtain ⟨us,hus,hnew⟩ := h.scopes
  have hscopes : e'.scopes = ⟨e.nextScopeId,name,us⟩ :: e.scopes := by rw [hus,opened,pushed,append_nil]
  have hclose := closes h.stack hscopes result
  have hsweep := (disposes_sweep e' us result).fades
  have halike := alike_closed hscopes result
  -- tensors of the result that change hands name the scope that ends, so they are new
  have hmoved : ∀ i, Moved e' e.nextScopeId result i → e.cells.size ≤ i := by
    rintro i ⟨-,-,hid⟩
    by_contra hi
    rw [h.scopeId (Nat.lt_of_not_le hi)] at hid
    exact lt_irrefl _ (hs.past i _ hid)
  refine ⟨?_,fun i hi => ?_,fun i hi hd => ?_,fun i hi hd => ?_,fun i hi => ?_,fun i hi hp hlive => ?_,?_,
    hclose.stack,?_⟩
  · rw [halike.size,hsweep.size]
    exact h.size
  · have hcell := halike.cell i
    rw [kept_closed,hclose.stays i fun hi' => absurd (hmoved i hi') (Nat.not_le.mpr hi),hsweep.cell i] at hcell
    rw [hcell,h.cell i hi]
    rfl
  · exact (hclose.disposed i).mpr (.inl (h.gone i hi hd))
  · rcases (hclose.disposed i).mp hd with hd | ⟨⟨t,ht,rfl⟩,-⟩ | ⟨d,b,hb,-,hp⟩
    · exact h.spared i hi hd
    · exact absurd (hnew t ht) (Nat.not_le.mpr hi)
    · exact .inr (.inl ((h.parts i ⟨d,b,hb,hp⟩).resolve_right (Nat.not_le.mpr hi)))
  · exact h.parts i (((part_alike halike i).mp hi).fades hsweep)
  · exact (h.whole i hi hp (live_of_closed hlive)).closed hlive
  · obtain ⟨ts,hts,-,hmem⟩ := hclose.scopes
    cases hrest : e.scopes with
    | nil => exact ⟨[],by rw [hts,hrest]; rfl,by simp⟩
    | cons p outer =>
      refine ⟨ts,by rw [hts,hrest],fun t ht => ?_⟩
      exact hmoved t.id ((hmem (by simp [hrest]) t.id).mp ⟨t,ht,rfl⟩)
  · rw [record_closed]
    exact h.depths
end TensorKit.Engine
