import TensorKit.Proofs.Engine.Effects

/-! # What disposing does and does not do

To dispose a tensor takes back its use of its data, and the last use takes the data and its parts. Seen from outside,
cells only become disposed, buffers only lose uses, and what is disposed beyond the tensors asked for are parts of lost
data.
-/
namespace TensorKit.Engine
open List
variable {d fuel : Nat} {t : Tensor} {b : Buffer} {R : Set Nat → Engine → Engine → Prop} (i : Nat)
  {S T : Set Nat} {e e' e'' : Engine}
/-- `e'` comes from `e` by disposing: flags are only set, and buffers only lose uses. -/
structure Fades (e e' : Engine) : Prop where
  size : e'.cells.size = e.cells.size
  room : e'.buffers.size = e.buffers.size
  cell : ∀ i, e'.cellAt i = { e.cellAt i with disposed := (e'.cellAt i).disposed }
  stays : ∀ i, (e.cellAt i).disposed = true → (e'.cellAt i).disposed = true
  buffer : ∀ d b', e'.bufferAt d = some b' → ∃ b, e.bufferAt d = some b ∧
    b' = { b with refCount := b'.refCount } ∧ (0 < b.refCount → 0 < b'.refCount)
  scopes : e'.scopes = e.scopes
  nextScope : e'.nextScopeId = e.nextScopeId

namespace Fades
theorem refl (e : Engine) : Fades e e where
  size := rfl
  room := rfl
  cell _ := rfl
  stays _ h := h
  buffer _ b h := ⟨b,h,rfl,id⟩
  scopes := rfl
  nextScope := rfl

variable (h : Fades e e')
include h
theorem trans (h' : Fades e' e'') : Fades e e'' where
  size := h'.size.trans h.size
  room := h'.room.trans h.room
  cell i := by
    have hi := h'.cell i
    rw [h.cell i] at hi
    exact hi
  stays i hi := h'.stays i (h.stays i hi)
  buffer d b'' hb'' := by
    obtain ⟨b',hb',he',hr'⟩ := h'.buffer d b'' hb''
    obtain ⟨b,hb,he,hr⟩ := h.buffer d b' hb'
    refine ⟨b,hb,?_,fun hp => hr' (hr hp)⟩
    rw [he',he]
  scopes := h'.scopes.trans h.scopes
  nextScope := h'.nextScope.trans h.nextScope

theorem dataId : (e'.cellAt i).dataId = (e.cellAt i).dataId := by rw [h.cell i]
theorem kept : (e'.cellAt i).kept = (e.cellAt i).kept := by rw [h.cell i]
theorem scopeId : (e'.cellAt i).scopeId = (e.cellAt i).scopeId := by rw [h.cell i]
theorem variableInfo : (e'.cellAt i).variableInfo = (e.cellAt i).variableInfo := by rw [h.cell i]

theorem data (hb : e'.bufferAt d = some b') : ∃ b, e.bufferAt d = some b ∧ b'.data = b.data := by
  obtain ⟨b,hb,he,-⟩ := h.buffer d b' hb
  exact ⟨b,hb,by rw [he]⟩

theorem gone (hd : e.bufferAt d = none) : e'.bufferAt d = none := by
  cases hb : e'.bufferAt d with
  | none => rfl
  | some b' =>
    obtain ⟨b,hb,-⟩ := h.buffer d b' hb
    rw [hd] at hb
    cases hb

theorem live {i : Nat} (hi : (e'.cellAt i).disposed = false) : (e.cellAt i).disposed = false := by
  cases hd : (e.cellAt i).disposed with
  | false => rfl
  | true => rw [h.stays i hd] at hi; cases hi
end Fades

/-- A buffer with one use less. -/
def returned (b : Buffer) : Option Buffer := if b.refCount ≤ 1 then none else some { b with refCount := b.refCount - 1 }

variable (e)
theorem unused_frame (t : Tensor) (b : Buffer) : (e.unused t b).cells = e.cells ∧ (e.unused t b).buffers =
    e.buffers.setIfInBounds (e.cellAt t.id).dataId (returned b) ∧ (e.unused t b).scopes = e.scopes ∧
    (e.unused t b).nextScopeId = e.nextScopeId := by
  unfold unused returned
  by_cases hr : b.refCount ≤ 1 <;> simp only [hr] <;> exact ⟨rfl,rfl,rfl,rfl⟩

theorem unused_counts (t : Tensor) (b : Buffer) : (e.unused t b).numTensors =
    e.numTensors - 1 ∧ (e.unused t b).numDataBuffers = e.numDataBuffers - (if b.refCount ≤ 1 then 1 else 0) ∧
    (e.unused t b).numBytes = e.numBytes - (if b.refCount ≤ 1 ∧ t.dtype ≠ .complex64 then b.bytes else 0) := by
  unfold unused
  by_cases hr : b.refCount ≤ 1
  · by_cases ht : t.dtype = .complex64 <;> simp [hr,withBuffer]
  · simp [hr,withBuffer]

@[simp] theorem cellAt_unused (t : Tensor) (b : Buffer) (i : Nat) : (e.unused t b).cellAt i = e.cellAt i := by
  unfold cellAt
  rw [(unused_frame e t b).1]

variable {e}
theorem bufferAt_unused (h : e.bufferOf t = some b) (d : Nat) :
    (e.unused t b).bufferAt d = if (e.cellAt t.id).dataId = d then returned b else e.bufferAt d := by
  have hset := bufferAt_withBuffer e (e.cellAt t.id).dataId d (returned b)
  simp only [lt_size_of_bufferAt h,and_true] at hset
  rw [← hset]
  unfold bufferAt withBuffer
  rw [(unused_frame e t b).2.1]

theorem gone_unused (h : e.bufferOf t = some b) (hr : b.refCount ≤ 1) :
    (e.unused t b).bufferAt (e.cellAt t.id).dataId = none := by
  rw [bufferAt_unused h,if_pos rfl,returned,if_pos hr]

theorem fades_unused (h : e.bufferOf t = some b) : Fades e (e.unused t b) where
  size := by rw [(unused_frame e t b).1]
  room := by rw [(unused_frame e t b).2.1,Array.size_setIfInBounds]
  cell i := by rw [cellAt_unused]
  stays i hi := by rwa [cellAt_unused]
  buffer d b' hb' := by
    rw [bufferAt_unused h] at hb'
    by_cases hd : (e.cellAt t.id).dataId = d
    · by_cases hr : b.refCount ≤ 1
      · simp only [hd,returned,hr] at hb'
        cases hb'
      · simp only [hd,returned,hr,↓reduceIte,Option.some.injEq] at hb'
        subst hb'
        exact ⟨b,hd ▸ h,rfl,fun _ => by dsimp; omega⟩
    · rw [if_neg hd] at hb'
      exact ⟨b',hb',rfl,id⟩
  scopes := (unused_frame e t b).2.2.1
  nextScope := (unused_frame e t b).2.2.2

variable (e)
theorem disposed_marked (i j : Nat) :
    ((e.marked i).cellAt j).disposed = true ↔ (e.cellAt j).disposed = true ∨ j = i := by
  rw [marked,cellAt_withCell]
  by_cases hij : i = j
  · subst hij
    by_cases hi : i < e.cells.size
    · simp [hi]
    · simp [cellAt_of_le (Nat.le_of_not_lt hi)]
  · simp [hij,Ne.symm hij]

theorem fades_marked (i : Nat) : Fades e (e.marked i) where
  size := size_withCell _ _ _
  room := rfl
  cell j := by
    rw [marked,cellAt_withCell]
    split <;> rfl
  stays j hj := (disposed_marked e i j).mpr (.inl hj)
  buffer d b h := ⟨b,h,rfl,id⟩
  scopes := rfl
  nextScope := rfl

/-! ## What is disposed -/

/-- A part of data that was registered in `e` and is gone in `e'`. -/
def Lost (e e' : Engine) (i : Nat) : Prop :=
  ∃ d b, e.bufferAt d = some b ∧ e'.bufferAt d = none ∧ ∃ p ∈ b.data.parts, p.id = i

/-- Disposes the tensors of a set, and besides them only parts of data that goes with them. -/
structure Disposes (S : Set Nat) (e e' : Engine) : Prop where
  fades : Fades e e'
  disposed : ∀ i, (e'.cellAt i).disposed = true ↔ (e.cellAt i).disposed = true ∨ i ∈ S ∨ Lost e e' i

theorem not_lost_self (i : Nat) : ¬ Lost e e i := by
  rintro ⟨d,b,hb,hn,-⟩
  rw [hb] at hn
  cases hn

variable {e}
namespace Disposes
theorem refl (e : Engine) : Disposes ∅ e e where
  fades := .refl e
  disposed i := by simp [not_lost_self]

theorem again {i : Nat} (h : (e.cellAt i).disposed = true) : Disposes {i} e e := by
  refine ⟨.refl e,fun j => ⟨.inl,?_⟩⟩
  rintro (hj | hj | hj)
  · exact hj
  · exact hj ▸ h
  · exact absurd hj (not_lost_self e j)

theorem trans (h : Disposes S e e') (h' : Disposes T e' e'') : Disposes (S ∪ T) e e'' where
  fades := h.fades.trans h'.fades
  disposed i := by
    rw [h'.disposed i,h.disposed i]
    constructor
    · rintro ((hi | hi | ⟨d,b,hb,hn,hp⟩) | hi | ⟨d,b',hb',hn,hp⟩)
      · exact .inl hi
      · exact .inr (.inl (.inl hi))
      · exact .inr (.inr ⟨d,b,hb,h'.fades.gone hn,hp⟩)
      · exact .inr (.inl (.inr hi))
      · obtain ⟨b,hb,hdata⟩ := h.fades.data hb'
        exact .inr (.inr ⟨d,b,hb,hn,hdata ▸ hp⟩)
    · rintro (hi | (hi | hi) | ⟨d,b,hb,hn,hp⟩)
      · exact .inl (.inl hi)
      · exact .inl (.inr (.inl hi))
      · exact .inr (.inl hi)
      · -- the data went either before `e'` or after it
        cases hb' : e'.bufferAt d with
        | none => exact .inl (.inr (.inr ⟨d,b,hb,hb',hp⟩))
        | some b' =>
          obtain ⟨b₀,hb₀,hdata⟩ := h.fades.data hb'
          rw [hb] at hb₀
          cases hb₀
          exact .inr (.inr ⟨d,b',hb',hn,hdata ▸ hp⟩)

theorem congr (h : Disposes S e e') (hST : ∀ i, i ∈ S ↔ i ∈ T) : Disposes T e e' := by
  have : S = T := Set.ext hST
  exact this ▸ h
end Disposes

theorem disposes_marked (e : Engine) (i : Nat) : Disposes {i} e (e.marked i) where
  fades := fades_marked e i
  disposed j := by
    have hl : ¬ Lost e (e.marked i) j := not_lost_self e j
    rw [disposed_marked]
    simp [hl]

/-- A relation between states that goes with a set of tensors, and along a run with the union of the sets. -/
structure AddsUp (R : Set Nat → Engine → Engine → Prop) : Prop where
  refl : ∀ e, R ∅ e e
  trans : ∀ {S T : Set Nat} {e e' e'' : Engine}, R S e e' → R T e' e'' → R (S ∪ T) e e''
  fades : ∀ {S : Set Nat} {e e' : Engine}, R S e e' → Fades e e'

theorem addsUp_disposes : AddsUp Disposes where
  refl := .refl
  trans := .trans
  fades := Disposes.fades

theorem AddsUp.foldl (hR : AddsUp R) {S : Tensor → Set Nat}
    (ts : Tensors) (h : ∀ e', Fades e e' → ∀ t ∈ ts, R (S t) e' (f e' t)) :
    R {i | ∃ t ∈ ts, i ∈ S t} e (ts.foldl f e) := by
  induction ts using reverseRecOn with
  | nil =>
    have hnone : {i | ∃ t ∈ [], i ∈ S t} = ∅ := by simp
    rw [hnone]
    exact hR.refl e
  | append_singleton seen t ih =>
    have hseen := ih fun e' hf x hx => h e' hf x (mem_append_left [t] hx)
    have hlast := h _ (hR.fades hseen) t (mem_append_right seen mem_cons_self)
    have hsplit : {i | ∃ x ∈ seen ++ [t], i ∈ S x} = {i | ∃ x ∈ seen, i ∈ S x} ∪ S t := by
      ext i
      simp
    rw [foldl_append,hsplit]
    exact hR.trans hseen hlast

theorem not_mem_leftovers_of_pos (hr : ¬ b.refCount ≤ 1) (p : Tensor) : p ∉ leftovers b := by simp [leftovers,hr]

theorem mem_parts_of_mem_leftovers (h : p ∈ leftovers b) : p ∈ b.data.parts := by
  unfold leftovers at h
  split at h
  · exact h
  · cases h

theorem disposes_of_unused (h : e.bufferAt (e.cellAt t.id).dataId = some b)
    (h' : Disposes {i | ∃ p ∈ leftovers b, i ∈ ({p.id} : Set Nat)} (e.unused t b) e') : Disposes ∅ e e' where
  fades := (fades_unused h).trans h'.fades
  disposed i := by
    rw [h'.disposed i,cellAt_unused]
    constructor
    · rintro (hi | ⟨p,hp,hi⟩ | ⟨d,b',hb',hn,hp⟩)
      · exact .inl hi
      · by_cases hr : b.refCount ≤ 1
        · rw [leftovers,if_pos hr] at hp
          exact .inr (.inr ⟨_,b,h,h'.fades.gone (gone_unused h hr),p,hp,hi.symm⟩)
        · exact absurd hp (not_mem_leftovers_of_pos hr p)
      · obtain ⟨b₀,hb₀,hdata⟩ := (fades_unused h).data hb'
        exact .inr (.inr ⟨d,b₀,hb₀,hn,hdata ▸ hp⟩)
    · rintro (hi | hi | ⟨d,b₀,hb₀,hn,p,hp,hi⟩)
      · exact .inl hi
      · exact absurd hi (Set.notMem_empty i)
      · by_cases hd : (e.cellAt t.id).dataId = d
        · subst hd
          rw [h] at hb₀
          cases hb₀
          by_cases hr : b.refCount ≤ 1
          · exact .inr (.inl ⟨p,by rwa [leftovers,if_pos hr],hi.symm⟩)
          · have hkept : (e.unused t b).bufferAt (e.cellAt t.id).dataId =
                some { b with refCount := b.refCount - 1 } := by
              rw [bufferAt_unused h,if_pos rfl,returned,if_neg hr]
            exact .inr (.inr ⟨_,_,hkept,hn,p,hp,hi⟩)
        · have hsame : (e.unused t b).bufferAt d = some b₀ := by rw [bufferAt_unused h,if_neg hd,hb₀]
          exact .inr (.inr ⟨d,b₀,hsame,hn,p,hp,hi⟩)

theorem disposes_retired (h : ∀ t e, Disposes ∅ e (after (releaseWithin fuel t) e)) (e : Engine) (p : Tensor) :
    Disposes {p.id} e (retired fuel e p) := by
  unfold retired
  by_cases hp : (e.cellAt p.id).disposed = true
  · rw [if_pos hp]
    exact .again hp
  · rw [if_neg hp]
    exact ((h p e).trans (disposes_marked _ p.id)).congr (by simp)

theorem disposes_releaseWithin (fuel : Nat) (t : Tensor) (e : Engine) :
    Disposes ∅ e (after (releaseWithin fuel t) e) := by
  induction fuel generalizing t e with
  | zero => exact .refl e
  | succ fuel ih =>
    cases hb : e.bufferOf t with
    | none => rw [after_releaseWithin_none hb]; exact .refl e
    | some b =>
      rw [after_releaseWithin_some hb]
      exact disposes_of_unused hb (addsUp_disposes.foldl _ fun e' _ p _ => disposes_retired ih e' p)

theorem disposes_released (e : Engine) (t : Tensor) : Disposes ∅ e (e.released t) := disposes_releaseWithin _ t e
theorem Disposes.withRegistered (h : Disposes S e e')
    (names : Named Tensor) : Disposes S e { e' with registered := names } where
  fades := ⟨h.fades.size,h.fades.room,h.fades.cell,h.fades.stays,h.fades.buffer,h.fades.scopes,h.fades.nextScope⟩
  disposed := h.disposed

theorem disposes_discarded (e : Engine) (t : Tensor) : Disposes {t.id} e (e.discarded t) := by
  unfold discarded
  cases (e.cellAt t.id).variableInfo with
  | some v => exact (((disposes_released e t).withRegistered _).trans (disposes_marked _ t.id)).congr (by simp)
  | none =>
    by_cases hd : (e.cellAt t.id).disposed = true
    · simp only [hd]
      exact .again hd
    · simp only [hd]
      exact ((disposes_released e t).trans (disposes_marked _ t.id)).congr (by simp)

/-! ## What data goes -/

/-- Data goes only with a use of it by one of some tensors, or by a part that is lost itself. -/
def Frees (S : Set Nat) (e e' : Engine) : Prop :=
  ∀ d b, e.bufferAt d = some b → e'.bufferAt d = none → ∃ i, (i ∈ S ∨ Lost e e' i) ∧ (e.cellAt i).dataId = d

namespace Frees
theorem of_buffers (h : ∀ d, e'.bufferAt d = e.bufferAt d) : Frees S e e' := by
  intro d b hb hn
  rw [h,hb] at hn
  cases hn

theorem trans (hf : Fades e e') (hf' : Fades e' e'') (h : Frees S e e') (h' : Frees T e' e'') :
    Frees (S ∪ T) e e'' := by
  intro d b hb hn
  cases hb' : e'.bufferAt d with
  | none =>
    obtain ⟨i,hi | ⟨c,b₀,hb₀,hn₀,hp⟩,hd⟩ := h d b hb hb'
    · exact ⟨i,.inl (.inl hi),hd⟩
    · exact ⟨i,.inr ⟨c,b₀,hb₀,hf'.gone hn₀,hp⟩,hd⟩
  | some b' =>
    obtain ⟨i,hi,hd⟩ := h' d b' hb' hn
    rw [hf.dataId] at hd
    rcases hi with hi | ⟨c,b₁,hb₁,hn₁,hp⟩
    · exact ⟨i,.inl (.inr hi),hd⟩
    · obtain ⟨b₀,hb₀,hdata⟩ := hf.data hb₁
      exact ⟨i,.inr ⟨c,b₀,hb₀,hn₁,hdata ▸ hp⟩,hd⟩

theorem congr (h : Frees S e e') (hb : ∀ d, e''.bufferAt d = e'.bufferAt d) : Frees S e e'' := by
  simp only [Frees,Lost,hb]
  exact h

theorem mono (h : Frees S e e') (hST : ∀ i ∈ S, i ∈ T ∨ Lost e e' i) : Frees T e e' := by
  intro d b hb hn
  obtain ⟨i,hi | hi,hd⟩ := h d b hb hn
  · exact ⟨i,hST i hi,hd⟩
  · exact ⟨i,.inr hi,hd⟩
end Frees

theorem addsUp_frees : AddsUp fun S e e' => Fades e e' ∧ Frees S e e' where
  refl e := ⟨.refl e,.of_buffers fun _ => rfl⟩
  trans h h' := ⟨h.1.trans h'.1,.trans h.1 h'.1 h.2 h'.2⟩
  fades h := h.1

theorem frees_unused (h : e.bufferOf t = some b) : Frees {t.id} e (e.unused t b) := by
  intro d b' hb' hn
  refine ⟨t.id,.inl rfl,?_⟩
  by_contra hd
  rw [bufferAt_unused h,if_neg hd,hb'] at hn
  cases hn

theorem frees_retired (h : ∀ t e, Frees {t.id} e (after (releaseWithin fuel t) e)) (e : Engine) (p : Tensor) :
    Frees {p.id} e (retired fuel e p) := by
  unfold retired
  split
  · exact .of_buffers fun _ => rfl
  · have hmarked : Frees ∅ (after (releaseWithin fuel p) e) ((after (releaseWithin fuel p) e).marked p.id) :=
      .of_buffers fun _ => rfl
    refine (Frees.trans (disposes_releaseWithin fuel p e).fades (fades_marked _ p.id) (h p e) hmarked).mono ?_
    rintro i (hi | hi)
    · exact .inl hi
    · exact absurd hi (Set.notMem_empty i)

theorem frees_releaseWithin (fuel : Nat) (t : Tensor) (e : Engine) :
    Frees {t.id} e (after (releaseWithin fuel t) e) := by
  induction fuel generalizing t e with
  | zero => exact .of_buffers fun _ => rfl
  | succ fuel ih =>
    cases hb : e.bufferOf t with
    | none => rw [after_releaseWithin_none hb]; exact .of_buffers fun _ => rfl
    | some b =>
      rw [after_releaseWithin_some hb]
      have hstep e' p : Fades e' (retired fuel e' p) ∧ Frees {p.id} e' (retired fuel e' p) :=
        ⟨(disposes_retired (disposes_releaseWithin fuel) e' p).fades,frees_retired ih e' p⟩
      obtain ⟨hfades,hfrees⟩ := addsUp_frees.foldl (e := e.unused t b) (leftovers b) fun e' _ p _ => hstep e' p
      refine (Frees.trans (fades_unused hb) hfades (frees_unused hb) hfrees).mono ?_
      rintro i (hi | ⟨p,hp,rfl⟩)
      · exact .inl hi
      · -- parts are left behind only by data that is gone
        have hr : b.refCount ≤ 1 := by
          by_contra hr
          exact not_mem_leftovers_of_pos hr p hp
        exact .inr ⟨_,b,hb,hfades.gone (gone_unused hb hr),p,mem_parts_of_mem_leftovers hp,rfl⟩

variable (e) (track result : Tensors)
theorem frees_discarded (t : Tensor) : Frees {t.id} e (e.discarded t) := by
  have hreleased := frees_releaseWithin ((e.cellAt t.id).dataId + 1) t e
  unfold discarded
  cases (e.cellAt t.id).variableInfo with
  | some v => exact hreleased
  | none =>
    by_cases hd : (e.cellAt t.id).disposed = true
    · simp only [hd]
      exact .of_buffers fun _ => rfl
    · simp only [hd]
      exact hreleased

/-! ## The end of a scope -/

/-- Tensors that the end of a scope is to dispose. -/
def Doomed (e : Engine) (track result : Tensors) (i : Nat) : Prop :=
  (∃ t ∈ track, t.id = i) ∧ (e.cellAt i).kept = false ∧ ∀ r ∈ result, r.id ≠ i

theorem AddsUp.sweep (hR : AddsUp R) (hdiscarded : ∀ e t, R {t.id} e (e.discarded t)) (e : Engine)
    (track result : Tensors) : R {i | Doomed e track result i} e (track.reverse.foldl (swept result) e) := by
  let S (t : Tensor) : Set Nat := {i | i = t.id ∧ (e.cellAt i).kept = false ∧ ∀ r ∈ result, r.id ≠ i}
  have hstep : ∀ e', Fades e e' → ∀ t ∈ track.reverse, R (S t) e' (swept result e' t) := by
    intro e' hf t _
    simp only [swept,hf.kept,Bool.and_eq_true,Bool.not_eq_true',any_eq_false,beq_iff_eq]
    split
    next hc =>
      have hS : S t = {t.id} := Set.ext fun i => ⟨(·.1),fun h => h ▸ ⟨rfl,hc.1,hc.2⟩⟩
      exact hS ▸ hdiscarded e' t
    next hc =>
      have hS : S t = ∅ := by
        refine Set.eq_empty_of_forall_notMem ?_
        rintro i ⟨rfl,hk,hr⟩
        exact hc ⟨hk,hr⟩
      exact hS ▸ hR.refl e'
  have hdoomed : {i | Doomed e track result i} = {i | ∃ t ∈ track.reverse, i ∈ S t} := by
    ext i
    constructor
    · rintro ⟨⟨t,ht,rfl⟩,hk,hr⟩
      exact ⟨t,mem_reverse.mpr ht,rfl,hk,hr⟩
    · rintro ⟨t,ht,rfl,hk,hr⟩
      exact ⟨⟨t,mem_reverse.mp ht,rfl⟩,hk,hr⟩
  exact hdoomed ▸ hR.foldl track.reverse hstep

theorem disposes_sweep : Disposes {i | Doomed e track result i} e (track.reverse.foldl (swept result) e) :=
  addsUp_disposes.sweep disposes_discarded e track result
theorem frees_sweep : Frees {i | Doomed e track result i} e (track.reverse.foldl (swept result) e) :=
  (addsUp_frees.sweep (fun e t => ⟨(disposes_discarded e t).fades,frees_discarded e t⟩) e track result).2
end TensorKit.Engine
