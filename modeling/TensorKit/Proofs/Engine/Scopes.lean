import TensorKit.Proofs.Engine.Store

/-! # The stack of scopes

A scope lists the tensors it tracks, and a tensor's cell names the scope that tracks it. The two agree for every open
scope. Only the innermost scope gains tensors, and a scope that ends hands those of its result on.
-/
namespace TensorKit.Engine
open List
/-- Open scopes are numbered upwards, and list exactly the tensors whose cells name them. No cell of a
variable names one. -/
structure Scoped (e : Engine) : Prop where
  ordered : (e.scopes.map Scope.id).Pairwise (· > ·)
  fresh : ∀ s ∈ e.scopes, s.id < e.nextScopeId
  past : ∀ i k, (e.cellAt i).scopeId = some k → k < e.nextScopeId
  tracks : ∀ s ∈ e.scopes, ∀ i, (∃ t ∈ s.track, t.id = i) ↔ (e.cellAt i).scopeId = some s.id
  untracked : ∀ i, (e.cellAt i).variableInfo.isSome → (e.cellAt i).scopeId = none

theorem scoped_empty : Scoped {} where
  ordered := .nil
  fresh _ hs := absurd hs not_mem_nil
  past i k h := by rw [cellAt_of_le (Nat.zero_le i)] at h; cases h
  tracks _ hs := absurd hs not_mem_nil
  untracked i h := by rw [cellAt_of_le (Nat.zero_le i)] at h; cases h

/-- Adds tensors to the innermost of some scopes. -/
def pushed (ts : Tensors) : List Scope → List Scope
  | [] => []
  | s :: rest => { s with track := ts ++ s.track } :: rest

theorem pushed_nil (scopes : List Scope) : pushed [] scopes = scopes := by cases scopes <;> rfl

theorem pushed_pushed (ts us : Tensors) (scopes : List Scope) :
    pushed ts (pushed us scopes) = pushed (ts ++ us) scopes := by
  cases scopes with
  | nil => rfl
  | cons s rest => simp [pushed]

variable (e : Engine) (t : Tensor)
theorem tracked_scopes : (e.tracked t).scopes = pushed [t] e.scopes := by
  unfold tracked
  cases h : e.scopes with
  | nil => simp only [h]; rfl
  | cons s rest => rfl

theorem tracked_next : (e.tracked t).nextScopeId = e.nextScopeId := by
  unfold tracked
  cases e.scopes <;> rfl

variable {rest : List Scope} {s : Scope}
theorem scopeId_tracked {e : Engine} (h : e.scopes = s :: rest) (t : Tensor) (i : Nat) :
    ((e.tracked t).cellAt i).scopeId = if t.id = i ∧ t.id < e.cells.size then some s.id else (e.cellAt i).scopeId := by
  rw [tracked,h]
  change ((e.withCell t.id fun c => { c with scopeId := some s.id }).cellAt i).scopeId = _
  rw [cellAt_withCell]
  split <;> rfl

theorem kept_tracked (i : Nat) : ((e.tracked t).cellAt i).kept = (e.cellAt i).kept := by
  unfold tracked
  cases e.scopes with
  | nil => rfl
  | cons s rest =>
    change ((e.withCell t.id fun c => { c with scopeId := some s.id }).cellAt i).kept = _
    rw [cellAt_withCell]
    split <;> rfl

variable {t}
namespace Scoped
variable {e e' : Engine}
variable (h : Scoped e)
include h
theorem same (hscopes : e'.scopes = e.scopes) (hnext : e'.nextScopeId = e.nextScopeId)
    (hid : ∀ i, (e'.cellAt i).scopeId = (e.cellAt i).scopeId)
    (hvar : ∀ i, (e'.cellAt i).variableInfo.isSome → (e.cellAt i).scopeId = none) : Scoped e' where
  ordered := hscopes ▸ h.ordered
  fresh s hs := hnext ▸ h.fresh s (hscopes ▸ hs)
  past i k hk := hnext ▸ h.past i k (hid i ▸ hk)
  tracks s hs i := by rw [hid]; exact h.tracks s (hscopes ▸ hs) i
  untracked i hi := by rw [hid]; exact hvar i hi

theorem like (hlike : (e'.scopes,e'.nextScopeId,e'.cells) = (e.scopes,e.nextScopeId,e.cells)) : Scoped e' := by
  obtain ⟨hscopes,hnext,hcells⟩ := by simpa only [Prod.mk.injEq] using hlike
  have hcell : ∀ i, e'.cellAt i = e.cellAt i := fun i => by rw [cellAt,hcells,cellAt]
  exact h.same hscopes hnext (fun i => by rw [hcell]) fun i hi => h.untracked i (hcell i ▸ hi)

theorem id_lt_of_mem (hs : e.scopes = s :: rest) : ∀ x ∈ rest, x.id < s.id := by
  intro x hx
  have hord := h.ordered
  rw [hs] at hord
  exact (pairwise_cons.mp hord).1 x.id (mem_map_of_mem hx)

theorem fades (hf : Fades e e') : Scoped e' :=
  h.same hf.scopes hf.nextScope hf.scopeId fun i hi => h.untracked i (hf.variableInfo i ▸ hi)

theorem withNew (hc : c.scopeId = none) : Scoped (e.withNew c) := by
  have hid : ∀ i, ((e.withNew c).cellAt i).scopeId = (e.cellAt i).scopeId := by
    intro i
    rw [cellAt_withNew]
    split
    next hi => rw [hc,cellAt_of_le hi.ge]
    next => rfl
  refine h.same rfl rfl hid fun i hi => ?_
  rw [cellAt_withNew] at hi
  split at hi
  next hsize => rw [cellAt_of_le hsize.ge]
  next => exact h.untracked i hi

theorem counted (t : Tensor) : Scoped (e.counted t) :=
  h.same (counted_frame e t).2.2.1 (counted_frame e t).2.2.2 fun i => by rw [cellAt_counted]
    fun i hi => h.untracked i (by rwa [cellAt_counted] at hi)
theorem written (t : Tensor) (data : Data) : Scoped (e.written t data) :=
  h.same (written_frame e t data).2.2.1 (written_frame e t data).2.2.2 fun i => by rw [cellAt_written]
    fun i hi => h.untracked i (by rwa [cellAt_written] at hi)

theorem opened (name : String) : Scoped (e.opened name) where
  ordered := by
    refine pairwise_cons.mpr ⟨fun k hk => ?_,h.ordered⟩
    obtain ⟨s,hs,rfl⟩ := mem_map.mp hk
    exact h.fresh s hs
  fresh s hs := by
    rcases mem_cons.mp hs with rfl | hs
    · exact Nat.lt_succ_self _
    · exact Nat.lt_succ_of_lt (h.fresh s hs)
  past i k hk := Nat.lt_succ_of_lt (h.past i k hk)
  tracks s hs i := by
    rcases mem_cons.mp hs with rfl | hs
    · -- no cell names a scope that was not there
      refine ⟨fun ⟨t,ht,_⟩ => absurd ht not_mem_nil,fun hi => ?_⟩
      exact absurd (h.past i _ hi) (lt_irrefl _)
    · exact h.tracks s hs i
  untracked := h.untracked

theorem tracked (hsize : t.id < e.cells.size) (hvar : (e.cellAt t.id).variableInfo = none)
    (hloose : ∀ s ∈ e.scopes, (e.cellAt t.id).scopeId ≠ some s.id) : Scoped (e.tracked t) := by
  cases hs : e.scopes with
  | nil =>
    have hsame : e.tracked t = e := by unfold Engine.tracked; rw [hs]
    rw [hsame]
    exact h
  | cons s rest =>
    have hid := scopeId_tracked hs t
    have hscopes : (e.tracked t).scopes = { s with track := t :: s.track } :: rest := by rw [tracked_scopes,hs]; rfl
    have hmem : ∀ x ∈ s :: rest, x ∈ e.scopes := fun x hx => hs ▸ hx
    refine ⟨?_,?_,?_,?_,?_⟩
    · have hord := h.ordered
      rw [hs] at hord
      rw [hscopes]
      exact hord
    · intro x hx
      rw [tracked_next]
      rw [hscopes] at hx
      rcases mem_cons.mp hx with rfl | hx
      · exact h.fresh s (hmem s mem_cons_self)
      · exact h.fresh x (hmem x (mem_cons_of_mem s hx))
    · intro i k hk
      rw [tracked_next]
      rw [hid] at hk
      split at hk
      · cases hk
        exact h.fresh s (hmem s mem_cons_self)
      · exact h.past i k hk
    · intro x hx i
      rw [hid]
      rw [hscopes] at hx
      rcases mem_cons.mp hx with rfl | hx
      · have hold := h.tracks s (hmem s mem_cons_self) i
        by_cases hi : t.id = i
        · simp [hi,hi ▸ hsize]
        · simp only [mem_cons,exists_eq_or_imp,hi,false_or,hold,false_and,↓reduceIte]
      · have hold := h.tracks x (hmem x (mem_cons_of_mem s hx)) i
        rw [hold]
        by_cases hi : t.id = i
        · subst hi
          simp only [hsize,and_self,↓reduceIte,Option.some.injEq]
          constructor
          · intro hx'
            exact absurd hx' (hloose x (hmem x (mem_cons_of_mem s hx)))
          · intro hx'
            exact absurd hx'.symm (h.id_lt_of_mem hs x hx).ne
        · simp only [hi,false_and,↓reduceIte]
    · intro i hi
      rw [(alike_tracked e t).variableInfo] at hi
      rw [hid,if_neg,h.untracked i hi]
      rintro ⟨rfl,-⟩
      rw [hvar] at hi
      cases hi

theorem enrolled (hsize : t.id < e.cells.size) (hloose : (e.cellAt t.id).scopeId = none) : Scoped (e.enrolled t) := by
  unfold Engine.enrolled
  split
  next hvar =>
    refine (h.counted t).tracked ?_ ?_ ?_
    · rwa [(size_counted e t).1]
    · rw [cellAt_counted]
      exact Option.isNone_iff_eq_none.mp hvar
    · rw [cellAt_counted,hloose]
      exact nofun
  next => exact h.counted t
end Scoped

/-! ## The end of a scope -/

/-- Tensors of a result that the scope with a number is to hand on. -/
def Moved (e : Engine) (k : Nat) (result : Tensors) (i : Nat) : Prop :=
  (∃ r ∈ result, r.id = i) ∧ (e.cellAt i).kept = false ∧ (e.cellAt i).scopeId = some k

/-- A result is handed on to the scope `p`: it tracks what is to be moved, each tensor once. -/
structure HandsOn (k : Nat) (p : Scope) (rest : List Scope) (result : Tensors) (e e' : Engine) : Prop where
  stack : Scoped e'
  scopes : ∃ ts, e'.scopes = { p with track := ts ++ p.track } :: rest ∧ (∀ t ∈ ts, t ∈ result) ∧
    ∀ i, (∃ t ∈ ts, t.id = i) ↔ Moved e k result i
  moved : ∀ i, Moved e k result i → (e'.cellAt i).scopeId = some p.id
  stays : ∀ i, ¬ Moved e k result i → (e'.cellAt i).scopeId = (e.cellAt i).scopeId
  kept : ∀ i, (e'.cellAt i).kept = (e.cellAt i).kept

variable {e}
theorem moved_append : Moved e k (result ++ [r]) i ↔ Moved e k result i ∨ (r.id = i ∧ Moved e k [r] i) := by
  simp only [Moved,mem_append,mem_singleton,or_and_right,exists_or,exists_eq_left,and_self_left]
theorem lt_size_of_scopeId (h : (e.cellAt i).scopeId = some k) : i < e.cells.size := by
  by_contra hi
  rw [cellAt_of_le (Nat.le_of_not_lt hi)] at h
  cases h

theorem handsOn_foldl (h : Scoped e) (hs : e.scopes = p :: rest) (hk : ∀ s ∈ e.scopes, s.id ≠ k) (result : Tensors) :
    HandsOn k p rest result e (result.foldl (adopted k) e) := by
  induction result using reverseRecOn with
  | nil =>
    have hnone : ∀ i, ¬ Moved e k [] i := fun i hi => by simp [Moved] at hi
    exact ⟨h,⟨[],by simp [hs],nofun,fun i => by simp [hnone]⟩,fun i hi => absurd hi (hnone i),fun _ _ => rfl,
      fun _ => rfl⟩
  | append_singleton seen r ih =>
    rw [foldl_append,foldl_cons,foldl_nil]
    generalize seen.foldl (adopted k) e = e' at ih
    obtain ⟨ts,hscopes,hsub,hts⟩ := ih.scopes
    have hpk : p.id ≠ k := hk p (hs ▸ mem_cons_self)
    -- a tensor of the result is adopted when its cell still names the scope that ends
    have hstill : (e'.cellAt r.id).scopeId = some k ↔ (e.cellAt r.id).scopeId = some k ∧ ¬ Moved e k seen r.id := by
      by_cases hm : Moved e k seen r.id
      · simp [ih.moved r.id hm,hpk,hm]
      · simp [ih.stays r.id hm,hm]
    unfold adopted
    split
    next hc =>
      simp only [ih.kept,Bool.and_eq_true,Bool.not_eq_true',beq_iff_eq] at hc
      obtain ⟨hkept,hid⟩ := hc
      obtain ⟨hold,hnew⟩ := hstill.mp hid
      have hsize := lt_size_of_scopeId hid
      have hmoved : Moved e k [r] r.id := ⟨⟨r,by simp,rfl⟩,hkept,hold⟩
      have hvar : (e'.cellAt r.id).variableInfo = none := by
        by_contra hv
        rw [ih.stack.untracked r.id (Option.isSome_iff_ne_none.mpr hv)] at hid
        cases hid
      have hloose : ∀ s ∈ e'.scopes, (e'.cellAt r.id).scopeId ≠ some s.id := by
        intro s hmem hsid
        rw [hid,Option.some.injEq] at hsid
        rw [hscopes] at hmem
        rcases mem_cons.mp hmem with rfl | hmem
        · exact hpk hsid.symm
        · exact hk s (hs ▸ mem_cons_of_mem p hmem) hsid.symm
      have hcell := scopeId_tracked hscopes r
      refine ⟨ih.stack.tracked hsize hvar hloose,⟨r :: ts,?_,fun t ht => ?_,fun i => ?_⟩,fun i hi => ?_,
        fun i hi => ?_,fun i => ?_⟩
      · rw [tracked_scopes,hscopes]; rfl
      · rcases mem_cons.mp ht with rfl | ht
        · exact mem_append_right seen mem_cons_self
        · exact mem_append_left [r] (hsub t ht)
      · rw [moved_append,← hts]
        constructor
        · rintro ⟨t,ht,rfl⟩
          rcases mem_cons.mp ht with rfl | ht
          · exact .inr ⟨rfl,hmoved⟩
          · exact .inl ⟨t,ht,rfl⟩
        · rintro (⟨t,ht,rfl⟩ | ⟨rfl,-⟩)
          · exact ⟨t,mem_cons_of_mem r ht,rfl⟩
          · exact ⟨r,mem_cons_self,rfl⟩
      · rw [hcell]
        split
        · rfl
        · rcases moved_append.mp hi with hi | ⟨rfl,-⟩
          · exact ih.moved i hi
          · simp_all
      · rw [hcell,if_neg]
        · exact ih.stays i fun hi' => hi (moved_append.mpr (.inl hi'))
        · rintro ⟨rfl,-⟩
          exact hi (moved_append.mpr (.inr ⟨rfl,hmoved⟩))
      · rw [kept_tracked,ih.kept]
    next hc =>
      simp only [ih.kept,Bool.and_eq_true,Bool.not_eq_true',beq_iff_eq,hstill] at hc
      have hsame : ∀ i, Moved e k (seen ++ [r]) i ↔ Moved e k seen i := by
        intro i
        rw [moved_append]
        refine ⟨?_,.inl⟩
        rintro (hi | ⟨rfl,-,hkept,hold⟩)
        · exact hi
        · by_contra hn
          exact hc ⟨hkept,hold,hn⟩
      exact ⟨ih.stack,⟨ts,hscopes,fun t ht => mem_append_left [r] (hsub t ht),fun i => by rw [hsame,hts]⟩,
        fun i hi => ih.moved i ((hsame i).mp hi),fun i hi => ih.stays i fun hi' => hi ((hsame i).mpr hi'),ih.kept⟩

theorem foldl_adopted_of_no_scope (h : e.scopes = []) (k : Nat) (result : Tensors) :
    result.foldl (adopted k) e = e := by
  have hsame : ∀ t, adopted k e t = e := by
    intro t
    rw [adopted,tracked,h]
    split <;> rfl
  induction result with
  | nil => rfl
  | cons t rest ih => rw [foldl_cons,hsame,ih]

namespace Scoped
variable {e : Engine} {s : Scope} {rest : List Scope}
theorem popped (h : Scoped e) (hs : e.scopes = s :: rest) : Scoped { e with scopes := rest } where
  ordered := by
    have hord := h.ordered
    rw [hs] at hord
    exact hord.tail
  fresh x hx := h.fresh x (hs ▸ mem_cons_of_mem s hx)
  past := h.past
  tracks x hx := h.tracks x (hs ▸ mem_cons_of_mem s hx)
  untracked := h.untracked
end Scoped

/-- What the end of the scope `s` does to the scopes around it and to the cells. -/
structure Closes (s : Scope) (rest : List Scope) (result : Tensors) (e e' : Engine) : Prop where
  stack : Scoped e'
  scopes : ∃ ts, e'.scopes = pushed ts rest ∧ (∀ t ∈ ts, t ∈ result) ∧
    (rest ≠ [] → ∀ i, (∃ t ∈ ts, t.id = i) ↔ Moved e s.id result i)
  moved : ∀ p outer, rest = p :: outer → ∀ i, Moved e s.id result i → (e'.cellAt i).scopeId = some p.id
  stays : ∀ i, ¬ Moved e s.id result i → (e'.cellAt i).scopeId = (e.cellAt i).scopeId
  disposed : ∀ i, (e'.cellAt i).disposed = true ↔ (e.cellAt i).disposed = true ∨ Doomed e s.track result i ∨ Lost e e' i
  freed : Frees {i | Doomed e s.track result i} e e'

theorem closes (h : Scoped e) (hs : e.scopes = s :: rest)
    (result : Tensors) : Closes s rest result e (e.closed result) := by
  have hsweep := disposes_sweep e s.track result
  have halike := alike_closed hs result
  have hdisposed : ∀ i, ((e.closed result).cellAt i).disposed = true ↔
      (e.cellAt i).disposed = true ∨ Doomed e s.track result i ∨ Lost e (e.closed result) i := by
    intro i
    simp only [Lost,halike.disposed,halike.bufferAt]
    exact hsweep.disposed i
  have hfreed := (frees_sweep e s.track result).congr halike.bufferAt
  rw [closed_eq_sweep hs] at hdisposed hfreed ⊢
  generalize s.track.reverse.foldl (swept result) e = e₁ at hsweep hdisposed hfreed ⊢
  have hpop : Scoped { e₁ with scopes := rest } := (h.fades hsweep.fades).popped (hsweep.fades.scopes.trans hs)
  have hmoved : ∀ i, Moved { e₁ with scopes := rest } s.id result i ↔ Moved e s.id result i := by
    intro i
    unfold Moved
    change (_ ∧ (e₁.cellAt i).kept = false ∧ (e₁.cellAt i).scopeId = some s.id) ↔ _
    rw [hsweep.fades.kept,hsweep.fades.scopeId]
  cases rest with
  | nil =>
    rw [foldl_adopted_of_no_scope rfl] at hdisposed hfreed ⊢
    exact ⟨hpop,⟨[],rfl,by simp,(absurd rfl ·)⟩,by simp,fun i _ => hsweep.fades.scopeId i,hdisposed,hfreed⟩
  | cons p outer =>
    have hne : ∀ x ∈ p :: outer, x.id ≠ s.id := fun x hx => (h.id_lt_of_mem hs x hx).ne
    have hhand := handsOn_foldl hpop rfl hne result
    refine ⟨hhand.stack,?_,?_,fun i hi => ?_,hdisposed,hfreed⟩
    · obtain ⟨ts,hscopes,hsub,hts⟩ := hhand.scopes
      exact ⟨ts,hscopes,hsub,fun _ i => (hts i).trans (hmoved i)⟩
    · rintro q outer' ⟨rfl,rfl⟩ i hi
      exact hhand.moved i ((hmoved i).mpr hi)
    · rw [hhand.stays i fun hi' => hi ((hmoved i).mp hi')]
      exact hsweep.fades.scopeId i

theorem Scoped.closed (h : Scoped e) (result : Tensors) : Scoped (e.closed result) := by
  cases hs : e.scopes with
  | nil => rw [closed_of_no_scope hs]; exact h
  | cons s rest => exact (closes h hs result).stack
end TensorKit.Engine
