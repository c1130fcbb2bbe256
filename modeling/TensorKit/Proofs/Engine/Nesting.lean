import TensorKit.Proofs.Engine.Runs

/-! # Functions inside a scope

Scopes that a function opens come and go on top of its own. As long as it ends no more than it started, those below
stay as they were, and so does the scope of each tensor from outside.
-/
namespace TensorKit.Engine
open List
variable {e e' e'' : Engine} {known : Tensors} {name : String} {depth : Nat}
variable {p : Routine} {v : Tensor} {depth' : Nat} {cs : List Call}
/-- How many scopes of its own a function has open after a call. It is not to end others. -/
def Call.level (depth : Nat) : Call → Option Nat
  | .startScope _ => some (depth + 1)
  | .endScope _ => if depth = 0 then none else some (depth - 1)
  | _ => some depth

/-- Scopes that a function has open after some calls. -/
def levelAfter : Nat → List Call → Option Nat
  | depth, [] => some depth
  | depth, c :: cs => (c.level depth).bind fun depth' => levelAfter depth' cs

/-- Every scope that is started is ended, and no other. -/
def Paired (cs : List Call) : Prop := levelAfter 0 cs = some 0

theorem levelAfter_append (depth : Nat) (cs ds : List Call) :
    levelAfter depth (cs ++ ds) = (levelAfter depth cs).bind fun depth' => levelAfter depth' ds := by
  induction cs generalizing depth with
  | nil => rfl
  | cons c cs ih =>
    rw [cons_append,levelAfter,levelAfter]
    cases c.level depth with
    | none => rfl
    | some depth' => exact ih depth'

/-- No scope is started or ended but by functions that run in one. -/
def Routine.Nested : Routine → Prop
  | .done => True
  | .call c rest => (∀ depth, c.level depth = some depth) ∧ rest.Nested
  | .tidy _ body _ rest => body.Nested ∧ rest.Nested

theorem Routine.Nested.levelAfter_calls (h : p.Nested) (depth : Nat) : levelAfter depth p.calls = some depth := by
  induction p generalizing depth with
  | done => rfl
  | call c rest ih =>
    rw [Routine.calls,levelAfter,h.1 depth]
    exact ih h.2 depth
  | tidy name body result rest ihbody ih =>
    rw [Routine.calls,cons_append,levelAfter,Call.level,Option.bind_some,levelAfter_append,ihbody h.1 (depth + 1)]
    exact ih h.2 depth

theorem Routine.Nested.paired (h : p.Nested) : Paired p.calls := h.levelAfter_calls 0

/-! ## Calls that open and close no scope -/

/-- From `e` to `e'` tensors may have been added to the innermost scope, and none have changed theirs. -/
structure Within (e e' : Engine) : Prop where
  size : e.cells.size ≤ e'.cells.size
  scopes : ∃ ts, e'.scopes = pushed ts e.scopes
  scopeId : ∀ i < e.cells.size, (e'.cellAt i).scopeId = (e.cellAt i).scopeId

theorem Within.trans (h : Within e e') (h' : Within e' e'') : Within e e'' where
  size := h.size.trans h'.size
  scopes := by
    obtain ⟨ts,hts⟩ := h.scopes
    obtain ⟨us,hus⟩ := h'.scopes
    exact ⟨us ++ ts,by rw [hus,hts,pushed_pushed]⟩
  scopeId i hi := (h'.scopeId i (hi.trans_le h.size)).trans (h.scopeId i hi)

theorem Creates.within (h : Creates e e') : Within e e' := ⟨h.size,h.scopes,fun i hi => by rw [h.cell i hi]⟩
theorem Fades.within (h : Fades e e') : Within e e' :=
  ⟨h.size.ge,⟨[],by rw [pushed_nil,h.scopes]⟩,fun i _ => h.scopeId i⟩

theorem within_withCell (e : Engine) (i : Nat) (hf : ∀ c, (f c).scopeId = c.scopeId) : Within e (e.withCell i f) where
  size := by rw [size_withCell]
  scopes := ⟨[],(pushed_nil e.scopes).symm⟩
  scopeId j _ := by
    rw [cellAt_withCell]
    split
    · exact hf _
    · rfl

theorem within_enrolled (hv : (e.cellAt v.id).variableInfo.isSome) : Within e (e.enrolled v) := by
  have hcounted : e.enrolled v = e.counted v := by simp [enrolled,Option.isSome_iff_ne_none.mp hv]
  rw [hcounted]
  exact ⟨(size_counted e v).1.ge,⟨[],by rw [pushed_nil,(counted_frame e v).2.2.1]⟩,fun i _ => by rw [cellAt_counted]⟩

theorem within_newVariable (h : Sound e known) (hx : x ∈ known) (trainable : Bool) (name : Option String) :
    Within e (after (Call.newVariable x trainable name).run e) := by
  rcases newVariable_cases h hx trainable name with hmakes | ⟨-,hmade,hafter⟩
  · exact hmakes.creates.within
  · rw [hafter]
    exact hmade.within.trans ((disposes_released _ _).fades.trans (fades_marked _ _)).within

theorem within_assign (hv : (e.cellAt v.id).variableInfo.isSome) (x : Tensor) :
    Within e (after (Call.assign v x).run e) := by
  rw [after_assign]
  split
  · have hfades := (disposes_released e v).fades
    refine (hfades.within.trans (within_withCell _ v.id ?_)).trans (within_enrolled ?_)
    · exact fun _ => rfl
    · rw [cellAt_withCell]
      split <;> rwa [hfades.variableInfo]
  · exact (Fades.refl e).within

/-! ## The scopes of a function -/

/-- `e'` arises while a function runs in a scope opened in `e`, with as many scopes of its own open. -/
structure Inside (e : Engine) (name : String) (depth : Nat) (e' : Engine) : Prop where
  size : e.cells.size ≤ e'.cells.size
  scopes : ∃ inner s, e'.scopes = inner ++ s :: e.scopes ∧ inner.length = depth ∧ s.id = e.nextScopeId ∧ s.name = name
  scopeId : ∀ i < e.cells.size, (e'.cellAt i).scopeId = (e.cellAt i).scopeId

theorem inside_opened (e : Engine) (name : String) : Inside e name 0 (e.opened name) :=
  ⟨le_rfl,⟨[],⟨e.nextScopeId,name,[]⟩,rfl,rfl,rfl,rfl⟩,fun _ _ => rfl⟩

theorem pushed_append (ts : Tensors) (inner : List Scope) (s : Scope) (below : List Scope) : ∃ inner' s', pushed ts
    (inner ++ s :: below) = inner' ++ s' :: below ∧ inner'.length = inner.length ∧ s'.id = s.id ∧ s'.name = s.name := by
  cases inner with
  | nil => exact ⟨[],{ s with track := ts ++ s.track },rfl,rfl,rfl,rfl⟩
  | cons x inner => exact ⟨{ x with track := ts ++ x.track } :: inner,s,rfl,rfl,rfl,rfl⟩

namespace Inside
theorem within (h : Inside e name depth e') (hw : Within e' e'') : Inside e name depth e'' where
  size := h.size.trans hw.size
  scopes := by
    obtain ⟨inner,s,hscopes,hlength,hid,hname⟩ := h.scopes
    obtain ⟨ts,hts⟩ := hw.scopes
    obtain ⟨inner',s',hpushed,hlength',hid',hname'⟩ := pushed_append ts inner s e.scopes
    exact ⟨inner',s',by rw [hts,hscopes,hpushed],hlength'.trans hlength,hid'.trans hid,hname'.trans hname⟩
  scopeId i hi := (hw.scopeId i (hi.trans_le h.size)).trans (h.scopeId i hi)

theorem opened (h : Inside e name depth e') (name' : String) : Inside e name (depth + 1) (e'.opened name') where
  size := h.size
  scopes := by
    obtain ⟨inner,s,hscopes,hlength,hid,hname⟩ := h.scopes
    refine ⟨⟨e'.nextScopeId,name',[]⟩ :: inner,s,?_,?_,hid,hname⟩
    · rw [Engine.opened,hscopes,cons_append]
    · rw [length_cons,hlength]
  scopeId := h.scopeId

theorem closed (hout : Scoped e) (h : Inside e name (depth + 1) e') (hs : Scoped e') (result : Tensors) :
    Inside e name depth (e'.closed result) := by
  obtain ⟨inner,s,hscopes,hlength,hid,hname⟩ := h.scopes
  obtain ⟨x,inner,rfl⟩ := exists_cons_of_length_eq_add_one hlength
  have hend := closes hs hscopes result
  have hlt : e.nextScopeId < x.id := by
    rw [← hid]
    exact hs.id_lt_of_mem hscopes s (mem_append_right inner mem_cons_self)
  obtain ⟨ts,hts,-,-⟩ := hend.scopes
  obtain ⟨inner',s',hpushed,hlength',hid',hname'⟩ := pushed_append ts inner s e.scopes
  refine ⟨?_,⟨inner',s',hts.trans hpushed,?_,hid'.trans hid,hname'.trans hname⟩,fun i hi => ?_⟩
  · rw [(alike_closed hscopes result).size,(disposes_sweep e' x.track result).fades.size]
    exact h.size
  · rw [hlength']
    exact Nat.succ.inj hlength
  · rw [hend.stays i,h.scopeId i hi]
    rintro ⟨-,-,hx⟩
    rw [h.scopeId i hi] at hx
    exact lt_asymm hlt (hout.past i x.id hx)
end Inside

theorem Inside.step {s : Step} (hout : Scoped e) (h : Inside e name depth s.before) (hs : Sound s.before s.known)
    (ha : s.Admitted) (hlevel : s.call.level depth = some depth') : Inside e name depth' s.next := by
  obtain ⟨e',known,c⟩ := s
  obtain ⟨hknown,hallowed⟩ := ha
  unfold Step.next
  cases c with
  | make shape dtype data =>
    cases hlevel
    exact h.within (makes_make hs shape dtype hallowed).creates.within
  | share x shape dtype =>
    cases hlevel
    exact h.within (makes_share hs (hknown x mem_cons_self) shape dtype).creates.within
  | complex re im =>
    cases hlevel
    exact h.within (makes_complex hs (hknown re mem_cons_self)
      (hknown im (mem_cons_of_mem re mem_cons_self))).creates.within
  | newVariable x trainable name' =>
    cases hlevel
    exact h.within (within_newVariable hs (hknown x mem_cons_self) trainable name')
  | assign v x =>
    cases hlevel
    exact h.within (within_assign hallowed x)
  | dispose t =>
    cases hlevel
    rw [after_dispose]
    exact h.within (disposes_discarded e' t).fades.within
  | keep t =>
    cases hlevel
    exact h.within (within_withCell e' t.id fun _ => rfl)
  | startScope name' =>
    cases hlevel
    exact h.opened name'
  | endScope result =>
    rw [after_endScope]
    cases depth with
    | zero => cases hlevel
    | succ depth =>
      cases hlevel
      exact h.closed hout hs.stack result.tensors

theorem Inside.play (hout : Scoped e) (h : Inside e name depth e') (hs : Sound e' known) (ha : ∀ s ∈ steps e' known cs,
    s.Admitted) (hlevel : levelAfter depth cs = some depth') : Inside e name depth' (play e' cs) := by
  induction cs generalizing e' known depth with
  | nil =>
    cases hlevel
    exact h
  | cons c cs ih =>
    obtain ⟨hfirst,hrest⟩ := forall_mem_cons.mp ha
    obtain ⟨middle,hmiddle,hlevel⟩ := Option.bind_eq_some_iff.mp hlevel
    exact ih (h.step hout hs hfirst hmiddle) (hs.step hfirst) hrest hlevel

/-! ## States of programs -/

/-- Engines that differ at most in what they recorded for gradients. -/
def SameStore (e e' : Engine) : Prop :=
  ∃ tape node gradients kernels,
    e' = { e with tape := tape, nextNodeId := node, gradientDepth := gradients, kernelDepth := kernels }

namespace SameStore
theorem refl (e : Engine) : SameStore e e := ⟨e.tape,e.nextNodeId,e.gradientDepth,e.kernelDepth,rfl⟩

theorem sound (h : SameStore e e') (hs : Sound e known) : Sound e' known := by
  obtain ⟨tape,node,gradients,kernels,rfl⟩ := h
  exact ⟨⟨hs.store.inRange,hs.store.used,hs.store.parts⟩,hs.stack.like rfl,hs.made,hs.whole⟩
theorem inside (h : SameStore e e') (hi : Inside before name depth e) : Inside before name depth e' := by
  obtain ⟨tape,node,gradients,kernels,rfl⟩ := h
  exact ⟨hi.size,hi.scopes,hi.scopeId⟩
end SameStore

/-- A state in which a program can find the engine, with the tensors that it knows then. -/
def Reachable (e : Engine) (known : Tensors) : Prop :=
  ∃ p : Routine, (∀ s ∈ steps {} [] p.calls, s.Admitted) ∧ SameStore (after p.run {}) e ∧
    known = knowledge {} [] p.calls

theorem sound_play (h : Sound e known) (ha : ∀ s ∈ steps e known cs, s.Admitted) :
    Sound (play e cs) (knowledge e known cs) :=
  (steps_keep cs h fun s hs hsound => hsound.step (ha s hs)).2
theorem Reachable.sound (h : Reachable e known) : Sound e known := by
  obtain ⟨p,ha,hsame,rfl⟩ := h
  rw [after_ok (run_routine p {})] at hsame
  exact hsame.sound (sound_play sound_empty ha)
end TensorKit.Engine
