import TensorKit.Proofs.Engine.Creation
import TensorKit.Script.World
/-! # Runs of the engine

A program works on the engine by calls, and by functions in scopes of their own, which two calls open and close. So it
comes down to a list of calls. It has no tensors but those that calls gave to it.
-/
namespace TensorKit.Engine
open List
open Script (Value)
variable {α : Type} (t : Tensor)
variable {β : Type} {v x : Tensor} {c : Call} {i : Nat}
/-- What a program can ask of the engine. -/
inductive Call where
  | make (shape : Shape) (dtype : DType) (data : Data)
  | share (x : Tensor) (shape : Shape) (dtype : DType)
  | complex (re im : Tensor)
  | newVariable (x : Tensor) (trainable : Bool) (name : Option String)
  | assign (v x : Tensor)
  | dispose (t : Tensor)
  | keep (t : Tensor)
  | startScope (name : String)
  | endScope (result : Value)

namespace Call
/-- Runs a call; the answer is the tensors that the program gets. -/
def run : Call → Eng Tensors
  | .make shape dtype data => do return [← Engine.make shape dtype data]
  | .share x shape dtype => do return [← Engine.share x shape dtype]
  | .complex re im => do return [← Ops.makeComplex re im]
  | .newVariable x trainable name => do return [← Engine.newVariable x trainable name]
  | .assign v x => do Engine.assign v x; return []
  | .dispose t => do Engine.dispose t; return []
  | .keep t => do return [← Engine.keep t]
  | .startScope name => do Engine.startScope name; return []
  | .endScope result => do Engine.endScope result.tensors; return []

/-- The tensors that a call is about. -/
def tensors : Call → Tensors
  | .make _ _ _ | .startScope _ => []
  | .share x _ _ | .newVariable x _ _ => [x]
  | .complex x y | .assign x y => [x,y]
  | .dispose t | .keep t => [t]
  | .endScope result => result.tensors

def gained (c : Call) (e : Engine) : Tensors := match answer c.run e with
  | .ok ts => ts
  | .error _ => []

/-- Data is given as values, and only to a variable can a tensor be assigned. -/
def Allowed (e : Engine) : Call → Prop
  | .make _ _ data => data.parts = []
  | .assign v _ => (e.cellAt v.id).variableInfo.isSome
  | _ => True

instance (e : Engine) : DecidablePred (Allowed e) := fun c => by cases c <;> unfold Allowed <;> infer_instance
end Call

/-- The state that some calls lead to, whether or not they fail. -/
def play (e : Engine) (cs : List Call) : Engine := cs.foldl (fun e c => after c.run e) e

/-- A call with the state in which it is made and the tensors that the program knows then. -/
structure Step where
  before : Engine
  known : Tensors
  call : Call

namespace Step
def next (s : Step) : Engine := after s.call.run s.before
def knows (s : Step) : Tensors := s.known ++ s.call.gained s.before

/-- The program knows what it speaks of. -/
structure Admitted (s : Step) : Prop where
  known : ∀ t ∈ s.call.tensors, t ∈ s.known
  allowed : s.call.Allowed s.before

instance : DecidablePred Admitted := fun _ => decidable_of_iff (_ ∧ _) ⟨fun h => ⟨h.1,h.2⟩,fun h => ⟨h.known,h.allowed⟩⟩
end Step

/-- The steps that calls make from a state. -/
def steps (e : Engine) (known : Tensors) : List Call → List Step
  | [] => []
  | c :: cs => ⟨e,known,c⟩ :: steps (after c.run e) (known ++ c.gained e) cs

def knowledge (e : Engine) (known : Tensors) : List Call → Tensors
  | [] => known
  | c :: cs => knowledge (after c.run e) (known ++ c.gained e) cs

/-- A program: calls, and functions run in a scope, which return a value or throw. -/
inductive Routine where
  | done
  | call (c : Call) (rest : Routine)
  | tidy (name : String) (body : Routine) (result : Except Fault Value) (rest : Routine)

/-- Runs an action and goes on even if it fails. -/
def attempt (x : Eng α) : Eng Unit := tryCatch (do let _ ← x) fun _ => pure ()

namespace Routine
def run : Routine → Eng Unit
  | .done => pure ()
  | .call c rest => do
    attempt c.run
    rest.run
  | .tidy name body result rest => do
    attempt (scopedWith Value.tensors name do
      body.run
      ofExcept result)
    rest.run

/-- The value that a function hands out of its scope; it is none when it throws. -/
def returned : Tried Value → Value
  | .ok v => v
  | .error _ => .absent

def calls : Routine → List Call
  | .done => []
  | .call c rest => c :: rest.calls
  | .tidy name body result rest => .startScope name :: body.calls ++ .endScope (returned result) :: rest.calls
end Routine

@[simp] theorem run_attempt (x : Eng α) (e : Engine) : attempt x e = .ok () (after x e) := by
  unfold attempt after
  change (EStateM.tryCatch (do let _ ← x) fun _ => pure ()) e = _
  rw [EStateM.tryCatch,run_bind]
  cases x e <;> rfl

theorem play_append (e : Engine) (cs ds : List Call) : play e (cs ++ ds) = play (play e cs) ds := foldl_append
theorem play_cons (e : Engine) (c : Call) (cs : List Call) : play e (c :: cs) = play (after c.run e) cs := rfl
theorem after_bind_pure (x : Eng α) (f : α → β) (e : Engine) : after (x >>= fun a => pure (f a)) e = after x e := by
  unfold after
  rw [run_bind]
  cases x e <;> rfl

theorem answer_bind_pure (x : Eng α) (f : α → β) (e : Engine) :
    answer (x >>= fun a => pure (f a)) e = (answer x e).map f := by
  unfold answer
  rw [run_bind]
  cases x e <;> rfl

theorem after_make (shape : Shape) (dtype : DType) (data : Data) (e : Engine) :
    after (Call.make shape dtype data).run e = after (make shape dtype data) e := after_bind_pure _ _ e
variable (x) (result : Value) (name : String)
theorem after_share (shape : Shape) (dtype : DType) (e : Engine) :
    after (Call.share x shape dtype).run e = after (share x shape dtype) e := after_bind_pure _ _ e
theorem after_complex (re im : Tensor) (e : Engine) :
    after (Call.complex re im).run e = after (Ops.makeComplex re im) e := after_bind_pure _ _ e
theorem after_newVariable (trainable : Bool) (name : Option String) (e : Engine) :
    after (Call.newVariable x trainable name).run e = after (newVariable x trainable name) e :=
  after_bind_pure _ _ e
def assigned (e : Engine) (v x : Tensor) : Engine :=
  ((e.released v).withCell v.id fun c => { c with dataId := (e.cellAt x.id).dataId }).enrolled v

theorem after_assign (v x : Tensor) (e : Engine) : after (Call.assign v x).run e =
    if x.dtype = v.dtype ∧ x.shape = v.shape then e.assigned v x else e := by
  rw [assigned,← (disposes_released e v).fades.dataId,← after_assign_eq]
  exact after_bind_pure _ _ e

theorem after_dispose (e : Engine) : after (Call.dispose t).run e = e.discarded t :=
  (after_bind_pure _ _ e).trans (after_ok (run_dispose t e))
theorem after_keep (e : Engine) : after (Call.keep t).run e = e.keptAt t.id :=
  (after_bind_pure _ _ e).trans (after_ok (run_keep t e))
theorem after_startScope (e : Engine) : after (Call.startScope name).run e = e.opened name :=
  (after_bind_pure _ _ e).trans (after_ok (run_startScope name e))
theorem after_endScope (e : Engine) : after (Call.endScope result).run e = e.closed result.tensors :=
  (after_bind_pure _ _ e).trans (after_ok (run_endScope result.tensors e))

theorem run_routine (p : Routine) (e : Engine) : p.run e = .ok () (play e p.calls) := by
  induction p generalizing e with
  | done => rfl
  | call c rest ih =>
    rw [Routine.run,run_bind_ok (run_attempt c.run e),ih]
    rfl
  | tidy name body result rest ihbody ih =>
    have hscope : after (scopedWith Value.tensors name do body.run; ofExcept result) e =
        after (Call.endScope (Routine.returned result)).run (play (e.opened name) body.calls) := by
      rw [after_endScope]
      rw [after,run_scopedWith,run_bind_ok (ihbody (e.opened name))]
      cases result <;> rfl
    rw [Routine.run,run_bind_ok (run_attempt _ e),ih,hscope,Routine.calls,cons_append,play_cons,play_append]
    rfl

/-! ## What holds along every run -/

/-- The store and the stack are in order, and the program knows tensors that were made and are no parts. -/
structure Sound (e : Engine) (known : Tensors) : Prop where
  store : WellFormed e
  stack : Scoped e
  made : ∀ t ∈ known, t.id < e.cells.size
  whole : ∀ t ∈ known, ¬ Part e t.id

theorem sound_empty : Sound {} [] := ⟨wellFormed_empty,scoped_empty,forall_mem_nil _,forall_mem_nil _⟩

namespace Sound
variable {e e' : Engine} {known : Tensors}
variable (h : Sound e known)
include h
theorem creates (hc : Creates e e') (hlt : e.cells.size < e'.cells.size)
    (hnew : ∀ t ∈ new, t.id = e.cells.size) : Sound e' (known ++ new) where
  store := hc.store
  stack := hc.stack
  made t ht := by
    rcases mem_append.mp ht with ht | ht
    · exact (h.made t ht).trans_le hc.size
    · rwa [hnew t ht]
  whole t ht hp := by
    rcases mem_append.mp ht with ht | ht
    · rcases hc.parts t.id hp with hp | hp
      · exact h.whole t ht hp
      · exact lt_asymm hp (h.made t ht)
    · rw [hnew t ht] at hp
      rcases hc.parts _ hp with hp | hp
      · exact lt_irrefl _ (hp.lt_size h.store)
      · exact lt_irrefl _ hp

theorem fades (hf : Fades e e') : Sound e' known where
  store := h.store.fades hf
  stack := h.stack.fades hf
  made t ht := by rw [hf.size]; exact h.made t ht
  whole t ht hp := h.whole t ht (hp.fades hf)

theorem alike (ha : Alike e e') (hs : Scoped e') : Sound e' known where
  store := h.store.alike ha
  stack := hs
  made t ht := by rw [ha.size]; exact h.made t ht
  whole t ht hp := h.whole t ht ((part_alike ha t.id).mp hp)

theorem keptAt (i : Nat) : Sound (e.keptAt i) known := by
  refine h.alike (alike_keptAt e i) (h.stack.same rfl rfl (fun j => ?_) fun j hj => ?_)
  · rw [Engine.keptAt,cellAt_withCell]
    split <;> rfl
  · exact h.stack.untracked j ((alike_keptAt e i).variableInfo j ▸ hj)

theorem closed (result : Tensors) : Sound (e.closed result) known := by
  cases hs : e.scopes with
  | nil => rw [closed_of_no_scope hs]; exact h
  | cons s rest =>
    exact (h.fades (disposes_sweep e s.track result).fades).alike (alike_closed hs result) (h.stack.closed result)

theorem reassigned (hv : (e.cellAt v.id).variableInfo.isSome) (hd : d < e.buffers.size) :
    Sound ((e.withCell v.id fun c => { c with dataId := d }).enrolled v) known := by
  have hsize := lt_size_of_variable hv
  have hcell := cellAt_withCell_self hsize fun c => { c with dataId := d }
  have halike := alike_enrolled (e.withCell v.id fun c => { c with dataId := d }) v
  have hstack : Scoped (e.withCell v.id fun c => { c with dataId := d }) := by
    refine h.stack.same rfl rfl (fun i => ?_) fun i hi => h.stack.untracked i ?_
    · rw [cellAt_withCell]
      split <;> rfl
    · rw [cellAt_withCell] at hi
      split at hi <;> exact hi
  refine ⟨(h.store.withDataId hv hd).enrolled v,hstack.enrolled ?_ ?_,fun t ht => ?_,fun t ht hp => ?_⟩
  · rwa [size_withCell]
  · rw [hcell]
    exact h.stack.untracked v.id hv
  · rw [halike.size,(size_counted _ v).1,size_withCell]
    exact h.made t ht
  · exact h.whole t ht ((part_alike halike t.id).mp hp).counted
end Sound

/-! ## One step -/

/-- A call that makes a tensor for the program: the next one, beside all that was there. -/
structure Makes (c : Call) (e : Engine) : Prop where
  creates : Creates e (after c.run e)
  lt_size : e.cells.size < (after c.run e).cells.size
  gained : ∃ shape dtype, c.gained e = [⟨e.cells.size,shape,dtype⟩]

theorem gained_of_ok {x : Eng α} {f : α → Tensors}
    (hc : c.run = x >>= fun a => pure (f a)) (h : x e = .ok a e') (hts : f a = ts) : c.gained e = ts := by
  rw [Call.gained,hc,answer_bind_pure,answer_ok h,← hts]
  rfl

theorem gained_make (shape : Shape) (dtype : DType) (data : Data) (e : Engine) :
    (Call.make shape dtype data).gained e = [⟨e.cells.size,shape,dtype⟩] := by
  obtain ⟨e',hrun,-⟩ := run_make shape dtype data e
  exact gained_of_ok rfl hrun rfl
theorem gained_share (shape : Shape) (dtype : DType) (e : Engine) :
    (Call.share x shape dtype).gained e = [⟨e.cells.size,shape,dtype⟩] :=
  gained_of_ok rfl (run_share x shape dtype e) rfl

variable {x}
theorem gained_assign (v x : Tensor) (e : Engine) : (Call.assign v x).gained e = [] := by
  have hanswer : answer (Call.assign v x).run e = (answer (assign v x) e).map fun _ => [] := answer_bind_pure _ _ e
  rw [Call.gained,hanswer]
  cases answer (assign v x) e <;> rfl

theorem gained_dispose (e : Engine) : (Call.dispose t).gained e = [] := gained_of_ok rfl (run_dispose t e) rfl
theorem gained_startScope (e : Engine) : (Call.startScope name).gained e = [] :=
  gained_of_ok rfl (run_startScope name e) rfl
theorem gained_endScope (e : Engine) : (Call.endScope result).gained e = [] :=
  gained_of_ok rfl (run_endScope result.tensors e) rfl

variable {e : Engine} {known : Tensors}
variable (h : Sound e known)
include h
theorem makes_make (shape : Shape) (dtype : DType) {data : Data} (hdata : data.parts = []) :
    Makes (.make shape dtype data) e where
  creates := by
    rw [after_make]
    exact creates_make h.store h.stack shape dtype hdata
  lt_size := by
    rw [after_make]
    exact (cellAt_make shape dtype data e).2
  gained := ⟨shape,dtype,gained_make shape dtype data e⟩

omit h in
theorem size_enrolled (e : Engine) (t : Tensor) : (e.enrolled t).cells.size = e.cells.size := by
  rw [(alike_enrolled e t).size,(size_counted e t).1]

theorem makes_share (hx : x ∈ known) (shape : Shape) (dtype : DType) : Makes (.share x shape dtype) e where
  creates := by
    rw [after_share]
    exact creates_share h.store h.stack (h.made x hx) shape dtype
  lt_size := by
    rw [after_share,after_ok (run_share x shape dtype e),size_enrolled,size_withNew]
    exact Nat.lt_succ_self _
  gained := ⟨shape,dtype,gained_share x shape dtype e⟩

theorem makes_complex (hre : re ∈ known) (him : im ∈ known) : Makes (.complex re im) e := by
  have hrun := run_makeComplex re im (e := e) rfl rfl rfl
  refine ⟨?_,?_,re.shape,.complex64,gained_of_ok rfl hrun rfl⟩
  · rw [after_complex]
    exact creates_makeComplex h.store h.stack (h.made re hre) (h.made im him)
  · have hmake : Creates e (after (make re.shape .complex64 .absent) e) := creates_make h.store h.stack _ _ rfl
    have hre' := (h.made re hre).trans_le hmake.size
    have hclone := creates_clone hmake.store hmake.stack hre'
    have hclone' := creates_clone hclone.store hclone.stack ((h.made im him).trans_le (hmake.size.trans hclone.size))
    rw [after_complex,after_ok hrun,(written_frame _ _ _).1,(alike_keptAt _ _).size,(alike_keptAt _ _).size]
    exact (cellAt_make _ _ _ e).2.trans_le (hclone.size.trans hclone'.size)

/-- A variable is made, or its name is taken and it is given back. -/
theorem newVariable_cases (hx : x ∈ known) (trainable : Bool) (name : Option String) :
    Makes (.newVariable x trainable name) e ∨ (Call.newVariable x trainable name).gained e =
    [] ∧ Creates e (e.withVariable x trainable name) ∧ after (Call.newVariable x trainable name).run e =
    ((e.withVariable x trainable name).released ⟨e.cells.size,x.shape,x.dtype⟩).marked e.cells.size := by
  have hmade := creates_withVariable h.store h.stack (h.made x hx) trainable name
  have hrun := @run_newVariable _ trainable name x e rfl
  split at hrun
  · refine .inr ⟨?_,hmade,by rw [after_newVariable,after_error hrun]⟩
    rw [Call.gained,Call.run,answer_bind_pure,answer_error hrun]
    rfl
  · refine .inl ⟨?_,?_,x.shape,x.dtype,gained_of_ok rfl hrun rfl⟩
    · rw [after_newVariable,after_ok hrun]
      exact { hmade with
        store := hmade.store.alike (alike_withRegistered _ _)
        stack := hmade.stack.like rfl
        books := (imbalance_alike (alike_withRegistered _ _)).trans hmade.books }
    · rw [after_newVariable,after_ok hrun]
      change _ < (enrolled _ _).cells.size
      rw [size_enrolled,size_withNew]
      exact Nat.lt_succ_self _

theorem Sound.makes (hm : Makes c e) : Sound (after c.run e) (known ++ c.gained e) := by
  obtain ⟨shape,dtype,hgained⟩ := hm.gained
  refine h.creates hm.creates hm.lt_size fun t ht => ?_
  rw [hgained,mem_singleton] at ht
  rw [ht]

theorem sound_newVariable (hx : x ∈ known) (trainable : Bool) (name : Option String) : Sound
    (after (Call.newVariable x trainable name).run e) (known ++ (Call.newVariable x trainable name).gained e) := by
  rcases newVariable_cases h hx trainable name with hmakes | ⟨hgained,hmade,hafter⟩
  · exact h.makes hmakes
  · have hlt : e.cells.size < (e.withVariable x trainable name).cells.size := by
      rw [withVariable,size_enrolled,size_withNew]
      exact Nat.lt_succ_self _
    rw [hgained,hafter]
    exact (h.creates hmade hlt (forall_mem_nil _)).fades ((disposes_released _ _).fades.trans (fades_marked _ _))

theorem sound_assign (hx : x ∈ known) (hv : (e.cellAt v.id).variableInfo.isSome) :
    Sound (after (Call.assign v x).run e) known := by
  rw [after_assign]
  split
  · have hfades := (disposes_released e v).fades
    refine (h.fades hfades).reassigned (by rwa [hfades.variableInfo]) ?_
    rw [hfades.room]
    exact h.store.inRange x.id (h.made x hx)
  · exact h
omit h

theorem Sound.step {s : Step} (h : Sound s.before s.known) (ha : s.Admitted) : Sound s.next s.knows := by
  obtain ⟨e,known,c⟩ := s
  obtain ⟨hknown,hallowed⟩ := ha
  unfold Step.next Step.knows
  cases c with
  | make shape dtype data => exact h.makes (makes_make h shape dtype hallowed)
  | share x shape dtype => exact h.makes (makes_share h (hknown x mem_cons_self) shape dtype)
  | complex re im =>
    exact h.makes (makes_complex h (hknown re mem_cons_self) (hknown im (mem_cons_of_mem re mem_cons_self)))
  | newVariable x trainable name => exact sound_newVariable h (hknown x mem_cons_self) trainable name
  | assign v x =>
    rw [gained_assign,append_nil]
    exact sound_assign h (hknown x (mem_cons_of_mem v mem_cons_self)) hallowed
  | dispose t =>
    rw [after_dispose,gained_dispose,append_nil]
    exact h.fades (disposes_discarded e t).fades
  | keep t =>
    have hkept := h.keptAt t.id
    have hmem : known ++ [t] ⊆ known := by simpa [Call.tensors] using hknown
    exact ⟨hkept.store,hkept.stack,fun x hx => hkept.made x (hmem hx),fun x hx => hkept.whole x (hmem hx)⟩
  | startScope name =>
    rw [gained_startScope,append_nil]
    exact h.alike (alike_withScopes e _ _) (h.stack.opened name)
  | endScope result =>
    rw [after_endScope,gained_endScope,append_nil]
    exact h.closed result.tensors

theorem steps_keep {I : Engine → Tensors → Prop} (cs : List Call) {known : Tensors}
    (h : I e known) (hstep : ∀ s ∈ steps e known cs, I s.before s.known → I s.next s.knows) :
    (∀ s ∈ steps e known cs, I s.before s.known) ∧ I (play e cs) (knowledge e known cs) := by
  induction cs generalizing e known with
  | nil => exact ⟨forall_mem_nil _,h⟩
  | cons c cs ih =>
    have hnext := hstep _ mem_cons_self h
    obtain ⟨hsteps,hlast⟩ := ih hnext fun s hs => hstep s (mem_cons_of_mem _ hs)
    refine ⟨fun s hs => ?_,hlast⟩
    rcases mem_cons.mp hs with rfl | hs
    · exact h
    · exact hsteps s hs

/-! ## Data that stays -/

/-- A tensor has the data that it had before. -/
def Retained (e e' : Engine) (i : Nat) : Prop :=
  (e'.cellAt i).dataId = (e.cellAt i).dataId ∧ ∃ b b', e.bufferAt (e.cellAt i).dataId = some b ∧
    e'.bufferAt (e.cellAt i).dataId = some b' ∧ b'.data = b.data

theorem retained_of_creates (hg : imbalance e = 0) (hc : Creates e e') (hi : i < e.cells.size)
    (hlive : (e'.cellAt i).disposed = false) : Retained e e' i := by
  unfold Retained
  rw [hc.cell i hi] at hlive ⊢
  obtain ⟨b,hb⟩ := registered_of_live hlive (by rw [hg]; rfl)
  obtain ⟨r,hb'⟩ := hc.buffer _ b hb
  exact ⟨rfl,b,_,hb,hb',rfl⟩

/-- Disposing takes away no data that is still held, as long as the books are right in the end. -/
theorem retained_of_fades (hf : Fades e e₁) (ha : Alike e₁ e') (hg : imbalance e' = 0)
    (hlive : (e'.cellAt i).disposed = false) : Retained e e' i := by
  obtain ⟨b',hb'⟩ := registered_of_live hlive (by rw [hg]; rfl)
  have hsame : (e'.cellAt i).dataId = (e.cellAt i).dataId := by rw [ha.dataId,hf.dataId]
  rw [hsame] at hb'
  obtain ⟨b,hb,hdata⟩ := hf.data (ha.bufferAt _ ▸ hb')
  exact ⟨hsame,b,b',hb,hb',hdata⟩
end TensorKit.Engine
