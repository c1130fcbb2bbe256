import TensorKit.Proofs.Engine.Nesting
import TensorKit.Script.Core.Scopes

/-! # Functions that tidy up after themselves

A function is called in a scope of its own. Whatever it does and whether it returns or throws, its scope is gone
afterwards, and of the tensors made in it only those live on that are kept or that its result holds.
-/
namespace TensorKit.Script
open List Value
open Engine
variable {t : Tensor} {α : Type} {name : String} {r : Except Fault Value} {args : List Value} {f : Value} (s : Scope)
/-- Tensors that a value holds, at any depth. -/
inductive Reaches : Value → Tensor → Prop where
  | tensor (t : Tensor) : Reaches (.tensor t) t
  | list {items : Values} {v : Value} {t : Tensor} : v ∈ items → Reaches v t → Reaches (.list items) t
  | record {fields : Named Value} {k : String} {v : Value} {t : Tensor} :
    (k,v) ∈ fields → Reaches v t → Reaches (.record fields) t
  | item {className : String} {fields : Named Value} {k : String} {v : Value} {t : Tensor} :
    (k,v) ∈ fields → Reaches v t → Reaches (.item className fields) t

theorem mem_listTensors {items : Values} : t ∈ listTensors items ↔ ∃ v ∈ items, t ∈ v.tensors := by
  induction items with
  | nil => simp [listTensors]
  | cons v rest ih => simp [listTensors,ih]

theorem mem_fieldTensors {fields : Named Value} : t ∈ fieldTensors fields ↔ ∃ k v, (k,v) ∈ fields ∧ t ∈ v.tensors := by
  induction fields with
  | nil => simp [fieldTensors]
  | cons f rest ih =>
    obtain ⟨k,v⟩ := f
    rw [fieldTensors,mem_append,ih]
    constructor
    · rintro (ht | ⟨k',v',hmem,ht⟩)
      · exact ⟨k,v,mem_cons_self,ht⟩
      · exact ⟨k',v',mem_cons_of_mem _ hmem,ht⟩
    · rintro ⟨k',v',hmem,ht⟩
      rcases mem_cons.mp hmem with heq | hmem
      · cases heq
        exact .inl ht
      · exact .inr ⟨k',v',hmem,ht⟩

theorem reaches_of_mem_tensors (v : Value) (h : t ∈ v.tensors) : Reaches v t := by
  match v with
  | .tensor u =>
    rw [tensors,mem_singleton] at h
    exact h ▸ .tensor u
  | .list items =>
    obtain ⟨x,hx,ht⟩ := mem_listTensors.mp h
    have := sizeOf_lt_of_mem hx
    exact .list hx (reaches_of_mem_tensors x ht)
  | .record fields =>
    obtain ⟨k,x,hx,ht⟩ := mem_fieldTensors.mp h
    have := sizeOf_lt_of_mem hx
    exact .record hx (reaches_of_mem_tensors x ht)
  | .item className fields =>
    obtain ⟨k,x,hx,ht⟩ := mem_fieldTensors.mp h
    have := sizeOf_lt_of_mem hx
    exact .item hx (reaches_of_mem_tensors x ht)
  | .absent | .null | .bool _ | .num _ | .str _ | .typed _ _ | .bytes _ | .closure _ _ _ _ | .native _ _
  | .object _ _ | .classRef _ | .promise _ => simp [tensors] at h
termination_by sizeOf v
decreasing_by all_goals simp_all; omega

theorem mem_tensors_iff : t ∈ v.tensors ↔ Reaches v t := by
  refine ⟨reaches_of_mem_tensors v,fun h => ?_⟩
  induction h with
  | tensor t => exact mem_singleton_self t
  | list hmem _ ih => exact mem_listTensors.mpr ⟨_,hmem,ih⟩
  | record hmem _ ih | item hmem _ ih => exact mem_fieldTensors.mpr ⟨_,_,hmem,ih⟩

/-! ## The call of a function in a scope -/

/-- How a function ends: with a value or a fault, in the world that it leaves. -/
def ended : Tried Value → World → EStateM.Result Fault World Value
  | .ok v, w => .ok v w
  | .error f, w => .error f w

def World.withEngine (w : World) (e : Engine) : World := { w with engine := e }
theorem engine_withEngine (w : World) (e : Engine) : (w.withEngine e).engine = e := rfl

theorem run_script_bind {β : Type} (x : Script α) (k : α → Script β) (host : Host) (w : World) :
    (x >>= k) host w = match x host w with
      | .ok a w' => k a host w'
      | .error f w' => .error f w' := by
  change EStateM.bind (x host) (k · host) w = _
  unfold EStateM.bind
  cases x host w <;> rfl

theorem run_script_catch (x : Script α) (k : Fault → Script α) (host : Host) (w : World) :
    (tryCatch x k : Script α) host w = match x host w with
      | .ok a w' => .ok a w'
      | .error f w' => k f host w' := by
  change EStateM.tryCatch (x host) (k · host) w = _
  unfold EStateM.tryCatch
  cases x host w <;> rfl

/-- The value that a function hands out of its scope; a function that throws hands out none. -/
def handedOut : Tried Value → Tensors
  | .ok v => v.tensors
  | .error _ => []

theorem run_scoped {x : Script Value} {host : Host} (h : x host (w.withEngine (w.engine.opened name)) = ended r w') :
    scopedWith tensors name x host w = ended r (w'.withEngine (w'.engine.closed (handedOut r))) := by
  have hopen : (liftM (startScope name) : Script Unit) host w = .ok () (w.withEngine (w.engine.opened name)) := rfl
  have hclose : ∀ ts w, (liftM (endScope ts) : Script Unit) host w = .ok () (w.withEngine (w.engine.closed ts)) := by
    intro ts w
    change onEngine (endScope ts) w = _
    simp only [onEngine,run_endScope]
    rfl
  rw [scopedWith,run_script_bind,hopen]
  dsimp only
  rw [run_script_bind,run_script_catch,run_script_bind,h]
  cases r with
  | ok v | error f =>
    dsimp only [ended]
    rw [run_script_bind,hclose]
    rfl

/-- The arguments of a call that runs a function in a scope, which may be given a name. -/
inductive TidyArgs (args : Values) : String → Value → Prop where
  | plain : (argAt args 1).isNil → (argAt args 0).isFunction → TidyArgs args unnamed (argAt args 0)
  | named {name : String} : argAt args 0 = .str name → (argAt args 1).isFunction → TidyArgs args name (argAt args 1)

theorem run_tidy (h : TidyArgs args name f) : tidy args = scopedWith tensors name (call f []) := by
  unfold tidy requireFunction
  cases h with
  | plain hnil hfun =>
    simp only [hnil,hfun]
    simp
  | named hname hfun =>
    have hpresent : (argAt args 1).isNil = false := by cases hv : argAt args 1 <;> simp_all [isFunction,isNil,isPresent]
    simp only [hname,hfun,hpresent]
    simp

/-- A function that works on the engine as a program does, and ends as `r` says. -/
structure Performs (host : Host) (f : Value) (body : Routine) (r : Tried Value) (w w' : World) : Prop where
  ends : host.call f [] w = ended r w'
  works : SameStore (after body.run w.engine) w'.engine

/-! ## What a scope leaves behind -/

def Tracks (i : Nat) : Prop := ∃ t ∈ s.track, t.id = i

/-- A function returns a value that holds a tensor. -/
def HandsOut (r : Tried Value) (i : Nat) : Prop := ∃ v t, r = .ok v ∧ Reaches v t ∧ t.id = i

theorem handsOut_iff : HandsOut r i ↔ ∃ t ∈ handedOut r, t.id = i := by
  unfold HandsOut
  cases r with
  | error f => simp [handedOut]
  | ok v =>
    simp only [handedOut,mem_tensors_iff,Except.ok.injEq]
    constructor
    · rintro ⟨v',t,rfl,ht,hi⟩
      exact ⟨t,ht,hi⟩
    · rintro ⟨t,ht,hi⟩
      exact ⟨v,t,rfl,ht,hi⟩

/-- A tensor of a scope that nobody asked for. -/
def Leftover (r : Tried Value) (e : Engine) (i : Nat) : Prop :=
  Tracks s i ∧ (e.cellAt i).kept = false ∧ ¬ HandsOut r i

/-- A tensor of a scope that goes out with its result. -/
def HandedOn (r : Tried Value) (e : Engine) (i : Nat) : Prop := Tracks s i ∧ (e.cellAt i).kept = false ∧ HandsOut r i

/-- A function was called in the state `e`, came to its end in `e₁` with the scope `s` open for it, and left
`e₂` when that scope was closed. -/
structure Tidied (s : Scope) (r : Tried Value) (e e₁ e₂ : Engine) : Prop where
  /-- All scopes of the function but its first are gone when it ends. -/
  own : e₁.scopes = s :: e.scopes
  /-- The scopes are those that there were; the innermost has gained what goes out with the result. -/
  restored : ∃ ts, e₂.scopes = pushed ts e.scopes ∧ (e.scopes ≠ [] → ∀ i, (∃ t ∈ ts, t.id = i) ↔ HandedOn s r e₁ i)
  adopted : ∀ p outer, e.scopes = p :: outer → ∀ i, HandedOn s r e₁ i → (e₂.cellAt i).scopeId = some p.id
  /-- Disposed are the tensors that nobody asked for, with parts of complex data that is gone. -/
  disposed : ∀ i, (e₂.cellAt i).disposed = true ↔ (e₁.cellAt i).disposed = true ∨ Leftover s r e₁ i ∨ Lost e₁ e₂ i
  /-- Data goes only with a tensor that is disposed. -/
  freed : ∀ d b, e₁.bufferAt d = some b → e₂.bufferAt d = none →
    ∃ i, (Leftover s r e₁ i ∨ Lost e₁ e₂ i) ∧ (e₁.cellAt i).dataId = d
  /-- What is from outside or kept is not disposed, unless it is such a part. -/
  spared : ∀ i, i < e.cells.size ∨ (e₁.cellAt i).kept = true → ¬ Lost e₁ e₂ i →
    (e₂.cellAt i).disposed = (e₁.cellAt i).disposed
  ofVariables : ∀ i, (e₁.cellAt i).variableInfo.isSome → (e₂.cellAt i).disposed = (e₁.cellAt i).disposed

theorem tidied_closed (hout : Scoped e) (hs : Sound e₁ known) (h : Inside e name 0
    e₁) : ∃ s, s.id = e.nextScopeId ∧ s.name = name ∧ Tidied s r e e₁ (e₁.closed (handedOut r)) := by
  obtain ⟨inner,s,hscopes,hlength,hid,hname⟩ := h.scopes
  obtain rfl := length_eq_zero_iff.mp hlength
  have hend := closes hs.stack hscopes (handedOut r)
  have htracks : ∀ i, Tracks s i ↔ (e₁.cellAt i).scopeId = some s.id := hs.stack.tracks s (hscopes ▸ mem_cons_self)
  have hmoved : ∀ i, Moved e₁ s.id (handedOut r) i ↔ HandedOn s r e₁ i := by
    intro i
    rw [Moved,HandedOn,htracks,handsOut_iff]
    tauto
  have hdoomed : ∀ i, Doomed e₁ s.track (handedOut r) i ↔ Leftover s r e₁ i := by
    intro i
    rw [Doomed,Leftover,handsOut_iff,not_exists]
    simp only [not_and]
    rfl
  have hdisposed : ∀ i, ((e₁.closed (handedOut r)).cellAt i).disposed = true ↔
      (e₁.cellAt i).disposed = true ∨ Leftover s r e₁ i ∨ Lost e₁ (e₁.closed (handedOut r)) i := by
    intro i
    rw [hend.disposed,hdoomed]
  have hspared : ∀ i, ¬ Leftover s r e₁ i → ¬ Lost e₁ (e₁.closed (handedOut r)) i →
      ((e₁.closed (handedOut r)).cellAt i).disposed = (e₁.cellAt i).disposed := by
    intro i hleft hlost
    rw [Bool.eq_iff_iff,hdisposed]
    tauto
  refine ⟨s,hid,hname,⟨hscopes,?_,?_,hdisposed,?_,fun i hi hlost => hspared i ?_ hlost, fun i hi => hspared i ?_ ?_⟩⟩
  · obtain ⟨ts,hts,-,hmem⟩ := hend.scopes
    exact ⟨ts,hts,fun hne i => (hmem hne i).trans (hmoved i)⟩
  · exact fun p outer hp i hi => hend.moved p outer hp i ((hmoved i).mpr hi)
  · intro d b hb hn
    obtain ⟨i,hi,hd⟩ := hend.freed d b hb hn
    exact ⟨i,hi.imp_left (hdoomed i).mp,hd⟩
  · rintro ⟨htrack,hkept,-⟩
    rcases hi with hi | hi
    · -- the scope is newer than all that a tensor from outside can name
      rw [htracks,h.scopeId i hi,hid] at htrack
      exact lt_irrefl _ (hout.past i _ htrack)
    · rw [hkept] at hi
      cases hi
  · rintro ⟨htrack,-,-⟩
    rw [htracks,hs.stack.untracked i hi] at htrack
    cases htrack
  · rintro ⟨d,b,hb,-,p,hp,rfl⟩
    rw [(hs.store.parts d b hb p hp).2.2] at hi
    cases hi

/-- A function that runs in a scope ends as it would without, and its scope leaves behind what is kept or
goes out with its result. -/
theorem tidy_tidied {host : Host} {args : List Value} {name : String} {f : Value} (hargs : TidyArgs args name f)
    {w w₁ : World} {known : List Tensor} (hw : Reachable w.engine known) {body : Routine}
    {r : Except Fault Value} (hf : Performs host f body r (w.withEngine (w.engine.opened name)) w₁)
    (hbody : ∀ s ∈ steps (w.engine.opened name) known body.calls, s.Admitted) (hpaired : Paired body.calls) :
    ∃ w₂ s, tidy args host w = ended r w₂ ∧ s.id = w.engine.nextScopeId ∧ s.name = name ∧
      Tidied s r w.engine w₁.engine w₂.engine := by
  have hsound := hw.sound
  have hopened : Sound (w.engine.opened name) known :=
    hsound.alike (alike_withScopes w.engine _ _) (hsound.stack.opened name)
  have hworks := hf.works
  rw [after_ok (run_routine body _)] at hworks
  have hinside := hworks.inside ((inside_opened w.engine name).play hsound.stack hopened hbody hpaired)
  obtain ⟨s, hid, hname, htidied⟩ :=
    tidied_closed (r := r) hsound.stack (hworks.sound (sound_play hopened hbody)) hinside
  refine ⟨w₁.withEngine (w₁.engine.closed (handedOut r)), s, ?_, hid, hname, htidied⟩
  rw [run_tidy hargs]
  exact run_scoped hf.ends

/-- A host whose functions all do what a program does. -/
def performing (body : Routine) (r : Tried Value) : Host :=
  ⟨fun _ _ w => ended r (w.withEngine (after body.run w.engine))⟩

theorem performs_performing (f : Value) (body : Routine) (r : Tried Value) (w : World) :
    Performs (performing body r) f body r w (w.withEngine (after body.run w.engine)) :=
  ⟨rfl,.refl _⟩
def outerWork : Routine := .call (.startScope "outer") <| .call (.make [1] .float32 (.numbers #[1])) .done

/-- A function inside the function keeps one tensor and returns another, of which a variable is made. -/
def nestedWork : Routine :=
  .tidy "inner"
    (.call (.make [1] .float32 (.numbers #[2])) <| .call (.make [1] .float32 (.numbers #[3])) <|
      .call (.keep ⟨2,[1],.float32⟩) .done)
    (.ok (.list [.tensor ⟨1,[1],.float32⟩])) <|
  .call (.newVariable ⟨1,[1],.float32⟩ true none) .done

def nestedResult : Tried Value := .ok (.record [("sum",.tensor ⟨1,[1],.float32⟩)])
def nestedWorld : World := ({} : World).withEngine (play {} outerWork.calls)
theorem reachable_nestedWorld : Reachable nestedWorld.engine [⟨0,[1],.float32⟩] := by
  refine ⟨outerWork,by decide +kernel,?_,rfl⟩
  exact .refl _
theorem nestedWork_admitted : ∀ s ∈ steps (nestedWorld.engine.opened "step") [⟨0,[1],.float32⟩] nestedWork.calls,
    s.Admitted := by
  decide +kernel

theorem tidy_tidied_nestedWork :
    TidyArgs [.str "step", .native "work" []] "step" (.native "work" []) ∧
      Reachable nestedWorld.engine [⟨0, [1], .float32⟩] ∧
      (∀ s ∈ steps (nestedWorld.engine.opened "step") [⟨0, [1], .float32⟩] nestedWork.calls, s.Admitted) ∧
      Paired nestedWork.calls ∧
      ∃ w₁ w₂ s, Performs (performing nestedWork nestedResult) (.native "work" []) nestedWork nestedResult
          (nestedWorld.withEngine (nestedWorld.engine.opened "step")) w₁ ∧
        tidy [.str "step", .native "work" []] (performing nestedWork nestedResult) nestedWorld =
          ended nestedResult w₂ ∧ s.id = nestedWorld.engine.nextScopeId ∧ s.name = "step" ∧
        Tidied s nestedResult nestedWorld.engine w₁.engine w₂.engine := by
  have hargs : TidyArgs [.str "step", .native "work" []] "step" (.native "work" []) := .named rfl rfl
  have hnested : nestedWork.Nested := ⟨⟨fun _ => rfl, fun _ => rfl, fun _ => rfl, trivial⟩, fun _ => rfl, trivial⟩
  have hpaired : Paired nestedWork.calls := hnested.paired
  have hf := performs_performing (.native "work" []) nestedWork nestedResult
    (nestedWorld.withEngine (nestedWorld.engine.opened "step"))
  exact ⟨hargs, reachable_nestedWorld, nestedWork_admitted, hpaired, _,
    (tidy_tidied hargs reachable_nestedWorld hf nestedWork_admitted hpaired).imp fun w₂ => fun ⟨s, h⟩ => ⟨s, hf, h⟩⟩

theorem tidy_performing (hargs : TidyArgs args name f) (body : Routine) (r : Tried Value) (w : World) : tidy args
    (performing body r) w = ended r (w.withEngine ((play (w.engine.opened name) body.calls).closed (handedOut r))) := by
  rw [run_tidy hargs,run_scoped (performs_performing f body r _).ends,after_ok (run_routine body _)]
  rfl

/-- A complex tensor made of two tensors, which nobody asks for. -/
def complexWork : Routine :=
  .call (.make [1] .float32 (.numbers #[1])) <| .call (.make [1] .float32 (.numbers #[2])) <|
    .call (.complex ⟨0,[1],.float32⟩ ⟨1,[1],.float32⟩) .done

def openWork : Routine := .call (.startScope "open") .done

/-- The parts of the complex tensor are kept, and disposed all the same; and where a function leaves a scope
open, that scope is closed in the place of its own, which stays. -/
theorem tidy_not_exact :
    (∃ w₁ w₂ : World, Performs (performing complexWork (.ok .absent)) (.native "work" []) complexWork (.ok .absent)
        (({} : World).withEngine (({} : Engine).opened unnamed)) w₁ ∧
      tidy [.native "work" []] (performing complexWork (.ok .absent)) {} = ended (.ok .absent) w₂ ∧
      (w₁.engine.cellAt 3).kept = true ∧ (w₁.engine.cellAt 3).disposed = false ∧
      (w₂.engine.cellAt 3).disposed = true) ∧
    ∃ w₂ : World, tidy [.native "work" []] (performing openWork (.ok .absent)) {} = ended (.ok .absent) w₂ ∧
      w₂.engine.scopes.map Scope.name = [unnamed] := by
  have hargs : TidyArgs [.native "work" []] unnamed (.native "work" []) := .plain rfl rfl
  have hf := performs_performing (.native "work" []) complexWork (.ok .absent)
    (({} : World).withEngine (({} : Engine).opened unnamed))
  rw [after_ok (run_routine complexWork _), engine_withEngine] at hf
  have hcomplex := tidy_performing hargs complexWork (.ok .absent) {}
  have hleft := tidy_performing hargs openWork (.ok .absent) {}
  have hkept : ((play (({} : Engine).opened unnamed) complexWork.calls).cellAt 3).kept = true := by decide +kernel
  have hlive : ((play (({} : Engine).opened unnamed) complexWork.calls).cellAt 3).disposed = false := by decide +kernel
  have hgone : (((play (({} : Engine).opened unnamed) complexWork.calls).closed []).cellAt 3).disposed = true := by
    decide +kernel
  have hopen : ((play (({} : Engine).opened unnamed) openWork.calls).closed []).scopes.map Scope.name =
      [unnamed] := by
    decide +kernel
  refine ⟨⟨_, _, hf, hcomplex, ?_, ?_, ?_⟩, ⟨_, hleft, ?_⟩⟩
  · rw [engine_withEngine]
    exact hkept
  · rw [engine_withEngine]
    exact hlive
  · rw [engine_withEngine]
    exact hgone
  · rw [engine_withEngine]
    exact hopen
end TensorKit.Script
