import Mathlib
import TensorKit.Ops.Basic

/-! # What the functions of the engine do to its state

Each function of the engine is given as an equation: its answer, and the state it leaves. Cells and buffers are read
through two total views, so that what follows never opens an array again.
-/
namespace TensorKit.Engine
variable {α β : Type} (result : Tensors)
variable {e' : Engine} {a : α} {fuel : Nat} (x : Tensor) (e : Engine) (i d : Nat) (b : Option Buffer) (t : Tensor)
  (c : Cell)

variable {f : Fault} {trainable : Bool} {name : Option String}
/-- The state in which an action leaves the engine, whether it answers or fails. -/
def after (x : Eng α) (e : Engine) : Engine := match x e with
  | .ok _ e' => e'
  | .error _ e' => e'

/-- What an action answers, or its fault. -/
def answer (x : Eng α) (e : Engine) : Tried α := match x e with
  | .ok a _ => .ok a
  | .error f _ => .error f

variable {e}
theorem after_ok {x : Eng α} (h : x e = .ok a e') : after x e = e' := by simp only [after,h]
theorem answer_ok {x : Eng α} (h : x e = .ok a e') : answer x e = .ok a := by simp only [answer,h]
theorem after_error {x : Eng α} (h : x e = .error f e') : after x e = e' := by simp only [after,h]
theorem answer_error {x : Eng α} (h : x e = .error f e') : answer x e = .error f := by simp only [answer,h]
variable (e)
@[simp] theorem run_pure (a : α) (e : Engine) : (pure a : Eng α) e = .ok a e := rfl
@[simp] theorem run_get : (get : Eng Engine) e = .ok e e := rfl
@[simp] theorem run_modify (f : Engine → Engine) (e : Engine) : (modify f : Eng Unit) e = .ok () (f e) := rfl

theorem run_bind (x : Eng α) (k : α → Eng β) (e : Engine) : (x >>= k) e = match x e with
      | .ok a e' => k a e'
      | .error f e' => .error f e' := by
  change EStateM.bind x k e = _
  unfold EStateM.bind
  cases x e <;> rfl

theorem run_bind_ok {x : Eng α} {k : α → Eng β} {e : Engine} (h : x e = .ok a e') : (x >>= k) e = k a e' := by
  rw [run_bind,h]

theorem run_map (f : α → β) (x : Eng α) (e : Engine) : (f <$> x) e = match x e with
      | .ok a e' => .ok (f a) e'
      | .error g e' => .error g e' := by
  change EStateM.map f x e = _
  unfold EStateM.map
  cases x e <;> rfl

theorem run_forIn_yield (xs : List α) {f : α → PUnit → Eng (ForInStep PUnit)} (h : ∀ a e,
    f a ⟨⟩ e = .ok (.yield ⟨⟩) (g e a)) (e : Engine) : (forIn xs .unit f : Eng PUnit) e = .ok ⟨⟩ (xs.foldl g e) := by
  induction xs generalizing e with
  | nil => rfl
  | cons a rest ih =>
    rw [List.forIn_cons,run_bind,h]
    simpa only [List.foldl_cons] using ih (g e a)

/-! ## Views of cells and buffers -/

/-- The cell of a tensor. A tensor that was never made counts as disposed. -/
def cellAt (e : Engine) (i : Nat) : Cell := e.cells.getD i { dataId := 0, disposed := true }

/-- The buffer under a number, if data is registered there. -/
def bufferAt (e : Engine) (d : Nat) : Option Buffer := e.buffers.getD d none

/-- The buffer with the data of a tensor. -/
abbrev bufferOf (e : Engine) (t : Tensor) : Option Buffer := e.bufferAt (e.cellAt t.id).dataId

theorem getD_buffers (d : Nat) : e.buffers.getD d none = e.bufferAt d := rfl
def withCell (e : Engine) (i : Nat) (f : Cell → Cell) : Engine := { e with cells := e.cells.modify i f }
def withBuffer (e : Engine) (d : Nat) (b : Option Buffer) : Engine := { e with buffers := e.buffers.setIfInBounds d b }
def withNew (e : Engine) (c : Cell) : Engine := { e with cells := e.cells.push c }
variable {e}
theorem cellAt_of_le {i : Nat} (h : e.cells.size ≤ i) : e.cellAt i = { dataId := 0, disposed := true } := by
  simp [cellAt,h]

theorem lt_size_of_live {i : Nat} (h : (e.cellAt i).disposed = false) : i < e.cells.size := by
  by_contra hi
  rw [cellAt_of_le (by omega)] at h
  cases h
theorem lt_size_of_variable {i : Nat} (h : (e.cellAt i).variableInfo.isSome) : i < e.cells.size := by
  by_contra hi
  rw [cellAt_of_le (by omega)] at h
  cases h
theorem bufferAt_of_le {d : Nat} (h : e.buffers.size ≤ d) : e.bufferAt d = none := by simp [bufferAt,h]
theorem lt_size_of_bufferAt {d : Nat} {b : Buffer} (h : e.bufferAt d = some b) : d < e.buffers.size := by
  by_contra hd
  rw [bufferAt_of_le (by omega)] at h
  cases h

variable (e)
theorem cellAt_withCell (j : Nat) (f : Cell → Cell) :
    (e.withCell i f).cellAt j = if i = j ∧ i < e.cells.size then f (e.cellAt j) else e.cellAt j := by
  simp only [withCell,cellAt,Array.getD_eq_getD_getElem?,Array.getElem?_modify]
  by_cases hij : i = j
  · subst hij
    by_cases hi : i < e.cells.size
    · simp [hi]
    · simp [hi]
  · simp [hij]

theorem cellAt_withCell_self {e : Engine} {i : Nat} (h : i < e.cells.size) (f : Cell → Cell) :
    (e.withCell i f).cellAt i = f (e.cellAt i) := by
  simp [cellAt_withCell,h]
theorem cellAt_withCell_of_ne {e : Engine} {i j : Nat} (h : i ≠ j) (f : Cell → Cell) :
    (e.withCell i f).cellAt j = e.cellAt j := by
  simp [cellAt_withCell,h]

theorem bufferAt_withBuffer (k : Nat) (b : Option Buffer) :
    (e.withBuffer d b).bufferAt k = if d = k ∧ d < e.buffers.size then b else e.bufferAt k := by
  simp only [withBuffer,bufferAt]
  by_cases hdk : d = k
  · subst hdk
    by_cases hd : d < e.buffers.size
    · simp [hd]
    · simp [hd]
  · simp [hdk]

theorem cellAt_withNew (i : Nat) : (e.withNew c).cellAt i = if i = e.cells.size then c else e.cellAt i := by
  simp only [withNew,cellAt,Array.getD_eq_getD_getElem?,Array.getElem?_push]
  by_cases hi : i = e.cells.size
  · simp [hi]
  · simp [hi]

@[simp] theorem bufferAt_withCell (f : Cell → Cell) : (e.withCell i f).bufferAt d = e.bufferAt d := rfl
@[simp] theorem bufferAt_withNew (d : Nat) : (e.withNew c).bufferAt d = e.bufferAt d := rfl
@[simp] theorem size_withCell (f : Cell → Cell) : (e.withCell i f).cells.size = e.cells.size := by simp [withCell]
@[simp] theorem size_withNew : (e.withNew c).cells.size = e.cells.size + 1 := by simp [withNew]
@[simp] theorem size_withBuffer : (e.withBuffer d b).buffers.size = e.buffers.size := by simp [withBuffer]

/-! ## Counting and tracking -/

def tracked (e : Engine) (t : Tensor) : Engine := match e.scopes with
  | [] => e
  | s :: rest =>
    { e.withCell t.id (fun c => { c with scopeId := some s.id }) with
      scopes := { s with track := t :: s.track } :: rest }

/-- Bytes of a tensor that are known before anything is written. -/
def initialBytes (t : Tensor) : Nat := if t.dtype == .complex64 || t.dtype == .string then 0 else t.size * t.dtype.bytes

/-- Counts a tensor and its use of its data, which is registered anew where it is not. -/
def counted (e : Engine) (t : Tensor) : Engine :=
  let d := (e.cellAt t.id).dataId
  let e' : Engine := { e with
    numTensors := e.numTensors + 1
    numStringTensors := e.numStringTensors + (if t.dtype == .string then 1 else 0) }
  match e.bufferAt d with
  | some b => e'.withBuffer d (some { b with refCount := b.refCount + 1 })
  | none =>
    let e'' : Engine := { e' with
      numDataBuffers := e.numDataBuffers + 1
      numBytes := e.numBytes + initialBytes t }
    e''.withBuffer d (some ⟨t.dtype,.absent,initialBytes t,1⟩)

/-- Counts a tensor; one that is not a variable is tracked too. -/
def enrolled (e : Engine) (t : Tensor) : Engine :=
  if (e.cellAt t.id).variableInfo.isNone then (e.counted t).tracked t else e.counted t

def written (e : Engine) (t : Tensor) (data : Data) : Engine :=
  let d := (e.cellAt t.id).dataId
  match e.bufferAt d with
  | none => e
  | some b =>
    if b.dtype == .string then
      let e' : Engine := { e with numBytes := e.numBytes + data.stringBytes - b.bytes }
      e'.withBuffer d (some { b with data, bytes := data.stringBytes })
    else e.withBuffer d (some { b with data })

variable (e : Engine) (shape : Shape) (dtype : DType)
@[simp] theorem run_cell : cell t e = .ok (e.cellAt t.id) e := rfl
@[simp] theorem run_modifyCell (f : Cell → Cell) (e : Engine) : modifyCell t f e = .ok () (e.withCell t.id f) := rfl
@[simp] theorem run_setBuffer : setBuffer d b e = .ok () (e.withBuffer d b) := rfl
@[simp] theorem run_newCell (info : Option VariableInfo) (e : Engine) :
    newCell d info e = .ok e.cells.size (e.withNew { dataId := d, variableInfo := info }) := rfl

@[simp] theorem run_track : track t e = .ok () (e.tracked t) := by
  simp only [track,tracked,run_bind,run_get]
  cases e.scopes with
  | nil | cons s rest => rfl

@[simp] theorem run_register : register t e = .ok () (e.enrolled t) := by
  simp only [register,enrolled,counted,run_bind,run_cell,run_modify,run_get,getD_buffers e]
  cases e.bufferAt (e.cellAt t.id).dataId with
  | none =>
    cases hv : (e.cellAt t.id).variableInfo with
    | none | some v => simp [run_bind,initialBytes]
  | some b =>
    cases hv : (e.cellAt t.id).variableInfo with
    | none | some v => simp [run_bind]

@[simp] theorem run_write (data : Data) (e : Engine) : write t data e = .ok () (e.written t data) := by
  simp only [write,written,run_bind,run_cell,run_get,getD_buffers]
  cases e.bufferAt (e.cellAt t.id).dataId with
  | none => rfl
  | some b =>
    by_cases hs : b.dtype = .string
    · simp [hs,run_bind]
    · simp [hs]

/-! ## Making and disposing -/

/-- A view of a tensor as the next one to be made. -/
def viewOf (e : Engine) (x : Tensor) : Tensor := ⟨e.cells.size,x.shape,x.dtype⟩

/-- The engine with a cell on the data of a tensor, not counted yet. -/
abbrev sharing (e : Engine) (x : Tensor) : Engine := e.withNew { dataId := (e.cellAt x.id).dataId }

@[simp] theorem run_share (e : Engine) :
    share x shape dtype e = .ok ⟨e.cells.size,shape,dtype⟩ ((e.sharing x).enrolled ⟨e.cells.size,shape,dtype⟩) := by
  simp [share,run_bind,run_map]

/-- Room for new data with a first tensor on it, not registered yet. -/
def withRoom (e : Engine) : Engine := { e with buffers := e.buffers.push none }.withNew { dataId := e.buffers.size }

theorem run_make_written (h : data ≠ .absent) (shape : Shape) (dtype : DType) (e : Engine) : make shape
    dtype data e = .ok ⟨e.cells.size,shape,dtype⟩ ((e.withRoom.enrolled ⟨e.cells.size,shape,dtype⟩).written
    ⟨e.cells.size,shape,dtype⟩ data) := by
  simp only [make,run_bind]
  cases data with
  | absent => exact absurd rfl h
  | numbers values | strings values | complex re im => simp [withRoom]

theorem run_make (data : Data) (e : Engine) : ∃ e', make shape dtype data e =
    .ok ⟨e.cells.size,shape,dtype⟩ e' ∧ (e' = e.withRoom.enrolled ⟨e.cells.size,shape,dtype⟩ ∨ e' =
    (e.withRoom.enrolled ⟨e.cells.size,shape,dtype⟩).written ⟨e.cells.size,shape,dtype⟩ data) := by
  by_cases h : data = .absent
  · simp only [make,run_bind,run_register,h]
    exact ⟨_,rfl,.inl rfl⟩
  · exact ⟨_,run_make_written h shape dtype e,.inr rfl⟩

/-- One use of a buffer less. The last use takes the buffer away. -/
def unused (e : Engine) (t : Tensor) (b : Buffer) : Engine :=
  let d := (e.cellAt t.id).dataId
  let e' : Engine := { e with
    numTensors := e.numTensors - 1
    numStringTensors := e.numStringTensors - (if t.dtype == .string then 1 else 0) }
  if b.refCount ≤ 1 then
    let e'' : Engine := { e' with
      numBytes := e.numBytes - (if t.dtype == .complex64 then 0 else b.bytes)
      numDataBuffers := e.numDataBuffers - 1 }
    e''.withBuffer d none
  else e'.withBuffer d (some { b with refCount := b.refCount - 1 })

/-- Parts that a buffer leaves behind when one use of it is taken back. -/
def leftovers (b : Buffer) : Tensors := if b.refCount ≤ 1 then b.data.parts else []

variable {e} {t}
theorem run_giveBack_none (h : e.bufferOf t = none) : giveBack t e = .ok [] e := by
  have hb : e.buffers.getD (e.cellAt t.id).dataId none = none := h
  simp only [giveBack,run_bind,run_cell,run_get,hb,run_pure]

theorem run_giveBack_some {b : Buffer} (h : e.bufferOf t = some b) :
    giveBack t e = .ok (leftovers b) (e.unused t b) := by
  have hb : e.buffers.getD (e.cellAt t.id).dataId none = some b := h
  simp only [giveBack,unused,leftovers,run_bind,run_cell,run_get,hb]
  by_cases hr : b.refCount ≤ 1
  · simp [hr,run_bind,run_map]
  · simp [hr,run_map]

def marked (e : Engine) (i : Nat) : Engine := e.withCell i fun c => { c with disposed := true }

/-- A part that nobody uses any more goes, with its own use of data. -/
def retired (fuel : Nat) (e : Engine) (p : Tensor) : Engine :=
  if (e.cellAt p.id).disposed then e else (after (releaseWithin fuel p) e).marked p.id

theorem run_releaseWithin_succ (h : ∀ t (e : Engine), releaseWithin fuel t e = .ok () (after (releaseWithin fuel t) e))
    (hg : giveBack t e = .ok ps e') : releaseWithin (fuel + 1) t e = .ok () (ps.foldl (retired fuel) e') := by
  rw [releaseWithin]
  simp only [run_bind,hg]
  rw [run_forIn_yield ps (g := retired fuel)]
  · rfl
  · intro p e
    by_cases hp : (e.cellAt p.id).disposed = true
    · simp [run_bind,retired,hp]
    · simp [run_bind,run_map,retired,hp,h p e,marked]

theorem run_releaseWithin (fuel : Nat) (t : Tensor) (e : Engine) :
    releaseWithin fuel t e = .ok () (after (releaseWithin fuel t) e) := by
  induction fuel generalizing t e with
  | zero => rfl
  | succ fuel ih =>
    cases hb : e.bufferOf t with
    | none =>
      have h := run_releaseWithin_succ ih (run_giveBack_none hb)
      rw [after_ok h,h]
    | some b =>
      have h := run_releaseWithin_succ ih (run_giveBack_some hb)
      rw [after_ok h,h]

theorem after_releaseWithin_none (h : e.bufferOf t = none) : after (releaseWithin fuel t) e = e := by
  cases fuel with
  | zero => rfl
  | succ fuel => exact after_ok (run_releaseWithin_succ (run_releaseWithin fuel) (run_giveBack_none h))

theorem after_releaseWithin_some {b : Buffer} (h : e.bufferOf t = some b) :
    after (releaseWithin (fuel + 1) t) e = (leftovers b).foldl (retired fuel) (e.unused t b) :=
  after_ok (run_releaseWithin_succ (run_releaseWithin fuel) (run_giveBack_some h))
def released (e : Engine) (t : Tensor) : Engine := after (releaseWithin ((e.cellAt t.id).dataId + 1) t) e

variable (e) (t)
@[simp] theorem run_release : release t e = .ok () (e.released t) := run_releaseWithin _ t e

def discarded (e : Engine) (t : Tensor) : Engine := match (e.cellAt t.id).variableInfo with
  | some v =>
    let e' : Engine := { e.released t with
      registered := (e.released t).registered.filter (·.1 != v.name) }
    e'.marked t.id
  | none => if (e.cellAt t.id).disposed then e else (e.released t).marked t.id

@[simp] theorem run_dispose : dispose t e = .ok () (e.discarded t) := by
  simp only [dispose,discarded,run_bind,run_cell]
  cases hv : (e.cellAt t.id).variableInfo with
  | some v => simp [run_bind,forgetVariable,marked]
  | none =>
    by_cases hd : (e.cellAt t.id).disposed = true
    · simp [hd]
    · simp [hd,run_bind,marked]

@[simp] theorem run_keep : keep t e = .ok t (e.withCell t.id fun c => { c with kept := true }) := rfl

/-! ## Scopes -/

def opened (e : Engine) (name : String) : Engine :=
  { e with scopes := ⟨e.nextScopeId,name,[]⟩ :: e.scopes, nextScopeId := e.nextScopeId + 1 }

/-- What the end of a scope does to a tensor made in it. -/
def swept (e : Engine) (t : Tensor) : Engine :=
  if !(e.cellAt t.id).kept && !result.any (·.id == t.id) then e.discarded t else e

/-- What the end of a scope does to a tensor of its result. -/
def adopted (scopeId : Nat) (e : Engine) (t : Tensor) : Engine :=
  if !(e.cellAt t.id).kept && (e.cellAt t.id).scopeId == some scopeId then e.tracked t else e

def closed (e : Engine) (result : Tensors) : Engine := match e.scopes with
  | [] => e
  | s :: rest => result.foldl (adopted s.id) { s.track.reverse.foldl (swept result) e with scopes := rest }

@[simp] theorem run_startScope (name : String) (e : Engine) : startScope name e = .ok () (e.opened name) := rfl

@[simp] theorem run_endScope : endScope result e = .ok () (e.closed result) := by
  simp only [endScope,closed,run_bind,run_get]
  cases e.scopes with
  | nil => rfl
  | cons s rest =>
    simp only [run_bind]
    rw [run_forIn_yield s.track.reverse (g := swept result)]
    · simp only [run_modify]
      rw [run_forIn_yield result (g := adopted s.id)]
      · rfl
      · intro t e
        simp only [adopted,run_bind,run_cell]
        split
        · simp [run_map]
        · rfl
    · intro t e
      simp only [swept,run_bind,run_cell]
      split
      · simp [run_map]
      · rfl

theorem run_scopedWith (tensors : α → Tensors) (name : String) (x : Eng α) (e : Engine) :
    scopedWith tensors name x e = match x (e.opened name) with
      | .ok r e' => .ok r (e'.closed (tensors r))
      | .error f e' => .error f (e'.closed []) := by
  have hopen : (liftM (startScope name) : Eng Unit) e = .ok () (e.opened name) := rfl
  have hclose : ∀ ts e, (liftM (endScope ts) : Eng Unit) e = .ok () (e.closed ts) := run_endScope
  simp only [scopedWith,run_bind,hopen,tryCatch,tryCatchThe,MonadExceptOf.tryCatch,EStateM.tryCatch]
  cases x (e.opened name) with
  | ok r e' | error f e' =>
    simp only [hclose]
    rfl

/-! ## Variables -/

def nameFor (e : Engine) (name : Option String) : String := name.getD (toString e.nextVariableId)

/-- A variable without a name of its own uses up a number. -/
def numbered (e : Engine) (name : Option String) : Engine :=
  { e with nextVariableId := e.nextVariableId + (if name.isNone then 1 else 0) }

/-- The engine with a variable on the data of a tensor, counted and not yet in the register. -/
def withVariable (e : Engine) (x : Tensor) (trainable : Bool) (name : Option String) : Engine :=
  ((e.numbered name).withNew
    { dataId := (e.cellAt x.id).dataId, variableInfo := some ⟨e.nameFor name,trainable⟩ }).enrolled
      ⟨e.cells.size,x.shape,x.dtype⟩

@[simp] theorem run_variableName (name : Option String) (e : Engine) :
    variableName name e = .ok (e.nameFor name) (e.numbered name) := by
  cases name with
  | none | some n => rfl

/-- A variable whose name is taken is given back at once. -/
theorem run_newVariable {x : Tensor} {e : Engine} (he : e.withVariable x trainable name = e') :
    newVariable x trainable name e = if e'.registered.any (·.1 == e.nameFor name)
      then .error (.failure s!"Variable with name {e.nameFor name} was already registered")
        ((e'.released ⟨e.cells.size,x.shape,x.dtype⟩).marked e.cells.size) else .ok ⟨e.cells.size,x.shape,x.dtype⟩
        { e' with registered := e'.registered ++ [(e.nameFor name,⟨e.cells.size,x.shape,x.dtype⟩)] } := by
  rw [newVariable,run_bind_ok (run_variableName name e),run_bind_ok (run_cell x (e.numbered name)),
    run_bind_ok (run_newCell _ _ _),run_bind_ok (run_register _ _)]
  change (if (e.withVariable x trainable name).registered.any (·.1 == e.nameFor name) then _ else _ :
    Op) (e.withVariable x trainable name) = _
  rw [he]
  split
  · rw [run_bind_ok (run_release _ _)]
    rfl
  · rfl

theorem after_assign_eq (v x : Tensor) (e : Engine) :
    after (assign v x) e = if x.dtype = v.dtype ∧ x.shape = v.shape then ((e.released v).withCell v.id fun c =>
    { c with dataId := ((e.released v).cellAt x.id).dataId }).enrolled v else e := by
  unfold assign after
  by_cases hd : x.dtype = v.dtype
  · by_cases hs : x.shape = v.shape
    · simp [run_bind,hd,hs]
    · simp [hd,hs]
      rfl
  · simp [hd]
    rfl

/-! ## Complex data -/

theorem run_insideKernel (x : Eng α) (e : Engine) :
    insideKernel x e = match x { e with kernelDepth := e.kernelDepth + 1 } with
      | .ok r e' => .ok r { e' with kernelDepth := e'.kernelDepth - 1 }
      | .error f e' => .error f { e' with kernelDepth := e'.kernelDepth - 1 } := by
  have hup : (liftM (modify fun e => { e with kernelDepth := e.kernelDepth + 1 } : Eng Unit) : Eng Unit) e =
    .ok () { e with kernelDepth := e.kernelDepth + 1 } := rfl
  simp only [insideKernel,run_bind,hup,tryCatch,tryCatchThe,MonadExceptOf.tryCatch,EStateM.tryCatch]
  cases x { e with kernelDepth := e.kernelDepth + 1 } with
  | ok r e' | error f e' => rfl

/-- The record of what was computed, which neither data nor scopes depend on. -/
def withRecord (e : Engine) (tape : Array TapeNode) (nextNodeId depth : Nat) : Engine :=
  { e with tape, nextNodeId, kernelDepth := depth }

theorem run_isTapeOn : (liftM isTapeOn : Eng Bool) e = .ok (e.gradientDepth > 0 && e.kernelDepth == 0) e := rfl

theorem run_scopeName : ∃ name, (liftM scopeName : Eng String) e = .ok name e := by
  show ∃ name, scopeName e = .ok name e
  rw [scopeName,run_bind_ok (run_get e)]
  cases e.scopes with
  | nil | cons s rest => exact ⟨_,rfl⟩

theorem run_kernel (inputs : Named Tensor) (rule : Option Rule) {e : Engine}
    (h : forward { e with kernelDepth := e.kernelDepth + 1 } = .ok (y,[]) e') :
    ∃ tape node depth, runKernel inputs rule forward e = .ok y (e'.withRecord tape node depth) := by
  obtain ⟨name,hname⟩ := run_scopeName e
  rw [runKernel,runKernelsWith,runSaving,run_bind_ok (run_isTapeOn e),run_bind_ok hname,run_bind,run_insideKernel]
  simp only [run_bind,h]
  cases (e.gradientDepth > 0 && e.kernelDepth == 0) with
  | false | true => exact ⟨_,_,_,rfl⟩

theorem run_kernel1 (rule : Option Rule) {e : Engine} (h : forward { e with kernelDepth := e.kernelDepth + 1 } =
    .ok y e') : ∃ tape node depth, Ops.kernel1 x rule forward e = .ok y (e'.withRecord tape node depth) :=
  run_kernel [("$x",x)] rule (run_bind_ok h)

/-- The engine in the scope and the kernel in which a view is made. -/
abbrev inClone (e : Engine) (depth : Nat) : Engine := (e.opened "clone").withRecord e.tape e.nextNodeId depth

theorem run_clone : ∃ depth tape node depth', Ops.clone x e = .ok (e.viewOf x)
    (((((e.inClone depth).sharing x).enrolled (e.viewOf x)).withRecord tape node depth').closed [e.viewOf x]) := by
  have h := run_share x x.shape x.dtype (e.inClone (e.kernelDepth + 1))
  obtain ⟨tape,node,depth,hk⟩ := run_kernel1 x (some .clone) (e := e.opened "clone") h
  refine ⟨e.kernelDepth + 1,tape,node,depth,?_⟩
  rw [Ops.clone,inScope,run_scopedWith,hk]
  rfl

theorem answer_clone : Ops.clone x e = .ok (e.viewOf x) (after (Ops.clone x) e) := by
  obtain ⟨_,_,_,_,h⟩ := run_clone x e
  rw [after_ok h,h]
def keptAt (e : Engine) (i : Nat) : Engine := e.withCell i fun c => { c with kept := true }

theorem run_makeComplex (re im : Tensor) {e e₁ e₂ e₃ : Engine} (h₁ : after (make re.shape .complex64 .absent) e = e₁)
    (h₂ : after (Ops.clone re) e₁ = e₂) (h₃ : after (Ops.clone im) e₂ = e₃) : Ops.makeComplex re im e =
    .ok ⟨e.cells.size,re.shape,.complex64⟩ (((e₃.keptAt (e₁.viewOf re).id).keptAt (e₂.viewOf im).id).written
    ⟨e.cells.size,re.shape,.complex64⟩ (.complex (e₁.viewOf re) (e₂.viewOf im))) := by
  obtain ⟨e',hm,-⟩ := run_make re.shape .complex64 .absent e
  have he : e₁ = e' := h₁.symm.trans (after_ok hm)
  have hre := answer_clone re e₁
  have him := answer_clone im e₂
  rw [h₂] at hre
  rw [h₃] at him
  rw [Ops.makeComplex,run_bind_ok hm,← he,run_bind_ok hre,run_bind_ok him,run_bind_ok (run_keep _ _),
    run_bind_ok (run_keep _ _),run_bind_ok (run_write _ _ _)]
  rfl
end TensorKit.Engine
