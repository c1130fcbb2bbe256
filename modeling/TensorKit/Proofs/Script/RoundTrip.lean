import TensorKit.Proofs.Engine.Variables
import TensorKit.Proofs.Weights.Places
import TensorKit.Proofs.Weights.Numbers
import TensorKit.Script.Core.Weights

/-! # Tensors from bytes

Reading weights from bytes makes one new tensor for each of them and leaves alone all that was there. The
new tensors hold the elements that were written.
-/
open List
namespace TensorKit.Engine
/-- The tensors and the data that were there are as they were. -/
structure Extends (e e' : Engine) : Prop where
  cells : e.cells.size ≤ e'.cells.size
  cell : ∀ i < e.cells.size, e'.cellAt i = e.cellAt i
  buffers : e.buffers.size ≤ e'.buffers.size
  buffer : ∀ d < e.buffers.size, e'.bufferAt d = e.bufferAt d

/-- A live tensor on data that is there, and what it holds. -/
structure Reads (e : Engine) (t : Tensor) (data : Data) : Prop where
  live : (e.cellAt t.id).disposed = false
  place : (e.cellAt t.id).dataId < e.buffers.size
  data : e.content t.id = data

variable {e e' e'' : Engine}
theorem Extends.refl (e : Engine) : Extends e e := ⟨le_rfl,fun _ _ => rfl,le_rfl,fun _ _ => rfl⟩

theorem Extends.trans (h : Extends e e') (h' : Extends e' e'') : Extends e e'' where
  cells := h.cells.trans h'.cells
  cell i hi := (h'.cell i (hi.trans_le h.cells)).trans (h.cell i hi)
  buffers := h.buffers.trans h'.buffers
  buffer d hd := (h'.buffer d (hd.trans_le h.buffers)).trans (h.buffer d hd)

theorem Reads.extends {data : Data} (h : Reads e t data) (he : Extends e e') : Reads e' t data := by
  have hcell := he.cell t.id (lt_size_of_live h.live)
  refine ⟨by rw [hcell]; exact h.live,by rw [hcell]; exact h.place.trans_le he.buffers,?_⟩
  rw [content,hcell,he.buffer _ h.place]
  exact h.data

theorem run_make_reads (h : data ≠ .absent) (shape : Shape) (dtype : DType) (e : Engine) : ∃ e', make shape
    dtype data e = .ok ⟨e.cells.size,shape,dtype⟩ e' ∧ Extends e e' ∧ Reads e' ⟨e.cells.size,shape,dtype⟩ data := by
  let t : Tensor := ⟨e.cells.size,shape,dtype⟩
  have hroom : e.withRoom.buffers.size = e.buffers.size + 1 := by simp [withRoom,withNew]
  have hcell : e.withRoom.cellAt t.id = { dataId := e.buffers.size } := by rw [withRoom,cellAt_withNew,if_pos rfl]
  have hlike := alike_enrolled e.withRoom t
  have hdata : ((e.withRoom.enrolled t).cellAt t.id).dataId = e.buffers.size := dataId_withRoom e rfl
  have hbuffers : (e.withRoom.enrolled t).buffers.size = e.buffers.size + 1 := by
    rw [hlike.buffers,(size_counted _ t).2,hroom]
  have hbuffer d : (e.withRoom.enrolled t).bufferAt d =
      if e.buffers.size = d then some (e.withRoom.claimed t) else e.bufferAt d := by
    rw [hlike.bufferAt,bufferAt_counted,hcell,hroom]
    by_cases hd : e.buffers.size = d
    · rw [if_pos ⟨hd,Nat.lt_succ_self _⟩,if_pos hd]
    · rw [if_neg (hd ·.1),if_neg hd]
      exact bufferAt_withPlace e d
  refine ⟨_,run_make_written h shape dtype e,⟨?_,fun i hi => ?_,?_,fun d hd => ?_⟩,?_,?_,?_⟩
  · rw [(written_frame _ t data).1,hlike.size,(size_counted _ t).1,withRoom,size_withNew]
    exact Nat.le_succ _
  · rw [cellAt_written,cellAt_enrolled_of_ne (Nat.ne_of_gt hi),withRoom,cellAt_withNew,if_neg (Nat.ne_of_lt hi)]
    rfl
  · rw [(written_frame _ t data).2.1,hbuffers]
    exact Nat.le_succ _
  · rw [bufferAt_written,hdata,if_neg (by omega),hbuffer,if_neg (by omega)]
  · rw [cellAt_written,hlike.disposed,cellAt_counted,hcell]
  · rw [cellAt_written,(written_frame _ t data).2.1,hdata,hbuffers]
    exact Nat.lt_succ_self _
  · rw [content,cellAt_written,bufferAt_written,if_pos rfl,hdata,hbuffer,if_pos rfl]
    exact filled_data _ data
end TensorKit.Engine
namespace TensorKit.Script
open Engine Weights
def dataOfEntry (w : Entry) : Data := match w.elements with
  | .words ws => .numbers (ws.map (numberOfWord w.dtype)).toArray
  | .flags bs => .numbers (bs.map UInt8.toFloat).toArray
  | .texts ts => .strings (ts.map ofBytes).toArray

structure Restores (e : Engine) (named : String × Tensor) (w : Entry) : Prop where
  name : named.1 = w.name
  shape : named.2.shape = w.shape
  dtype : named.2.dtype = w.dtype
  reads : Reads e named.2 (dataOfEntry w)

theorem Restores.extends (h : Restores e named w) (he : Extends e e') : Restores e' named w :=
  ⟨h.name,h.shape,h.dtype,h.reads.extends he⟩
theorem ofName?_name (dtype : DType) : DType.ofName? dtype.name = some dtype := by cases dtype <;> decide

variable {spec : Spec Float} {d : Decoded Float} {next : Nat}
def dtypeOfDecoded (spec : Spec Float) : Decoded Float → DType
  | .stored (.texts _) => .string
  | _ => (DType.ofName? spec.dtype).getD .float32

def dataOfDecoded (spec : Spec Float) (d : Decoded Float) : Data :=
  let dtype := (DType.ofName? spec.dtype).getD .float32
  match d with
  | .numbers xs => .numbers (xs.map dtype.store).toArray
  | .stored (.words ws) => .numbers (ws.map (numberOfWord dtype)).toArray
  | .stored (.flags bs) => .numbers (bs.map UInt8.toFloat).toArray
  | .stored (.texts ts) => .strings (ts.map ofBytes).toArray

structure Holds (e : Engine) (t : Tensor) (spec : Spec Float) (d : Decoded Float) : Prop where
  shape : t.shape = spec.shape
  dtype : t.dtype = dtypeOfDecoded spec d
  reads : Reads e t (dataOfDecoded spec d)

theorem Holds.extends (h : Holds e t spec d) (he : Extends e e') : Holds e' t spec d :=
  ⟨h.shape,h.dtype,h.reads.extends he⟩

theorem run_tensorOfDecoded_of_count (h : spec.shape.size = d.count) (e : Engine) :
    ∃ t e', tensorOfDecoded spec d e = .ok t e' ∧ Extends e e' ∧ Holds e' t spec d := by
  have hmake : tensorOfDecoded spec d = make spec.shape (dtypeOfDecoded spec d) (dataOfDecoded spec d) := by
    have hcount : (spec.shape.size != d.count) = false := by simp [h]
    simp only [tensorOfDecoded,hcount]
    cases d with
    | numbers xs => rfl
    | stored elements => cases elements <;> rfl
  have hdata : dataOfDecoded spec d ≠ .absent := by
    unfold dataOfDecoded
    split <;> simp
  obtain ⟨e',hmade,hextends,hreads⟩ := run_make_reads hdata spec.shape (dtypeOfDecoded spec d) e
  exact ⟨_,e',by rw [hmake,hmade],hextends,rfl,rfl,hreads⟩

def members (ts : Named Tensor) : Named Value := ts.map fun (n,t) => (n,.tensor t)

/-- One step of reading: the weight at the offset becomes a member under its name. -/
def decodeNext (bs : Bytes) (found : Named Value × Nat) (spec : Spec Float) : Eng (Named Value × Nat) := do
  let (d,next) ← decodeOne doubles bs found.2 spec
  let t ← tensorOfDecoded spec d
  return (found.1.put spec.name (.tensor t),next)

theorem decodeMembers_eq (bs : Bytes) (specs : List (Spec Float)) :
    decodeMembers bs specs = specs.foldlM (decodeNext bs) ([],0) := rfl

theorem run_decodeNext_of_count (hone : decodeOne doubles bs offset spec = .ok (d,next)) (hcount : spec.shape.size =
    d.count) (out : Named Value) (e : Engine) : ∃ t e', decodeNext bs (out,offset) spec e =
    .ok (out.put spec.name (.tensor t),next) e' ∧ Extends e e' ∧ Holds e' t spec d := by
  obtain ⟨t,e',hrun,hextends,hholds⟩ := run_tensorOfDecoded_of_count hcount e
  refine ⟨t,e',?_,hextends,hholds⟩
  rw [decodeNext,hone]
  change (tensorOfDecoded spec d >>= fun t => _) e = _
  rw [run_bind_ok hrun]
  rfl

theorem Holds.restores (h : Holds e t spec (.stored w.elements)) (hw : w.Full) (hspec : spec.Describes w) :
    Restores e (w.name,t) w := by
  obtain ⟨name,shape,dtype,elements⟩ := w
  have hdtype : (DType.ofName? spec.dtype).getD .float32 = dtype := by
    rw [hspec.dtype,ofName?_name]
    rfl
  obtain ⟨hshape,ht,hreads⟩ := h
  simp only [dtypeOfDecoded,dataOfDecoded,hdtype] at ht hreads
  refine ⟨rfl,hshape.trans hspec.shape,?_,by cases elements <;> exact hreads⟩
  cases elements with
  | words ws | flags bs => exact ht
  | texts ts =>
    cases dtype with
    | string => exact ht
    | float32 | int32 | bool | complex64 => exact hw.1.elim

theorem run_decodeNext (hw : w.Full) (h : spec.Describes w) (hname : w.name ∉ out.map Prod.fst) (pre post : Bytes)
    (e : Engine) : ∃ t e', decodeNext (pre ++ w.elements.toBytes ++ post) (out,pre.length) spec e =
    .ok (out ++ [(w.name,.tensor t)],(pre ++ w.elements.toBytes).length) e' ∧ Extends e e' ∧
    Restores e' (w.name,t) w := by
  have hcount : spec.shape.size = (.stored w.elements : Decoded Float).count := by simp [h.shape,Decoded.count,hw.2]
  obtain ⟨t,e',hrun,hextends,hholds⟩ := run_decodeNext_of_count (decodeOne_toBytes doubles hw h pre post) hcount out e
  rw [h.name,put_of_not_mem hname,← length_append] at hrun
  exact ⟨t,e',hrun,hextends,hholds.restores hw h⟩

theorem run_foldlM_decodeNext (hfull : ∀ w ∈ ws, w.Full) (hspecs : Forall₂
    Spec.Describes specs ws) (hnames : (out.map Prod.fst ++ ws.map Entry.name).Nodup)
    (pre post : Bytes) (e : Engine) : ∃ ts e', specs.foldlM (decodeNext (pre ++ encode ws ++ post)) (out,pre.length)
    e = .ok (out ++ members ts,(pre ++ encode ws).length) e' ∧ Extends e e' ∧ Forall₂ (Restores e') ts ws := by
  induction hspecs generalizing out pre e with
  | nil => exact ⟨[],e,by simp [members,encode],.refl e,.nil⟩
  | @cons spec w specs ws hspec hspecs ih =>
    have hbytes : pre ++ encode (w :: ws) ++ post = pre ++ w.elements.toBytes ++ (encode ws ++ post) := by simp [encode]
    have hnew : w.name ∉ out.map Prod.fst := by
      intro hmem
      exact (nodup_append.mp hnames).2.2 _ hmem _ mem_cons_self rfl
    obtain ⟨t,e₁,hrun,hextends,hrestores⟩ := run_decodeNext (hfull w mem_cons_self) hspec hnew pre (encode ws ++ post) e
    have hnames' : ((out ++ [(w.name,Value.tensor t)]).map Prod.fst ++ ws.map Entry.name).Nodup := by simpa using hnames
    obtain ⟨ts,e',hrest,hextends',hall⟩ :=
      ih (fun v hv => hfull v (mem_cons_of_mem _ hv)) hnames' (pre ++ w.elements.toBytes) e₁
    refine ⟨(w.name,t) :: ts,e',?_,hextends.trans hextends',.cons (hrestores.extends hextends') hall⟩
    rw [foldlM_cons,hbytes,run_bind_ok hrun,← append_assoc,hrest]
    simp [members,encode]

theorem run_decodeMembers (hfull : ∀ w ∈ ws, w.Full) (hspecs : Forall₂
    Spec.Describes specs ws) (hnames : (ws.map Entry.name).Nodup) (e : Engine) : ∃ ts e', decodeMembers (encode ws)
    specs e = .ok (members ts,(encode ws).length) e' ∧ Extends e e' ∧ Forall₂ (Restores e') ts ws := by
  have h := @run_foldlM_decodeNext ws specs [] hfull hspecs (by simpa using hnames) [] [] e
  simpa [decodeMembers_eq] using h

theorem decodeWeights_of_members
    (h : decodeMembers bs specs e = .ok (members ts,n) e') : decodeWeights bs specs e = .ok ts e' := by
  rw [decodeWeights,run_bind_ok h]
  simp [members,Value.tensor?]

/-! # Tensors through bytes and back

Tensors that are written as bytes come back with their names, shapes, types and elements, as long as each of
them is kept in words of its own type. A view of another type writes the words of the data that it shares.
-/

open ArrayKind Value
variable {t : Tensor} {e : Engine} {xs : Array Float} {named : List (String × Tensor)} {ws : List Entry}

/-! ## Numbers through words -/

/-- Numbers that an array of the type can hold. -/
def InType : DType → Float → Prop
  | .bool, x => ∃ b : UInt8, x = b.toFloat
  | dtype, x => ∃ w, x = numberOfWord dtype w

theorem wordOf_numberOfWord_int32 (w : UInt32) : wordOf .int32 (numberOfWord .int32 w) = w := by
  have hlow := w.toInt32.le_toInt
  have hhigh := w.toInt32.toInt_lt
  have hwhole : Number.wholePart (.ofInt w.toInt32.toInt) = w.toInt32.toInt := Number.wholePart_ofInt (by omega)
  simp only [wordOf,numberOfWord,beq_self_eq_true,if_true,hwhole,Int32.ofInt_toInt]
  rfl

theorem numberOfWord_wordOf (dtype : DType) (h : ∃ w, x = numberOfWord dtype w) :
    numberOfWord dtype (wordOf dtype x) = x := by
  obtain ⟨w,rfl⟩ := h
  by_cases hd : dtype = .int32
  · rw [hd,wordOf_numberOfWord_int32]
  · have hb : (dtype == .int32) = false := by simpa using hd
    simp only [wordOf,numberOfWord,hb]
    exact Single.toFloat_ofFloat_toFloat w

theorem toUInt8_toFloat (b : UInt8) : b.toFloat.toUInt8 = b := by
  have h : ∀ n, (UInt8.ofFin n).toFloat.toUInt8 = .ofFin n := by decide +kernel
  exact h b.toFin

/-! ## Tensors as entries -/

/-- Elements of a type, as many as a shape has places. -/
def Fills (dtype : DType) (size : Nat) : Data → Prop
  | .numbers xs => (dtype = .float32 ∨ dtype = .int32 ∨ dtype = .bool) ∧ xs.size = size ∧ ∀ x ∈ xs, InType dtype x
  | .strings xs => dtype = .string ∧ xs.size = size ∧ ∀ x ∈ xs, x.size < 2 ^ 32
  | _ => False

/-- A live tensor, filled with elements of its type. Its lengths are numbers that a value can be. -/
structure Proper (e : Engine) (t : Tensor) : Prop where
  live : (e.cellAt t.id).disposed = false
  lengths : ∀ d ∈ t.shape, Number.wholePart (.ofNat d) = d
  fills : Fills t.dtype t.shape.size (e.content t.id)

/-- The type with which the data of a tensor was stored first. -/
def storedAs (e : Engine) (t : Tensor) : DType := match e.bufferAt (e.cellAt t.id).dataId with
  | some b => b.dtype
  | none => t.dtype

/-- The data is kept in words of the type that the tensor has. -/
def KeptAsOwn (e : Engine) (t : Tensor) : Prop := t.dtype ≠ .string → ofDType (storedAs e t) = ofDType t.dtype

theorem run_storedType (t : Tensor) (e : Engine) : storedType t e = .ok (storedAs e t) e := by
  simp only [storedType,storedAs,run_bind,run_get,run_cell,getD_buffers]
  cases e.bufferAt (e.cellAt t.id).dataId with
  | some b | none => rfl

theorem run_numbers (h : e.content t.id = .numbers xs) : numbers t e = .ok xs e := by
  rw [numbers,run_bind_ok (run_dataOf t e),h]
  rfl
theorem run_strings {xs : Array ByteArray} (h : e.content t.id = .strings xs) : strings t e = .ok xs e := by
  rw [strings,run_bind_ok (run_dataOf t e),h]
  rfl
theorem run_requireLive (h : (e.cellAt t.id).disposed = false) : requireLive t e = .ok () e := by
  simp [requireLive,isDisposed,run_bind,run_map,h]

theorem elementsOf_numbers (hlive : (e.cellAt t.id).disposed = false) (hdata : e.content t.id = .numbers xs) (hd :
    t.dtype ≠ .string) : elementsOf t e = .ok (arrayElements (ofDType (storedAs e t)) xs.toList) e := by
  have hb : (t.dtype == .string) = false := by simpa using hd
  rw [elementsOf,run_bind_ok (run_requireLive hlive)]
  simp only [hb]
  change (storedType t >>= fun _ => _) e = _
  rw [run_bind_ok (run_storedType t e)]
  rw [run_bind_ok (run_numbers hdata)]
  rfl

theorem elementsOf_strings {xs : Array ByteArray} (hlive : (e.cellAt t.id).disposed = false) (hdata : e.content t.id =
    .strings xs) (hd : t.dtype = .string) : elementsOf t e = .ok (.texts (xs.toList.map bytesOf)) e := by
  rw [elementsOf,run_bind_ok (run_requireLive hlive),hd]
  change (strings t >>= fun _ => _) e = _
  rw [run_bind_ok (run_strings hdata)]
  rfl

theorem ofBytes_bytesOf (d : ByteArray) : ofBytes (bytesOf d) = d := by simp [ofBytes,bytesOf]

theorem arrayElements_restores {dtype : DType} (hd : dtype = .float32 ∨ dtype = .int32 ∨ dtype = .bool) (hx : ∀ x ∈ xs,
    InType dtype x) (name : String) (shape : Shape) : (arrayElements (ofDType dtype) xs.toList).Suit dtype ∧
    (arrayElements (ofDType dtype) xs.toList).count = xs.size ∧ dataOfEntry ⟨name,shape,dtype,arrayElements
    (ofDType dtype) xs.toList⟩ = .numbers xs := by
  have hwords d (h : ∀ x ∈ xs, ∃ w, x = numberOfWord d w) :
      ((xs.toList.map (wordOf d)).map (numberOfWord d)).toArray = xs := by
    rw [map_map_of_forall fun x hx => numberOfWord_wordOf d (h x (Array.mem_toList_iff.mp hx))]
  rcases hd with rfl | rfl | rfl
  · refine ⟨trivial,by simp [arrayElements,ofDType,Elements.count],?_⟩
    exact congrArg Data.numbers (hwords .float32 hx)
  · refine ⟨trivial,by simp [arrayElements,ofDType,Elements.count],?_⟩
    exact congrArg Data.numbers (hwords .int32 hx)
  · refine ⟨trivial,by simp [arrayElements,ofDType,Elements.count],?_⟩
    have hid : (xs.toList.map Float.toUInt8).map UInt8.toFloat = xs.toList := by
      refine map_map_of_forall fun x hmem => ?_
      obtain ⟨b,rfl⟩ := hx x (Array.mem_toList_iff.mp hmem)
      rw [toUInt8_toFloat]
    exact congrArg Data.numbers (by rw [hid])

theorem run_elementsOf (h : Proper e t) (hown : KeptAsOwn e t) (name : String) : ∃ els, elementsOf t e = .ok els e ∧
    Entry.Full ⟨name,t.shape,t.dtype,els⟩ ∧ dataOfEntry ⟨name,t.shape,t.dtype,els⟩ = e.content t.id := by
  obtain ⟨hlive,-,hfills⟩ := h
  cases hdata : e.content t.id with
  | absent | complex re im => rw [hdata] at hfills; exact hfills.elim
  | numbers xs =>
    rw [hdata] at hfills
    obtain ⟨hd,hsize,hx⟩ := hfills
    have hnot : t.dtype ≠ .string := by rcases hd with hd | hd | hd <;> simp [hd]
    obtain ⟨hsuit,hcount,hrestores⟩ := arrayElements_restores hd hx name t.shape
    have hrun := elementsOf_numbers hlive hdata hnot
    rw [hown hnot] at hrun
    exact ⟨_,hrun,⟨hsuit,hcount.trans hsize⟩,hrestores⟩
  | strings xs =>
    rw [hdata] at hfills
    obtain ⟨hd,hsize,hx⟩ := hfills
    refine ⟨_,elementsOf_strings hlive hdata hd,⟨?_,by simpa [Elements.count] using hsize⟩,?_⟩
    · rw [hd]
      intro text htext
      obtain ⟨d,hmem,rfl⟩ := mem_map.mp htext
      exact hx d (Array.mem_toList_iff.mp hmem)
    · exact congrArg Data.strings (by rw [map_map_of_forall fun d _ => ofBytes_bytesOf d])

/-! ## Specifications -/

theorem nats_ofShape (h : ∀ d ∈ shape, Number.wholePart (.ofNat d) = d) : (ofShape shape).nats = shape := by
  have hnums : (shape.map .ofNat).mapM num? = some (shape.map .ofNat) := by
    induction shape with
    | nil => rfl
    | cons d rest ih => simp [ih fun x hx => h x (mem_cons_of_mem _ hx),Value.ofNat,num?]
  have hnats : (ofShape shape).nats = shape.map fun d => (Number.wholePart (.ofNat d)).toNat := by
    simp [ofShape,ofNats,nats,ints,numsD,nums?,hnums]
  rw [hnats]
  refine (map_congr_left fun d hd => ?_).trans (map_id shape)
  simp [h d hd]

theorem specOf_record (name dtype : String) (shape : Value) {more : Named Value} (h : ∀ f ∈ more,
    f.1 ≠ "quantization") : specOf (.record ([("name",.str name),("shape",shape),("dtype",.str dtype)] ++ more)) =
    ⟨name,shape.nats,dtype,none⟩ := by
  have hplain : more.any (·.1 == "quantization") = false := by
    rw [any_eq_false]
    intro f hf
    simpa using h f hf
  simp [specOf,field,fields,lookup,text,hplain]

theorem specOf_weightSpec (h : ∀ d ∈ t.shape, Number.wholePart (.ofNat d) = d) (group : Value) (name : String) :
    specOf (weightSpec group name t) = ⟨name,t.shape,t.dtype.name,none⟩ := by
  unfold weightSpec
  split
  · rw [specOf_record,nats_ofShape h]
    simp
  · rw [← append_nil [_,_,_],specOf_record,nats_ofShape h]
    simp

/-! ## All weights -/

theorem run_mapM_of_forall {α β : Type} {f : α → Eng β} {P : α → β → Prop} {xs : List α}
    (h : ∀ x ∈ xs, ∃ y, f x e = .ok y e ∧ P x y) : ∃ ys, xs.mapM f e = .ok ys e ∧ Forall₂ P xs ys := by
  induction xs with
  | nil => exact ⟨[],by rw [mapM_nil]; rfl,.nil⟩
  | cons x xs ih =>
    obtain ⟨y,hy,hp⟩ := h x mem_cons_self
    obtain ⟨ys,hys,hps⟩ := ih fun z hz => h z (mem_cons_of_mem _ hz)
    refine ⟨y :: ys,?_,.cons hp hps⟩
    rw [mapM_cons,run_bind_ok hy,run_bind_ok hys]
    rfl

/-- An entry from which a tensor can be made again. -/
structure Preserves (e : Engine) (named : String × Tensor) (w : Entry) : Prop where
  full : w.Full
  name : w.name = named.1
  shape : w.shape = named.2.shape
  dtype : w.dtype = named.2.dtype
  data : dataOfEntry w = e.content named.2.id

theorem Proper.dtype_ne (h : Proper e t) : t.dtype ≠ .complex64 := by
  intro hd
  have hfills := h.fills
  rw [hd] at hfills
  cases hdata : e.content t.id with
  | absent | complex re im => rw [hdata] at hfills; exact hfills
  | numbers xs | strings xs =>
    rw [hdata] at hfills
    simp [Fills] at hfills

theorem run_specifyWeight (h : Proper e t) (group : Value) (name : String) :
    specifyWeight group name t e = .ok (weightSpec group name t) e := by
  have hb : (t.dtype == .complex64) = false := by simpa using h.dtype_ne
  simp [specifyWeight,hb]

theorem run_weightEntry (h : Proper e t) (hown : KeptAsOwn e t) (name : String) :
    ∃ w, weightEntry name t e = .ok w e ∧ Preserves e (name,t) w := by
  obtain ⟨els,hrun,hfull,hdata⟩ := run_elementsOf h hown name
  refine ⟨⟨name,t.shape,t.dtype,els⟩,?_,hfull,rfl,rfl,rfl,hdata⟩
  rw [weightEntry,run_bind_ok hrun]
  rfl

theorem run_encodeWeights (h : ∀ x ∈ named, Proper e x.2) (hown : ∀ x ∈ named, KeptAsOwn e x.2) (group : Value) :
    ∃ ws specs, encodeWeights named group e = .ok (.record [("data",.bytes (ofBytes (encode ws))),("specs",
    .list specs)]) e ∧ Forall₂ (Preserves e) named ws ∧ Forall₂ (fun x spec => weightSpec group x.1 x.2 = spec) named
    specs := by
  obtain ⟨specs,hspecs,hall⟩ := run_mapM_of_forall (f := fun x => specifyWeight group x.1 x.2)
    fun x hx => ⟨_,run_specifyWeight (h x hx) group x.1,rfl⟩
  have hentry : ∀ x ∈ named, ∃ w, weightEntry x.1 x.2 e = .ok w e ∧ Preserves e x w := by
    rintro ⟨name,t⟩ hx
    exact run_weightEntry (h _ hx) (hown _ hx) name
  obtain ⟨ws,hws,hpreserves⟩ := run_mapM_of_forall hentry
  refine ⟨ws,specs,?_,hpreserves,hall⟩
  rw [encodeWeights,run_bind_ok hspecs,run_bind_ok hws]
  rfl

theorem entries_of_preserves (hws : Forall₂ (Preserves e) named ws) :
    ws.map Entry.name = named.map Prod.fst ∧ ∀ w ∈ ws, w.Full := by
  induction hws with
  | nil => simp
  | cons hw _ ih =>
    refine ⟨by rw [map_cons,map_cons,hw.name,ih.1],?_⟩
    intro v hv
    rcases mem_cons.mp hv with rfl | hv
    · exact hw.full
    · exact ih.2 v hv

theorem describes_of_preserves (h : ∀ x ∈ named, Proper e x.2) {specs : Values} (hws : Forall₂
    (Preserves e) named ws) (hspecs : Forall₂ (fun x spec => weightSpec group x.1 x.2 = spec) named specs) : Forall₂
    Spec.Describes (specs.map specOf) ws := by
  induction hws generalizing specs with
  | nil =>
    cases hspecs
    exact .nil
  | @cons x w named ws hw hws ih =>
    cases hspecs with
    | cons hspec hspecs =>
      rw [← hspec,map_cons,specOf_weightSpec (h x mem_cons_self).lengths]
      refine .cons ?_ (ih (fun y hy => h y (mem_cons_of_mem _ hy)) hspecs)
      exact ⟨hw.name.symm,hw.shape.symm,by rw [hw.dtype],rfl⟩

/-- A tensor under the name of another one, with its shape, type and elements. -/
structure Repeats (e e' : Engine) (copy named : String × Tensor) : Prop where
  name : copy.1 = named.1
  shape : copy.2.shape = named.2.shape
  dtype : copy.2.dtype = named.2.dtype
  reads : Reads e' copy.2 (e.content named.2.id)

theorem repeats_of_restores {copies : Named Tensor} (hws : Forall₂ (Preserves e) named ws)
    (hts : Forall₂ (Restores e') copies ws) : Forall₂ (Repeats e e') copies named := by
  induction hws generalizing copies with
  | nil =>
    cases hts
    exact .nil
  | cons hw hws ih =>
    cases hts with
    | cons ht hts =>
      exact .cons ⟨ht.name.trans hw.name,ht.shape.trans hw.shape,ht.dtype.trans hw.dtype,hw.data ▸ ht.reads⟩ (ih hts)

/-- Tensors with different names, each filled with elements of its type and kept in words of that type, are
written without a change of state. Reading the bytes with the specifications, at any later time, gives a
tensor for each of them under the same name and with the same shape, type and elements, and ends at the last
byte. -/
theorem decodeWeights_encodeWeights {named : List (String × Tensor)} {e : Engine}
    (hnames : (named.map Prod.fst).Nodup) (hproper : ∀ x ∈ named, Proper e x.2)
    (hown : ∀ x ∈ named, KeptAsOwn e x.2) (group : Value) :
    ∃ data specs, encodeWeights named group e = .ok (.record [("data", .bytes data), ("specs", .list specs)]) e ∧
      ∀ e₁, ∃ copies e₂,
        decodeMembers (bytesOf data) (specs.map specOf) e₁ = .ok (members copies, (bytesOf data).length) e₂ ∧
        decodeWeights (bytesOf data) (specs.map specOf) e₁ = .ok copies e₂ ∧
        List.Forall₂ (Repeats e e₂) copies named := by
  obtain ⟨ws, specs, hrun, hws, hspecs⟩ := run_encodeWeights hproper hown group
  have hbytes : bytesOf (ofBytes (encode ws)) = encode ws := by simp [bytesOf, ofBytes]
  refine ⟨_, specs, hrun, fun e₁ => ?_⟩
  have hdescribes := describes_of_preserves hproper hws hspecs
  obtain ⟨hentries, hfull⟩ := entries_of_preserves hws
  rw [hbytes]
  obtain ⟨copies, e₂, hmembers, -, hrestores⟩ := run_decodeMembers hfull hdescribes (hentries ▸ hnames) e₁
  exact ⟨copies, e₂, hmembers, decodeWeights_of_members hmembers, repeats_of_restores hws hrestores⟩

/-- A state with singles, an empty matrix of whole numbers, a single truth value and byte strings. -/
def shelf : Engine where
  cells := #[{ dataId := 0 },{ dataId := 1 },{ dataId := 2 },{ dataId := 3 }]
  buffers :=
    #[some ⟨.float32,.numbers (#[0x3fc00000,0x80000001].map (numberOfWord .float32)),8,1⟩,
      some ⟨.int32,.numbers #[],0,1⟩,some ⟨.bool,.numbers (#[1].map UInt8.toFloat),1,1⟩,
      some ⟨.string,.strings #[⟨#[0xff,0]⟩,⟨#[]⟩],2,1⟩]
  numTensors := 4
  numDataBuffers := 4
  numBytes := 11
  numStringTensors := 1

def shelved : Named Tensor :=
  [("weight",⟨0,[2],.float32⟩),("empty",⟨1,[2,0],.int32⟩),("flag",⟨2,[],.bool⟩),("",⟨3,[2],.string⟩)]

theorem shelved_proper : ∀ x ∈ shelved, Proper shelf x.2 := by
  have hsmall d h : Number.wholePart (.ofNat d) = d := Number.wholePart_ofNat (by omega)
  intro x hx
  simp only [shelved,mem_cons,not_mem_nil,or_false] at hx
  rcases hx with rfl | rfl | rfl | rfl
  · refine ⟨rfl,by simp [hsmall],?_⟩
    refine ⟨.inl rfl,by simp [Shape.size],?_⟩
    intro x hx
    obtain ⟨w,-,rfl⟩ := Array.mem_map.mp hx
    exact ⟨w,rfl⟩
  · refine ⟨rfl,by simp [hsmall],?_⟩
    exact ⟨.inr (.inl rfl),rfl,by simp⟩
  · refine ⟨rfl,by simp,?_⟩
    refine ⟨.inr (.inr rfl),by simp [Shape.size],?_⟩
    intro x hx
    obtain ⟨b,-,rfl⟩ := Array.mem_map.mp hx
    exact ⟨b,rfl⟩
  · refine ⟨rfl,by simp [hsmall],?_⟩
    refine ⟨rfl,rfl,fun x hx => ?_⟩
    have hsize : x.size ≤ 2 := by rcases mem_pair.mp (Array.mem_toList_iff.mpr hx) with rfl | rfl <;> decide
    exact hsize.trans_lt (by norm_num)

theorem shelved_own : ∀ x ∈ shelved, KeptAsOwn shelf x.2 := by
  intro x hx
  simp only [shelved,mem_cons,not_mem_nil,or_false] at hx
  rcases hx with rfl | rfl | rfl | rfl <;> intro _ <;> rfl

theorem decodeWeights_encodeWeights_shelved :
    (∀ x ∈ shelved, Proper shelf x.2) ∧ (∀ x ∈ shelved, KeptAsOwn shelf x.2) ∧
    ∃ data specs, encodeWeights shelved .absent shelf =
        .ok (.record [("data", .bytes data), ("specs", .list specs)]) shelf ∧
      ∀ e₁, ∃ copies e₂,
        decodeMembers (bytesOf data) (specs.map specOf) e₁ = .ok (members copies, (bytesOf data).length) e₂ ∧
        decodeWeights (bytesOf data) (specs.map specOf) e₁ = .ok copies e₂ ∧
        List.Forall₂ (Repeats shelf e₂) copies shelved :=
  ⟨shelved_proper, shelved_own, decodeWeights_encodeWeights (by decide) shelved_proper shelved_own .absent⟩

def castTruths : Op := do Ops.toFloat (← make [4] .bool (.numbers (#[1,0,1,1].map UInt8.toFloat)))
theorem inType_truth : ∀ b ∈ [(1 : UInt8),0,1,1], InType .float32 b.toFloat := by
  have hone : InType .float32 (UInt8.toFloat 1) := ⟨0x3f800000,rfl⟩
  have hzero : InType .float32 (UInt8.toFloat 0) := ⟨0,rfl⟩
  simp [hone,hzero]

theorem run_castTruths : ∃ e, castTruths {} = .ok ⟨1,[4],.float32⟩ e ∧ Proper e ⟨1,[4],.float32⟩ ∧
    e.content 1 = .numbers (#[1,0,1,1].map UInt8.toFloat) ∧ storedAs e ⟨1,[4],.float32⟩ = .bool := by
  have hlength : ∀ d ∈ [4], Number.wholePart (.ofNat d) = d := by
    simpa using Number.wholePart_ofNat (n := 4) (by norm_num)
  have hfills : Fills .float32 (Shape.size [4]) (.numbers (#[1,0,1,1].map UInt8.toFloat)) := by
    refine ⟨.inl rfl,by simp [Shape.size],fun x hx => ?_⟩
    obtain ⟨b,hb,rfl⟩ := Array.mem_map.mp hx
    exact inType_truth b (Array.mem_toList_iff.mpr hb)
  exact ⟨_,rfl,⟨rfl,hlength,hfills⟩,rfl,rfl⟩

/-- A view of truth values as singles is written in the bytes of truth values, and cannot be read. -/
theorem decodeWeights_cast_fails :
    ∃ t e data specs, castTruths {} = .ok t e ∧ Proper e t ∧
      encodeWeights [("w", t)] .absent e = .ok (.record [("data", .bytes data), ("specs", .list specs)]) e ∧
      ∀ e₁, ∃ f, decodeWeights (bytesOf data) (specs.map specOf) e₁ = .error f e₁ := by
  obtain ⟨e, hrun, hproper, hdata, hstored⟩ := run_castTruths
  have helements : elementsOf ⟨1, [4], .float32⟩ e = .ok (.flags [1, 0, 1, 1]) e := by
    have h := elementsOf_numbers hproper.live hdata (by simp)
    rw [hstored] at h
    simpa [arrayElements, ArrayKind.ofDType, toUInt8_toFloat] using h
  refine ⟨_, e, ofBytes [1, 0, 1, 1], [weightSpec .absent "w" ⟨1, [4], .float32⟩], hrun, hproper, ?_, ?_⟩
  · have hspecs : [("w", (⟨1, [4], .float32⟩ : Tensor))].mapM (fun x => specifyWeight .absent x.1 x.2) e =
        .ok [weightSpec .absent "w" ⟨1, [4], .float32⟩] e := by
      rw [List.mapM_cons, run_bind_ok (run_specifyWeight hproper .absent "w"), List.mapM_nil]
      rfl
    have hentries : [("w", (⟨1, [4], .float32⟩ : Tensor))].mapM (fun x => weightEntry x.1 x.2) e =
        .ok [⟨"w", [4], .float32, .flags [1, 0, 1, 1]⟩] e := by
      unfold weightEntry
      rw [List.mapM_cons, List.mapM_nil, bind_assoc, run_bind_ok helements]
      rfl
    unfold encodeWeights
    rw [run_bind_ok hspecs, run_bind_ok hentries]
    rfl
  · intro e₁
    rw [List.map_singleton, specOf_weightSpec hproper.lengths]
    exact ⟨_, rfl⟩
end TensorKit.Script
