import Mathlib
import TensorKit.Weights.Codec

/-! # Words, pieces and texts in bytes

What is written into a string of bytes can be read back from the place where it was written, whatever stands
before and behind it.
-/
namespace TensorKit.Weights
open List Elements
variable {width : Nat} {bs : Bytes} {ts : List Bytes} {α : Type}

/-! ## Words -/

@[simp] theorem length_lowBytes (width n : Nat) : (lowBytes width n).length = width := by
  induction width generalizing n with
  | zero => rfl
  | succ width ih => simp [lowBytes,ih]
@[simp] theorem ofLowBytes_cons (b : UInt8) (bs : Bytes) : ofLowBytes (b :: bs) = b.toNat + 256 * ofLowBytes bs := rfl

theorem ofLowBytes_lowBytes (width n : Nat) : ofLowBytes (lowBytes width n) = n % 256 ^ width := by
  induction width generalizing n with
  | zero => simp [lowBytes,ofLowBytes,Nat.mod_one]
  | succ width ih =>
    have hlow : (n % 256).toUInt8.toNat = n % 256 := by simp
    rw [lowBytes,ofLowBytes_cons,ih,hlow,Nat.pow_succ',Nat.mod_mul]

theorem ofLowBytes_lowBytes_of_lt (h : n < 256 ^ width) : ofLowBytes (lowBytes width n) = n := by
  rw [ofLowBytes_lowBytes,Nat.mod_eq_of_lt h]

/-! ## Pieces -/

theorem piecesWithin_cons (width fuel : Nat) (b : UInt8) (bs : Bytes) : piecesWithin width (fuel + 1) (b :: bs) =
    (b :: bs).take width :: piecesWithin width fuel ((b :: bs).drop width) := rfl

theorem length_drop_cons (hw : 0 < width) (b : UInt8) (bs : Bytes) : ((b :: bs).drop width).length ≤ bs.length := by
  rw [length_drop,length_cons]
  omega

/-- Bounds that are at least the number of bytes give the same pieces. -/
theorem piecesWithin_congr (hw : 0 < width) (hn : bs.length ≤ n) (hm : bs.length ≤ m) :
    piecesWithin width n bs = piecesWithin width m bs := by
  induction n generalizing bs m with
  | zero =>
    obtain rfl := eq_nil_of_length_eq_zero (Nat.le_zero.mp hn)
    cases m <;> rfl
  | succ n ih =>
    cases bs with
    | nil => cases m <;> rfl
    | cons b bs =>
      obtain ⟨m,rfl⟩ := Nat.exists_eq_add_one_of_ne_zero (Nat.ne_zero_of_lt hm)
      have hdrop := length_drop_cons hw b bs
      rw [piecesWithin_cons,piecesWithin_cons,
        ih (hdrop.trans (Nat.le_of_succ_le_succ hn)) (hdrop.trans (Nat.le_of_succ_le_succ hm))]

theorem pieces_nil (width : Nat) : pieces width ([] : Bytes) = [] := rfl

theorem pieces_of_ne_nil (hw : 0 < width) (h : bs ≠ []) :
    pieces width bs = bs.take width :: pieces width (bs.drop width) := by
  cases bs with
  | nil => exact absurd rfl h
  | cons b bs => exact congrArg _ (piecesWithin_congr hw (length_drop_cons hw b bs) le_rfl)

theorem pieces_append (hw : 0 < width) (ha : a.length = width) : pieces width (a ++ bs) = a :: pieces width bs := by
  have hne : a ++ bs ≠ [] := by
    rintro h
    obtain ⟨rfl,-⟩ := append_eq_nil_iff.mp h
    simp at ha
    omega
  rw [pieces_of_ne_nil hw hne,take_left' ha,drop_left' ha]

theorem pieces_flatMap {f : α → Bytes} (hw : 0 < width) {xs : List α}
    (h : ∀ x ∈ xs, (f x).length = width) : pieces width (xs.flatMap f) = xs.map f := by
  induction xs with
  | nil => rfl
  | cons x xs ih =>
    rw [flatMap_cons,pieces_append hw (h x mem_cons_self),ih fun y hy => h y (mem_cons_of_mem _ hy),map_cons]

/-- Bytes in pieces of one size; only the last may be shorter. -/
structure Cut (size : Nat) (bs : Bytes) (parts : List Bytes) : Prop where
  whole : parts.flatten = bs
  full : ∀ p ∈ parts.dropLast, p.length = size
  nonempty : ∀ p ∈ parts, p ≠ []
  count : parts.length = (bs.length + size - 1) / size

theorem cut_pieces (hw : 0 < width) (bs : Bytes) : Cut width bs (pieces width bs) := by
  induction hn : bs.length using Nat.strong_induction_on generalizing bs with
  | _ n ih =>
    by_cases h : bs = []
    · rw [h]
      exact ⟨rfl,nofun,nofun,(Nat.div_eq_of_lt (by simp; omega)).symm⟩
    have hpos := length_pos_of_ne_nil h
    have hrest := ih _ (by rw [length_drop]; omega) (bs.drop width) rfl
    rw [pieces_of_ne_nil hw h]
    refine ⟨by rw [flatten_cons,hrest.whole,take_append_drop],?_,?_,?_⟩
    · cases hlater : pieces width (bs.drop width) with
      | nil => nofun
      | cons p ps =>
        rw [dropLast_cons_of_ne_nil (cons_ne_nil p ps),← hlater,forall_mem_cons]
        refine ⟨length_take_of_le (Nat.le_of_not_lt fun hlt => ?_),hrest.full⟩
        rw [drop_eq_nil_of_le hlt.le] at hlater
        cases hlater
    · rw [forall_mem_cons]
      exact ⟨by simp [h,hw.ne'],hrest.nonempty⟩
    · rw [length_cons,hrest.count,length_drop]
      by_cases hle : width ≤ bs.length
      · rw [← Nat.add_div_right _ hw]
        congr 1
        omega
      · rw [Nat.div_eq_of_lt (by omega),Nat.div_eq_of_lt_le] <;> omega

theorem readWords_flatMap {f : α → Nat} (hw : 0 < width) {xs : List α} (h : ∀ x ∈ xs, f x < 256
    ^ width) : readWords width (xs.flatMap fun x => lowBytes width (f x)) = xs.map f := by
  rw [readWords,pieces_flatMap hw fun x _ => length_lowBytes width (f x),map_map]
  exact map_congr_left fun x hx => ofLowBytes_lowBytes_of_lt (h x hx)

theorem map_map_of_forall {α β : Type} {f : α → β} {g : β → α} {l : List α} (h : ∀ x ∈ l, g (f x) = x) :
    (l.map f).map g = l := by
  rw [map_map]
  exact (map_congr_left h).trans (map_id l)

/-! ## Places -/

theorem slice_append (pre bs post : Bytes) : slice (pre ++ bs ++ post) pre.length bs.length = bs := by
  rw [slice,append_assoc,drop_left,take_left]
theorem slice_eq {offset count : Nat} (ho : offset = pre.length) (hc : count = bs.length) :
    slice (pre ++ bs ++ post) offset count = bs := by
  rw [ho,hc,slice_append]

/-! ## Texts -/

theorem length_textBytes (t : Bytes) : (textBytes t).length = 4 + t.length := by simp [textBytes]

theorem slice_length (pre t post : Bytes) : slice (pre ++ textBytes t ++ post) pre.length 4 = lowBytes 4 t.length := by
  rw [textBytes,← append_assoc,append_assoc _ t,slice_eq rfl (length_lowBytes 4 _).symm]
theorem slice_text (pre t post : Bytes) : slice (pre ++ textBytes t ++ post) (pre.length + 4) t.length = t := by
  rw [textBytes,← append_assoc,slice_eq (by simp) rfl]

theorem readTexts_append (h : ∀ t ∈ ts, t.length < 256 ^ 4) (pre post : Bytes) : readTexts (pre ++ ts.flatMap
    textBytes ++ post) ts.length pre.length = (ts,pre.length + (ts.flatMap textBytes).length) := by
  induction ts generalizing pre with
  | nil => rfl
  | cons t ts ih =>
    have hrest := ih (fun u hu => h u (mem_cons_of_mem _ hu)) (pre ++ textBytes t)
    rw [length_append,length_textBytes,← Nat.add_assoc,append_assoc _ (ts.flatMap _)] at hrest
    rw [length_cons,flatMap_cons,← append_assoc,append_assoc _ (ts.flatMap _),readTexts,slice_length,
      ofLowBytes_lowBytes_of_lt (h t mem_cons_self),slice_text,hrest,length_append,length_textBytes]
    simp only [Nat.add_assoc]

/-! ## Weights in one string of bytes

Each weight is read from the place at which it was written, and reading it ends where the next one begins.
-/

/-- Elements of the kind that a type has. A text has its length in four bytes. -/
def Elements.Suit : DType → Elements → Prop
  | .float32, .words _ | .int32, .words _ | .bool, .flags _ => True
  | .string, .texts ts => ∀ t ∈ ts, t.length < 2 ^ 32
  | _, _ => False

/-- A weight with as many elements as its shape has places, all of its type. -/
structure Entry.Full (w : Entry) : Prop where
  suit : w.elements.Suit w.dtype
  count : w.elements.count = w.shape.size

/-- A specification that says of a weight what is so, and that its elements are as they were. -/
structure Spec.Describes {α : Type} (spec : Spec α) (w : Entry) : Prop where
  name : spec.name = w.name
  shape : spec.shape = w.shape
  dtype : spec.dtype = w.dtype.name
  plain : spec.quantization.isNone

section
variable {α : Type} (a : Arithmetic α) {spec : Spec α}
variable (hq : spec.quantization = none)
include hq
theorem decodeOne_words {xs : List UInt32} (hd : spec.dtype = "float32" ∨ spec.dtype =
    "int32") (hs : spec.shape.size = xs.length) (pre post : Bytes) : decodeOne a (pre ++ xs.flatMap
    wordBytes ++ post) pre.length spec = .ok (.stored (.words xs),pre.length + (xs.flatMap wordBytes).length) := by
  have hlength : (xs.flatMap wordBytes).length = xs.length * 4 := by simp [wordBytes]
  have hslice : slice (pre ++ xs.flatMap wordBytes ++ post) pre.length (xs.length * 4) =
      xs.flatMap wordBytes := slice_eq rfl hlength.symm
  have hwords : (readWords 4 (xs.flatMap wordBytes)).map Nat.toUInt32 = xs := by
    unfold wordBytes
    rw [readWords_flatMap (by decide) fun w _ => w.toNat_lt]
    exact map_map_of_forall fun w _ => UInt32.ofNat_toNat
  have heven : (xs.length * 4 % 4 != 0) = false := by simp
  unfold decodeOne
  rcases hd with hd | hd <;> simp only [hq,hd,hs,hslice,hlength,hwords,heven] <;> rfl

theorem decodeOne_flags {xs : Bytes} (hd : spec.dtype = "bool") (hs : spec.shape.size = xs.length) (pre post :
    Bytes) : decodeOne a (pre ++ xs ++ post) pre.length spec = .ok (.stored (.flags xs),pre.length + xs.length) := by
  simp only [decodeOne,hq,hd,hs,slice_append]
  rfl

theorem decodeOne_texts (hd : spec.dtype = "string") (hs : spec.shape.size = ts.length)
    (ht : ∀ t ∈ ts, t.length < 2 ^ 32) (pre post : Bytes) : decodeOne a (pre ++ ts.flatMap textBytes ++ post)
    pre.length spec = .ok (.stored (.texts ts),pre.length + (ts.flatMap textBytes).length) := by
  simp only [decodeOne,hq,hd,hs,readTexts_append ht]
  rfl
omit hq

theorem decodeOne_toBytes (hw : w.Full) (h : spec.Describes w) (pre post : Bytes) : decodeOne a (pre ++
    w.elements.toBytes ++ post) pre.length spec = .ok (.stored w.elements,pre.length + w.elements.toBytes.length) := by
  obtain ⟨name,shape,dtype,elements⟩ := w
  obtain ⟨hsuit,hcount⟩ := hw
  have hdtype := h.dtype
  have hq := Option.isNone_iff_eq_none.mp h.plain
  have hsize : spec.shape.size = elements.count := by rw [h.shape,hcount]
  cases elements with
  | words xs =>
    apply decodeOne_words a hq _ hsize
    cases dtype <;> simp_all [Elements.Suit,DType.name]
  | flags xs =>
    apply decodeOne_flags a hq _ hsize
    cases dtype <;> simp_all [Elements.Suit,DType.name]
  | texts ts =>
    cases dtype with
    | string => exact decodeOne_texts a hq hdtype hsize hsuit pre post
    | float32 | int32 | bool | complex64 => exact hsuit.elim
end

/-! # Places of weights

A weight whose elements have a size is found in its own bytes as it is in those of its group. At a place that
is not known there are no bytes, and what is read there is empty.
-/

variable {α : Type} (a : Arithmetic α)
variable {spec : Spec α} {offset : Nat} {d : Decoded α} {specs : List (Spec α)} {ds : List (Decoded α)}
  {p : Placed α} {names : Option Strings} {g : WeightGroup α}

variable {dtype : String} {n next : Nat} {known : Option Nat}
theorem slice_slice (bs : Bytes) (offset n : Nat) : slice (slice bs offset n) 0 n = slice bs offset n := by simp [slice]
theorem slice_nil (offset n : Nat) : slice [] offset n = [] := by simp [slice]
theorem elementSize?_eq_some (h : elementSize? dtype = some n) : (dtype = "float32" ∨ dtype = "int32") ∧ n = 4 ∨ dtype =
    "uint16" ∧ n = 2 ∨ dtype = "uint8" ∧ n = 1 ∨ dtype = "bool" ∧ n = 1 := by
  unfold elementSize? at h
  split at h <;> simp_all
theorem quantizedWidth?_eq_some (h : quantizedWidth? dtype = some n) : elementSize? dtype = some n := by
  unfold quantizedWidth? at h
  split at h <;> cases h <;> rfl

theorem decodeOne_slice (h : spec.byteSize? = some size) (bs : Bytes) (offset : Nat) :
    decodeOne a bs offset spec = (decodeOne a (slice bs offset size) 0 spec).map fun r => (r.1,offset + size) := by
  obtain ⟨n,hn,rfl⟩ := Option.map_eq_some_iff.mp h
  unfold decodeOne
  cases hq : spec.quantization with
  | some q =>
    simp only [hq] at hn
    cases hw : quantizedWidth? q.dtype with
    | none =>
      simp only [hw]
      rfl
    | some width =>
      obtain rfl : n = width := Option.some.inj (hn.symm.trans (quantizedWidth?_eq_some hw))
      simp only [hw,Nat.mul_comm n,slice_slice]
      split
      · rfl
      · split <;> rfl
  | none =>
    simp only [hq] at hn
    rcases elementSize?_eq_some hn with ⟨hd | hd,rfl⟩ | ⟨hd,rfl⟩ | ⟨hd,rfl⟩ | ⟨hd,rfl⟩
    iterate 2
      · simp only [hd,Nat.mul_comm 4,slice_slice]
        split <;> rfl
    iterate 2
      · simp only [hd]
        rfl
    · simp only [hd,Nat.one_mul,slice_slice]
      rfl

/-- What is left of decoded elements where there are no bytes: texts without characters, and no numbers. -/
def Decoded.emptied : Decoded α → Decoded α
  | .numbers _ => .numbers []
  | .stored (.words _) => .stored (.words [])
  | .stored (.flags _) => .stored (.flags [])
  | .stored (.texts ts) => .stored (.texts (ts.map fun _ => []))

theorem readTexts_nil (n offset : Nat) : (readTexts [] n offset).1 = replicate n [] := by
  induction n generalizing offset with
  | zero => rfl
  | succ n ih => simp only [readTexts,slice_nil,ih,replicate_succ]
theorem length_readTexts (bs : Bytes) (n offset : Nat) : (readTexts bs n offset).1.length = n := by
  induction n generalizing offset with
  | zero => rfl
  | succ n ih => simp only [readTexts,length_cons,ih]

theorem decodeOne_nil (h : decodeOne a bs offset spec = .ok (d,next)) :
    ∃ n, decodeOne a [] 0 spec = .ok (d.emptied,n) := by
  unfold decodeOne at h ⊢
  cases hq : spec.quantization with
  | some q =>
    simp only [hq] at h ⊢
    cases hw : quantizedWidth? q.dtype with
    | none =>
      simp only [hw] at h
      cases h
    | some width =>
      simp only [hw,slice_nil] at h ⊢
      split at h
      · cases h
      · split at h <;> cases h
        · exact ⟨_,rfl⟩
        · exact ⟨_,rfl⟩
  | none =>
    simp only [hq,slice_nil] at h ⊢
    split at h
    · cases h
      refine ⟨_,congrArg Except.ok (Prod.ext (congrArg (Decoded.stored ∘ .texts) ?_) rfl)⟩
      rw [map_const',length_readTexts]
      exact readTexts_nil _ _
    · split at h <;> cases h
      exact ⟨_,rfl⟩
    · split at h <;> cases h
      exact ⟨_,rfl⟩
    · cases h
      exact ⟨_,rfl⟩
    · cases h

/-! ## Groups -/

/-- Decoded weights, one behind the other from an offset on, each with as many elements as its shape has places. -/
inductive Decodes (bs : Bytes) : Nat → List (Spec α) → List (Decoded α) → Prop
  | nil {offset : Nat} : Decodes bs offset [] []
  | cons {offset next : Nat} {spec : Spec α} {specs : List (Spec α)} {d : Decoded α} {ds : List (Decoded α)}
    (one : decodeOne a bs offset spec = .ok (d,next)) (count : spec.shape.size = d.count)
    (rest : Decodes bs next specs ds) : Decodes bs offset (spec :: specs) (d :: ds)

variable {a} in
theorem Decodes.length_eq (h : Decodes a bs offset specs ds) : specs.length = ds.length := by
  induction h with
  | nil => rfl
  | cons _ _ _ ih => rw [length_cons,length_cons,ih]

variable {a} in
/-- Texts that are stored as they are. -/
def Spec.isText (spec : Spec α) : Bool := spec.quantization.isNone && spec.dtype == "string"

theorem isText_iff_of_decodeOne (h : decodeOne a bs offset spec = .ok (d,next)) :
    spec.isText = true ↔ spec.byteSize? = none := by
  unfold decodeOne at h
  unfold Spec.isText Spec.byteSize?
  cases hq : spec.quantization with
  | some q =>
    simp only [hq] at h ⊢
    cases hw : quantizedWidth? q.dtype with
    | none =>
      simp only [hw] at h
      cases h
    | some width => simp [quantizedWidth?_eq_some hw]
  | none =>
    simp only [hq] at h ⊢
    split at h
    case h_5 => cases h
    all_goals simp [*,elementSize?]

/-- What is decoded of a weight alone: all of it, or what is left without bytes. -/
structure Recovers (bs : Bytes) (p : Placed α) (d : Decoded α) (reached : Prop) : Prop where
  count : p.spec.shape.size = d.count
  whole : reached → ∃ next, decodeOne a (p.cut bs) 0 p.spec = .ok (d,next)
  lost : ¬ reached → ∃ next, decodeOne a (p.cut bs) 0 p.spec = .ok (d.emptied,next)

variable {a}
theorem Recovers.congr (h : Recovers a bs p d r) (hr : r ↔ r') : Recovers a bs p d r' :=
  ⟨h.count,fun h' => h.whole (hr.mpr h'),fun h' => h.lost fun hr' => h' (hr.mp hr')⟩

theorem spec_mem_of_mem_place (h : p ∈ place known specs) : p.spec ∈ specs := by
  induction specs generalizing known with
  | nil => cases h
  | cons spec specs ih =>
    rcases mem_cons.mp h with rfl | h
    · exact mem_cons_self
    · exact mem_cons_of_mem _ (ih h)

theorem recovers_of_decodes (h : Decodes a bs offset specs ds) (hnames : (specs.map Spec.name).Nodup) (hknown :
    ∀ o ∈ known, o = offset) : ∀ x ∈ (place known specs).zip ds, Recovers a bs x.1 x.2 (known.isSome ∧ x.1.spec ∈
    specs.takeWhile fun s => !s.isText) := by
  induction h generalizing known with
  | nil => simp
  | @cons offset next spec specs d ds one count rest ih =>
    rw [map_cons,nodup_cons] at hnames
    have htext := isText_iff_of_decodeOne a one
    obtain ⟨n,hnil⟩ := decodeOne_nil a one
    rw [place,zip_cons_cons,forall_mem_cons]
    cases hsize : spec.byteSize? with
    | none =>
      -- nothing from here on is reached
      have hstop : (spec :: specs).takeWhile (fun s => !s.isText) = [] := by simp [htext.mpr hsize]
      have hcut : Placed.cut ⟨spec,known,none⟩ bs = [] := by cases known <;> rfl
      rw [hstop]
      refine ⟨⟨count,(absurd ·.2 not_mem_nil),fun _ => ⟨n,by rw [hcut,hnil]⟩⟩,fun x hx => ?_⟩
      exact (ih hnames.2 (by simp) x hx).congr (by simp)
    | some size =>
      have hplain : spec.isText = false := by simp [← Bool.not_eq_true,htext,hsize]
      have hgo : (spec :: specs).takeWhile (fun s => !s.isText) = spec :: specs.takeWhile (fun s => !s.isText) := by
        simp [hplain]
      have hnext : (do return (← known) + (← some size)) = known.map (· + size) := by cases known <;> rfl
      obtain ⟨⟨d',n'⟩,halone,heq⟩ : ∃ r, decodeOne a (slice bs offset size) 0 spec = .ok r ∧ (r.1,offset + size) = (d,next) := by
        rw [decodeOne_slice a hsize] at one
        cases halone : decodeOne a (slice bs offset size) 0 spec with
        | error f => simp [halone,Except.map] at one
        | ok r => exact ⟨r,rfl,by simpa [halone,Except.map] using one⟩
      obtain ⟨rfl,rfl⟩ := Prod.mk.inj heq
      rw [hgo,hnext]
      refine ⟨⟨count,fun hreached => ?_,fun hlost => ?_⟩,fun x hx => ?_⟩
      · obtain ⟨o,rfl⟩ := Option.isSome_iff_exists.mp hreached.1
        obtain rfl := hknown o rfl
        exact ⟨n',halone⟩
      · have hunknown : known = none := by simpa using hlost
        subst hunknown
        exact ⟨n,hnil⟩
      · -- the weights behind have other names
        have hne : x.1.spec ≠ spec := by
          intro heq
          exact hnames.1 (heq ▸ mem_map_of_mem (spec_mem_of_mem_place (of_mem_zip hx).1))
        have hsum : ∀ o ∈ known.map (· + size), o = offset + size := by
          intro o ho
          obtain ⟨k,hk,rfl⟩ := Option.map_eq_some_iff.mp ho
          rw [hknown k hk]
        exact (ih hnames.2 hsum x hx).congr (by simp [hne])

theorem map_spec_place (known : Option Nat) (specs : List (Spec α)) : (place known specs).map Placed.spec = specs := by
  induction specs generalizing known with
  | nil => rfl
  | cons spec specs ih => rw [place,map_cons,ih]

theorem mem_place_of_mem_wanted (h : p ∈ g.wanted names) : p ∈ place (some 0) g.specs := by
  cases names with
  | none => exact h
  | some names =>
    obtain ⟨q,hq,hp⟩ := mem_flatMap.mp h
    obtain ⟨name,-,rfl⟩ := mem_map.mp hp
    exact hq

theorem wanted_unique {manifest : List (WeightGroup α)}
    (hnames : (manifest.flatMap WeightGroup.names).Nodup) (hg : g ∈ manifest) (hg' : g' ∈ manifest)
    (hp : p ∈ g.wanted names) (hp' : p' ∈ g'.wanted names) (h : p.spec.name = p'.spec.name) : g = g' ∧ p = p' := by
  have hin : ∀ {g : WeightGroup α} {p : Placed α}, p ∈ g.wanted names → p.spec.name ∈ g.names := fun {g p} hp =>
    mem_map_of_mem (spec_mem_of_mem_place (mem_place_of_mem_wanted hp))
  rw [nodup_flatMap] at hnames
  have hgroup : g = g' := by
    by_contra hne
    have : Std.Symm (Function.onFun List.Disjoint (@WeightGroup.names α)) := ⟨fun _ _ h => h.symm⟩
    exact hnames.2.forall hg hg' hne (hin hp) (h ▸ hin hp')
  subst hgroup
  have hplaces : ((place (some 0) g.specs).map (·.spec.name)).Nodup := by
    have hspecs := hnames.1 g hg
    rwa [WeightGroup.names,← map_spec_place (some 0) g.specs,map_map] at hspecs
  exact ⟨rfl,inj_on_of_nodup_map hplaces (mem_place_of_mem_wanted hp) (mem_place_of_mem_wanted hp') h⟩
end TensorKit.Weights
