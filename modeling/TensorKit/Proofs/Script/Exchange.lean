import TensorKit.Proofs.Script.RoundTrip
import TensorKit.Proofs.Weights.Shards
import TensorKit.Script.Layers.Network

/-! # Weights from files to tensors

The files of a group, one after the other, are read with the entries of its manifest as specifications. The
tensors that come out have the names, shapes and elements of the arrays that went in.
-/
namespace TensorKit.Script
open List
open Engine Weights Files
variable {w : Weight} {group : List Weight} {specs : List (Spec Float)}

/-! ## Arrays as entries -/

/-- The types of elements that arrays and tensors share. -/
def isShared : Element → Bool
  | .float32 | .int32 | .bool | .object | .str | .bytes => true
  | _ => false

def dtypeOf : Element → DType
  | .float32 => .float32
  | .int32 => .int32
  | .bool => .bool
  | _ => .string

def entryElements : Grid → Elements
  | ⟨.float32,_,cells⟩ => .words cells
  | ⟨.int32,_,cells⟩ => .words cells
  | ⟨.bool,_,cells⟩ => .flags cells
  | g => .texts (g.labels.map bytesOfLabel)

def nameOf : Json → String
  | .str s => s
  | _ => ""
def entryOf (w : Weight) : Entry := ⟨nameOf w.name,w.data.shape,dtypeOf w.data.element,entryElements w.data⟩

/-- What a tensor holds that has the elements of an array. -/
def written (g : Grid) : Data :=
  if g.element.isLabel then .strings (g.labels.map fun l => ofBytes (bytesOfLabel l)).toArray
  else .numbers g.floats.toArray

theorem flatMap_flagBytes (bs : Bytes) : bs.flatMap (lowBytes 1 ·.toNat) = bs := by
  have hbyte b : lowBytes 1 b.toNat = [b] := by simp [lowBytes]
  simp [hbyte]

theorem toBytes_entryOf (h : isShared w.data.element) : (entryOf w).elements.toBytes = fileBytes (keptGrid w.data) := by
  obtain ⟨name,⟨e,shape,cells⟩,scaling⟩ := w
  cases e with
  | float32 | int32 => rfl
  | bool => exact (flatMap_flagBytes cells).symm
  | object | str | bytes => exact flatMap_map bytesOfLabel Elements.textBytes cells
  | _ => cases h

theorem full_entryOf (h : isShared w.data.element) (hfilled : Filled w.data) (hshort : Short (keptGrid w.data)) :
    (entryOf w).Full := by
  obtain ⟨name,⟨e,shape,cells⟩,scaling⟩ := w
  have htexts (ls : List Label) (hls : ∀ l ∈ ls, (bytesOfLabel l).length < 2 ^ 32) :
      ∀ t ∈ ls.map bytesOfLabel, t.length < 2 ^ 32 := by
    rw [forall_mem_map]
    exact hls
  cases e with
  | float32 | int32 | bool => exact ⟨trivial,hfilled.count⟩
  | object | str | bytes => exact ⟨htexts cells (hshort rfl),(length_map _).trans hfilled.count⟩
  | _ => cases h

theorem signed_toNat (c : UInt32) : Element.signed 32 c.toNat = c.toInt32.toInt := by
  have hpow : .pow 2 (32 - 1) = 2147483648 ∧ Nat.pow 2 32 = 4294967296 := ⟨rfl,rfl⟩
  have hbits : c.toInt32.toInt = if 2 * c.toNat < 4294967296 then (c.toNat : Int) else c.toNat - 4294967296 :=
    BitVec.toInt_eq_toNat_cond c.toBitVec
  rw [hbits,Element.signed]
  split <;> split <;> omega

theorem toFloat_truth {c : UInt8} (h : c.toNat ≤ 1) : c.toFloat = if c.toNat != 0 then 1.0 else 0.0 := by
  have hcases : c = 0 ∨ c = 1 := by
    rcases Nat.le_one_iff_eq_zero_or_eq_one.mp h with h | h
    · exact .inl (UInt8.toNat_inj.mp h)
    · exact .inr (UInt8.toNat_inj.mp h)
  rcases hcases with rfl | rfl <;> rfl

theorem floats_eq {f : e.Cell → Float} {cells : List e.Cell} (h : ∀ c ∈ cells, e.toFloat? c = some (f c))
    (shape : Nats) : Grid.floats ⟨e,shape,cells⟩ = cells.map f := by
  have hall : cells.mapM e.toFloat? = some (cells.map f) := by
    induction cells with
    | nil => rfl
    | cons c cells ih =>
      rw [mapM_cons,h c mem_cons_self,ih fun x hx => h x (mem_cons_of_mem _ hx)]
      rfl
  simp only [Grid.floats,Grid.floats?,hall,Option.getD_some]

theorem dataOfEntry_entryOf (h : isShared w.data.element) (hfilled : Filled w.data) :
    dataOfEntry (entryOf w) = written w.data := by
  obtain ⟨name,⟨e,shape,cells⟩,scaling⟩ := w
  cases e with
  | float32 =>
    have hfloats := @floats_eq .float32 (numberOfWord .float32) cells (fun c _ => rfl) shape
    exact congrArg (Data.numbers ·.toArray) hfloats.symm
  | int32 =>
    have hfloats := @floats_eq .int32 (numberOfWord .int32) cells
      (fun c _ => congrArg (fun n => some (Float.ofInt n)) (signed_toNat c)) shape
    exact congrArg (Data.numbers ·.toArray) hfloats.symm
  | bool =>
    have hfloats := @floats_eq .bool UInt8.toFloat cells
      (fun c hc => congrArg some (toFloat_truth (hfilled.truths c hc rfl)).symm) shape
    exact congrArg (Data.numbers ·.toArray) hfloats.symm
  | object | str | bytes => exact congrArg (Data.strings ·.toArray) map_map
  | _ => cases h

/-! ## Manifests as specifications -/

/-- A specification that says what an entry of a manifest says. -/
structure Lists (spec : Spec Float) (entry : Json) : Prop where
  name : entry.get? "name" = some (.str spec.name)
  shape : entry.get? "shape" = some (.arr (spec.shape.map fun n : Nat => .int n))
  dtype : entry.get? "dtype" = some (.str spec.dtype)
  plain : entry.get? "quantization" = none ∧ spec.quantization.isNone

variable (h : isShared w.data.element) (hplain : w.scaling = none)
include h hplain
theorem listing_keptWeight : listing (keptWeight w) =
    .obj [("name",w.name),("shape",.arr (w.data.shape.map fun n : Nat => .int n)),("dtype",
    .str (dtypeOf w.data.element).name)] := by
  obtain ⟨name,⟨e,shape,cells⟩,scaling⟩ := w
  obtain rfl : scaling = none := hplain
  cases e with
  | float32 | int32 | bool | object | str | bytes => rfl
  | _ => cases h

theorem describes_of_lists (hlists : Lists spec (listing (keptWeight w))) : spec.Describes (entryOf w) := by
  rw [listing_keptWeight h hplain] at hlists
  obtain ⟨hname,hshape,hdtype,-,hquantization⟩ := hlists
  have hname' : w.name = .str spec.name := Option.some.inj hname
  have hshape' : w.data.shape.map (fun n : Nat => .int n) = spec.shape.map fun n : Nat => Json.int n :=
    Json.arr.inj (Option.some.inj hshape)
  have hdtype' : (dtypeOf w.data.element).name = spec.dtype := Json.str.inj (Option.some.inj hdtype)
  have hint : Function.Injective fun n : Nat => Json.int n := fun m n hmn => Int.ofNat.inj (Json.int.inj hmn)
  exact ⟨by simp [entryOf,nameOf,hname'],(map_injective_iff.mpr hint hshape').symm,hdtype'.symm,hquantization⟩

theorem lists_specOf (hname : ∃ name, w.name = .str name) (hlengths : ∀ n ∈ w.data.shape,
    Number.wholePart (.ofNat n) = n) : Lists (specOf (.ofJson (listing (keptWeight w)))) (listing (keptWeight w)) := by
  obtain ⟨name,hname⟩ := hname
  have hspec : specOf (.ofJson (listing (keptWeight w))) = ⟨name,w.data.shape,(dtypeOf w.data.element).name,none⟩ := by
    have hvalue : Value.ofJson (listing (keptWeight w)) = .record ([("name",.str name),
        ("shape",.ofShape w.data.shape),("dtype",.str (dtypeOf w.data.element).name)] ++ []) := by
      rw [listing_keptWeight h hplain,hname]
      simp [Value.ofJson,Value.ofInt,Value.ofShape,Function.comp_def]
      rfl
    rw [hvalue,specOf_record _ _ _ (by simp),nats_ofShape hlengths]
  rw [hspec,listing_keptWeight h hplain,hname]
  exact ⟨rfl,rfl,rfl,rfl,rfl⟩
omit h hplain

/-! ## Names -/

theorem nodup_of_checkNames {names : Strings} (h : checkNames seen (names.map .str) = .ok ()) :
    names.Nodup ∧ ∀ name ∈ names, .str name ∉ seen := by
  induction names generalizing seen with
  | nil => simp
  | cons name names ih =>
    rw [map_cons,checkNames] at h
    · split at h
      · cases h
      next hnew =>
        obtain ⟨hnodup,hall⟩ := ih h
        have hnot : .str name ∉ seen := by
          intro hmem
          exact hnew (any_eq_true.mpr ⟨_,hmem,by simp [sameName]⟩)
        refine ⟨nodup_cons.mpr ⟨(hall name · mem_cons_self),hnodup⟩,fun n hn => ?_⟩
        rcases mem_cons.mp hn with rfl | hn
        · exact hnot
        · exact fun hmem => hall n hn (mem_cons_of_mem _ hmem)
    · simp
    · simp

/-! ## Groups -/

/-- A weight that a tensor can be: named by a text, as it is without scaling, with an element of a shared type
in every place. -/
structure Common (w : Weight) : Prop where
  named : ∃ name, w.name = .str name
  shared : isShared w.data.element
  plain : w.scaling = none
  filled : Filled w.data

/-- A tensor with the name, the shape and the elements of a weight. -/
structure Carries (e : Engine) (named : String × Tensor) (w : Weight) : Prop where
  name : w.name = .str named.1
  shape : named.2.shape = w.data.shape
  dtype : named.2.dtype = dtypeOf w.data.element
  reads : Reads e named.2 (written w.data)

theorem forall₂_imp_of_mem {α β : Type} {R S : α → β → Prop} {xs : List α} {ys : List β} (h : Forall₂ R xs ys)
    (himp : ∀ x ∈ xs, ∀ y ∈ ys, R x y → S x y) : Forall₂ S xs ys := by
  rw [forall₂_iff_zip] at h ⊢
  refine ⟨h.1,fun {x y} hxy => ?_⟩
  obtain ⟨hx,hy⟩ := of_mem_zip hxy
  exact himp x hx y hy (h.2 hxy)

theorem Restores.carries {p : String × Tensor} (hw : Common w) (h : Restores e p (entryOf w)) : Carries e p w := by
  obtain ⟨name,hname⟩ := hw.named
  refine ⟨?_,h.shape,h.dtype,dataOfEntry_entryOf hw.shared hw.filled ▸ h.reads⟩
  rw [h.name,entryOf,hname,nameOf]
variable (hcommon : ∀ w ∈ group, Common w)
include hcommon
theorem encode_entryOf : encode (group.map entryOf) = groupFile (group.map keptWeight) := by
  rw [encode,groupFile,flatMap_map,flatMap_map]
  exact flatMap_congr fun w hw => toBytes_entryOf (hcommon w hw).shared

theorem describes_group (hspecs : Forall₂ Lists specs (group.map fun w => listing
    (keptWeight w))) : Forall₂ Spec.Describes specs (group.map entryOf) := by
  rw [forall₂_map_right_iff] at hspecs ⊢
  exact forall₂_imp_of_mem hspecs fun spec _ w hw hlists => describes_of_lists (hcommon w hw).shared (hcommon w hw).plain hlists

theorem run_decode_groupFile (hshort : ∀ w ∈ group.map keptWeight, Short w.data) (hnames : (group.map fun w =>
    nameOf w.name).Nodup) (hspecs : Forall₂ Lists specs (group.map fun w => listing (keptWeight w))) (e : Engine) :
    ∃ ts e', decodeWeights (groupFile (group.map keptWeight)) specs e = .ok ts e' ∧ Forall₂ (Carries e') ts group := by
  have hfull : ∀ v ∈ group.map entryOf, v.Full := by
    rw [forall_mem_map] at hshort ⊢
    exact fun w hw => full_entryOf (hcommon w hw).shared (hcommon w hw).filled (hshort w hw)
  have hentries : ((group.map entryOf).map Entry.name).Nodup := by
    rw [map_map]
    exact hnames
  obtain ⟨ts,e',hmembers,-,hrestores⟩ := run_decodeMembers hfull (describes_group hcommon hspecs) hentries e
  rw [encode_entryOf hcommon] at hmembers
  refine ⟨ts,e',decodeWeights_of_members hmembers,?_⟩
  rw [forall₂_map_right_iff] at hrestores
  exact forall₂_imp_of_mem hrestores fun named _ w hw => Restores.carries (hcommon w hw)

omit hcommon in
theorem nodup_names {groups : Groups} (hcommon : ∀ w ∈ groups.flatten, Common w) (h : checkNames []
    (groups.flatten.map (·.name)) = .ok ()) : ∀ group ∈ groups, (group.map (nameOf ·.name)).Nodup := by
  have hnames : groups.flatten.map (·.name) = (groups.flatten.map (nameOf ·.name)).map .str := by
    rw [map_map]
    refine map_congr_left fun w hw => ?_
    obtain ⟨name,hname⟩ := (hcommon w hw).named
    simp [hname,nameOf]
  rw [hnames] at h
  have hnodup := (nodup_of_checkNames h).1
  rw [map_flatten,nodup_flatten] at hnodup
  intro group hgroup
  exact hnodup.1 _ (mem_map_of_mem hgroup)

theorem lists_entries (hlengths : ∀ w ∈ group, ∀ n ∈ w.data.shape, Number.wholePart
    (.ofNat n) = n) : Forall₂ Lists ((group.map fun w => listing (keptWeight w)).map fun entry => specOf
    (.ofJson entry)) (group.map fun w => listing (keptWeight w)) := by
  rw [forall₂_map_left_iff,forall₂_same,forall_mem_map]
  exact fun w hw => lists_specOf (hcommon w hw).shared (hcommon w hw).plain (hcommon w hw).named (hlengths w hw)

omit hcommon

/-- A group in files that can be taken over as tensors. Its entry in the manifest names files and lists weights.
The bytes of the files, one after the other, and specifications that say what the list says give for every weight
a tensor with its name, its shape and its elements. Reading the list gives such specifications, if the lengths are
numbers that a value can be. -/
def TakenOver (d : Desk) (folder : String) (group : List Weight) (entry : Json) : Prop :=
  ∃ bytes weights, groupBytes folder entry d = .ok bytes d ∧ entry.get? "weights" = some (.arr weights) ∧
    ((∀ w ∈ group, ∀ n ∈ w.data.shape, Number.wholePart (.ofNat n) = n) →
      Forall₂ Lists (weights.map fun weight => specOf (.ofJson weight)) weights) ∧
    ∀ specs, Forall₂ Lists specs weights → ∀ e, ∃ ts e',
      decodeWeights bytes specs e = .ok ts e' ∧ Forall₂ (Carries e') ts group

theorem takenOver_of_filed (h : Filed d folder (group.map keptWeight) entry) (hcommon : ∀ w ∈ group, Common w)
    (hnames : (group.map (nameOf ·.name)).Nodup) : TakenOver d folder group entry := by
  obtain ⟨files,rfl⟩ := h.named
  refine ⟨_,group.map fun w => listing (keptWeight w),h.bytes,?_,lists_entries hcommon,fun specs hspecs e => ?_⟩
  · simp [manifestGroup,Json.get?]
  · exact run_decode_groupFile hcommon h.short hnames hspecs e

/-- Groups of common weights that were stored, in files of whatever size, can be taken over group by group. -/
theorem decodeWeights_store {offered : OfferedGroups} {folder : String} {size : Json} {withManifest : Bool}
    {manifest : Json} {groups : List (List Weight)} {d d' : Desk}
    (hstore : store offered folder size withManifest none d = .ok manifest d')
    (hgroups : checkGroups offered = .ok groups) (hcommon : ∀ w ∈ groups.flatten, Common w) :
    ∃ entries, manifest = .arr entries ∧ List.Forall₂ (TakenOver d' folder) groups entries := by
  have hall := allStored_of_store hstore hgroups
  obtain ⟨entries, rfl, hfiled⟩ := hall.filed
  have hnames := nodup_names hcommon hall.names
  refine ⟨entries, rfl, ?_⟩
  rw [List.forall₂_map_left_iff] at hfiled
  refine forall₂_imp_of_mem hfiled fun group hgroup entry _ hentry => takenOver_of_filed hentry ?_ (hnames group hgroup)
  exact fun w hw => hcommon w (List.mem_flatten_of_mem hgroup hw)

/-- Two groups with every type of elements that arrays and tensors share, some without elements. -/
def commonGroups : Groups :=
  [[⟨.str "kernel",⟨.float32,[2],[(0x3fc00000 : UInt32),(0x80000001 : UInt32)]⟩,none⟩,
    ⟨.str "words",⟨.bytes,[1,2],[.raw [97,255],.raw []]⟩,none⟩,
    ⟨.str "none",⟨.object,[0],[]⟩,none⟩,⟨.str "flag",⟨.bool,[],[(1 : UInt8)]⟩,none⟩],
   [⟨.str "empty",⟨.int32,[2,0],[]⟩,none⟩,⟨.str "steps",⟨.int32,[1],[(0xfffffffe : UInt32)]⟩,none⟩]]

theorem common_commonGroups : ∀ w ∈ commonGroups.flatten, Common w := by
  intro w hw
  simp only [commonGroups,flatten_cons,flatten_nil,cons_append,nil_append,mem_cons,not_mem_nil,or_false] at hw
  have hflag : Filled ⟨.bool,[],[(1 : UInt8)]⟩ := by
    refine ⟨rfl,fun c hc _ => ?_⟩
    obtain rfl := mem_singleton.mp hc
    decide
  rcases hw with rfl | rfl | rfl | rfl | rfl | rfl
  case inr.inr.inr.inl => exact ⟨⟨_,rfl⟩,rfl,rfl,hflag⟩
  all_goals exact ⟨⟨_,rfl⟩,rfl,rfl,rfl,fun _ _ h => by cases h⟩

theorem decodeWeights_store_commonGroups : ∃ manifest d' entries,
    store (offering commonGroups) "$TMP" (.int 3) false none {} = .ok manifest d' ∧ (∀ w ∈ commonGroups.flatten, Common w) ∧
    manifest = .arr entries ∧ List.Forall₂ (TakenOver d' "$TMP") commonGroups entries := by
  have hstores : (match store (offering commonGroups) "$TMP" (.int 3) false none {} with
    | .ok _ _ => true
    | .error _ _ => false) = true := by decide +kernel
  cases hstore : store (offering commonGroups) "$TMP" (.int 3) false none {} with
  | error f d' =>
    rw [hstore] at hstores
    cases hstores
  | ok manifest d' =>
    obtain ⟨entries, hmanifest, hall⟩ := decodeWeights_store hstore rfl common_commonGroups
    exact ⟨manifest, d', entries, rfl, common_commonGroups, hmanifest, hall⟩
end TensorKit.Script
