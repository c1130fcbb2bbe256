import TensorKit.Proofs.Weights.Shards

/-! # Weights through files and back

What is read from the files of a group are the arrays that were written, in the form in which they are kept. Truth values
are written but never read. Where the reader counts bytes in another way than the writer nothing is said.
-/
namespace TensorKit.Weights
open List Elements
open Files
variable {g : Grid} {e : Element} {w : Weight} {pre : Bytes} {ws : List Weight} {groups : Groups}
  (shape : Nats)

/-! ## One array -/

/-- An array as it is read: all labels are byte strings. -/
def readGrid (g : Grid) : Grid := match g.element with
  | .object => .ofLabels g.shape (g.labels.map fun l => .raw (bytesOfLabel l))
  | _ => g

def loadedWeight (w : Weight) : Loaded := ⟨w.name,readGrid w.data⟩

theorem readGrid_of_ne (h : g.element ≠ .object) : readGrid g = g := by
  unfold readGrid
  split
  next hobject => exact absurd hobject h
  next => rfl

theorem lengths_listed : lengths (.arr (shape.map fun n : Nat => .int n)) = .ok (shape.map .ofNat) := by
  change (shape.map fun n : Nat => Json.int n).mapM _ = _
  induction shape with
  | nil => rfl
  | cons n shape ih =>
    rw [map_cons,mapM_cons,ih]
    rfl

theorem foldl_map_ofNat (n : Nat) : (shape.map .ofNat).foldl (· * ·) (n : Int) = (shape.foldl (· * ·) n : Nat) := by
  rw [foldl_map]
  exact foldl_hom Int.ofNat fun _ _ => rfl

theorem numel_map : numel (shape.map .ofNat) = (shape.foldl (· * ·) 1 : Nat) := foldl_map_ofNat shape 1

theorem fitShape_map : fitShape (shape.map .ofNat) (shape.foldl (· * ·) 1) = .ok shape := by
  have hnone : (shape.map Int.ofNat).filter (· < 0) = [] := by
    rw [filter_eq_nil_iff]
    intro n hn
    obtain ⟨m,-,rfl⟩ := mem_map.mp hn
    simp
  have hback : (shape.map .ofNat).map Int.toNat = shape := map_map_of_forall fun _ _ => rfl
  rw [fitShape,hnone]
  simp only [numel_map,hback,beq_self_eq_true,if_true]

/-- The name of the elements in a manifest. -/
def listedName (e : Element) : String := if e.name == "object" then "string" else e.name

theorem storedElement_listed (h : Offer.isStorable e) :
    storedElement (.str (listedName e)) .null = .ok e ∧ isText (.str (listedName e)) = decide (e = .object) := by
  cases e <;> decide +kernel

theorem loadOne_of_fields {fields : Named Json} {name dtype shape quantization : Json} {ns : Ints}
    (hquantization : (Json.obj fields).getD "quantization" .null = quantization)
    (hname : need (.obj fields) "name" = .ok name) (hdtype : need (.obj fields) "dtype" = .ok dtype)
    (helement : storedElement dtype quantization = .ok e) (hshape : need (.obj fields) "shape" = .ok shape)
    (hlengths : lengths shape = .ok ns) (bs : Bytes) (offset : Nat) : loadOne bs offset (.obj fields) =
      if isReadable e then (readElements bs offset (isText dtype) e ns).bind fun r =>
          (unscaled dtype quantization r.1).map fun g => (⟨name,g⟩,r.2)
      else .error (.because .unsupported s!"Unsupported data type: {e.name}") := by
  simp only [loadOne,hquantization,hname,hdtype,helement,hshape,hlengths,bind,Except.bind]
  cases isReadable e with
  | false => rfl
  | true =>
    cases readElements bs offset (isText dtype) e ns with
    | error f => rfl
    | ok r => cases unscaled dtype quantization r.1 <;> rfl

/-- What is read as an array of the shape and the type of another one. -/
abbrev readAs (g : Grid) (bs : Bytes) (offset : Nat) : Except Refusal (Grid × Nat) :=
  readElements bs offset (decide (g.element = .object)) g.element (g.shape.map .ofNat)

theorem loadOne_listing (hplain : w.scaling = none) (hstorable : Offer.isStorable w.data.element) (bs : Bytes)
    (offset : Nat) : loadOne bs offset (listing w) = if isReadable w.data.element then
        (readAs w.data bs offset).map fun r => (⟨w.name,r.1⟩,r.2)
      else .error (.because .unsupported s!"Unsupported data type: {w.data.element.name}") := by
  obtain ⟨name,⟨e,shape,cells⟩,scaling⟩ := w
  obtain rfl : scaling = none := hplain
  obtain ⟨helement,htext⟩ := storedElement_listed hstorable
  have hlist : listing ⟨name,⟨e,shape,cells⟩,none⟩ = .obj [("name",name),
      ("shape",.arr (shape.map fun n : Nat => .int n)),("dtype",.str (listedName e))] := rfl
  rw [hlist,loadOne_of_fields rfl rfl rfl helement rfl (lengths_listed shape),htext]
  rfl

theorem cell_toNat : ∀ {s : Storage}, s ≠ .label → ∀ c, s.cell (s.toNat c) = c
  | .byte, _, c => UInt8.ofNat_toNat
  | .half, _, c => UInt16.ofNat_toNat
  | .word, _, c => UInt32.ofNat_toNat
  | .long, _, c => UInt64.ofNat_toNat
  | .pair, _, (low,high) => by
    have hlow := low.toNat_lt
    have hbelow : (low.toNat + 2 ^ 64 * high.toNat).toUInt64 = low := by simp
    have habove : (low.toNat + 2 ^ 64 * high.toNat) / 2 ^ 64 = high.toNat := by omega
    change ((low.toNat + 2 ^ 64 * high.toNat).toUInt64,
      ((low.toNat + 2 ^ 64 * high.toNat) / 2 ^ 64).toUInt64) = (low,high)
    rw [hbelow,habove,Nat.toUInt64,UInt64.ofNat_toNat]
  | .label, h, _ => absurd rfl h

theorem toNat_lt : ∀ {s : Storage} (c : s.Cell), s.toNat c < 256 ^ s.width
  | .byte, c => UInt8.toNat_lt c
  | .half, c => UInt16.toNat_lt c
  | .word, c => UInt32.toNat_lt c
  | .long, c => UInt64.toNat_lt c
  | .pair, c => by
    have hlow := UInt64.toNat_lt c.1
    have hhigh := UInt64.toNat_lt c.2
    change c.1.toNat + 2 ^ 64 * c.2.toNat < 256 ^ 16
    omega
  | .label, _ => Nat.pos_of_ne_zero (by decide)

theorem width_pos (s : Storage) : 0 < s.width := by cases s <;> decide
theorem length_toBytes (g : Grid) : g.toBytes.length = g.cells.length * g.element.width := by
  simp [Grid.toBytes,Grid.cellBytes]
def levelsOf (g : Grid) : Nats := g.cells.map g.element.storage.toNat
theorem readWords_toBytes (g : Grid) : readWords g.element.width g.toBytes = levelsOf g := by
  unfold Grid.toBytes Grid.cellBytes
  rw [Element.width,readWords_flatMap (width_pos _) fun c _ => toNat_lt c]
  rfl
theorem cellsOf_toBytes (h : g.element.storage ≠ .label) : Grid.cellsOf g.element g.toBytes = g.cells := by
  rw [Grid.cellsOf,readWords_toBytes]
  exact map_map_of_forall fun c _ => cell_toNat h c

theorem readNumbers_append (hnumbers : g.element.storage ≠ .label) (hcount : g.cells.length = g.size)
    (pre post : Bytes) : readNumbers (pre ++ g.toBytes ++ post) pre.length g.element (g.shape.map .ofNat) = .ok g := by
  have hnumel : numel (g.shape.map .ofNat) = g.size := numel_map g.shape
  have hlength : g.toBytes.length = g.size * g.element.width := by rw [length_toBytes,hcount]
  have hslice : slice (pre ++ g.toBytes ++ post) pre.length (g.size * g.element.width) = g.toBytes :=
    slice_eq rfl hlength.symm
  have hwithin : ¬ pre.length > (pre ++ g.toBytes ++ post).length := by
    simp only [length_append]
    omega
  have henough : ¬ (pre ++ g.toBytes ++ post).length - pre.length < g.size * g.element.width := by
    simp only [length_append]
    omega
  have hfit : fitShape (g.shape.map .ofNat) g.size = .ok g.shape := fitShape_map g.shape
  simp only [readNumbers,hnumel,Int.toNat_natCast,if_neg hwithin,if_neg henough,pure_bind,hslice,cellsOf_toBytes hnumbers,hfit]
  rfl

theorem lengthAt_append (hshort : t.length < 256 ^ 4) (post : Bytes) :
    lengthAt (pre ++ textBytes t ++ post) pre.length = .ok t.length := by
  simp only [lengthAt,slice_length,ofLowBytes_lowBytes_of_lt hshort]
  rfl

theorem readLabels_append {ts : List Bytes} (hend : pre.length + (ts.flatMap textBytes).length < 2 ^ 32)
    (post : Bytes) : readLabels (pre ++ ts.flatMap textBytes ++ post) ts.length pre.length = .ok (ts.map .raw,
    pre.length + (ts.flatMap textBytes).length) := by
  induction ts generalizing pre with
  | nil => rfl
  | cons t ts ih =>
    rw [flatMap_cons,length_append,length_textBytes] at hend ⊢
    have hrest := @ih (pre ++ textBytes t) (by rw [length_append,length_textBytes]; omega)
    rw [length_append,length_textBytes,← Nat.add_assoc,append_assoc _ (ts.flatMap _)] at hrest
    have hpow : .pow 2 32 = 2 ^ 32 := rfl
    have hstart : (pre.length + 4) % .pow 2 32 = pre.length + 4 := Nat.mod_eq_of_lt (by omega)
    have hstop : (pre.length + 4 + t.length) % .pow 2 32 = pre.length + 4 + t.length := Nat.mod_eq_of_lt (by omega)
    rw [← append_assoc,append_assoc _ (ts.flatMap _),length_cons,readLabels,lengthAt_append (by omega),← Nat.add_assoc,
      ← Nat.add_assoc]
    simp only [bind,Except.bind,hstart,hstop,Nat.add_sub_cancel_left,slice_text,hrest]
    rfl

section
variable {shape : Nats} {labels : List Label}
theorem fileBytes_ofLabels (labels : List Label) :
    fileBytes (.ofLabels shape labels) = (labels.map bytesOfLabel).flatMap textBytes := by
  rw [flatMap_map]
  rfl
theorem readGrid_ofLabels (labels : List Label) :
    readGrid (.ofLabels shape labels) = .ofLabels shape ((labels.map bytesOfLabel).map .raw) := by
  rw [map_map]
  rfl

theorem readTextGrid_append (hshape : shape ≠ []) (hcount : labels.length = shape.foldl (· * ·) 1) (hsome : labels ≠ [])
    (hend : pre.length + (fileBytes (.ofLabels shape labels)).length < 2 ^ 32) (post : Bytes) : readTextGrid (pre ++
    fileBytes (.ofLabels shape labels) ++ post) pre.length (shape.map .ofNat) = .ok (readGrid (.ofLabels
    shape labels),pre.length + (fileBytes (.ofLabels shape labels)).length) := by
  have hnumel : numel (shape.map .ofNat) = (labels.map bytesOfLabel).length := by rw [numel_map,length_map,hcount]
  have hfit : fitShape (shape.map .ofNat) (labels.map bytesOfLabel).length = .ok shape := by
    rw [length_map,hcount,fitShape_map]
  have hpos : 0 < (labels.map bytesOfLabel).length := by
    rw [length_map]
    exact length_pos_of_ne_nil hsome
  have hsize : (((labels.map bytesOfLabel).length : Int) == 0) = false := by
    rw [beq_eq_false_iff_ne]
    omega
  have hnested : (shape.map Int.ofNat).isEmpty = false := by simpa using hshape
  rw [fileBytes_ofLabels] at hend ⊢
  simp only [readTextGrid,hnumel,hnested,hsize,Int.toNat_natCast,readLabels_append hend,hfit,readGrid_ofLabels]
  rfl

theorem readTextGrid_nil (hshape : shape ≠ []) (hcount : 0 = shape.foldl (· * ·) 1) (bs : Bytes) (offset : Nat) :
    readTextGrid bs offset (shape.map .ofNat) = .ok (readGrid (.ofLabels shape []),offset + 4) := by
  have hnumel : numel (shape.map .ofNat) = 0 := by rw [numel_map,← hcount]; rfl
  have hfit : fitShape (shape.map .ofNat) 0 = .ok shape := by
    have hfit := fitShape_map shape
    rwa [← hcount] at hfit
  have hnested : (shape.map Int.ofNat).isEmpty = false := by simpa using hshape
  simp only [readTextGrid,hnumel,hnested,hfit]
  rfl
end

theorem readElements_numbers (hreadable : isReadable g.element) (hnumbers : g.element ≠ .object) (hcount :
    g.cells.length = g.size) (pre post : Bytes) : readAs g (pre ++ fileBytes g ++ post) pre.length =
    .ok (readGrid g,pre.length + (fileBytes g).length) := by
  have hstorage : g.element.storage ≠ .label := by
    revert hreadable hnumbers
    cases g.element <;> decide
  have hnext : g.element.width * g.size = g.toBytes.length := by rw [length_toBytes,hcount,Nat.mul_comm]
  simp only [readAs,readElements,decide_eq_false hnumbers,if_neg hnumbers,fileBytes_of_ne hnumbers,readGrid_of_ne hnumbers,
    readNumbers_append hstorage hcount]
  change Except.ok (g,pre.length + g.element.width * g.size) = _
  rw [hnext]

theorem readElements_texts (hobject : g.element = .object) (hshape : g.shape ≠ []) (hcount : g.cells.length = g.size)
    (hsome : g.size ≠ 0) (hend : pre.length + (fileBytes g).length < 2 ^ 32) (post : Bytes) :
    readAs g (pre ++ fileBytes g ++ post) pre.length = .ok (readGrid g,pre.length + (fileBytes g).length) := by
  obtain ⟨e,shape,cells⟩ := g
  obtain rfl : e = .object := hobject
  have hcells : cells ≠ [] := by
    rintro rfl
    exact hsome hcount.symm
  exact readTextGrid_append hshape hcount hcells hend post

def Blank (g : Grid) : Prop := g.element = .object ∧ g.size = 0
instance (g : Grid) : Decidable (Blank g) := inferInstanceAs (Decidable (_ ∧ _))

theorem readElements_blank (hblank : Blank g) (hshape : g.shape ≠ []) (hcount : g.cells.length = g.size) (bs : Bytes)
    (offset : Nat) : readAs g bs offset = .ok (readGrid g,offset + 4) := by
  obtain ⟨e,shape,cells⟩ := g
  obtain ⟨rfl,hsize⟩ : e = .object ∧ _ := hblank
  obtain rfl : cells = [] := eq_nil_of_length_eq_zero (hcount.trans hsize)
  exact readTextGrid_nil hshape hcount bs offset

/-! ## A group -/

/-- Arrays from an offset on whose texts are all found: an array of texts has at least one length, its texts
end where four bytes can still count them, and behind an array without texts there are only such arrays. -/
def LegibleFrom : Nat → List Grid → Prop
  | _, [] => True
  | offset, g :: rest =>
    (g.element = .object →
      g.shape ≠ [] ∧ (g.size ≠ 0 → offset + (fileBytes g).length < 2 ^ 32) ∧ (g.size = 0 → ∀ h ∈ rest, Blank h)) ∧
    LegibleFrom (offset + (fileBytes g).length) rest

instance decidableLegibleFrom : (offset : Nat) → (gs : List Grid) → Decidable (LegibleFrom offset gs)
  | _, [] => inferInstanceAs (Decidable True)
  | offset, g :: rest =>
    have := decidableLegibleFrom (offset + (fileBytes g).length) rest
    inferInstanceAs (Decidable ((_ → _) ∧ _))

/-- A group of arrays as they are kept that can be found in their bytes. -/
structure Readable (ws : List Weight) : Prop where
  plain : ∀ w ∈ ws, w.scaling = none
  kept : ∀ w ∈ ws, isReadable w.data.element ∨ w.data.element = .bool
  filled : ∀ w ∈ ws, w.data.cells.length = w.data.size
  legible : LegibleFrom 0 (ws.map (·.data))

/-- The offset from which the weights behind `done` are read. Where only arrays without texts are left it
does not matter. -/
def InPlace (done rest : List Weight) (offset : Nat) : Prop :=
  offset = (groupFile done).length ∨ ∀ w ∈ rest, Blank w.data

theorem isStorable_of_kept (h : isReadable e ∨ e = .bool) : Offer.isStorable e := by
  cases e <;> simp_all [isReadable,Offer.isStorable]

theorem loadOne_step (hws : Readable ws)
    (hsplit : ws = done ++ w :: rest) (hlegible : LegibleFrom (groupFile done).length ((w :: rest).map (·.data)))
    (hreadable : isReadable w.data.element) (hplace : InPlace done (w :: rest) offset) : ∃ next,
    loadOne (groupFile ws) offset (listing w) = .ok (loadedWeight w,next) ∧ InPlace (done ++ [w]) rest next := by
  have hmem : w ∈ ws := by simp [hsplit]
  have hfile : groupFile ws = groupFile done ++ fileBytes w.data ++ groupFile rest := by simp [hsplit,groupFile]
  have hdone : (groupFile (done ++ [w])).length = (groupFile done).length + (fileBytes w.data).length := by
    simp [groupFile]
  rw [loadOne_listing (hws.plain w hmem) (isStorable_of_kept (hws.kept w hmem)),if_pos hreadable]
  -- it is enough to read the elements
  suffices ∃ next, readAs w.data (groupFile ws) offset = .ok (readGrid w.data,next) ∧ InPlace (done ++ [w]) rest next by
    obtain ⟨next,hread,hnext⟩ := this
    exact ⟨next,by rw [hread]; rfl,hnext⟩
  have hoffset (hnot : ¬ Blank w.data) : offset = (groupFile done).length :=
    hplace.resolve_right fun hblank => hnot (hblank w mem_cons_self)
  by_cases hobject : w.data.element = .object
  · obtain ⟨hshape,hend,hlast⟩ := hlegible.1 hobject
    by_cases hsize : w.data.size = 0
    · refine ⟨offset + 4,readElements_blank ⟨hobject,hsize⟩ hshape (hws.filled w hmem) _ _,.inr fun v hv => ?_⟩
      exact hlast hsize v.data (mem_map_of_mem hv)
    · refine ⟨_,?_,.inl hdone.symm⟩
      rw [hfile,hoffset (hsize ·.2),readElements_texts hobject hshape (hws.filled w hmem) hsize (hend hsize)]
  · refine ⟨_,?_,.inl hdone.symm⟩
    rw [hfile,hoffset (hobject ·.1),readElements_numbers hreadable hobject (hws.filled w hmem)]

abbrev truthsRefused : Refusal := .because .unsupported "Unsupported data type: bool"

/-- What reading a group gives: truth values are refused. -/
def readBack (ws : List Weight) : Except Refusal (List Loaded) :=
  if ws.any (·.data.element = .bool) then .error truthsRefused else .ok (ws.map loadedWeight)

theorem readBack_cons (h : isReadable w.data.element) (rest : List Weight) :
    readBack (w :: rest) = (readBack rest).map (loadedWeight w :: ·) := by
  have hnot : w.data.element ≠ .bool := by
    rintro hbool
    rw [hbool] at h
    cases h
  unfold readBack
  rw [any_cons,decide_eq_false hnot,Bool.false_or]
  split <;> rfl

theorem foldlM_loadOne (hws : Readable ws) (hsplit : ws = done ++ rest)
    (hlegible : LegibleFrom (groupFile done).length (rest.map (·.data)))
    (hplace : InPlace done rest offset) (out : List Loaded) :
    ((rest.map listing).foldlM (fun (p : List Loaded × Nat) w => do
      let (l,next) ← loadOne (groupFile ws) p.2 w
      return (p.1 ++ [l],next)) (out,offset)).map Prod.fst = (readBack rest).map (out ++ ·) := by
  induction rest generalizing done offset out with
  | nil => simp [readBack,Except.map,pure,Except.pure]
  | cons w rest ih =>
    have hmem : w ∈ ws := by simp [hsplit]
    rw [map_cons,foldlM_cons]
    rcases hws.kept w hmem with hreadable | hbool
    · obtain ⟨next,hload,hnext⟩ := loadOne_step hws hsplit hlegible hreadable hplace
      have hrest := ih (by simp [hsplit]) (by simpa [groupFile] using hlegible.2) hnext (out ++ [loadedWeight w])
      rw [hload]
      refine hrest.trans ?_
      rw [readBack_cons hreadable]
      cases readBack rest with
      | error f => rfl
      | ok ls => simp [Except.map]
    · have hrefused : readBack (w :: rest) = .error truthsRefused := by simp [readBack,hbool]
      rw [hrefused,loadOne_listing (hws.plain w hmem) (isStorable_of_kept (hws.kept w hmem)),hbool]
      rfl

theorem loadGroup_eq (hws : Readable ws) (names : Strings) :
    loadGroup (groupFile ws) (manifestGroup names ws) = readBack ws := by
  refine (foldlM_loadOne hws (nil_append ws).symm hws.legible (.inl rfl) []).trans ?_
  cases readBack ws <;> rfl

/-! ## All groups -/

variable {listed : List Json}
theorem load_eq (hfiled : Forall₂ (Filed d folder) groups listed)
    (hreadable : ∀ ws ∈ groups, Readable ws) : load (.arr listed) (groups.map groupFile) = groups.mapM readBack := by
  have hlength : listed.length = (groups.map groupFile).length := by rw [length_map,hfiled.length_eq]
  have hzip : load (.arr listed) (groups.map groupFile) =
      (listed.zip (groups.map groupFile)).mapM fun p => loadGroup p.2 p.1 := by
    simp [load,hlength,Weights.listed,bind,Except.bind]
  rw [hzip]
  clear hlength hzip
  induction hfiled with
  | nil => rfl
  | cons hgroup hrest ih =>
    obtain ⟨names,rfl⟩ := hgroup.named
    rw [map_cons,zip_cons_cons,mapM_cons,mapM_cons,ih fun ws hws => hreadable ws (mem_cons_of_mem _ hws)]
    simp only [loadGroup_eq (hreadable _ mem_cons_self)]

theorem mapM_readBack (groups : Groups) : groups.mapM readBack = if groups.flatten.any
    (·.data.element = .bool) then .error truthsRefused else .ok (groups.map (·.map loadedWeight)) := by
  induction groups with
  | nil => rfl
  | cons ws groups ih =>
    rw [mapM_cons,ih,flatten_cons,any_append]
    unfold readBack
    cases ws.any (·.data.element = .bool) with
    | true => rfl
    | false => cases groups.flatten.any (·.data.element = .bool) <;> rfl

theorem isReadable_keptGrid (h : Offer.isStorable (keptGrid g).element) :
    isReadable (keptGrid g).element ∨ (keptGrid g).element = .bool := by
  obtain ⟨e,shape,cells⟩ := g
  cases e <;> first | exact .inl rfl | exact .inr rfl | cases h
theorem element_keptGrid_eq_bool (g : Grid) : (keptGrid g).element = .bool ↔ g.element = .bool := by
  obtain ⟨e,shape,cells⟩ := g
  cases e <;> simp [keptGrid,Grid.narrowed,Grid.loosened]

theorem run_mapM_groupBytes (h : Forall₂ (Filed d folder) groups
    listed) : listed.mapM (groupBytes folder) d = .ok (groups.map groupFile) d := by
  induction h with
  | nil => rfl
  | cons hgroup hrest ih =>
    rw [mapM_cons,bind_of_ok hgroup.bytes,bind_of_ok ih]
    rfl

/-- An array as it comes back from files: in the type in which it is kept, with byte strings for texts. -/
def returned (w : Weight) : Loaded := ⟨w.name,readGrid (keptGrid w.data)⟩

theorem readable_kept {group : List Weight} (hplain : ∀ w ∈ group, w.scaling = none)
    (hfilled : ∀ w ∈ group, Filled w.data) (hlegible : LegibleFrom 0 (group.map (keptGrid ·.data)))
    (hstorable : ∀ w ∈ group.map keptWeight, Offer.isStorable w.data.element) : Readable (group.map keptWeight) := by
  refine ⟨?_,?_,?_,?_⟩
  · rw [forall_mem_map]
    exact hplain
  · rw [forall_mem_map] at hstorable ⊢
    exact fun w hw => isReadable_keptGrid (hstorable w hw)
  · rw [forall_mem_map]
    exact fun w hw => (filled_keptGrid (hfilled w hw)).count
  · rw [map_map]
    exact hlegible

variable (groups)
theorem mapM_readBack_kept : (groups.map (·.map keptWeight)).mapM readBack = if groups.flatten.any
    (·.data.element = .bool) then .error truthsRefused else .ok (groups.map (·.map returned)) := by
  have hany : (groups.map (·.map keptWeight)).flatten.any (·.data.element = .bool) =
      groups.flatten.any (·.data.element = .bool) := by
    rw [← map_flatten,any_map]
    congr 1
    funext w
    exact decide_eq_decide.mpr (element_keptGrid_eq_bool w.data)
  have hloaded : (groups.map (·.map keptWeight)).map (·.map loadedWeight) = groups.map (·.map returned) := by
    simp [loadedWeight,keptWeight,returned]
  rw [mapM_readBack,hany,hloaded]

/-- Weights that were stored are read back group by group and in order, in the form in which they are kept.
Truth values are refused. -/
theorem loadFiles_store {offered : OfferedGroups} {folder : String} {size : Json} {withManifest : Bool}
    {manifest : Json} {groups : List (List Weight)} {d d' : Desk}
    (hstore : store offered folder size withManifest none d = .ok manifest d')
    (hgroups : checkGroups offered = .ok groups) (hplain : ∀ w ∈ groups.flatten, w.scaling = none)
    (hfilled : ∀ w ∈ groups.flatten, Filled w.data)
    (hlegible : ∀ group ∈ groups, LegibleFrom 0 (group.map fun w => keptGrid w.data)) :
    loadFiles manifest folder d' =
      if groups.flatten.any (·.data.element = .bool) then
        .error (.because .unsupported "Unsupported data type: bool") d'
      else .ok (groups.map (·.map returned)) d' := by
  obtain ⟨listed, rfl, hfiled⟩ := (allStored_of_store hstore hgroups).filed
  have hreadable : ∀ ws ∈ groups.map (·.map keptWeight), Readable ws := by
    have hstorable := ((List.forall₂_and_left _ _).mp (hfiled.imp fun ws l h => ⟨h.storable, h⟩)).1
    rw [List.forall_mem_map] at hstorable ⊢
    intro group hgroup
    exact readable_kept (fun w hw => hplain w (List.mem_flatten_of_mem hgroup hw))
      (fun w hw => hfilled w (List.mem_flatten_of_mem hgroup hw)) (hlegible group hgroup) (hstorable group hgroup)
  have hload : load (.arr listed) ((groups.map (·.map keptWeight)).map groupFile) =
      if groups.flatten.any (·.data.element = .bool) then .error (.because .unsupported "Unsupported data type: bool")
      else .ok (groups.map (·.map returned)) := by
    rw [load_eq hfiled hreadable, mapM_readBack_kept]
  change (listed.mapM (groupBytes folder) >>= fun buffers => Work.ofExcept (load (.arr listed) buffers)) d' = _
  rw [bind_of_ok (run_mapM_groupBytes hfiled), hload]
  split <;> rfl

/-- Two groups, with wide numbers, texts and an array without texts. -/
def mixedGroups : Groups :=
  [[⟨.str "w",⟨.int64,[2],[(1 : UInt64),(258 : UInt64)]⟩,none⟩,
    ⟨.str "t",⟨.object,[1,2],[.raw [97,98],.raw []]⟩,none⟩,⟨.str "e",⟨.object,[0],[]⟩,none⟩],
   [⟨.str "i",⟨.uint8,[],[(7 : UInt8)]⟩,none⟩]]

theorem loadFiles_store_mixedGroups : ∃ manifest d',
    store (offering mixedGroups) "$TMP" (.int 5) false none {} = .ok manifest d' ∧
    (∀ group ∈ mixedGroups, LegibleFrom 0 (group.map fun w => keptGrid w.data)) ∧
    loadFiles manifest "$TMP" d' = .ok (mixedGroups.map (·.map returned)) d' := by
  obtain ⟨manifest, d', hstore⟩ : ∃ manifest d',
      store (offering mixedGroups) "$TMP" (.int 5) false none {} = .ok manifest d' := ⟨_, _, rfl⟩
  have hgroups : checkGroups (offering mixedGroups) = .ok mixedGroups := rfl
  have hlegible : ∀ group ∈ mixedGroups, LegibleFrom 0 (group.map fun w => keptGrid w.data) := by decide
  refine ⟨manifest, d', hstore, hlegible, loadFiles_store hstore hgroups (by simp [mixedGroups]) ?_ hlegible⟩
  intro w hw
  simp only [mixedGroups, List.flatten_cons, List.flatten_nil, List.append_nil, List.cons_append, List.nil_append,
    List.mem_cons, List.not_mem_nil, or_false] at hw
  rcases hw with rfl | rfl | rfl | rfl <;> exact ⟨rfl, fun _ _ h => by cases h⟩

/-- Truth values are stored, but not read. -/
theorem loadFiles_refuses_truths : ∃ manifest d',
    store (offering [[⟨.str "b", ⟨.bool, [1], [(1 : UInt8)]⟩, none⟩]]) "$TMP" (.int 5) false none {} = .ok manifest d' ∧
    loadFiles manifest "$TMP" d' = .error (.because .unsupported "Unsupported data type: bool") d' :=
  ⟨_, _, rfl, rfl⟩
end TensorKit.Weights
