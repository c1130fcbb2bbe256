import TensorKit.Proofs.Files.Tree
import TensorKit.Proofs.Weights.Places
import TensorKit.Weights.Load
import TensorKit.Weights.Store

/-! # Shards in files

The bytes of a group are cut into files whose names tell the group and the place, so no file is written twice
and the files of a group together hold its bytes.
-/
namespace TensorKit.Weights
open List
open Files
variable {group : List Weight} {index : Nat} {size : Json} {bs : Bytes} {d d' : Desk} {folder : String}
  {parts : Named Bytes} {groups : Groups} {offered : OfferedGroups}

variable {n : Nat} {c : Char} {listed manifest : Json} {withManifest : Bool} {q : Option Element}

/-! ## Names of shards -/

theorem isDigit_of_mem_repr (h : c ∈ n.repr.toList) : c.isDigit := by
  rw [Nat.repr,String.toList_ofList] at h
  exact Nat.isDigit_of_mem_toDigits (by decide) (by decide) h

theorem repr_append_inj (hc : c.isDigit = false) :
    m.repr.toList ++ c :: x = n.repr.toList ++ c :: y ↔ m = n ∧ x = y := by
  have hnot (k : Nat) : c ∉ k.repr.toList := by
    intro hmem
    rw [isDigit_of_mem_repr hmem] at hc
    cases hc
  constructor
  · intro h
    have hsplit := congrArg (splitOn c) h
    rw [splitOn_append_cons_self_of_not_mem (hnot m),splitOn_append_cons_self_of_not_mem (hnot n)]
      at hsplit
    have hrepr : m.repr.toList = n.repr.toList := (cons.inj hsplit).1
    obtain rfl := Nat.repr_injective (String.toList_inj.mp hrepr)
    exact ⟨rfl,by simpa using h⟩
  · rintro ⟨rfl,rfl⟩
    rfl

theorem toList_shardName (group place count : Nat) :
    (shardName group place count).toList = "group".toList ++ ((group + 1).repr.toList ++ '-' ::
      ("shard".toList ++ ((place + 1).repr.toList ++ 'o' :: ('f' :: (count.repr.toList ++ ".bin".toList))))) := by
  have hname : shardName group place count =
      "group" ++ (group + 1).repr ++ "-shard" ++ (place + 1).repr ++ "of" ++ count.repr ++ ".bin" := rfl
  simp [hname]

theorem shardName_inj {group group' place place' count count' : Nat}
    (h : shardName group place count = shardName group' place' count') : group = group' ∧ place = place' := by
  have hlist := congrArg String.toList h
  rw [toList_shardName,toList_shardName,append_right_inj,repr_append_inj (by decide),
    append_right_inj,repr_append_inj (by decide)] at hlist
  omega

theorem plain_shardName (group place count : Nat) : Plain (shardName group place count) := by
  have hdigits n : '/' ∉ Nat.toDigits 10 n := by
    intro hmem
    have hdigit := Nat.isDigit_of_mem_toDigits (by decide) (by decide) hmem
    revert hdigit
    decide
  have hlist := toList_shardName group place count
  refine ⟨?_,?_,?_,?_⟩
  · rw [hlist]
    simp [hdigits]
  all_goals
    intro h
    simp [h] at hlist

theorem plain_manifestName : Plain "weights_manifest.json" := by constructor <;> decide

theorem shardName_ne_manifestName (group place count : Nat) :
    shardName group place count ≠ "weights_manifest.json" := by
  intro h
  have hlist := congrArg String.toList h
  rw [toList_shardName] at hlist
  simp at hlist

/-! ## The shards of a group -/

theorem mem_shards {size : Nat} (h : p ∈ shards index size bs) : ∃ place count, p.1 = shardName index place count := by
  obtain ⟨⟨part,i⟩,-,rfl⟩ := mem_map.mp h
  exact ⟨i,_,rfl⟩

theorem nodup_shards (index size : Nat) (bs : Bytes) : ((shards index size bs).map Prod.fst).Nodup := by
  have hnames : (shards index size bs).map Prod.fst =
      ((pieces size bs).zipIdx.map Prod.snd).map fun i => shardName index i (pieces size bs).length := by
    rw [shards,map_map,map_map]
    rfl
  rw [hnames,zipIdx_map_snd]
  exact (nodup_range' _).map fun i j hij => (shardName_inj hij).2

theorem cut_shards {size : Nat} (hsize : 0 < size) (index : Int) (bs : Bytes) :
    Cut size bs ((shards index size bs).map Prod.snd) := by
  have hparts : (shards index size bs).map Prod.snd = pieces size bs := by simp [shards,Function.comp_def]
  rw [hparts]
  exact cut_pieces hsize bs

/-! ## Work that succeeds -/

section
variable {α β : Type}
theorem bind_eq_ok {k : α → Work β} (h : (x >>= k) d = .ok b d') : ∃ a d₁, x d = .ok a d₁ ∧ k a d₁ = .ok b d' := by
  change EStateM.bind x k d = _ at h
  unfold EStateM.bind at h
  cases hx : x d with
  | ok a d₁ => exact ⟨a,d₁,rfl,by simpa [hx] using h⟩
  | error f d₁ => simp [hx] at h

theorem bind_of_ok {k : α → Work β} (h : x d = .ok a d₁) : (x >>= k) d = k a d₁ := by
  change EStateM.bind x k d = _
  rw [EStateM.bind,h]

theorem pure_eq_ok (h : (pure a : Work α) d = .ok b d') : a = b ∧ d = d' := by
  cases h
  exact ⟨rfl,rfl⟩
theorem ofExcept_eq_ok {x : Except Refusal α} (h : Work.ofExcept x d = .ok a d') : x = .ok a ∧ d = d' := by
  cases x with
  | ok b => cases h; exact ⟨rfl,rfl⟩
  | error f => cases h

theorem mapM_cons_eq_ok {f : α → Work β} (h : (x :: xs).mapM f d = .ok ys d') :
    ∃ y rest d₁, f x d = .ok y d₁ ∧ xs.mapM f d₁ = .ok rest d' ∧ ys = y :: rest := by
  rw [mapM_cons] at h
  obtain ⟨y,d₁,hy,h⟩ := bind_eq_ok h
  obtain ⟨rest,d₂,hrest,h⟩ := bind_eq_ok h
  obtain ⟨rfl,rfl⟩ := pure_eq_ok h
  exact ⟨y,rest,d₁,hy,hrest,rfl⟩

theorem writeBytes_eq_ok (h : Work.writeBytes path bs d = .ok u d') : d.tree.write path (.bytes bs) = .ok d'.tree := by
  obtain ⟨t,d₁,htree,h'⟩ := bind_eq_ok h
  obtain ⟨t',d₂,hwritten,hset⟩ := bind_eq_ok h'
  obtain ⟨hwrite,hsame⟩ := ofExcept_eq_ok hwritten
  cases htree
  cases hset
  exact hwrite
end

def Weight.narrowed (w : Weight) : Weight := { w with data := w.data.narrowed }

theorem settle_eq_ok (h : settle w d = .ok w' d') : w' = w.narrowed ∧ d'.tree = d.tree := by
  obtain ⟨line,d₁,hline,h⟩ := bind_eq_ok h
  obtain ⟨-,rfl⟩ := ofExcept_eq_ok hline
  cases line with
  | none | some text => cases h; exact ⟨rfl,rfl⟩

theorem mapM_settle_eq_ok (h : group.mapM settle d = .ok group' d') :
    group' = group.map .narrowed ∧ d'.tree = d.tree := by
  induction group generalizing group' d with
  | nil => cases h; exact ⟨rfl,rfl⟩
  | cons w group ih =>
    obtain ⟨w',rest,d₁,hw,hrest,rfl⟩ := mapM_cons_eq_ok h
    obtain ⟨rfl,htree⟩ := settle_eq_ok hw
    obtain ⟨rfl,htree'⟩ := ih hrest
    exact ⟨rfl,htree'.trans htree⟩

theorem holds_of_writes (hplain : ∀ p ∈ parts, Plain p.1) (hnodup : (parts.map Prod.fst).Nodup)
    (h : (forIn parts .unit fun p _ => do
      .writeBytes (join folder p.1) p.2
      pure (.yield .unit) : Work PUnit) d = .ok u d') :
    (∀ p ∈ parts, Holds d'.tree folder p.1 p.2) ∧
      ∀ name bs, Plain name → name ∉ parts.map Prod.fst → Holds d.tree folder name bs → Holds d'.tree folder name bs := by
  induction parts generalizing d with
  | nil =>
    cases h
    exact ⟨by simp,fun _ _ _ _ h => h⟩
  | cons p parts ih =>
    rw [forIn_cons] at h
    obtain ⟨step,d₁,hstep,hrest⟩ := bind_eq_ok h
    obtain ⟨_,d₂,hwrite,hyield⟩ := bind_eq_ok hstep
    obtain ⟨rfl,rfl⟩ := pure_eq_ok hyield
    rw [map_cons,nodup_cons] at hnodup
    obtain ⟨hall,hothers⟩ := ih (fun q hq => hplain q (mem_cons_of_mem _ hq)) hnodup.2 hrest
    obtain ⟨hheld,hkept⟩ := holds_of_write (hplain p mem_cons_self) (writeBytes_eq_ok hwrite)
    refine ⟨fun q hq => ?_,fun name bs hname hnot hbefore => ?_⟩
    · rcases mem_cons.mp hq with rfl | hq
      · exact hothers q.1 q.2 (hplain q mem_cons_self) hnodup.1 hheld
      · exact hall q hq
    · rw [map_cons,mem_cons,not_or] at hnot
      exact hothers name bs hname hnot.2 (hkept name bs hname hnot.1 hbefore)

/-- A group as it is stored: packed, cut into files, and listed. -/
structure StoredAs (q : Option Element) (tree : Tree) (folder : String) (size index : Nat) (group : List Weight) (listed : Json)
    (packed : Packed) : Prop where
  size_pos : 0 < size
  stack : (do stack ((← prepared q (group.map .narrowed)).map .ofWeight)) = .ok packed
  listed : listed = manifestGroup ((shards index size packed.bytes).map Prod.fst) packed.weights
  files : ∀ p ∈ shards index size packed.bytes, Holds tree folder p.1 p.2

theorem shardsFor_eq_ok {size : Int} (hsize : 0 ≤ size) (h : shardsFor index (some size) bs = .ok parts) :
    0 < size.toNat ∧ parts = shards index size.toNat bs := by
  simp only [shardsFor,Option.getD_some,beq_iff_eq] at h
  repeat' split at h
  all_goals cases h
  · omega
  · exact ⟨by omega,rfl⟩

theorem storeGroup_eq_ok {size : Int} (hsize : 0 ≤ size) (h : storeGroup folder size q index group d = .ok listed d')
    : (∃ packed, StoredAs q d'.tree folder size.toNat index group listed packed) ∧ ∀ name bs, Plain name → (∀ place count,
    name ≠ shardName index place count) → Holds d.tree folder name bs → Holds d'.tree folder name bs := by
  obtain ⟨group',d₁,hsettle,h₁⟩ := bind_eq_ok h
  obtain ⟨rfl,htree⟩ := mapM_settle_eq_ok hsettle
  obtain ⟨group'',d₂,hkept,h₂⟩ := bind_eq_ok h₁
  obtain ⟨hprepared,rfl⟩ := ofExcept_eq_ok hkept
  obtain ⟨packed,d₃,hpacked,h₃⟩ := bind_eq_ok h₂
  obtain ⟨hstack,rfl⟩ := ofExcept_eq_ok hpacked
  obtain ⟨parts,d₄,hcut,h₄⟩ := bind_eq_ok h₃
  obtain ⟨hparts,rfl⟩ := ofExcept_eq_ok hcut
  obtain ⟨hpos,rfl⟩ := shardsFor_eq_ok hsize hparts
  obtain ⟨_,d₅,hwrites,h₅⟩ := bind_eq_ok h₄
  obtain ⟨rfl,rfl⟩ := pure_eq_ok h₅
  have hplain : ∀ p ∈ shards index size.toNat packed.bytes, Plain p.1 := by
    intro p hp
    obtain ⟨place,count,hname⟩ := mem_shards hp
    rw [hname]
    exact plain_shardName index place count
  obtain ⟨hall,hothers⟩ := holds_of_writes hplain (nodup_shards index size.toNat packed.bytes) hwrites
  refine ⟨⟨packed,hpos,by rw [hprepared]; exact hstack,rfl,hall⟩,fun name bs hname hnot hbefore => ?_⟩
  refine hothers name bs hname ?_ (by rw [htree]; exact hbefore)
  intro hmem
  obtain ⟨p,hp,rfl⟩ := mem_map.mp hmem
  obtain ⟨place,count,heq⟩ := mem_shards hp
  exact hnot place count heq

/-! ## All groups -/

theorem StoredAs.mono {size : Nat} (h : StoredAs q tree folder size index group listed packed) (hkeep : ∀ place count bs,
    Holds tree folder (shardName index place count) bs → Holds tree' folder (shardName index place count) bs) :
    StoredAs q tree' folder size index group listed packed := by
  refine ⟨h.size_pos,h.stack,h.listed,fun p hp => ?_⟩
  have hheld := h.files p hp
  obtain ⟨place,count,hname⟩ := mem_shards hp
  rw [hname] at hheld ⊢
  exact hkeep place count p.2 hheld

theorem mapM_storeGroup_eq_ok {size : Int} (hsize : 0 ≤ size) {listed : List Json}
    (h : ((groups.zipIdx first).mapM fun (group,i) => storeGroup folder size q i group : Work (List Json)) d =
    .ok listed d') : Forall₂ (fun g l => ∃ packed, StoredAs q d'.tree folder size.toNat g.2 g.1 l packed)
    (groups.zipIdx first) listed ∧ ∀ name bs, Plain name → (∀ i ≥ first,
    ∀ place count, name ≠ shardName i place count) → Holds d.tree folder name bs → Holds d'.tree folder name bs := by
  induction groups generalizing first listed d with
  | nil =>
    cases h
    exact ⟨.nil,fun _ _ _ _ hbefore => hbefore⟩
  | cons group groups ih =>
    obtain ⟨l,rest,d₁,hgroup,hrest,rfl⟩ := mapM_cons_eq_ok h
    obtain ⟨⟨packed,hstored⟩,hothers⟩ := storeGroup_eq_ok hsize hgroup
    obtain ⟨hall,hlater⟩ := ih hrest
    constructor
    · refine .cons ⟨packed,hstored.mono fun place count bs hheld => ?_⟩ hall
      refine hlater _ bs (plain_shardName first place count) (fun i hi place' count' heq => ?_) hheld
      have := (shardName_inj heq).1
      omega
    · intro name bs hname hnot hbefore
      exact hlater name bs hname (fun i hi => hnot i (by omega)) (hothers name bs hname (hnot first le_rfl) hbefore)

theorem checkShardSize_eq_ok {n : Int} (h : checkShardSize size = .ok n) : 0 ≤ n := by
  unfold checkShardSize at h
  split at h
  · split at h
    · cases h
    · cases h; omega
  · split at h <;> cases h <;> decide
  · split at h <;> cases h
  · cases h

/-- Groups that were stored: their names differ, and each of them is in its files and in the manifest. -/
structure AllStored (q : Option Element) (given : Json) (tree : Tree) (folder : String) (groups : Groups) (manifest : Json) : Prop where
  names : checkNames [] (groups.flatten.map (·.name)) = .ok ()
  groups : ∃ n listed, checkShardSize given = .ok n ∧ manifest = .arr listed ∧
    Forall₂ (fun g l => ∃ packed, StoredAs q tree folder n.toNat g.2 g.1 l packed) groups.zipIdx listed

theorem store_eq_ok (h : store offered folder size withManifest q d = .ok manifest d') :
    ∃ groups, checkGroups offered = .ok groups ∧ AllStored q size d'.tree folder groups manifest := by
  obtain ⟨groups,d₁,hoffered,h₁⟩ := bind_eq_ok h
  obtain ⟨hgroups,rfl⟩ := ofExcept_eq_ok hoffered
  obtain ⟨n,d₂,hchecked,h₂⟩ := bind_eq_ok h₁
  obtain ⟨hsize,rfl⟩ := ofExcept_eq_ok hchecked
  obtain ⟨_,d₃,hdistinct,h₃⟩ := bind_eq_ok h₂
  obtain ⟨hnames,rfl⟩ := ofExcept_eq_ok hdistinct
  obtain ⟨listed,d₄,hlisted,h₄⟩ := bind_eq_ok h₃
  obtain ⟨hall,-⟩ := mapM_storeGroup_eq_ok (checkShardSize_eq_ok hsize) hlisted
  refine ⟨groups,hgroups,hnames,n,listed,hsize,?_⟩
  cases withManifest with
  | false =>
    obtain ⟨rfl,rfl⟩ := pure_eq_ok h₄
    exact ⟨rfl,hall⟩
  | true =>
    obtain ⟨_,d₅,hwrite,h₅⟩ := bind_eq_ok h₄
    obtain ⟨rfl,rfl⟩ := pure_eq_ok h₅
    obtain ⟨-,hkept⟩ := holds_of_write plain_manifestName (writeBytes_eq_ok hwrite)
    refine ⟨rfl,hall.imp fun g l ⟨packed,hstored⟩ => ⟨packed,hstored.mono fun place count bs hheld => ?_⟩⟩
    exact hkept _ bs (plain_shardName g.2 place count) (shardName_ne_manifestName g.2 place count) hheld

theorem allStored_of_store (hstore : store offered folder size withManifest q d = .ok manifest d')
    (hgroups : checkGroups offered = .ok groups) : AllStored q size d'.tree folder groups manifest := by
  obtain ⟨groups',hgroups',hall⟩ := store_eq_ok hstore
  obtain rfl := Except.ok.inj (hgroups'.symm.trans hgroups)
  exact hall

def offering (groups : Groups) : OfferedGroups :=
  some (groups.map fun group => some (group.map fun w => some (.ofWeight w)))

/-! # The bytes of a group

A group is packed array after array. Which arrays are accepted, in what form they are kept and which bytes
each of them takes is said here; the bytes of the group are those of its arrays, one after the other.
-/

variable {g : Grid} {packed : Packed}
def bytesOfLabel (l : Label) : Bytes := (Grid.labelBytes? l).getD []

def fileBytes (g : Grid) : Bytes := match g.element with
  | .object => g.labels.flatMap fun l => Elements.textBytes (bytesOfLabel l)
  | _ => g.toBytes

theorem fileBytes_of_ne (h : g.element ≠ .object) : fileBytes g = g.toBytes := by
  unfold fileBytes
  split
  next hobject => exact absurd hobject h
  next => rfl

/-- All labels have bytes whose number fits into four bytes. -/
def Short (g : Grid) : Prop := g.element = .object → ∀ l ∈ g.labels, (bytesOfLabel l).length < 2 ^ 32

/-- An array with an element in every place. A truth value is zero or one. -/
structure Filled (g : Grid) : Prop where
  count : g.cells.length = g.size
  truths : ∀ c ∈ g.cells, g.element = .bool → g.element.storage.toNat c ≤ 1

/-- An array as it is kept: wide numbers narrowed, texts each of its own length. -/
def keptGrid (g : Grid) : Grid := g.narrowed.loosened

def keptWeight (w : Weight) : Weight := { w with data := keptGrid w.data }

theorem filled_keptGrid (h : Filled g) : Filled (keptGrid g) := by
  obtain ⟨element,shape,cells⟩ := g
  obtain ⟨hcount,htruths⟩ := h
  cases element with
  | float64 | int64 => exact ⟨(length_map _).trans hcount,fun c _ hb => by cases hb⟩
  | str | bytes => exact ⟨hcount,fun c _ hb => by cases hb⟩
  | _ => exact ⟨hcount,htruths⟩

def groupFile (ws : List Weight) : Bytes := ws.flatMap (fileBytes ·.data)
theorem groupFile_cons (w : Weight) (ws : List Weight) : groupFile (w :: ws) = fileBytes w.data ++ groupFile ws := rfl

/-! ## Packing -/

theorem labelled_eq_ok (h : labelled l = .ok bs) :
    bs = Elements.textBytes (bytesOfLabel l) ∧ (bytesOfLabel l).length < 2 ^ 32 := by
  unfold labelled at h
  unfold bytesOfLabel
  split at h
  next text htext =>
    rw [htext]
    split at h
    · cases h
      exact ⟨rfl,by assumption⟩
    · cases h
  next => cases h

theorem bind_ok_inv {α β : Type} {x : Except Refusal α} {k : α → Except Refusal β} {b : β} (h : (x >>= k) = .ok b) :
    ∃ a, x = .ok a ∧ k a = .ok b := by
  cases x with
  | ok a => exact ⟨a,rfl,h⟩
  | error f => cases h

theorem foldlM_labelled_eq_ok {ls : List Label} (h : ls.foldlM fun acc l => return acc ++ (← labelled l)
    acc = .ok bs) : bs = acc ++ ls.flatMap (fun l => Elements.textBytes (bytesOfLabel l)) ∧ ∀ l ∈ ls,
    (bytesOfLabel l).length < 2 ^ 32 := by
  induction ls generalizing acc with
  | nil =>
    cases h
    simp
  | cons l ls ih =>
    obtain ⟨acc',hacc,hrest⟩ := bind_ok_inv h
    obtain ⟨text,htext,hpure⟩ := bind_ok_inv hacc
    cases hpure
    obtain ⟨rfl,hshort⟩ := labelled_eq_ok htext
    obtain ⟨rfl,hall⟩ := ih hrest
    refine ⟨by simp,fun l' hl' => ?_⟩
    rcases mem_cons.mp hl' with rfl | hl'
    · exact hshort
    · exact hall l' hl'

theorem stored_eq_ok (h : stored g = .ok bs) : bs = fileBytes g ∧ Short g := by
  unfold stored at h
  split at h
  next hobject =>
    rw [fileBytes,Short,hobject]
    obtain ⟨rfl,hshort⟩ := foldlM_labelled_eq_ok h
    exact ⟨by simp,fun _ => hshort⟩
  next hother =>
    cases h
    exact ⟨(fileBytes_of_ne hother).symm,(absurd · hother)⟩

theorem accept_ofWeight_eq_ok (h : (Offer.ofWeight w).accept = .ok w') :
    w' = { w with data := w.data.loosened } ∧ Offer.isStorable w'.data.element := by
  simp only [Offer.accept,Offer.ofWeight] at h
  split at h
  · cases h
  · cases h
    exact ⟨rfl,by simp_all⟩

/-- What a group of weights becomes when it is packed. -/
structure Packs (ws : List Weight) (packed : Packed) : Prop where
  weights : packed.weights = ws
  bytes : packed.bytes = groupFile ws
  storable : ∀ w ∈ ws, Offer.isStorable w.data.element
  short : ∀ w ∈ ws, Short w.data

theorem foldlM_accept_eq_ok {ws : List Weight} {acc : Packed}
    (h : (ws.map Offer.ofWeight).foldlM (fun p o => do
      let w ← o.accept
      let bs ← stored w.data
      return (⟨p.bytes ++ bs,p.weights ++ [w]⟩ : Packed)) acc = .ok packed) :
    ∃ more, packed = ⟨acc.bytes ++ more.bytes,acc.weights ++ more.weights⟩ ∧
      Packs (ws.map fun w => { w with data := w.data.loosened }) more := by
  induction ws generalizing acc with
  | nil =>
    cases h
    exact ⟨⟨[],[]⟩,by simp,rfl,rfl,by simp,by simp⟩
  | cons w ws ih =>
    obtain ⟨acc',hacc,hrest⟩ := bind_ok_inv h
    obtain ⟨w',haccept,hstep⟩ := bind_ok_inv hacc
    obtain ⟨bs,hstored,hpure⟩ := bind_ok_inv hstep
    cases hpure
    obtain ⟨rfl,hstorable⟩ := accept_ofWeight_eq_ok haccept
    obtain ⟨rfl,hshort⟩ := stored_eq_ok hstored
    obtain ⟨more,rfl,hmore⟩ := ih hrest
    refine ⟨⟨fileBytes w.data.loosened ++ more.bytes,{ w with data := w.data.loosened } :: more.weights⟩,by simp,
      ⟨by rw [hmore.weights,map_cons],by rw [hmore.bytes,map_cons,groupFile_cons],?_,?_⟩⟩
    · simpa [hstorable] using hmore.storable
    · simpa [hshort] using hmore.short

theorem stack_eq_ok (h : stack ((group.map .narrowed).map .ofWeight) = .ok packed) :
    Packs (group.map keptWeight) packed := by
  obtain ⟨more,rfl,hmore⟩ := foldlM_accept_eq_ok h
  have hkept : (group.map Weight.narrowed).map (fun w => { w with data := w.data.loosened }) =
      group.map keptWeight := by
    rw [map_map]
    rfl
  rw [hkept] at hmore
  simpa using hmore

/-! ## Reading the files of a group -/

theorem run_readBytes (h : Holds d.tree folder name bs) : Work.readBytes (join folder name) d = .ok bs d := by
  have hread : Work.read (join folder name) d = .ok (.bytes bs) d := by
    change Work.ofExcept (d.tree.read (join folder name)) d = _
    rw [h]
    rfl
  rw [Work.readBytes,bind_of_ok hread]
  rfl

theorem run_readFiles {parts : Named Bytes} (h : ∀ p ∈ parts, Holds d.tree folder p.1 p.2) (acc : Bytes) :
    (parts.map (.str ·.1)).foldlM (appendFile folder) acc d = .ok (acc ++ (parts.map Prod.snd).flatten) d :=
    by
  induction parts generalizing acc with
  | nil => rw [map_nil,map_nil,flatten_nil,append_nil]; rfl
  | cons p parts ih =>
    have hfile : appendFile folder acc (.str p.1) d = .ok (acc ++ p.2) d := by
      change (Work.readBytes (join folder p.1) >>= fun bs => pure (acc ++ bs)) d = _
      rw [bind_of_ok (run_readBytes (h p mem_cons_self))]
      rfl
    rw [map_cons,foldlM_cons,bind_of_ok hfile,ih fun q hq => h q (mem_cons_of_mem _ hq)]
    simp

theorem StoredAs.run_groupBytes {size : Nat} (h : StoredAs q d.tree folder size index group listed
    packed) : groupBytes folder listed d = .ok packed.bytes d := by
  have hpaths : Work.ofExcept ((need listed "paths").bind Weights.listed) d =
      .ok ((shards index size packed.bytes).map (.str ·.1)) d := by
    rw [h.listed]
    change EStateM.Result.ok (((shards index size packed.bytes).map Prod.fst).map Json.str) d = _
    rw [map_map]
    rfl
  rw [groupBytes,bind_of_ok hpaths,run_readFiles h.files,(cut_shards h.size_pos ..).whole,nil_append]

/-- A group that lies in its files as the manifest says. -/
structure Filed (d : Desk) (folder : String) (ws : List Weight) (listed : Json) : Prop where
  named : ∃ names, listed = manifestGroup names ws
  bytes : groupBytes folder listed d = .ok (groupFile ws) d
  storable : ∀ w ∈ ws, Offer.isStorable w.data.element
  short : ∀ w ∈ ws, Short w.data

theorem StoredAs.filed {size : Nat} (h : StoredAs none d.tree folder size index group listed packed) :
    Filed d folder (group.map keptWeight) listed := by
  have hpacks := stack_eq_ok h.stack
  refine ⟨⟨(shards index size packed.bytes).map Prod.fst,?_⟩,?_,hpacks.storable,hpacks.short⟩
  · rw [← hpacks.weights]
    exact h.listed
  · rw [← hpacks.bytes]
    exact h.run_groupBytes

theorem AllStored.filed (h : AllStored none size d.tree folder groups manifest) :
    ∃ listed, manifest = .arr listed ∧ Forall₂ (Filed d folder) (groups.map (·.map keptWeight)) listed := by
  obtain ⟨n,listed,-,rfl,hall⟩ := h.groups
  refine ⟨listed,rfl,?_⟩
  have hgroups : groups.map (·.map keptWeight) = groups.zipIdx.map fun g => g.1.map keptWeight := by
    conv_lhs => rw [← zipIdx_map_fst 0 groups]
    rw [map_map]
    rfl
  rw [hgroups,forall₂_map_left_iff]
  exact hall.imp fun g l ⟨packed,hstored⟩ => hstored.filed

/-! ## Paths -/

end TensorKit.Weights
