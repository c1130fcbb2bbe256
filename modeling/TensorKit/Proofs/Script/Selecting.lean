import TensorKit.Proofs.Script.RoundTrip

/-! # Some weights of a manifest

Weights that are cut out of the bytes of their groups are compared with those read from the whole groups. They
are the same up to the first weight of texts in a group. Texts come out empty, and behind them nothing is
found.
-/
open List
namespace TensorKit.Engine
theorem bind_eq_ok {α β : Type} {x : Eng α} {k : α → Eng β} {b : β} (h : (x >>= k) e = .ok b e') :
    ∃ a e₁, x e = .ok a e₁ ∧ k a e₁ = .ok b e' := by
  rw [run_bind] at h
  cases hx : x e with
  | ok a e₁ => exact ⟨a,e₁,rfl,by simpa [hx] using h⟩
  | error f e₁ => simp [hx] at h

theorem exists_ok_of_answer {α : Type} {x : Eng α} (h : (answer x e).isOk = true) : ∃ a e', x e = .ok a e' := by
  unfold answer at h
  cases hx : x e with
  | ok a e' => exact ⟨a,e',rfl⟩
  | error f e' => simp [hx,Except.toBool] at h
end TensorKit.Engine
namespace TensorKit.Script
open Engine Weights
variable {e e' : Engine} {t : Tensor} {spec : Spec Float} {d : Decoded Float} {out out' : List (String × Value)}
  {done : List (Spec Float × Decoded Float)} {bs : Bytes} {offset next : Nat} {specs : List (Spec Float)}
  {ds : List (Decoded Float)} {copies : List (String × Tensor)} {x : Bytes × Placed Float}
  {xs : List (Bytes × Placed Float)}

/-! ## Tensors of decoded elements -/

theorem count_of_tensorOfDecoded (h : tensorOfDecoded spec d e = .ok t e') : spec.shape.size = d.count := by
  by_contra hne
  have hcount : (spec.shape.size != d.count) = true := by simpa using hne
  simp only [tensorOfDecoded,hcount] at h
  cases h

/-! ## Members by name -/

theorem lookup_tensors (h : out.lookup name = some (.tensor t)) :
    (out.filterMap fun (n,v) => v.tensor?.map fun t => (n,t)).lookup name = some t := by
  induction out with
  | nil => cases h
  | cons x out ih =>
    obtain ⟨k,v⟩ := x
    rw [lookup_cons_eq] at h
    split_ifs at h with hk
    · obtain rfl : v = .tensor t := Option.some.inj h
      simp [hk,Value.tensor?]
    · cases hv : v.tensor? with
      | none =>
        rw [filterMap_cons_none (by simp [hv])]
        exact ih h
      | some u =>
        rw [filterMap_cons_some (b := (k,u)) (by simp [hv]),lookup_cons_eq,if_neg hk]
        exact ih h

/-- Each of these decoded weights stands under its name. -/
def Gathered (e : Engine) (out : Named Value) (done : List (Spec Float × Decoded Float)) : Prop :=
  ∀ x ∈ done, ∃ t, out.lookup x.1.name = some (.tensor t) ∧ Holds e t x.1 x.2

theorem Gathered.set (h : Gathered e out done) (he : Extends e e') (hnew : Holds e' t spec d)
    (hsame : ∀ x ∈ done, x.1.name = spec.name → x = (spec,d)) :
    Gathered e' (out.put spec.name (.tensor t)) (done ++ [(spec,d)]) := by
  intro x hx
  have hx : x ∈ done ∨ x = (spec,d) := (mem_append.mp hx).imp_right mem_singleton.mp
  by_cases hname : x.1.name = spec.name
  · obtain rfl : x = (spec,d) := hx.elim (hsame x · hname) id
    exact ⟨t,by rw [lookup_put,if_pos rfl],hnew⟩
  · obtain ⟨u,hu,hholds⟩ := h x (hx.resolve_right fun heq => hname (by rw [heq]))
    exact ⟨u,by rw [lookup_put,if_neg hname,hu],hholds.extends he⟩

/-! ## Whole groups -/

theorem decodeNext_eq_ok (h : decodeNext bs (out,offset) spec e = .ok (out',next) e') :
    ∃ d, decodeOne doubles bs offset spec = .ok (d,next) ∧ spec.shape.size = d.count := by
  unfold decodeNext at h
  cases hone : decodeOne doubles bs offset spec with
  | error f =>
    rw [hone] at h
    cases h
  | ok r =>
    obtain ⟨d,n⟩ := r
    rw [hone] at h
    obtain ⟨t,e₁,hrun,hrest⟩ := bind_eq_ok (x := tensorOfDecoded spec d) h
    obtain rfl : n = next := by
      cases hrest
      rfl
    exact ⟨d,rfl,count_of_tensorOfDecoded hrun⟩

def Distinct (xs : List (Spec Float × Decoded Float)) : Prop := ∀ x ∈ xs, ∀ y ∈ xs, x.1.name = y.1.name → x = y

theorem run_foldlM_decodeNext_of_decodes (h : Decodes doubles bs offset specs ds) (hdistinct : Distinct (done ++
    specs.zip ds)) (hout : Gathered e out done) : ∃ out' next e', specs.foldlM (decodeNext bs) (out,offset) e =
    .ok (out',next) e' ∧ Gathered e' out' (done ++ specs.zip ds) := by
  induction h generalizing done out e with
  | nil => exact ⟨out,_,e,rfl,by simpa using hout⟩
  | @cons offset next spec specs d ds one count rest ih =>
    obtain ⟨t,e₁,hrun,hextends,hholds⟩ := run_decodeNext_of_count one count out e
    rw [zip_cons_cons,append_cons] at hdistinct ⊢
    have hstep := hout.set hextends hholds fun x hx => hdistinct x (by simp [hx]) (spec,d) (by simp)
    rw [foldlM_cons,run_bind_ok hrun]
    exact ih hdistinct hstep

theorem decodes_of_foldlM_decodeNext
    (h : specs.foldlM (decodeNext bs) found e = .ok r e') : ∃ ds, Decodes doubles bs found.2 specs ds := by
  induction specs generalizing found e with
  | nil => exact ⟨[],.nil⟩
  | cons spec specs ih =>
    obtain ⟨⟨out₁,next⟩,e₁,hstep,hrest⟩ := bind_eq_ok h
    obtain ⟨d,hone,hcount⟩ := decodeNext_eq_ok hstep
    obtain ⟨ds,hds⟩ := ih hrest
    exact ⟨d :: ds,.cons hone hcount hds⟩

theorem decodes_of_decodeWeights (h : decodeWeights bs specs e = .ok copies e') :
    ∃ ds, Decodes doubles bs 0 specs ds := by
  obtain ⟨r,e₁,hmembers,-⟩ := bind_eq_ok h
  exact decodes_of_foldlM_decodeNext hmembers

theorem holds_of_decodeWeights (hnames : (specs.map Spec.name).Nodup) (hds : Decodes doubles bs 0 specs ds)
    (h : decodeWeights bs specs e = .ok copies e') :
    ∀ x ∈ specs.zip ds, ∃ t, copies.lookup x.1.name = some t ∧ Holds e' t x.1 x.2 := by
  have hdistinct : Distinct ([] ++ specs.zip ds) := by
    intro x hx y hy
    have hnodup : ((specs.zip ds).map (·.1.name)).Nodup := by
      have hfst : (specs.zip ds).map Prod.fst = specs := map_fst_zip hds.length_eq.le
      rwa [← hfst,map_map] at hnames
    exact inj_on_of_nodup_map hnodup hx hy
  have hnothing : Gathered e [] [] := fun x hx => by cases hx
  obtain ⟨out,next,e₁,hrun,hall⟩ := run_foldlM_decodeNext_of_decodes hds hdistinct hnothing
  rw [decodeWeights,decodeMembers_eq,run_bind_ok hrun] at h
  cases h
  intro x hx
  obtain ⟨t,ht,hholds⟩ := hall x hx
  exact ⟨t,lookup_tensors ht,hholds⟩

/-! ## Wanted weights -/

/-- A wanted weight, out of the bytes of its group, becomes a member. -/
def loadPlaced (out : Named Value) (x : Bytes × Placed Float) : Eng (Named Value) := do
  let (found,_) ← decodeMembers (x.2.cut x.1) [x.2.spec]
  return found.foldl (fun out (name,v) => out.put name v) out

theorem loadWanted_eq (bs : Bytes) (out : Named Value) (ps : List (Placed Float)) :
    loadWanted bs out ps = (ps.map (bs,·)).foldlM loadPlaced out := by
  rw [foldlM_map]
  rfl

/-- What is decoded of a wanted weight alone. -/
structure Cut (x : Bytes × Placed Float) (d : Decoded Float) : Prop where
  one : ∃ next, decodeOne doubles (x.2.cut x.1) 0 x.2.spec = .ok (d,next)
  count : x.2.spec.shape.size = d.count

theorem Cut.unique (h : Cut x d) (h' : Cut x d') : d = d' := by
  obtain ⟨n,hd⟩ := h.one
  obtain ⟨n',hd'⟩ := h'.one
  have heq : d = d' ∧ n = n' := by simpa using hd.symm.trans hd'
  exact heq.1

variable (out)
theorem loadPlaced_eq (x : Bytes × Placed Float) : loadPlaced out x = (do
      let (found,_) ← decodeNext (x.2.cut x.1) ([],0) x.2.spec
      return found.foldl (fun out (name,v) => out.put name v) out) := by
  simp only [loadPlaced,decodeMembers_eq,foldlM_cons,foldlM_nil,bind_pure]

variable {out}
theorem run_loadPlaced (h : Cut x d) (out : Named Value) (e : Engine) : ∃ t e', loadPlaced out x e =
    .ok (out.put x.2.spec.name (.tensor t)) e' ∧ Extends e e' ∧ Holds e' t x.2.spec d := by
  obtain ⟨next,hone⟩ := h.one
  obtain ⟨t,e',hrun,hextends,hholds⟩ := run_decodeNext_of_count hone h.count [] e
  refine ⟨t,e',?_,hextends,hholds⟩
  rw [loadPlaced_eq,run_bind_ok hrun]
  rfl

theorem cut_of_loadPlaced (h : loadPlaced out x e = .ok out' e') : ∃ d, Cut x d := by
  rw [loadPlaced_eq] at h
  obtain ⟨⟨found,next⟩,e₁,hstep,-⟩ := bind_eq_ok h
  obtain ⟨d,hone,hcount⟩ := decodeNext_eq_ok hstep
  exact ⟨d,⟨next,hone⟩,hcount⟩

theorem cut_of_foldlM_loadPlaced (h : xs.foldlM loadPlaced out e = .ok out' e') : ∀ x ∈ xs, ∃ d, Cut x d := by
  induction xs generalizing out e with
  | nil => simp
  | cons x xs ih =>
    obtain ⟨out₁,e₁,hstep,hrest⟩ := bind_eq_ok h
    exact forall_mem_cons.mpr ⟨cut_of_loadPlaced hstep,ih hrest⟩

theorem run_foldlM_loadPlaced {d : Bytes × Placed Float → Decoded Float} (h : ∀ x ∈ xs, Cut x (d x)) (hdistinct :
    Distinct (done ++ xs.map fun x => (x.2.spec,d x))) (hout : Gathered e out done) : ∃ out' e', xs.foldlM loadPlaced
    out e = .ok out' e' ∧ Gathered e' out' (done ++ xs.map fun x => (x.2.spec,d x)) := by
  induction xs generalizing done out e with
  | nil => exact ⟨out,e,rfl,by simpa using hout⟩
  | cons x xs ih =>
    obtain ⟨hx,hxs⟩ := forall_mem_cons.mp h
    obtain ⟨t,e₁,hrun,hextends,hholds⟩ := run_loadPlaced hx out e
    rw [map_cons,append_cons] at hdistinct ⊢
    have hstep := hout.set hextends hholds fun y hy => hdistinct y (by simp [hy]) (x.2.spec,d x) (by simp)
    rw [foldlM_cons,run_bind_ok hrun]
    exact ih hxs hdistinct hstep

/-! ## All groups -/

variable {manifest : List (WeightGroup Float)} {names : Option Strings} {folder : String} {file : String → Bytes}
def bytesIn (folder : String) (file : String → Bytes) (g : WeightGroup Float) : Bytes :=
  (g.paths.map fun path => file (pathIn folder path)).flatten

/-- All wanted weights, each with the bytes of its group. -/
def wantedIn (folder : String) (file : String → Bytes) (names : Option Strings) (groups : List (WeightGroup Float)) :
    List (Bytes × Placed Float) :=
  groups.flatMap fun g => (g.wanted names).map (bytesIn folder file g,·)

theorem mem_wantedIn : x ∈ wantedIn folder file names manifest ↔ ∃ g ∈ manifest, ∃ p ∈ g.wanted names,
    (bytesIn folder file g,p) = x := by
  simp [wantedIn]

theorem wantedIn_needed : wantedIn folder file names (needed names manifest) = wantedIn folder file names manifest := by
  induction manifest with
  | nil => rfl
  | cons g manifest ih =>
    unfold needed wantedIn at ih ⊢
    rw [flatMap_cons,← ih]
    cases hg : g.wanted names with
    | nil | cons p ps => simp [hg]

/-- A group takes its buffers, and its wanted weights become members. -/
def loadNext (names : Option Strings) (found : Named Value × List Bytes) (g : WeightGroup Float) :
    Eng (Named Value × List Bytes) := do
  let (bs,rest) ← takeGroup g found.2
  return (← loadWanted bs found.1 (g.wanted names),rest)

theorem loadNext_eq (g : WeightGroup Float) (out : Named Value) (rest : List Bytes) :
    loadNext names (out,(g.paths.map (pathIn folder)).map file ++ rest) g =
      (do return (← ((g.wanted names).map (bytesIn folder file g,·)).foldlM loadPlaced out,rest)) := by
  have htake : takeGroup g ((g.paths.map (pathIn folder)).map file ++ rest) = .ok (bytesIn folder file g,rest) := by
    have hlength : ((g.paths.map (pathIn folder)).map file).length = g.paths.length := by simp
    rw [takeGroup,if_neg (by simp),take_left' hlength,drop_left' hlength,map_map]
    rfl
  rw [loadNext,htake]
  simp only [← loadWanted_eq]
  rfl

theorem foldlM_loadNext (groups : List (WeightGroup Float)) (out : Named Value) :
    groups.foldlM (loadNext names) (out,(groups.flatMap fun g => g.paths.map (pathIn folder)).map file) =
      (do return (← (wantedIn folder file names groups).foldlM loadPlaced out,[])) := by
  induction groups generalizing out with
  | nil => simp [wantedIn]
  | cons g groups ih =>
    have hwanted : wantedIn folder file names (g :: groups) =
        (g.wanted names).map (bytesIn folder file g,·) ++ wantedIn folder file names groups := by
      simp [wantedIn]
    rw [foldlM_cons,flatMap_cons,map_append,loadNext_eq,hwanted,foldlM_append]
    simp only [bind_assoc,pure_bind,ih]

variable {fetch : Strings → Script (List Bytes)} {h : Host}
variable (hnames : (manifest.flatMap WeightGroup.names).Nodup) (hpresent : ∀ name ∈ names.getD [], name ∈
  manifest.flatMap WeightGroup.names) (hfetch : ∀ urls w, ∃ w', fetch urls h w = .ok (urls.map file) w')
  (name : String)
include hpresent hfetch
theorem run_loadSelected (w : World) : ∃ w₁, loadSelected fetch folder names manifest h w =
    onEngine ((wantedIn folder file names manifest).foldlM loadPlaced []) w₁ := by
  have hcheck : checkWanted names manifest = .ok () := by
    have hnone : ((names.getD []).filter fun name => !(manifest.flatMap WeightGroup.names).contains name) = [] := by
      rw [filter_eq_nil_iff]
      intro name hname
      simpa using hpresent name hname
    simp only [checkWanted,hnone]
  obtain ⟨w₁,hw₁⟩ := hfetch ((needed names manifest).flatMap fun g => g.paths.map (pathIn folder)) w
  have hgroups : loadGroups names (needed names manifest)
      (((needed names manifest).flatMap fun g => g.paths.map (pathIn folder)).map file) =
      (do return (← (wantedIn folder file names manifest).foldlM loadPlaced [],[])) := by
    rw [← wantedIn_needed]
    exact foldlM_loadNext (needed names manifest) []
  refine ⟨w₁,?_⟩
  rw [loadSelected,hcheck]
  change EStateM.bind (fetch _ h) _ w = _
  rw [EStateM.bind,hw₁]
  dsimp only
  rw [hgroups]
  change EStateM.bind (onEngine ((wantedIn folder file names manifest).foldlM loadPlaced [] >>= fun out =>
    pure (out,[]))) _ w₁ = _
  simp only [EStateM.bind,onEngine,run_bind]
  cases (wantedIn folder file names manifest).foldlM loadPlaced [] w₁.engine <;> rfl

omit hpresent hfetch

/-! ## Wanted weights and whole groups -/

/-- Data without content: no numbers, or texts without characters. -/
def Blank : Data → Prop
  | .numbers xs => xs.size = 0
  | .strings xs => ∀ x ∈ xs, x.size = 0
  | _ => False

theorem emptied_eq_self_iff (spec : Spec Float) (d : Decoded Float) : d.emptied = d ↔ Blank (dataOfDecoded spec d) := by
  cases d with
  | numbers xs => simp [Decoded.emptied,dataOfDecoded,Blank]
  | stored elements =>
    cases elements with
    | words ws | flags bs => simp [Decoded.emptied,dataOfDecoded,Blank]
    | texts ts =>
      have hsize : ∀ t, (ofBytes t).size = 0 ↔ [] = t := fun t => by
        rw [← length_eq_zero_iff.trans eq_comm]
        rfl
      have hall : ts.map (fun _ => []) = ts ↔ ∀ t ∈ ts, [] = t := by
        have hmap := @map_inj_left _ _ ts (fun _ => []) id
        rwa [map_id] at hmap
      simp only [Decoded.emptied,dataOfDecoded,Blank,Decoded.stored.injEq,Elements.texts.injEq,hall,
        mem_toArray,forall_mem_map,hsize]

theorem emptied_emptied (d : Decoded Float) : d.emptied.emptied = d.emptied := by
  cases d with
  | numbers xs => rfl
  | stored elements => cases elements <;> simp [Decoded.emptied]

/-- Where a group can be read as a whole, its weights up to the first one of texts are found by their places, and
the others come out empty. -/
theorem recovers_of_whole (hnames : g.names.Nodup) (hwhole : ∃ e copies e', decodeWeights (bytesIn folder file g)
    g.specs e = .ok copies e') (hp : p ∈ g.wanted names) : ∃ d, Recovers doubles (bytesIn folder file g) p
    d (p.spec ∈ g.specs.takeWhile fun s => !s.isText) ∧ ∀ e copies e', decodeWeights (bytesIn folder file g) g.specs e =
    .ok copies e' → ∃ t, copies.lookup p.spec.name = some t ∧ Holds e' t p.spec d := by
  obtain ⟨e₀,copies₀,e₀',hrun₀⟩ := hwhole
  obtain ⟨ds,hds⟩ := decodes_of_decodeWeights hrun₀
  have hlength : (place (some 0) g.specs).length = ds.length := by
    rw [← hds.length_eq,← congrArg length (map_spec_place (some 0) g.specs),length_map]
  have hmem := mem_place_of_mem_wanted hp
  rw [← map_fst_zip hlength.le] at hmem
  obtain ⟨⟨q,d⟩,hzip,rfl⟩ := mem_map.mp hmem
  have hspec : (q.spec,d) ∈ g.specs.zip ds := by
    rw [← map_spec_place (some 0) g.specs,zip_map_left]
    exact mem_map.mpr ⟨(q,d),hzip,rfl⟩
  refine ⟨d,(recovers_of_decodes hds hnames (by simp) (q,d) hzip).congr (by simp),fun e copies e' hrun => ?_⟩
  exact holds_of_decodeWeights hnames hds hrun (q.spec,d) hspec

include hnames
theorem distinct_wantedIn (d : Bytes × Placed Float → Decoded Float) :
    Distinct ((wantedIn folder file names manifest).map fun x => (x.2.spec,d x)) := by
  intro _ hx _ hy hname
  obtain ⟨x,hx',rfl⟩ := mem_map.mp hx
  obtain ⟨y,hy',rfl⟩ := mem_map.mp hy
  obtain ⟨g,hg,p,hp,rfl⟩ := mem_wantedIn.mp hx'
  obtain ⟨g',hg',p',hp',rfl⟩ := mem_wantedIn.mp hy'
  obtain ⟨rfl,rfl⟩ := wanted_unique hnames hg hg' hp hp' hname
  rfl

include hpresent hfetch
theorem loadSelected_of_cut (hcut : ∀ x ∈ wantedIn folder file names manifest, ∃ d, Cut x d) (w : World) :
    ∃ out w', loadSelected fetch folder names manifest h w = .ok out w' ∧ ∀ x ∈ wantedIn folder file names manifest,
    ∃ t d, out.lookup x.2.spec.name = some (.tensor t) ∧ Cut x d ∧ Holds w'.engine t x.2.spec d := by
  have : Nonempty (Decoded Float) := ⟨.numbers []⟩
  choose! d hd using hcut
  obtain ⟨w₁,hrun⟩ := run_loadSelected hpresent hfetch w
  have hnothing : Gathered w₁.engine [] [] := fun x hx => by cases hx
  obtain ⟨out,e',hfold,hall⟩ := run_foldlM_loadPlaced hd (distinct_wantedIn hnames d) hnothing
  refine ⟨out,{ w₁ with engine := e' },?_,fun x hx => ?_⟩
  · rw [hrun,onEngine,hfold]
  · obtain ⟨t,ht,hholds⟩ := hall (x.2.spec,d x) (mem_map.mpr ⟨x,hx,rfl⟩)
    exact ⟨t,d x,ht,hd x hx,hholds⟩

omit hnames in
theorem cut_of_loadSelected (hrun : loadSelected fetch folder names manifest h w = .ok out w') :
    ∀ x ∈ wantedIn folder file names manifest, ∃ d, Cut x d := by
  obtain ⟨w₁,hload⟩ := run_loadSelected hpresent hfetch w
  rw [hrun,onEngine] at hload
  cases hfold : (wantedIn folder file names manifest).foldlM loadPlaced [] w₁.engine with
  | ok out' e' => exact cut_of_foldlM_loadPlaced hfold
  | error f e' => simp [hfold] at hload

omit hnames hpresent hfetch

/-- A wanted weight is as it is read from its whole group. -/
def Agrees (folder : String) (file : String → Bytes) (g : WeightGroup Float) (p : Placed Float)
    (out : Named Value) (w' : World) : Prop :=
  ∀ e copies e', decodeWeights (bytesIn folder file g) g.specs e = .ok copies e' →
    ∃ t t', out.lookup p.spec.name = some (.tensor t) ∧ copies.lookup p.spec.name = some t' ∧
      Repeats e' w'.engine (p.spec.name,t) (p.spec.name,t')

/-- A loader, for any names of a manifest whose groups can each be read as a whole: it gives what is read from the
whole groups if and only if each wanted weight stands before all texts of its group, or has no content. -/
theorem loadSelected_agrees_iff (hnames : (manifest.flatMap WeightGroup.names).Nodup)
    (hpresent : ∀ name ∈ names.getD [], name ∈ manifest.flatMap WeightGroup.names)
    (hfetch : ∀ urls w, ∃ w', fetch urls h w = .ok (urls.map file) w')
    (hwhole : ∀ g ∈ manifest, g.wanted names ≠ [] →
      ∃ e copies e', decodeWeights (bytesIn folder file g) g.specs e = .ok copies e') (w : World) :
    (∃ out w', loadSelected fetch folder names manifest h w = .ok out w' ∧
        ∀ g ∈ manifest, ∀ p ∈ g.wanted names, Agrees folder file g p out w') ↔
      ∀ g ∈ manifest, ∀ p ∈ g.wanted names, (p.spec ∈ g.specs.takeWhile fun s => !s.isText) ∨
        ∀ e copies e' t', decodeWeights (bytesIn folder file g) g.specs e = .ok copies e' →
          copies.lookup p.spec.name = some t' → Blank (e'.content t'.id) := by
  have hread : ∀ g ∈ manifest, ∀ p ∈ g.wanted names, _ := fun g hg p hp =>
    recovers_of_whole ((List.nodup_flatMap.mp hnames).1 g hg) (hwhole g hg (List.ne_nil_of_mem hp)) hp
  constructor
  · rintro ⟨out, w', hrun, hagrees⟩ g hg p hp
    obtain ⟨d, hrecovers, -⟩ := hread g hg p hp
    by_cases hreached : p.spec ∈ g.specs.takeWhile fun s => !s.isText
    · exact .inl hreached
    -- the loader has given what is left without bytes
    refine .inr fun e copies e' t' hdecode hlookup => ?_
    obtain ⟨out₁, w₁, hrun₁, hall⟩ :=
      loadSelected_of_cut hnames hpresent hfetch (cut_of_loadSelected hpresent hfetch hrun) w
    obtain ⟨rfl, rfl⟩ : out = out₁ ∧ w' = w₁ := by simpa using hrun.symm.trans hrun₁
    obtain ⟨t, d', ht, hcut, hholds⟩ := hall _ (mem_wantedIn.mpr ⟨g, hg, p, hp, rfl⟩)
    obtain ⟨u, u', hu, hu', hrepeats⟩ := hagrees g hg p hp e copies e' hdecode
    obtain rfl : t = u := by simpa using ht.symm.trans hu
    obtain rfl : t' = u' := by simpa using hlookup.symm.trans hu'
    obtain rfl : d' = d.emptied := by
      obtain ⟨n, hone⟩ := hcut.one
      obtain ⟨m, hlost⟩ := hrecovers.lost hreached
      have heq : d' = d.emptied ∧ n = m := by simpa using hone.symm.trans hlost
      exact heq.1
    rw [← hrepeats.reads.data, hholds.reads.data]
    exact (emptied_eq_self_iff p.spec _).mp (emptied_emptied d)
  · intro hreached
    have hcut : ∀ g ∈ manifest, ∀ p ∈ g.wanted names, ∃ d, Cut (bytesIn folder file g, p) d ∧
        ∀ e copies e', decodeWeights (bytesIn folder file g) g.specs e = .ok copies e' →
          ∃ t, copies.lookup p.spec.name = some t ∧ Holds e' t p.spec d := by
      intro g hg p hp
      obtain ⟨d, hrecovers, hruns⟩ := hread g hg p hp
      refine ⟨d, ⟨?_, hrecovers.count⟩, hruns⟩
      by_cases hplace : p.spec ∈ g.specs.takeWhile fun s => !s.isText
      · exact hrecovers.whole hplace
      · obtain ⟨e, copies, e', hrun⟩ := hwhole g hg (List.ne_nil_of_mem hp)
        obtain ⟨t, ht, hholds⟩ := hruns e copies e' hrun
        have hblank := (hreached g hg p hp).resolve_left hplace e copies e' t hrun ht
        rw [hholds.reads.data, ← emptied_eq_self_iff] at hblank
        exact hblank ▸ hrecovers.lost hplace
    have hall : ∀ x ∈ wantedIn folder file names manifest, ∃ d, Cut x d := by
      intro x hx
      obtain ⟨g, hg, p, hp, rfl⟩ := mem_wantedIn.mp hx
      obtain ⟨d, hd, -⟩ := hcut g hg p hp
      exact ⟨d, hd⟩
    obtain ⟨out, w', hrun, hout⟩ := loadSelected_of_cut hnames hpresent hfetch hall w
    refine ⟨out, w', hrun, fun g hg p hp e copies e' hdecode => ?_⟩
    obtain ⟨d, hd, hruns⟩ := hcut g hg p hp
    obtain ⟨t', ht', hholds'⟩ := hruns e copies e' hdecode
    obtain ⟨t, d', ht, hd', hholds⟩ := hout _ (mem_wantedIn.mpr ⟨g, hg, p, hp, rfl⟩)
    obtain rfl := hd.unique hd'
    refine ⟨t, t', ht, ht', rfl, hholds.shape.trans hholds'.shape.symm, hholds.dtype.trans hholds'.dtype.symm, ?_⟩
    rw [hholds'.reads.data]
    exact hholds.reads

/-- Two groups, the first in two files that share a number, and with texts behind its numbers. -/
def stored : List (WeightGroup Float) :=
  [⟨["a","b"],[⟨"x",[1],"float32",none⟩,⟨"y",[2],"bool",none⟩,⟨"s",[1],"string",none⟩,
      ⟨"n",[1],"int32",none⟩]⟩,⟨["c"],[⟨"q",[2],"float32",some ⟨"uint8",0.5,1⟩⟩]⟩]

def storedFile : String → Bytes
  | "dir/a" => [0,0,128]
  | "dir/b" => [63,1,0,2,0,0,0,104,105,7,0,0,0]
  | "dir/c" => [2,3]
  | _ => []

def fetchStored (urls : Strings) : Script (List Bytes) := pure (urls.map storedFile)
def quietHost : Host := ⟨fun _ _ => pure .absent⟩

theorem stored_whole :
    ∀ g ∈ stored, ∃ e copies e', decodeWeights (bytesIn "dir" storedFile g) g.specs e = .ok copies e' := by
  have hall : ∀ g ∈ stored, (answer (decodeWeights (bytesIn "dir" storedFile g) g.specs) {}).isOk = true := by
    decide +kernel
  exact fun g hg => ⟨{},exists_ok_of_answer (hall g hg)⟩

/-- Numbers before the texts, and levels of another group. -/
theorem loadSelected_agrees_iff_stored :
    ∃ out w', loadSelected fetchStored "dir" (some ["q", "y"]) stored quietHost {} = .ok out w' ∧
      ∀ g ∈ stored, ∀ p ∈ g.wanted (some ["q", "y"]), Agrees "dir" storedFile g p out w' := by
  refine (loadSelected_agrees_iff (by decide) (by decide) (fun urls w => ⟨w, rfl⟩)
    (fun g hg _ => stored_whole g hg) {}).mpr ?_
  intro g hg p hp
  refine .inl ?_
  simp only [stored, List.mem_cons, List.not_mem_nil, or_false] at hg
  rcases hg with rfl | rfl
  all_goals
    simp [WeightGroup.wanted, place, Spec.isText] at hp ⊢
    simp [hp]

def textsIn (e : Engine) (t : Tensor) : List Bytes := match e.content t.id with
  | .strings xs => xs.toList.map bytesOf
  | _ => []
def loadedTexts : Option (List Bytes) :=
  match loadSelected fetchStored "dir" (some [name]) stored quietHost {} with
  | .ok out w => ((out.lookup name).bind Value.tensor?).map (textsIn w.engine)
  | .error _ _ => none

def wholeTexts : Option (List Bytes) :=
  let g := stored.headD ⟨[],[]⟩
  match decodeWeights (bytesIn "dir" storedFile g) g.specs {} with
  | .ok copies e => (copies.lookup name).map (textsIn e)
  | .error _ _ => none

/-- A text alone comes out empty, and a number behind it is not found. -/
theorem loadedTexts_ne_wholeTexts :
    loadedTexts "s" = some [[]] ∧ wholeTexts "s" = some [[104, 105]] ∧
      loadedTexts "n" = none ∧ (wholeTexts "n").isSome = true := by
  decide +kernel
end TensorKit.Script
