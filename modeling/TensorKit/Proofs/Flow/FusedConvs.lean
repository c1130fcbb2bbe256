import TensorKit.Proofs.Flow.Rectifiers

/-! # Rectifiers given to convolutions

A rectifier behind a convolution with an addition becomes part of it. If nothing else reads the convolution, all other
nodes keep their values.
-/
namespace TensorKit.Flow
open List
open TensorKit.Convert (nodeName)
variable {K : Type} {g : ExactGraph K} {n m conv : ExactNode K} {x alpha : String}

/-! ## One rectifier -/

/-- A rectifier behind a convolution that takes one. -/
structure Attached (g : ExactGraph K) (n conv : ExactNode K) (x alpha : String) : Prop where
  op : n.op = "Prelu"
  inputs : n.inputs = [x,alpha]
  conv_mem : conv ∈ g
  conv_name : conv.name = nodeName x
  conv_op : conv.op = "_FusedConv2D"
  ops : conv.fusedOps.length ≤ 1

/-- The convolution adds to its result and does no more with it, and nothing but the rectifier reads it. -/
structure Attachable (g : ExactGraph K) (n conv : ExactNode K) (alpha : String) : Prop where
  ops : conv.fusedOps = ["BiasAdd"]
  arguments : (conv.inputs.filter fun r => !isControl r).length = 3
  reader : ∀ m ∈ g, ∀ r ∈ m.inputs, isControl r = false → nodeName r = conv.name → m.name = n.name
  factor : nodeName alpha ≠ conv.name

def AllAttachable (g : ExactGraph K) : Prop :=
  ∀ n ∈ g, ∀ conv x alpha, Attached g n conv x alpha → Attachable g n conv alpha

/-- A rectifier that its convolution can take over. -/
structure Attaches (g : ExactGraph K) (n conv : ExactNode K) (x alpha : String) : Prop where
  regular : Regular g
  mem : n ∈ g
  form : Attached g n conv x alpha
  able : Attachable g n conv alpha

theorem attr_setAttr (n : ExactNode K) (key : String) (a : AttrOf (Table K) K) (k : String) :
    (n.setAttr key a).attr k = if k = key then a else n.attr k := by
  simp only [NodeOf.attr,NodeOf.attr?,NodeOf.setAttr,lookup_put]
  split <;> rfl

theorem withPrelu_eq (n : ExactNode K) (alpha : String) : (n.withPrelu alpha).name = n.name ∧ (n.withPrelu alpha).op =
    n.op ∧ (n.withPrelu alpha).inputs = n.inputs ++ [alpha] ∧ (n.withPrelu alpha).fusedOps = n.fusedOps ++ ["Prelu"] ∧
    ∀ key, key ≠ "fused_ops" → key ≠ "num_args" → (n.withPrelu alpha).attr key = n.attr key := by
  refine ⟨rfl,rfl,rfl,?_,fun key hops hargs => ?_⟩
  · simp [NodeOf.fusedOps,NodeOf.withPrelu,attr_setAttr,AttrOf.texts?]
  · rw [NodeOf.withPrelu,attr_setAttr,if_neg hargs,attr_setAttr,if_neg hops]
    rfl

namespace Attaches
variable (h : Attaches g n conv x alpha)
include h
theorem data : ∀ r ∈ [x,alpha], isControl r = false := h.regular.data_binary h.mem h.form.inputs (.inr (.inr h.form.op))

theorem takesOver : TakesOver g conv (conv.withPrelu alpha) n x := by
  have hx : x ∈ n.inputs := by simp [h.form.inputs]
  have halpha : alpha ∈ n.inputs := by simp [h.form.inputs]
  have hone : hasOneOutput conv := by simp [hasOneOutput,h.form.conv_op]
  have hne : conv.name ≠ n.name := fun hname => by
    have hop := h.form.conv_op
    rw [eq_of_name_eq h.regular.names h.form.conv_mem h.mem hname,h.form.op] at hop
    exact absurd hop (by decide)
  obtain ⟨hname,hop,hinputs,-,-⟩ := withPrelu_eq conv alpha
  refine ⟨h.regular,h.form.conv_mem,h.mem,hne,hname,⟨hone,by simp [hasOneOutput,h.form.op]⟩,
    ⟨x,hx,h.data x (by simp)⟩,h.able.reader,⟨h.form.conv_name.symm,h.data x (by simp),?_⟩,fun k hk => ?_,
    fun r hr => ?_⟩
  · exact h.regular.portOf_eq_zero h.mem hx (h.data x (by simp)) h.form.conv_mem h.form.conv_name hone
  · simp [arity?,isConv,isDepthwise,normInputs?,hop,h.form.conv_op] at hk
  · rw [hinputs] at hr
    rcases mem_append.mp hr with hr | hr
    · refine ⟨conv,h.form.conv_mem,hr,fun hc => ⟨fun he => ?_,fun rank hrank => ?_⟩⟩
      · exact hne (h.able.reader conv h.form.conv_mem r hr hc he)
      · exact (hrank conv h.form.conv_mem r hr hc).trans (h.form.conv_name ▸ hrank n h.mem x hx (h.data x (by simp)))
    · obtain rfl := mem_singleton.mp hr
      exact ⟨n,h.mem,halpha,fun hc => ⟨h.able.factor,fun rank hrank => hrank n h.mem r halpha hc⟩⟩

abbrev graph : ExactGraph K := h.takesOver.graph

theorem attached_of_graph (hm : m ∈ h.graph)
    (h' : Attached h.graph m conv' y beta) : m ∈ g ∧ m.name ≠ n.name ∧ Attached g m conv' y beta := by
  obtain ⟨-,hop,-,hops,-⟩ := withPrelu_eq conv alpha
  have hconv : conv' ∈ g := by
    rcases h.takesOver.mem_graph.mp h'.conv_mem with rfl | rfl | ⟨hmem,-,-⟩
    · exact absurd (show "Identity" = "_FusedConv2D" from h'.conv_op) (by decide)
    · have hlength := h'.ops
      rw [hops,h.able.ops] at hlength
      exact absurd hlength (by decide)
    · exact hmem
  rcases h.takesOver.mem_graph.mp hm with rfl | rfl | ⟨hm,hne,-⟩
  · exact absurd (show "Identity" = "Prelu" from h'.op) (by decide)
  · exact absurd (h.form.conv_op.symm.trans (hop.symm.trans h'.op)) (by decide)
  · exact ⟨hm,hne,{ h' with conv_mem := hconv }⟩

theorem allAttachable_graph (hall : AllAttachable g) : AllAttachable h.graph := by
  intro m hm conv' y beta h'
  obtain ⟨hm,hne,h'⟩ := h.attached_of_graph hm h'
  have hat := hall m hm conv' y beta h'
  refine { hat with reader := fun k hk r hr hc hname => ?_ }
  obtain ⟨hkname,-,hinputs,-,-⟩ := withPrelu_eq conv alpha
  rcases h.takesOver.mem_graph.mp hk with rfl | rfl | ⟨hk,-,-⟩
  · exact hat.reader n h.mem r (by simp [h.form.inputs,mem_singleton.mp hr]) hc hname
  · rw [hinputs] at hr
    rcases mem_append.mp hr with hr | hr
    · exact hat.reader conv h.form.conv_mem r hr hc hname
    · exact absurd (hat.reader n h.mem r (by simp [h.form.inputs,mem_singleton.mp hr]) hc hname).symm hne
  · exact hat.reader k hk r hr hc hname
end Attaches

theorem fuseConvAt_cases (hg : Regular g) (hall : AllAttachable g) (hn : n ∈ g) : (∃ conv x alpha, ∃ h : Attaches g n
    conv x alpha, fuseConvAt g n.name = .ok h.graph) ∨ (∀ conv x alpha, ¬ Attached g n conv x alpha) ∧ fuseConvAt g
    n.name = .ok g := by
  have hfind := (find?_eq_some_iff hg.names).mpr ⟨hn,rfl⟩
  simp only [fuseConvAt,hfind,bind,Except.bind,pure,Except.pure]
  split
  case h_2 hinputs => exact .inr ⟨fun conv x alpha h => hinputs x alpha h.inputs,rfl⟩
  next x alpha hinputs =>
  split
  · next hop => exact .inr ⟨fun _ _ _ h => by simp [h.op] at hop,rfl⟩
  next hop =>
  obtain ⟨conv,hconv,hresolve,hname⟩ := hg.resolve hn (r := x) (by simp [hinputs])
  simp only [hresolve]
  split
  · next hconv' =>
    refine .inr ⟨fun conv' x' alpha' h => ?_,rfl⟩
    have hx : x' = x := (cons.inj (h.inputs.symm.trans hinputs)).1
    obtain rfl := eq_of_name_eq hg.names h.conv_mem hconv (by rw [h.conv_name,hx,hname])
    have hops := h.ops
    simp [h.conv_op] at hconv'
    omega
  next hconv' =>
  simp only [Bool.or_eq_true,bne_iff_ne,decide_eq_true_eq,not_or,not_not,not_lt] at hconv'
  have hattached : Attached g n conv x alpha := ⟨by simpa using hop,hinputs,hconv,hname,hconv'.1,hconv'.2⟩
  have h : Attaches g n conv x alpha := ⟨hg,hn,hattached,hall n hn conv x alpha hattached⟩
  refine .inl ⟨conv,x,alpha,h,?_⟩
  simp only [Graph.update,map_map,Except.ok.injEq]
  refine map_congr_left fun k hk => ?_
  by_cases hkc : k.name = conv.name
  · obtain rfl := eq_of_name_eq hg.names hk hconv hkc
    simp [h.takesOver.ne,h.takesOver.name]
  by_cases hkn : k.name = n.name
  · obtain rfl := eq_of_name_eq hg.names hk hn hkn
    simp [hkc,copyOf]
  · simp [hkc,hkn]

/-! ## Values -/

variable (h : Attaches g n conv x alpha) {read : String}
section Values
variable [Field K] [LinearOrder K] {M : Meaning K} {port : Nat} {y : Table K}
omit [LinearOrder K] in
theorem evaluates_data_iff {f : List (Table K) → Option (Table K)} (hg : Distinct g) (hn : n ∈ g)
    (hrs : (n.inputs.filter fun r => !isControl r) = rs) (hf : ∀ args, M.first n args = f args.reduceOption) : Evaluates
    M g n.name 0 y ↔ ∃ vs, Forall₂ (Gives M g) rs vs ∧ f vs = some y := by
  have hargs env : (argsOf env n).reduceOption = rs.map env := by
    rw [← hrs,argsOf,reduceOption,filterMap_map,← filterMap_eq_map,filterMap_filter]
    refine filterMap_congr fun r _ => ?_
    cases hc : isControl r <;> simp [hc]
  have hfirst env : M.first n (argsOf env n) = f (rs.map env) := by rw [hf,hargs]
  have hmem {r : String} : r ∈ rs ↔ r ∈ n.inputs ∧ isControl r = false := by simp [← hrs]
  constructor
  · intro hy
    obtain ⟨env,henv,hy⟩ := hy.inv hg hn
    refine ⟨rs.map env,?_,(hfirst env).symm.trans hy⟩
    rw [forall₂_map_right_iff,forall₂_same]
    exact fun r hr => henv r (hmem.mp hr).1 (hmem.mp hr).2
  · rintro ⟨vs,hvs,hy⟩
    obtain ⟨env,henv,rfl⟩ := exists_env_of_forall₂ hg hvs
    exact .node hn env (fun r hr hc => henv r (hmem.mpr ⟨hr,hc⟩)) ((hfirst env).trans hy)

omit [LinearOrder K] in
theorem biased_congr
    (h : ∀ key, key ≠ "fused_ops" → key ≠ "num_args" → attrs key = attrs' key) : M.biased attrs = M.biased attrs' := by
  have hformat : attrs "data_format" = attrs' "data_format" := h _ (by decide) (by decide)
  have hown : (fun key => if key = "fused_ops" ∨ key = "num_args" then .unset else attrs key) =
      fun key => if key = "fused_ops" ∨ key = "num_args" then .unset else attrs' key := by
    funext key
    split
    · rfl
    · next hne => exact h key (not_or.mp hne).1 (not_or.mp hne).2
  unfold Meaning.biased
  simp only [hformat,hown]

theorem first_fusedConv (hop : n.op = "_FusedConv2D") (args : List (Option (Table K))) :
    M.elementwise.first n args = M.fusedConv n.name n.attr n.fusedOps args.reduceOption := by
  simp [Meaning.first,hop,isConv,isDepthwise,isGlobalNorm,Meaning.elementwise,NodeOf.fusedOps]

theorem Attaches.evaluates_iff (hacyclic : Acyclic g) (hm : m ∈ g) (hne : m.name ≠
    conv.name) : Evaluates M.elementwise g m.name port y ↔ Evaluates M.elementwise h.graph m.name port y := by
  obtain ⟨i,f,b,hrs⟩ := length_eq_three.mp h.able.arguments
  obtain ⟨-,hop,hinputs,hops,hattr⟩ := withPrelu_eq conv alpha
  have hdata : ((conv.withPrelu alpha).inputs.filter fun r => !isControl r) = [i,f,b,alpha] := by
    rw [hinputs,filter_append,hrs]
    simp [h.data alpha (by simp)]
  refine h.takesOver.evaluates_iff (fun hagree y => ?_) hacyclic hm hne
  have hagree r (hr : r ∈ [i,f,b,alpha]) : AgreeOn M.elementwise g h.graph r := by
    rw [← hdata,mem_filter] at hr
    exact hagree r hr.1 (by simpa using hr.2)
  have hold v : Gives M.elementwise g x v ↔ ∃ vs, Forall₂ (Gives M.elementwise g) [i,f,b] vs ∧
      M.fusedConv conv.name conv.attr ["BiasAdd"] vs = some v := by
    rw [Gives,h.takesOver.ref.2.2,← h.form.conv_name]
    refine evaluates_data_iff h.regular.names h.form.conv_mem hrs fun args => ?_
    rw [first_fusedConv h.form.conv_op,h.able.ops]
  have hnew : Evaluates M.elementwise h.graph (conv.withPrelu alpha).name 0 y ↔
      ∃ vs, Forall₂ (Gives M.elementwise h.graph) [i,f,b,alpha] vs ∧
        M.fusedConv conv.name (conv.withPrelu alpha).attr ["BiasAdd","Prelu"] vs = some y := by
    refine evaluates_data_iff h.takesOver.nodup (h.takesOver.mem_graph.mpr (.inr (.inl rfl))) hdata fun args => ?_
    rw [first_fusedConv (hop.trans h.form.conv_op),hops,h.able.ops]
    rfl
  rw [hnew,evaluates_binary_iff h.regular.names h.mem h.form.inputs h.data (.inr (.inr ⟨h.form.op,rfl⟩))]
  simp only [hold,forall₂_cons_left_iff,forall₂_nil_left_iff,← hagree i (by simp) _,
    ← hagree f (by simp) _,← hagree b (by simp) _,← hagree alpha (by simp) _]
  constructor
  · rintro ⟨v,w,⟨_,⟨u,_,hu,⟨t,_,ht,⟨s,_,hs,rfl,rfl⟩,rfl⟩,rfl⟩,hv⟩,hw,hy⟩
    refine ⟨_,⟨u,_,hu,⟨t,_,ht,⟨s,_,hs,⟨w,_,hw,rfl,rfl⟩,rfl⟩,rfl⟩,rfl⟩,?_⟩
    rw [Meaning.fusedConv,biased_congr hattr]
    exact Option.bind_eq_some_iff.mpr ⟨v,hv,hy⟩
  · rintro ⟨_,⟨u,_,hu,⟨t,_,ht,⟨s,_,hs,⟨w,_,hw,rfl,rfl⟩,rfl⟩,rfl⟩,rfl⟩,hy⟩
    rw [Meaning.fusedConv,biased_congr hattr] at hy
    obtain ⟨v,hv,hy⟩ := Option.bind_eq_some_iff.mp hy
    exact ⟨v,w,⟨_,⟨u,_,hu,⟨t,_,ht,⟨s,_,hs,rfl,rfl⟩,rfl⟩,rfl⟩,hv⟩,hw,hy⟩

/-! ## All rectifiers -/

/-- A convolution that received a rectifier. -/
def Received (m m' : ExactNode K) : Prop :=
  m.op = "_FusedConv2D" ∧ m.fusedOps = ["BiasAdd"] ∧ m'.fusedOps = ["BiasAdd","Prelu"]

/-- A node that keeps its values. -/
def Keeps (M : Meaning K) (g g' : ExactGraph K) (m m' : ExactNode K) : Prop :=
  (m'.op = "_FusedConv2D" → m.op = "_FusedConv2D") ∧ m'.fusedOps = m.fusedOps ∧
    ∀ port y, Evaluates M.elementwise g m.name port y ↔ Evaluates M.elementwise g' m.name port y

theorem Attaches.keeps (hacyclic : Acyclic g) (hm : m ∈ g) :
    ∃ m' ∈ h.graph, m'.name = m.name ∧ (Received m m' ∨ Keeps M g h.graph m m') := by
  have hmem {k : ExactNode K} := h.takesOver.mem_graph (m := k)
  by_cases hn : m.name = n.name
  · obtain rfl := eq_of_name_eq h.regular.names hm h.mem hn
    exact ⟨_,hmem.mpr (.inl rfl),rfl,.inr ⟨fun hop => absurd hop (by simp [copyOf]),rfl,
      fun _ _ => h.evaluates_iff hacyclic hm h.takesOver.ne.symm⟩⟩
  by_cases hc : m.name = conv.name
  · obtain rfl := eq_of_name_eq h.regular.names hm h.form.conv_mem hc
    refine ⟨_,hmem.mpr (.inr (.inl rfl)),h.takesOver.name,.inl ⟨h.form.conv_op,h.able.ops,?_⟩⟩
    rw [(withPrelu_eq _ _).2.2.2.1,h.able.ops]
    rfl
  · exact ⟨m,hmem.mpr (.inr (.inr ⟨hm,hn,hc⟩)),rfl,.inr ⟨id,rfl,fun _ _ => h.evaluates_iff hacyclic hm hc⟩⟩

theorem keeps_trans (hname : m'.name = m.name) (h : Received m m' ∨
    Keeps M g g' m m') (h' : Received m' m'' ∨ Keeps M g' g'' m' m'') : Received m m'' ∨ Keeps M g g'' m m'' := by
  rcases h with h | h <;> rcases h' with h' | h'
  · exact absurd (h'.2.1.symm.trans h.2.2) (by decide)
  · exact .inl ⟨h.1,h.2.1,h'.2.1.trans h.2.2⟩
  · exact .inl ⟨h.1 h'.1,h.2.1.symm.trans h'.2.1,h'.2.2⟩
  · exact .inr ⟨h.1 ∘ h'.1,h'.2.1.trans h.2.1,fun port y => (h.2.2 port y).trans (hname ▸ h'.2.2 port y)⟩

theorem fuseConvs_run (M : Meaning K) (hg : Regular g) (hacyclic : Acyclic g) (hall : AllAttachable g) {todo :
    Strings} (htodo : ∀ name ∈ todo, name ∈ g.map (·.name)) : ∃ g', todo.foldlM fuseConvAt g = .ok g' ∧ g'.map
    (·.name) = g.map (·.name) ∧ (∀ m ∈ g', ∀ conv x alpha, Attached g' m conv x alpha → m ∈ g ∧ Attached g m conv x
    alpha ∧ m.name ∉ todo) ∧ ∀ m ∈ g, ∃ m' ∈ g', m'.name = m.name ∧ (Received m m' ∨ Keeps M g g' m m') := by
  induction todo generalizing g with
  | nil => exact ⟨g,rfl,rfl,fun m hm _ _ _ h => ⟨hm,h,not_mem_nil⟩,
      fun m hm => ⟨m,hm,rfl,.inr ⟨id,rfl,fun _ _ => .rfl⟩⟩⟩
  | cons name todo ih =>
    obtain ⟨hname,hrest⟩ := forall_mem_cons.mp htodo
    obtain ⟨n,hn,rfl⟩ := mem_map.mp hname
    rcases fuseConvAt_cases hg hall hn with ⟨conv,x,alpha,h,hstep⟩ | ⟨hnone,hstep⟩
    · have hnames := h.takesOver.names
      obtain ⟨g',hrun,hnames',hleft,hvalues⟩ := ih h.takesOver.regular_graph (h.takesOver.acyclic_graph hacyclic)
        (h.allAttachable_graph hall) (by rwa [hnames])
      refine ⟨g',by rw [foldlM_cons,hstep]; exact hrun,hnames'.trans hnames,fun m hm conv' y beta h' => ?_,
        fun m hm => ?_⟩
      · obtain ⟨hm,h',hne⟩ := hleft m hm conv' y beta h'
        obtain ⟨hm,hne',h'⟩ := h.attached_of_graph hm h'
        exact ⟨hm,h',by simp [hne',hne]⟩
      · obtain ⟨m',hm',hname',hkeeps⟩ := h.keeps hacyclic hm
        obtain ⟨m'',hm'',hname'',hkeeps'⟩ := hvalues m' hm'
        exact ⟨m'',hm'',hname''.trans hname',keeps_trans hname' hkeeps hkeeps'⟩
    · obtain ⟨g',hrun,hnames,hleft,hvalues⟩ := ih hg hacyclic hall hrest
      refine ⟨g',by rw [foldlM_cons,hstep]; exact hrun,hnames,fun m hm conv' y beta h' => ?_,hvalues⟩
      obtain ⟨hm,h',hne⟩ := hleft m hm conv' y beta h'
      have hne' : m.name ≠ n.name := fun he => hnone _ _ _ (eq_of_name_eq hg.names hm hn he ▸ h')
      exact ⟨hm,h',by simp [hne',hne]⟩

/-- Giving rectifiers to convolutions keeps the meaning of a graph in which nothing else reads these: all of them are
given, and all nodes but the convolutions that received one keep their values. -/
theorem fusePreluWithConv_preserves (M : Meaning K) (hg : Regular g) (hacyclic : Acyclic g) (hall : AllAttachable g) :
    ∃ g', fusePreluWithConv g = .ok g' ∧ g'.map (·.name) = g.map (·.name) ∧
      (∀ m ∈ g', ∀ conv x alpha, ¬ Attached g' m conv x alpha) ∧
      ∀ m ∈ g, ∃ m' ∈ g', m'.name = m.name ∧ (Received m m' ∨
        ∀ port y, Evaluates M.elementwise g m.name port y ↔ Evaluates M.elementwise g' m.name port y) := by
  obtain ⟨g', hrun, hnames, hleft, hvalues⟩ := fuseConvs_run M hg hacyclic hall fun _ h => h
  refine ⟨g', ?_, hnames, fun m hm conv x alpha h => ?_, fun m hm => ?_⟩
  · simp only [fusePreluWithConv, checkNames_eq_ok hg.names, bind, Except.bind]
    exact hrun
  · exact (hleft m hm conv x alpha h).2.2 (hnames ▸ List.mem_map_of_mem hm)
  · obtain ⟨m', hm', hname, h⟩ := hvalues m hm
    exact ⟨m', hm', hname, h.imp_right fun h => h.2.2⟩
end Values

/-! ## A convolution that is read twice -/

/-- A convolution with a rectifier behind it, and a node that reads one of the two. -/
def convRead (read : String) : ExactGraph ℚ :=
  [{ name := "x", op := "Placeholder" },{ name := "w", op := "Placeholder" },{ name := "b", op := "Placeholder" },
    { name := "alpha", op := "Placeholder" },
    { name := "conv", op := "_FusedConv2D", inputs := ["x","w","b"], attrs := [("fused_ops",.texts ["BiasAdd"])] },
    { name := "prelu", op := "Prelu", inputs := ["conv","alpha"] },{ name := "out", op := "Identity", inputs := [read] }]

theorem regular_convRead (hread : read = "prelu" ∨ read = "conv") : Regular (convRead read) := by
  rcases hread with rfl | rfl <;> constructor <;> decide +kernel
theorem acyclic_convRead (hread : read = "prelu" ∨ read = "conv") : Acyclic (convRead read) := by
  refine ⟨fun name => ((convRead read).map (·.name)).idxOf name,?_⟩
  rcases hread with rfl | rfl <;> decide +kernel

theorem allAttachable_convRead : AllAttachable (convRead "prelu") := by
  have hg := regular_convRead (.inl rfl)
  intro n hn conv x alpha h
  have hop := h.op
  have hinputs := h.inputs
  simp only [convRead,mem_cons,not_mem_nil,or_false] at hn
  rcases hn with rfl | rfl | rfl | rfl | rfl | rfl | rfl <;> simp at hop
  cases hinputs
  have hconv : conv = { name := "conv", op := "_FusedConv2D", inputs := ["x","w","b"],
                        attrs := [("fused_ops",.texts ["BiasAdd"])] } :=
    eq_of_name_eq hg.names h.conv_mem (by simp [convRead]) (h.conv_name.trans (by decide +kernel))
  subst hconv
  constructor <;> decide +kernel

/-- The rectifier reads the convolution alone. -/
theorem fusePreluWithConv_preserves_convRead : Regular (convRead "prelu") ∧ Acyclic (convRead "prelu") ∧
    AllAttachable (convRead "prelu") ∧ ∃ g', fusePreluWithConv (convRead "prelu") = .ok g' ∧
      ∃ y, y.numbers = [-4] ∧ Evaluates given.elementwise (convRead "prelu") "out" 0 y ∧
        Evaluates given.elementwise g' "out" 0 y := by
  have hg := regular_convRead (.inl rfl)
  have hacyclic := acyclic_convRead (.inl rfl)
  refine ⟨hg, hacyclic, allAttachable_convRead, ?_⟩
  obtain ⟨g', hrun, -, -, hkeeps⟩ := fusePreluWithConv_preserves given hg hacyclic allAttachable_convRead
  have hvalue : (value? given.elementwise (convRead "prelu") 4 "out" 0).map Table.numbers = some [-4] := by decide +kernel
  obtain ⟨y, hy, hnumbers⟩ := Option.map_eq_some_iff.mp hvalue
  obtain ⟨m, -, -, hreceived | hkept⟩ := hkeeps { name := "out", op := "Identity", inputs := ["prelu"] } (by simp [convRead])
  · exact absurd hreceived.1 (by decide)
  · exact ⟨g', hrun, y, hnumbers, evaluates_of_value? hy, (hkept 0 y).mp (evaluates_of_value? hy)⟩

/-- If another node reads the convolution too, that node gets the rectifier as well. -/
theorem fusePreluWithConv_shared_conv : Regular (convRead "conv") ∧ Acyclic (convRead "conv") ∧
    ∃ g', fusePreluWithConv (convRead "conv") = .ok g' ∧
      ∃ y, Evaluates given.elementwise (convRead "conv") "out" 0 y ∧ ¬ Evaluates given.elementwise g' "out" 0 y := by
  refine ⟨regular_convRead (.inr rfl), acyclic_convRead (.inr rfl), ?_⟩
  have hold : (value? given.elementwise (convRead "conv") 4 "out" 0).map Table.numbers = some [-2] := by decide +kernel
  obtain ⟨g', hrun, hnodup, hnew⟩ : ∃ g', fusePreluWithConv (convRead "conv") = .ok g' ∧ (g'.map (·.name)).Nodup ∧
      (value? given.elementwise g' 4 "out" 0).map Table.numbers = some [-4] :=
    ⟨_, rfl, by decide +kernel, by decide +kernel⟩
  obtain ⟨y, hy, hys⟩ := Option.map_eq_some_iff.mp hold
  obtain ⟨z, hz, hzs⟩ := Option.map_eq_some_iff.mp hnew
  refine ⟨g', hrun, y, evaluates_of_value? hy, fun hy' => ?_⟩
  rw [Evaluates.unique hnodup hy' (evaluates_of_value? hz), hzs] at hys
  revert hys
  decide +kernel
end TensorKit.Flow
