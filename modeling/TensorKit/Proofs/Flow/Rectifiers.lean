import TensorKit.Proofs.Flow.Elementwise
import TensorKit.Flow.FusePrelu

/-! # Nodes that take over the work of others

A node may take over what the only node that reads it does, which becomes a copy of it. The graph stays regular and
without cycles, and if the second of the two keeps its value, so do all nodes but the first.
-/
namespace TensorKit.Flow
open List
open TensorKit.Convert (nodeName)
variable {K : Type} {g : ExactGraph K} {inner inner' outer n m : ExactNode K} {ref : String}
/-- Numbers that grow along all references to values. -/
def Ranks (g : ExactGraph K) (rank : String → Nat) : Prop :=
  ∀ n ∈ g, ∀ r ∈ n.inputs, isControl r = false → rank (nodeName r) < rank n.name

def copyOf (n : ExactNode K) (ref : String) : ExactNode K := { n with op := "Identity", inputs := [ref] }

/-- What is needed for a node to take over the work of the node behind it, which then reads it by a reference. -/
structure TakesOver (g : ExactGraph K) (inner inner' outer : ExactNode K) (ref : String) : Prop where
  regular : Regular g
  inner_mem : inner ∈ g
  outer_mem : outer ∈ g
  ne : inner.name ≠ outer.name
  name : inner'.name = inner.name
  one : hasOneOutput inner ∧ hasOneOutput outer
  reads : ∃ r ∈ outer.inputs, isControl r = false
  reader : ∀ m ∈ g, ∀ r ∈ m.inputs, isControl r = false → nodeName r = inner.name → m.name = outer.name
  ref : nodeName ref = inner.name ∧ isControl ref = false ∧ portOf ref = 0
  arguments : ∀ k ∈ arity? inner', inner'.inputs.map isControl = .replicate k false
  inputs : ∀ r ∈ inner'.inputs, ∃ m ∈ g, r ∈ m.inputs ∧ (isControl r = false → nodeName r ≠ inner.name ∧
    ∀ rank, Ranks g rank → rank (nodeName r) < rank outer.name)

namespace TakesOver
/-- The graph in which it has done so. -/
def graph (_ : TakesOver g inner inner' outer ref) : ExactGraph K :=
  g.map fun n => if n.name = outer.name then copyOf outer ref else if n.name = inner.name then inner' else n

variable (h : TakesOver g inner inner' outer ref)
include h
theorem mem_graph : m ∈ h.graph ↔
    m = copyOf outer ref ∨ m = inner' ∨ m ∈ g ∧ m.name ≠ outer.name ∧ m.name ≠ inner.name := by
  constructor
  · intro hm
    obtain ⟨n,hn,rfl⟩ := mem_map.mp hm
    split
    · exact .inl rfl
    next ho =>
    split
    · exact .inr (.inl rfl)
    next hi => exact .inr (.inr ⟨hn,ho,hi⟩)
  · rintro (rfl | rfl | ⟨hm,ho,hi⟩)
    · exact mem_map.mpr ⟨outer,h.outer_mem,if_pos rfl⟩
    · exact mem_map.mpr ⟨inner,h.inner_mem,by rw [if_neg h.ne,if_pos rfl]⟩
    · exact mem_map.mpr ⟨m,hm,by rw [if_neg ho,if_neg hi]⟩

theorem names : h.graph.map (·.name) = g.map (·.name) := by
  rw [graph,map_map]
  refine map_congr_left fun n _ => ?_
  dsimp only [Function.comp_apply]
  split
  · next ho => exact ho.symm
  split
  · next hi => exact h.name.trans hi.symm
  · rfl

theorem nodup : (h.graph.map (·.name)).Nodup := h.names ▸ h.regular.names
theorem exists_old (hm : m ∈ h.graph) : ∃ k ∈ g, k.name = m.name := mem_map.mp (h.names ▸ mem_map_of_mem hm)
theorem exists_new (hn : n ∈ g) : ∃ k ∈ h.graph, k.name = n.name := mem_map.mp (h.names.symm ▸ mem_map_of_mem hn)

theorem resolves (hm : m ∈ g) (hr : r ∈ m.inputs) : ∃ k ∈ h.graph, k.name = nodeName r ∧
    (isControl r = false → hasOneOutput k → portOf r = 0) := by
  obtain ⟨k,hk,hname,hport⟩ := h.regular.resolvable m hm r hr
  by_cases ho : k.name = outer.name
  · obtain rfl := eq_of_name_eq h.regular.names hk h.outer_mem ho
    exact ⟨copyOf k ref,h.mem_graph.mpr (.inl rfl),hname,fun hc _ => hport hc h.one.2⟩
  by_cases hi : k.name = inner.name
  · obtain rfl := eq_of_name_eq h.regular.names hk h.inner_mem hi
    exact ⟨inner',h.mem_graph.mpr (.inr (.inl rfl)),h.name.trans hname,fun hc _ => hport hc h.one.1⟩
  · exact ⟨k,h.mem_graph.mpr (.inr (.inr ⟨hk,ho,hi⟩)),hname,hport⟩

theorem regular_graph : Regular h.graph where
  names := h.nodup
  plain m hm := by
    rcases h.mem_graph.mp hm with rfl | rfl | ⟨hm,-,-⟩
    · exact h.regular.plain outer h.outer_mem
    · exact h.name ▸ h.regular.plain inner h.inner_mem
    · exact h.regular.plain m hm
  resolvable m hm r hr := by
    rcases h.mem_graph.mp hm with rfl | rfl | ⟨hm,-,-⟩
    · rw [mem_singleton.mp hr]
      exact ⟨inner',h.mem_graph.mpr (.inr (.inl rfl)),h.name.trans h.ref.1.symm,fun _ _ => h.ref.2.2⟩
    · obtain ⟨k,hk,hr,-⟩ := h.inputs r hr
      exact h.resolves hk hr
    · exact h.resolves hm hr
  arguments m hm k hk := by
    rcases h.mem_graph.mp hm with rfl | rfl | ⟨hm,-,-⟩
    · obtain rfl : 1 = k := by simpa [copyOf,arity?,isConv,isDepthwise,normInputs?] using hk
      simp [copyOf,h.ref.2.1]
    · have hmap := h.arguments k hk
      have hlength := congrArg length hmap
      simp only [length_map,length_replicate] at hlength
      rw [hmap,hlength,Nat.sub_self,replicate_zero,append_nil]
    · exact h.regular.arguments m hm k hk

theorem acyclic_graph (hacyclic : Acyclic g) : Acyclic h.graph := by
  obtain ⟨rank,hrank⟩ := hacyclic
  obtain ⟨r₀,hr₀,hc₀⟩ := h.reads
  have hpos : 0 < rank outer.name := Nat.zero_lt_of_lt (hrank outer h.outer_mem r₀ hr₀ hc₀)
  refine ⟨fun name => if name = inner.name then 2 * rank outer.name - 1 else 2 * rank name,fun m hm r hr hc => ?_⟩
  rcases h.mem_graph.mp hm with rfl | rfl | ⟨hm,ho,hi⟩
  · have hname : (copyOf outer ref).name = outer.name := rfl
    simp only [mem_singleton.mp hr,h.ref.1,hname,h.ne.symm,if_true,if_false]
    omega
  · obtain ⟨k,hk,hr,hbefore⟩ := h.inputs r hr
    obtain ⟨hne,hlt⟩ := hbefore hc
    have := hlt rank hrank
    simp only [h.name,hne,if_true,if_false]
    omega
  · have hne : nodeName r ≠ inner.name := fun he => ho (h.reader m hm r hr hc he)
    have := hrank m hm r hr hc
    simp only [hi,hne,if_false]
    omega
end TakesOver
section Values
variable [Field K] {M : Meaning K} {port : Nat} {x : Table K}
theorem not_evaluates_succ (hg : Distinct g) (hn : n ∈ g) (hone : hasOneOutput n) :
    ¬ Evaluates M g n.name (port + 1) x := by
  intro hx
  obtain ⟨env,-,hx⟩ := hx.inv hg hn
  simp [Meaning.output,hone] at hx

/-- If the second of the two nodes keeps its value, all nodes but the first do. -/
theorem TakesOver.evaluates_iff [LinearOrder K] (h : TakesOver g inner inner' outer ref) (houter : (∀ r ∈ inner'.inputs,
    isControl r = false → AgreeOn M.elementwise g h.graph r) → ∀ y, Evaluates M.elementwise g outer.name 0 y ↔ Evaluates
    M.elementwise h.graph inner'.name 0 y) (hacyclic : Acyclic g) (hm : m ∈ g) (hname : m.name ≠ inner.name) : Evaluates
    M.elementwise g m.name port x ↔ Evaluates M.elementwise h.graph m.name port x := by
  obtain ⟨rank,hrank⟩ := hacyclic
  induction hk : rank m.name using Nat.strong_induction_on generalizing m port x with
  | h k ih =>
    subst hk
    have hagree n (hn : n ∈ g) r (hr : r ∈ n.inputs) (hri : nodeName r ≠ inner.name)
        (hlt : rank (nodeName r) < rank m.name) : AgreeOn M.elementwise g h.graph r := by
      obtain ⟨k,hk,hname',-⟩ := h.regular.resolvable n hn r hr
      intro v
      rw [Gives,Gives,← hname']
      rw [← hname'] at hri hlt
      exact ih _ hlt hk hri rfl
    by_cases ho : m.name = outer.name
    · obtain rfl := eq_of_name_eq h.regular.names hm h.outer_mem ho
      have hcopy : copyOf m ref ∈ h.graph := h.mem_graph.mpr (.inl rfl)
      cases port with
      | succ port =>
        exact iff_of_false (not_evaluates_succ h.regular.names hm h.one.2)
          (not_evaluates_succ (n := copyOf m ref) h.nodup hcopy (by simp [hasOneOutput,copyOf]))
      | zero =>
        have hrefs r (hr : r ∈ inner'.inputs) (hc : isControl r = false) : AgreeOn M.elementwise g h.graph r := by
          obtain ⟨n,hn,hr,hbefore⟩ := h.inputs r hr
          exact hagree n hn r hr (hbefore hc).1 ((hbefore hc).2 rank hrank)
        rw [houter hrefs,show m.name = (copyOf m ref).name from rfl,
          evaluates_unary_iff h.nodup hcopy rfl h.ref.2.1 (.inr (.inr ⟨rfl,rfl⟩))]
        simp [Gives,h.ref,h.name]
    · refine evaluates_congr h.regular.names h.nodup hm (h.mem_graph.mpr (.inr (.inr ⟨hm,ho,hname⟩))) fun r hr hc => ?_
      exact hagree m hm r hr (fun he => ho (h.reader m hm r hr hc he)) (hrank m hm r hr hc)

theorem evaluates_filter (keep : String → Bool)
    (hkeep : ∀ n ∈ g, keep n.name → ∀ r ∈ n.inputs, isControl r = false → keep (nodeName r)) (hname : keep name) :
    Evaluates M g name port x ↔ Evaluates M (g.filter (keep ·.name)) name port x := by
  constructor
  · intro h
    induction h with
    | @node n port x hn env hargs hx ih =>
      exact .node (mem_filter.mpr ⟨hn,hname⟩) env (fun r hr hc => ih r hr hc (hkeep n hn hname r hr hc)) hx
  · exact .alike fun n hn => ⟨n,(mem_filter.mp hn).1,.refl n⟩
end Values

/-! # Fused rectifiers

A rectifier is found around a sum whose factor may be the result of any operation. If it is a change of sign, and if
nothing else reads what is replaced or goes, fusing keeps the meaning of a graph.
-/

variable {K : Type} {g : ExactGraph K} {n sum : ExactNode K} {p : RectifierParts (Table K) K}
variable {factor k : ExactNode K} {s : Fusing (Table K) K} {op : String}

/-! ## What is found -/

variable (g sum p factor) in
/-- The form of a rectifier around a sum, with the node whose results are the factors. -/
structure Rectifier : Prop where
  sum_op : sum.op = "Add" ∨ sum.op = "AddV2"
  sum_inputs : ∃ a b, sum.inputs = [a,b] ∧ p.relu.name = nodeName a ∧ p.mul.name = nodeName b
  relu : p.relu ∈ g ∧ p.relu.op = "Relu"
  mul : p.mul ∈ g ∧ p.mul.op = "Mul"
  mul_inputs : ∃ c d, p.mul.inputs = [c,d] ∧ factor.name = nodeName c ∧ p.reluNeg.name = nodeName d
  factor_mem : factor ∈ g
  reluNeg : p.reluNeg ∈ g ∧ p.reluNeg.op = "Relu"
  reluNeg_inputs : ∃ e, p.reluNeg.inputs = [e] ∧ p.neg.name = nodeName e
  neg : p.neg ∈ g ∧ p.neg.op = "Neg"
  input : ∃ x, p.relu.inputs = [x] ∧ p.neg.inputs = [x]

variable (hg : Regular g)
include hg
theorem rectifierAt_sound (hsum : sum ∈ g) : ∃ o, rectifierAt g sum = .ok o ∧
    ∀ p, o = some p → ∃ factor, Rectifier g sum p factor ∧ factor.inputs = [p.alpha] := by
  unfold rectifierAt
  split
  case h_2 => exact ⟨none,rfl,by simp⟩
  next a b hab =>
  split
  · exact ⟨none,rfl,by simp⟩
  next hop =>
  obtain ⟨relu,hrelu,hresolve,hreluName⟩ := hg.resolve hsum (r := a) (by simp [hab])
  simp only [hresolve,bind,Except.bind]
  split
  · exact ⟨none,rfl,by simp⟩
  next hreluOp =>
  obtain ⟨mul,hmul,hresolve,hmulName⟩ := hg.resolve hsum (r := b) (by simp [hab])
  simp only [hresolve]
  split
  case h_2 => exact ⟨none,rfl,by simp⟩
  next c d hcd =>
  split
  · exact ⟨none,rfl,by simp⟩
  next hmulOp =>
  obtain ⟨factor,hfactor,hresolve,hfactorName⟩ := hg.resolve hmul (r := c) (by simp [hcd])
  simp only [hresolve]
  split
  case h_2 => exact ⟨none,rfl,by simp⟩
  next alpha halpha =>
  obtain ⟨reluNeg,hreluNeg,hresolve,hreluNegName⟩ := hg.resolve hmul (r := d) (by simp [hcd])
  simp only [hresolve]
  split
  case h_2 => exact ⟨none,rfl,by simp⟩
  next e he =>
  split
  · exact ⟨none,rfl,by simp⟩
  next hreluNegOp =>
  obtain ⟨neg,hneg,hresolve,hnegName⟩ := hg.resolve hreluNeg (r := e) (by simp [he])
  simp only [hresolve]
  split
  · exact ⟨none,rfl,by simp⟩
  next hnegOp =>
  split
  · exact ⟨none,rfl,by simp⟩
  next hinput =>
  refine ⟨_,rfl,?_⟩
  rintro _ ⟨⟩
  have hop : sum.op = "Add" ∨ sum.op = "AddV2" := by
    by_contra h
    exact hop (by simpa using h)
  simp only [NodeOf.has,Bool.not_eq_true,Bool.not_eq_false',Bool.and_eq_true,beq_iff_eq,bne_iff_ne,
    not_not,length_eq_one_iff] at hreluOp hmulOp hreluNegOp hnegOp hinput
  obtain ⟨hreluOp,x,hx⟩ := hreluOp
  exact ⟨factor,⟨hop,⟨a,b,hab,hreluName,hmulName⟩,⟨hrelu,hreluOp⟩,⟨hmul,hmulOp⟩,
    ⟨c,d,hcd,hfactorName,hreluNegName⟩,hfactor,⟨hreluNeg,hreluNegOp⟩,⟨e,he,hnegName⟩,⟨hneg,hnegOp.1⟩,
    ⟨x,hx,hinput ▸ hx⟩⟩,halpha⟩

theorem Rectifier.rectifierAt (h : Rectifier g sum p factor) (hfactor : factor.inputs = [p.alpha]) :
    rectifierAt g sum = .ok (some p) := by
  have hresolve {k : ExactNode K} {r : String} (hk : k ∈ g) (hname : k.name = nodeName r) :
      Graph.resolve g r = .ok k := by
    rw [Graph.resolve,(find?_eq_some_iff hg.names).mpr ⟨hk,hname⟩]
  obtain ⟨a,b,hab,ha,hb⟩ := h.sum_inputs
  obtain ⟨c,d,hcd,hc,hd⟩ := h.mul_inputs
  obtain ⟨e,he,hneg⟩ := h.reluNeg_inputs
  obtain ⟨x,hx,hx'⟩ := h.input
  have hop : (sum.op != "Add" && sum.op != "AddV2") = false := by rcases h.sum_op with hop | hop <;> simp [hop]
  simp [Flow.rectifierAt,hab,hop,hresolve h.relu.1 ha,NodeOf.has,h.relu.2,hx,hresolve h.mul.1 hb,hcd,h.mul.2,
    hresolve h.factor_mem hc,hfactor,hresolve h.reluNeg.1 hd,he,h.reluNeg.2,hresolve h.neg.1 hneg,h.neg.2,hx',
    bind,Except.bind,pure,Except.pure]

omit hg in
def rectifier? (g : ExactGraph K) (n : ExactNode K) : Option (RectifierParts (Table K) K) := match rectifierAt g n with
  | .ok o => o
  | .error _ => none
theorem rectifierAt_eq (hn : n ∈ g) : rectifierAt g n = .ok (rectifier? g n) := by
  obtain ⟨o,ho,-⟩ := rectifierAt_sound hg hn
  rw [rectifier?,ho]

theorem rectifier?_eq_some_iff (hn : n ∈ g) : rectifier? g n = some p ↔
    ∃ factor, Rectifier g n p factor ∧ factor.inputs = [p.alpha] := by
  constructor
  · intro h
    obtain ⟨o,ho,hsound⟩ := rectifierAt_sound hg hn
    exact hsound p (by rw [← h,rectifier?,ho])
  · rintro ⟨factor,h,hfactor⟩
    rw [rectifier?,h.rectifierAt hg hfactor]

theorem rectifier?_eq_none (hn : n ∈ g ∧ n.op = op) (hop : op ∉ ["Add","AddV2"] := by decide) :
    rectifier? g n = none := by
  refine Option.eq_none_iff_forall_ne_some.mpr fun p h => hop ?_
  obtain ⟨factor,h,-⟩ := (rectifier?_eq_some_iff hg hn.1).mp h
  simpa [hn.2] using h.sum_op

/-! ## One rectifier -/

omit hg in
variable (g sum p factor) in
/-- The factors are results of a change of sign, and nothing but the sum reads what becomes the rectifier. -/
structure Fusable : Prop where
  op : factor.op = "Neg"
  reader : ∀ m ∈ g, ∀ r ∈ m.inputs, isControl r = false → nodeName r = p.relu.name → m.name = sum.name

omit hg in
/-- All rectifiers can be fused, and no sum becomes a copy where a factor is looked for. -/
def AllFusable (g : ExactGraph K) : Prop :=
  ∀ sum ∈ g, ∀ p factor, Rectifier g sum p factor →
    rectifier? g factor = none ∧ (factor.inputs = [p.alpha] → Fusable g sum p factor)

omit hg in
variable (g sum p factor) in
/-- A rectifier of a graph that can be fused. -/
structure Fuses : Prop extends Rectifier g sum p factor, Fusable g sum p factor where
  regular : Regular g
  sum_mem : sum ∈ g
  alpha : factor.inputs = [p.alpha]

theorem fuses_of_rectifier? (hall : AllFusable g) (hsum : sum ∈ g) (hp : rectifier? g sum = some p) :
    ∃ factor, Fuses g sum p factor := by
  obtain ⟨factor,h,halpha⟩ := (rectifier?_eq_some_iff hg hsum).mp hp
  exact ⟨factor,h,(hall sum hsum p factor h).2 halpha,hg,hsum,halpha⟩
omit hg
theorem Rectifier.sum_data (h : Rectifier g sum p factor) (hg : Regular g) (hsum : sum ∈ g) :
    ∀ r ∈ sum.inputs, isControl r = false := by
  obtain ⟨a,b,hab,-,-⟩ := h.sum_inputs
  exact hab ▸ hg.data_binary hsum hab (.inl h.sum_op)

theorem Rectifier.mul_data (h : Rectifier g sum p factor) (hg : Regular g) :
    ∀ r ∈ p.mul.inputs, isControl r = false := by
  obtain ⟨c,d,hcd,-,-⟩ := h.mul_inputs
  exact hcd ▸ hg.data_binary h.mul.1 hcd (.inr (.inl h.mul.2))
def RectifierParts.fused (p : RectifierParts (Table K) K) : ExactNode K :=
  { p.relu with op := "Prelu", inputs := p.relu.inputs ++ [p.alpha] }

namespace Fuses
variable (h : Fuses g sum p factor)
include h
theorem rectifier?_eq : rectifier? g sum = some p :=
  (rectifier?_eq_some_iff h.regular h.sum_mem).mpr ⟨factor,h.toRectifier,h.alpha⟩
theorem ne_sum (hn : n ∈ g ∧ n.op = op) (hop : op ∉ ["Add","AddV2"] := by decide) : n.name ≠ sum.name := by
  intro hname
  obtain rfl := eq_of_name_eq h.regular.names hn.1 h.sum_mem hname
  exact hop (by simpa [hn.2] using h.sum_op)
theorem ne_relu (hn : n ∈ g ∧ n.op = op) (hop : op ≠ "Relu" := by decide) : n.name ≠ p.relu.name := by
  intro hname
  exact hop (hn.2 ▸ eq_of_name_eq h.regular.names hn.1 h.relu.1 hname ▸ h.relu.2)

theorem takesOver : TakesOver g p.relu p.fused sum p.relu.name where
  regular := h.regular
  inner_mem := h.relu.1
  outer_mem := h.sum_mem
  ne := h.ne_sum h.relu
  name := rfl
  one := ⟨by simp [hasOneOutput,h.relu.2],by rcases h.sum_op with hop | hop <;> simp [hasOneOutput,hop]⟩
  reads := by
    obtain ⟨a,b,hab,-,-⟩ := h.sum_inputs
    exact ⟨a,by simp [hab],h.sum_data h.regular h.sum_mem a (by simp [hab])⟩
  reader := h.reader
  ref :=
    have hplain := h.regular.plain _ h.relu.1
    ⟨nodeName_of_isPlain hplain,isControl_of_isPlain hplain,portOf_of_isPlain hplain⟩
  arguments k hk := by
    obtain rfl : 2 = k := by simpa [RectifierParts.fused,arity?,normInputs?] using hk
    obtain ⟨x,hx,-⟩ := h.input
    simp [RectifierParts.fused,hx,h.regular.data_unary h.relu.1 hx (.inr h.relu.2),
      h.regular.data_unary h.factor_mem h.alpha (.inl h.op)]
  inputs r hr := by
    obtain ⟨a,b,hab,ha,hb⟩ := h.sum_inputs
    obtain ⟨c,d,hcd,hc,-⟩ := h.mul_inputs
    have hinput {rank : String → Nat} (hrank : Ranks g rank) {k : String} hk :=
      hrank sum h.sum_mem k hk (h.sum_data h.regular h.sum_mem k hk)
    have hbefore {k : ExactNode K} hk (hne : k.name ≠ sum.name) hr
        (hlt : ∀ rank, Ranks g rank → rank k.name < rank sum.name) : ∃ m ∈ g, r ∈ m.inputs ∧ (isControl r = false →
          nodeName r ≠ p.relu.name ∧ ∀ rank, Ranks g rank → rank (nodeName r) < rank sum.name) :=
      ⟨k,hk,hr,fun hc => ⟨fun hname => hne (h.reader k hk r hr hc hname),
        fun rank hrank => (hrank k hk r hr hc).trans (hlt rank hrank)⟩⟩
    rcases mem_append.mp hr with hr | hr
    · exact hbefore h.relu.1 (h.ne_sum h.relu) hr fun rank hrank => ha ▸ hinput hrank (by simp [hab])
    · refine hbefore h.factor_mem (h.ne_sum ⟨h.factor_mem,h.op⟩) (h.alpha ▸ hr) fun rank hrank => ?_
      have hmul := hrank _ h.mul.1 c (by simp [hcd]) (h.mul_data h.regular c (by simp [hcd]))
      rw [← hc,hb] at hmul
      exact hmul.trans (hinput hrank (by simp [hab]))

abbrev graph : ExactGraph K := h.takesOver.graph

theorem mem_of_mem_graph (hn : n ∈ h.graph) (hop : n.op ∉ ["Prelu","Identity"]) : n ∈ g ∧ n.name ≠ sum.name := by
  rcases h.takesOver.mem_graph.mp hn with rfl | rfl | ⟨hn,hne,-⟩
  · exact absurd (by simp [copyOf]) hop
  · exact absurd (by simp [RectifierParts.fused]) hop
  · exact ⟨hn,hne⟩

variable {sum' factor' : ExactNode K} {q : RectifierParts (Table K) K}
theorem fixed (hsum' : sum' ∈ g) (hne : sum'.name ≠ sum.name) (h' : Rectifier g sum' q factor')
    (hnone : rectifier? g factor' = none) (hk : k = q.relu ∨ k = q.mul ∨ k = factor' ∨ k = q.reluNeg ∨ k = q.neg) :
    k.name ≠ sum.name ∧ k.name ≠ p.relu.name := by
  obtain ⟨a,b,hab,ha,-⟩ := h'.sum_inputs
  obtain ⟨c,d,hcd,hc,hd⟩ := h'.mul_inputs
  have hmul := h.ne_sum h'.mul
  have hread {r : String} hr : nodeName r ≠ p.relu.name := fun hname =>
    hmul (h.reader _ h'.mul.1 r hr (h'.mul_data h.regular r hr) hname)
  rcases hk with rfl | rfl | rfl | rfl | rfl
  · refine ⟨h.ne_sum h'.relu,fun hname => hne ?_⟩
    have hr : a ∈ sum'.inputs := by simp [hab]
    exact h.reader _ hsum' a hr (h'.sum_data h.regular hsum' a hr) (ha.symm.trans hname)
  · exact ⟨hmul,h.ne_relu h'.mul⟩
  · refine ⟨fun hname => ?_,hc ▸ hread (by simp [hcd])⟩
    rw [eq_of_name_eq h.regular.names h'.factor_mem h.sum_mem hname,h.rectifier?_eq] at hnone
    cases hnone
  · exact ⟨h.ne_sum h'.reluNeg,hd ▸ hread (by simp [hcd])⟩
  · exact ⟨h.ne_sum h'.neg,h.ne_relu h'.neg⟩

variable (hall : AllFusable g)
include hall
theorem rectifier_graph_iff (hsum' : sum' ∈ g) (hne : sum'.name ≠ sum.name) :
    Rectifier h.graph sum' q factor' ↔ Rectifier g sum' q factor' := by
  constructor
  · intro h'
    have hmem {k : ExactNode K} {op : String} (hk : k ∈ h.graph ∧ k.op = op) hop :
        k ∈ g ∧ k.op = op := ⟨(h.mem_of_mem_graph hk.1 (hk.2 ▸ hop)).1,hk.2⟩
    obtain ⟨f,hf,hfname⟩ := h.takesOver.exists_old h'.factor_mem
    obtain ⟨c,d,hcd,hc,hd⟩ := h'.mul_inputs
    have h'' : Rectifier g sum' q f := ⟨h'.sum_op,h'.sum_inputs,hmem h'.relu (by decide),hmem h'.mul (by decide),
      ⟨c,d,hcd,hfname.trans hc,hd⟩,hf,hmem h'.reluNeg (by decide),h'.reluNeg_inputs,hmem h'.neg (by decide),
      h'.input⟩
    obtain ⟨hs,hr⟩ := h.fixed hsum' hne h'' (hall _ hsum' q f h'').1 (.inr (.inr (.inl rfl)))
    rw [hfname] at hs hr
    rcases h.takesOver.mem_graph.mp h'.factor_mem with rfl | rfl | ⟨hmem,-,-⟩
    · exact absurd rfl hs
    · exact absurd rfl hr
    · exact eq_of_name_eq h.regular.names hf hmem hfname ▸ h''
  · intro h'
    have hmem {k : ExactNode K} hk hcases : k ∈ h.graph :=
      h.takesOver.mem_graph.mpr (.inr (.inr ⟨hk,h.fixed hsum' hne h' (hall _ hsum' q _ h').1 hcases⟩))
    exact ⟨h'.sum_op,h'.sum_inputs,⟨hmem h'.relu.1 (by simp),h'.relu.2⟩,⟨hmem h'.mul.1 (by simp),h'.mul.2⟩,
      h'.mul_inputs,hmem h'.factor_mem (by simp),⟨hmem h'.reluNeg.1 (by simp),h'.reluNeg.2⟩,h'.reluNeg_inputs,
      ⟨hmem h'.neg.1 (by simp),h'.neg.2⟩,h'.input⟩

theorem rectifier?_graph {n' : ExactNode K} (hn : n ∈ g) (hn' : n' ∈ h.graph)
    (hname : n'.name = n.name) (hne : n.name ≠ sum.name) : rectifier? h.graph n' = rectifier? g n := by
  have hg' := h.takesOver.regular_graph
  rcases h.takesOver.mem_graph.mp hn' with rfl | rfl | ⟨hmem,-,-⟩
  · exact absurd hname.symm hne
  · obtain rfl := eq_of_name_eq h.regular.names hn h.relu.1 hname.symm
    rw [rectifier?_eq_none h.regular h.relu,rectifier?_eq_none hg' ⟨hn',show _ = "Prelu" from rfl⟩]
  · obtain rfl := eq_of_name_eq h.regular.names hmem hn hname
    refine Option.ext fun q => ?_
    rw [rectifier?_eq_some_iff hg' hn',rectifier?_eq_some_iff h.regular hn]
    simp only [h.rectifier_graph_iff hall hn hne]

theorem allFusable_graph : AllFusable h.graph := by
  intro sum' hsum' q factor' h'
  obtain ⟨hsum',hne⟩ := h.mem_of_mem_graph hsum' (by rcases h'.sum_op with hop | hop <;> simp [hop])
  have hfactor' := h'.factor_mem
  rw [h.rectifier_graph_iff hall hsum' hne] at h'
  obtain ⟨hnone,hfus⟩ := hall sum' hsum' q factor' h'
  have hfix {k : ExactNode K} := h.fixed hsum' hne h' hnone (k := k)
  refine ⟨?_,fun halpha => ⟨(hfus halpha).op,fun m hm r hr hc hname => ?_⟩⟩
  · rw [h.rectifier?_graph hall h'.factor_mem hfactor' rfl (hfix (by simp)).1,hnone]
  have hreader := (hfus halpha).reader
  rcases h.takesOver.mem_graph.mp hm with rfl | rfl | ⟨hm,-,-⟩
  · -- the copy reads the rectifier, which is none of another one
    rw [mem_singleton.mp hr,h.takesOver.ref.1] at hname
    exact absurd hname.symm (hfix (.inl rfl)).2
  · rcases mem_append.mp hr with hr | hr
    · exact hreader p.relu h.relu.1 r hr hc hname
    · have hread := hreader factor h.factor_mem r (h.alpha ▸ hr) hc hname
      have hop := eq_of_name_eq h.regular.names h.factor_mem hsum' hread ▸ h.op
      exact absurd h'.sum_op (by simp [hop])
  · exact hreader m hm r hr hc hname
end Fuses
section Values
variable [Field K] [LinearOrder K] [IsStrictOrderedRing K] {M : Meaning K} {port : Nat} {y : Table K}
omit [IsStrictOrderedRing K] in
theorem gives_unary_iff {r s : String} {f : Table K → Table K} (hg : Regular g) (hn : n ∈ g) (hr : r ∈ n.inputs)
    (hc : isControl r = false) (hk : k ∈ g) (hname : k.name = nodeName r) (hinputs : k.inputs = [s])
    (hop : k.op = "Neg" ∧ f = .map Neg.neg ∨ k.op = "Relu" ∧ f = .map rectify) :
    Gives M.elementwise g r y ↔ ∃ v, Gives M.elementwise g s v ∧ f v = y := by
  have hone : hasOneOutput k := by rcases hop with ⟨hop,-⟩ | ⟨hop,-⟩ <;> simp [hasOneOutput,hop]
  rw [Gives,hg.portOf_eq_zero hn hr hc hk hname hone,← hname]
  exact evaluates_unary_iff hg.names hk hinputs (hg.data_unary hk hinputs (hop.imp (·.1) (·.1))) (hop.imp_right .inl)

/-- What a rectifier computes in the graph as it is. -/
theorem Fuses.evaluates_sum_iff (h : Fuses g sum p factor) (hx : p.relu.inputs = [x]) : Evaluates M.elementwise
    g sum.name 0 y ↔ ∃ v w, Gives M.elementwise g x v ∧ Gives M.elementwise g p.alpha w ∧ v.zip prelu w = some y := by
  have hg := h.regular
  have hsumData := h.sum_data hg h.sum_mem
  have hmulData := h.mul_data hg
  obtain ⟨a,b,hab,ha,hb⟩ := h.sum_inputs
  obtain ⟨c,d,hcd,hc,hd⟩ := h.mul_inputs
  obtain ⟨e,he,hneg⟩ := h.reluNeg_inputs
  obtain ⟨x',hx',hxneg⟩ := h.input
  obtain rfl : x = x' := by simpa [hx] using hx'
  rw [hab] at hsumData
  rw [hcd] at hmulData
  have hrelu v := gives_unary_iff (M := M) (y := v) hg h.sum_mem (r := a) (by simp [hab])
    (hsumData a (by simp)) h.relu.1 ha hx (.inr ⟨h.relu.2,rfl⟩)
  have hfac v := gives_unary_iff (M := M) (y := v) hg h.mul.1 (r := c) (by simp [hcd])
    (hmulData c (by simp)) h.factor_mem hc h.alpha (.inl ⟨h.op,rfl⟩)
  have hreluNeg v := gives_unary_iff (M := M) (y := v) hg h.mul.1 (r := d) (by simp [hcd])
    (hmulData d (by simp)) h.reluNeg.1 hd he (.inr ⟨h.reluNeg.2,rfl⟩)
  have hnegX v := gives_unary_iff (M := M) (y := v) hg h.reluNeg.1 (r := e) (by simp [he])
    (hg.data_unary h.reluNeg.1 he (.inr h.reluNeg.2)) h.neg.1 hneg hxneg (.inl ⟨h.neg.2,rfl⟩)
  have hmul v : Gives M.elementwise g b v ↔ ∃ s t, Gives M.elementwise g c s ∧ Gives M.elementwise g d t ∧
      s.zip (· * ·) t = some v := by
    have hport := hg.portOf_eq_zero h.sum_mem (r := b) (by simp [hab]) (hsumData b (by simp)) h.mul.1 hb
      (by simp [hasOneOutput,h.mul.2])
    rw [Gives,hport,← hb,evaluates_binary_iff hg.names h.mul.1 hcd hmulData (.inr (.inl ⟨h.mul.2,rfl⟩))]
  rw [evaluates_binary_iff hg.names h.sum_mem hab hsumData (.inl ⟨h.sum_op,rfl⟩)]
  simp only [hrelu,hmul,hfac,hreluNeg,hnegX]
  constructor
  · rintro ⟨_,m,⟨v,hv,rfl⟩,⟨_,_,⟨w,hw,rfl⟩,⟨_,⟨v',hv',rfl⟩,rfl⟩,hm⟩,hy⟩
    obtain rfl : v = v' := Evaluates.unique hg.names hv hv'
    refine ⟨v,w,hv,hw,?_⟩
    rw [← zip_rectify,hm]
    exact hy
  · rintro ⟨v,w,hv,hw,hy⟩
    rw [← zip_rectify] at hy
    obtain ⟨m,hm,hy⟩ := Option.bind_eq_some_iff.mp hy
    exact ⟨_,m,⟨v,hv,rfl⟩,⟨_,_,⟨w,hw,rfl⟩,⟨_,⟨v,hv,rfl⟩,rfl⟩,hm⟩,hy⟩

theorem Fuses.evaluates_iff (h : Fuses g sum p factor) (hacyclic : Acyclic g) (hn : n ∈ g) (hne : n.name ≠
    p.relu.name) : Evaluates M.elementwise g n.name port y ↔ Evaluates M.elementwise h.graph n.name port y := by
  obtain ⟨x,hx,-⟩ := h.input
  have hinputs : p.fused.inputs = [x,p.alpha] := by simp [RectifierParts.fused,hx]
  have hfused : p.fused ∈ h.graph := h.takesOver.mem_graph.mpr (.inr (.inl rfl))
  have hdata := h.takesOver.regular_graph.data_binary hfused hinputs (.inr (.inr rfl))
  refine h.takesOver.evaluates_iff (fun hagree y => ?_) hacyclic hn hne
  have hagree r hr := hagree r (hinputs ▸ hr) (hdata r hr)
  rw [h.evaluates_sum_iff hx,evaluates_binary_iff h.takesOver.nodup hfused hinputs hdata (.inr (.inr ⟨rfl,rfl⟩))]
  simp only [hagree x (by simp) _,hagree p.alpha (by simp) _]
end Values

/-! ## All rectifiers -/

/-- The names of the nodes that go with the rectifier at a node. -/
def goneWith (g : ExactGraph K) (n : ExactNode K) : Strings :=
  (rectifier? g n).elim [] fun p => [p.mul.name,p.reluNeg.name,p.neg.name]

def removed (g : ExactGraph K) : Strings := g.flatMap (goneWith g)
def rectified (g : ExactGraph K) (l : List (ExactNode K)) : Strings :=
  l.flatMap fun n => ((rectifier? g n).map (·.relu.name)).toList

/-- Nothing that stays refers to what goes, the sums apart. -/
def Separate (g : ExactGraph K) : Prop :=
  ∀ n ∈ g, n.name ∉ removed g → rectifier? g n = none → ∀ r ∈ n.inputs, nodeName r ∉ removed g

theorem fuses_of_mem_removed (hg : Regular g) (hall : AllFusable g) (h : name ∈ removed g) :
    ∃ sum p factor, Fuses g sum p factor ∧ (name = p.mul.name ∨ name = p.reluNeg.name ∨ name = p.neg.name) := by
  obtain ⟨sum,hsum,h⟩ := mem_flatMap.mp h
  cases hp : rectifier? g sum with
  | none => simp [goneWith,hp] at h
  | some p =>
    obtain ⟨factor,hfuses⟩ := fuses_of_rectifier? hg hall hsum hp
    exact ⟨sum,p,factor,hfuses,by simpa [goneWith,hp] using h⟩

theorem Fuses.relu_not_mem_removed (h : Fuses g sum p factor) (hall : AllFusable g) : p.relu.name ∉ removed g := by
  intro hmem
  obtain ⟨m,q,f,hq,hname⟩ := fuses_of_mem_removed h.regular hall hmem
  rcases hname with hname | hname | hname
  · exact (h.ne_relu hq.mul) hname.symm
  · obtain ⟨c,d,hcd,-,hd⟩ := hq.mul_inputs
    have hread := h.reader q.mul hq.mul.1 d (by simp [hcd]) (hq.mul_data h.regular d (by simp [hcd]))
      (hd.symm.trans hname.symm)
    exact (h.ne_sum hq.mul) hread
  · exact (h.ne_relu hq.neg) hname.symm

theorem Fuses.alpha_not_mem_removed (h : Fuses g sum p factor) (hall : AllFusable g) (hsep : Separate g) :
    nodeName p.alpha ∉ removed g := by
  by_cases hmem : factor.name ∈ removed g
  · -- the factor goes with another rectifier, whose input is the one without sign
    have hop := h.op
    obtain ⟨m,q,f,hq,hname⟩ := fuses_of_mem_removed h.regular hall hmem
    rcases hname with hname | hname | hname
    · rw [eq_of_name_eq h.regular.names h.factor_mem hq.mul.1 hname,hq.mul.2] at hop
      exact absurd hop (by decide)
    · rw [eq_of_name_eq h.regular.names h.factor_mem hq.reluNeg.1 hname,hq.reluNeg.2] at hop
      exact absurd hop (by decide)
    · obtain ⟨x,hx,hx'⟩ := hq.input
      obtain rfl : p.alpha = x := by
        have hinputs := eq_of_name_eq h.regular.names h.factor_mem hq.neg.1 hname ▸ h.alpha
        simpa [hx'] using hinputs.symm
      exact hsep q.relu hq.relu.1 (hq.relu_not_mem_removed hall) (rectifier?_eq_none h.regular hq.relu) _ (by simp [hx])
  · exact hsep factor h.factor_mem hmem (hall sum h.sum_mem p factor h.toRectifier).1 _ (by simp [h.alpha])

/-- What holds between two steps of fusing: the rectifiers that are still to be fused are those of the graph at the
start, and what is not among them refers to nothing that goes. -/
structure Between (g₀ : ExactGraph K) (todo : List (ExactNode K)) (g : ExactGraph K) : Prop where
  regular : Regular g
  acyclic : Acyclic g
  fusable : AllFusable g
  same : ∀ n ∈ todo, ∃ n' ∈ g, n'.name = n.name ∧ rectifier? g n' = rectifier? g₀ n
  separate : ∀ n ∈ g, n.name ∉ removed g₀ → (∀ m ∈ todo, m.name = n.name → rectifier? g₀ m = none) →
    ∀ r ∈ n.inputs, nodeName r ∉ removed g₀

variable {g₀ : ExactGraph K} {todo : List (ExactNode K)}
theorem Between.step (h : Between g₀ (n :: todo) g) (hne : ∀ m ∈ todo, m.name ≠ n.name) (hfuses : Fuses g sum p factor)
    (hname : sum.name = n.name) (hstays : nodeName p.alpha ∉ removed g₀ ∧ p.relu.name ∉ removed g₀) :
    Between g₀ todo hfuses.graph where
  regular := hfuses.takesOver.regular_graph
  acyclic := hfuses.takesOver.acyclic_graph h.acyclic
  fusable := hfuses.allFusable_graph h.fusable
  same m hm := by
    obtain ⟨m',hm',hname',hsame⟩ := h.same m (mem_cons_of_mem _ hm)
    obtain ⟨k,hk,hkname⟩ := hfuses.takesOver.exists_new hm'
    refine ⟨k,hk,hkname.trans hname',?_⟩
    rw [hfuses.rectifier?_graph h.fusable hm' hk hkname fun he => hne m hm (by rw [← hname',he,hname]),hsame]
  separate k hk hgone hdone r hr := by
    have hold {k : ExactNode K} hk hks hgone hdone hr : nodeName r ∉ removed g₀ :=
      h.separate k hk hgone (forall_mem_cons.mpr ⟨fun he => absurd (he.symm.trans hname.symm) hks,hdone⟩) r hr
    rcases hfuses.takesOver.mem_graph.mp hk with rfl | rfl | ⟨hk,hks,-⟩
    · rw [mem_singleton.mp hr,hfuses.takesOver.ref.1]
      exact hstays.2
    · rcases mem_append.mp hr with hr | hr
      · exact hold hfuses.relu.1 hfuses.takesOver.ne hgone hdone hr
      · rw [mem_singleton.mp hr]
        exact hstays.1
    · exact hold hk hks hgone hdone hr

theorem fuseAt_of_none (hg : Regular s.graph) (hn : n ∈ s.graph) (hp : rectifier? s.graph n = none) :
    fuseAt s n.name = .ok s := by
  simp only [fuseAt,(find?_eq_some_iff hg.names).mpr ⟨hn,rfl⟩,rectifierAt_eq hg hn,hp,bind,Except.bind,pure,
    Except.pure]

theorem Fuses.fuseAt_eq (h : Fuses s.graph sum p factor) :
    fuseAt s sum.name = .ok ⟨h.graph,s.gone ++ goneWith s.graph sum⟩ := by
  have hp := h.rectifier?_eq
  simp only [fuseAt,(find?_eq_some_iff h.regular.names).mpr ⟨h.sum_mem,rfl⟩,rectifierAt_eq h.regular h.sum_mem,hp,
    bind,Except.bind,pure,Except.pure,goneWith,Option.elim_some,Except.ok.injEq,Fusing.mk.injEq,and_true,
    Graph.update,map_map]
  refine map_congr_left fun k hk => ?_
  by_cases hkr : k.name = p.relu.name
  · obtain rfl := eq_of_name_eq h.regular.names hk h.relu.1 hkr
    simp [h.takesOver.ne,RectifierParts.fused]
  by_cases hks : k.name = sum.name
  · obtain rfl := eq_of_name_eq h.regular.names hk h.sum_mem hks
    simp [hkr,copyOf]
  · simp [hkr,hks]

variable [Field K] [LinearOrder K] [IsStrictOrderedRing K]
theorem Between.run (M : Meaning K) (h : Between g₀ todo s.graph) (hnodup : Distinct todo) (hstays : ∀ n ∈ todo,
    ∀ p ∈ rectifier? g₀ n, nodeName p.alpha ∉ removed g₀ ∧ p.relu.name ∉ removed g₀) : ∃ s', (todo.map (·.name)).foldlM
    fuseAt s = .ok s' ∧ Between g₀ [] s'.graph ∧ s'.gone = s.gone ++ todo.flatMap (goneWith g₀) ∧ s'.graph.map
    (·.name) = s.graph.map (·.name) ∧ ∀ n ∈ s.graph, n.name ∉ rectified g₀ todo → ∀ port x, Evaluates M.elementwise
    s.graph n.name port x ↔ Evaluates M.elementwise s'.graph n.name port x := by
  induction todo generalizing s with
  | nil => exact ⟨s,rfl,h,by simp,rfl,fun _ _ _ _ _ => .rfl⟩
  | cons n todo ih =>
    obtain ⟨hn,hnodup⟩ := nodup_cons.mp hnodup
    obtain ⟨hstay,hstays⟩ := forall_mem_cons.mp hstays
    obtain ⟨n',hn',hname,hsame⟩ := h.same n mem_cons_self
    simp only [map_cons,foldlM_cons,← hname]
    cases hp : rectifier? s.graph n' with
    | none =>
      have hnext : Between g₀ todo s.graph := { h with
        same := fun m hm => h.same m (mem_cons_of_mem _ hm)
        separate := fun k hk hgone hdone => h.separate k hk hgone (forall_mem_cons.mpr ⟨fun _ => hsame ▸ hp,hdone⟩) }
      obtain ⟨s',hrun,hend,hgone,hnames,hvalues⟩ := ih hnext hnodup hstays
      refine ⟨s',by rwa [fuseAt_of_none h.regular hn' hp],hend,?_,hnames,fun k hk hne => ?_⟩
      · simp [hgone,goneWith,← hsame,hp]
      · exact hvalues k hk fun hmem => hne (mem_append_right _ hmem)
    | some p =>
      obtain ⟨factor,hfuses⟩ := fuses_of_rectifier? h.regular h.fusable hn' hp
      have hnext := h.step (fun m hm he => hn (mem_map.mpr ⟨m,hm,he⟩)) hfuses hname (hstay p (hsame ▸ hp))
      obtain ⟨s',hrun,hend,hgone,hnames,hvalues⟩ :=
        ih (s := ⟨hfuses.graph,s.gone ++ goneWith s.graph n'⟩) hnext hnodup hstays
      refine ⟨s',by rwa [hfuses.fuseAt_eq],hend,?_,hnames.trans hfuses.takesOver.names,fun k hk hne port x => ?_⟩
      · simp [hgone,goneWith,← hsame]
      have hrelu : k.name ≠ p.relu.name := fun he => hne (mem_append_left _ (by simp [← hsame,hp,he]))
      obtain ⟨k',hk',hkname⟩ := hfuses.takesOver.exists_new hk
      rw [hfuses.evaluates_iff h.acyclic hk hrelu,← hkname]
      exact hvalues k' hk' (fun hmem => hne (mem_append_right _ (hkname ▸ hmem))) port x

/-- Fusing rectifiers keeps the meaning of a graph in which all of them can be fused: what goes is not missed, and all
other nodes but those that become rectifiers keep their values. -/
theorem fusePrelu_preserves (M : Meaning K) (hg : Regular g) (hacyclic : Acyclic g) (hall : AllFusable g)
    (hsep : Separate g) : ∃ g', fusePrelu g = .ok g' ∧ Resolvable g' ∧
      g'.map (·.name) = (g.map (·.name)).filter (fun name => !(removed g).contains name) ∧
      ∀ name ∈ g'.map (·.name), name ∉ rectified g g → ∀ port x,
        Evaluates M.elementwise g name port x ↔ Evaluates M.elementwise g' name port x := by
  have hstart : Between g g g := ⟨hg, hacyclic, hall, fun n hn => ⟨n, hn, rfl, rfl⟩,
    fun n hn hgone hdone => hsep n hn hgone (hdone n hn rfl)⟩
  obtain ⟨s, hrun, hend, hgone, hnames, hvalues⟩ := Between.run M (s := ⟨g, []⟩) hstart hg.names fun n hn p hp => by
    obtain ⟨factor, hfuses⟩ := fuses_of_rectifier? hg hall hn hp
    exact ⟨hfuses.alpha_not_mem_removed hall hsep, hfuses.relu_not_mem_removed hall⟩
  have hgone : s.gone = removed g := hgone.trans (List.nil_append _)
  have hkeep (n : ExactNode K) (hn : n ∈ s.graph) (hname : (!(removed g).contains n.name) = true) (r : String)
      (hr : r ∈ n.inputs) : (!(removed g).contains (nodeName r)) = true := by
    have hname : n.name ∉ removed g := by simpa using hname
    simpa using hend.separate n hn hname (fun _ hm => by simp at hm) r hr
  refine ⟨s.graph.filter fun n => !(removed g).contains n.name, ?_, fun n hn r hr => ?_, ?_, fun name hname hne port x => ?_⟩
  · simp only [fusePrelu, checkNames_eq_ok hg.names, hrun, bind, Except.bind, pure, Except.pure, hgone]
  · obtain ⟨hn, hkept⟩ := List.mem_filter.mp hn
    obtain ⟨m, hm, hname, hport⟩ := hend.regular.resolvable n hn r hr
    exact ⟨m, List.mem_filter.mpr ⟨hm, by rw [hname]; exact hkeep n hn hkept r hr⟩, hname, hport⟩
  · rw [← hnames, List.filter_map]
    rfl
  · obtain ⟨n, hn, rfl⟩ := List.mem_map.mp hname
    obtain ⟨hn, hkept⟩ := List.mem_filter.mp hn
    obtain ⟨n', hn', hname'⟩ := List.mem_map.mp (hnames ▸ List.mem_map_of_mem hn : n.name ∈ g.map (·.name))
    rw [← hname', hvalues n' hn' (hname' ▸ hne), hname']
    exact evaluates_filter (fun name => !(removed g).contains name) (fun k hk hk' r hr _ => hkeep k hk hk' r hr) hkept

/-! ## A sum with factors from an operation -/

/-- One number, minus two, and two wherever else a number is given. -/
def given : Meaning ℚ where
  sqrt := id
  geometry _ x _ := ⟨x.tail.dropLast,fun place _ => some place⟩
  other name _ _ _ _ := some (.ofList [1,1,1,1] [if name = "x" then -2 else 2])

/-- A sum that has the form of a rectifier, with factors from an operation. -/
def rectifierBy (op : String) : ExactGraph ℚ :=
  [{ name := "x", op := "Placeholder" },{ name := "alpha", op := "Placeholder" },
    { name := "relu", op := "Relu", inputs := ["x"] },{ name := "factor", op, inputs := ["alpha"] },
    { name := "neg", op := "Neg", inputs := ["x"] },{ name := "reluNeg", op := "Relu", inputs := ["neg"] },
    { name := "mul", op := "Mul", inputs := ["factor","reluNeg"] },
    { name := "sum", op := "AddV2", inputs := ["relu","mul"] },{ name := "out", op := "Identity", inputs := ["sum"] }]

theorem regular_rectifierBy (hop : op = "Neg" ∨ op = "Identity") : Regular (rectifierBy op) := by
  rcases hop with rfl | rfl <;> constructor <;> decide +kernel
theorem acyclic_rectifierBy (hop : op = "Neg" ∨ op = "Identity") : Acyclic (rectifierBy op) := by
  refine ⟨fun name => ((rectifierBy op).map (·.name)).idxOf name,?_⟩
  rcases hop with rfl | rfl <;> decide +kernel
theorem separate_rectifierBy : Separate (rectifierBy "Neg") := by
  unfold Separate
  decide +kernel

theorem allFusable_rectifierBy : AllFusable (rectifierBy "Neg") := by
  have hg := regular_rectifierBy (.inl rfl)
  intro sum hsum p factor h
  obtain ⟨a,b,hab,ha,hb⟩ := h.sum_inputs
  obtain ⟨c,d,hcd,hc,-⟩ := h.mul_inputs
  have hop := h.sum_op
  simp only [rectifierBy,mem_cons,not_mem_nil,or_false] at hsum
  rcases hsum with rfl | rfl | rfl | rfl | rfl | rfl | rfl | rfl | rfl <;> simp at hop
  cases hab
  have hmul : p.mul = { name := "mul", op := "Mul", inputs := ["factor","reluNeg"] } :=
    eq_of_name_eq hg.names h.mul.1 (by simp [rectifierBy]) (hb.trans (by decide +kernel))
  rw [hmul] at hcd
  cases hcd
  obtain rfl : factor = { name := "factor", op := "Neg", inputs := ["alpha"] } :=
    eq_of_name_eq hg.names h.factor_mem (by simp [rectifierBy]) (hc.trans (by decide +kernel))
  refine ⟨rectifier?_eq_none hg ⟨h.factor_mem,rfl⟩,fun _ => ⟨rfl,?_⟩⟩
  rw [ha]
  decide +kernel

/-- A rectifier with factors that change their sign. -/
theorem fusePrelu_preserves_rectifierBy : Regular (rectifierBy "Neg") ∧ Acyclic (rectifierBy "Neg") ∧
    AllFusable (rectifierBy "Neg") ∧ Separate (rectifierBy "Neg") ∧
    ∃ g', fusePrelu (rectifierBy "Neg") = .ok g' ∧ g'.map (·.name) = ["x", "alpha", "relu", "factor", "sum", "out"] ∧
      ∃ y, y.numbers = [-4] ∧ Evaluates given.elementwise (rectifierBy "Neg") "out" 0 y ∧
        Evaluates given.elementwise g' "out" 0 y := by
  have hg := regular_rectifierBy (.inl rfl)
  have hacyclic := acyclic_rectifierBy (.inl rfl)
  refine ⟨hg, hacyclic, allFusable_rectifierBy, separate_rectifierBy, ?_⟩
  obtain ⟨g', hrun, -, hnames, hkeeps⟩ :=
    fusePrelu_preserves given hg hacyclic allFusable_rectifierBy separate_rectifierBy
  have hnames := hnames.trans (by decide +kernel : _ = ["x", "alpha", "relu", "factor", "sum", "out"])
  have hvalue : (value? given.elementwise (rectifierBy "Neg") 6 "out" 0).map Table.numbers = some [-4] := by decide +kernel
  obtain ⟨y, hy, hnumbers⟩ := Option.map_eq_some_iff.mp hvalue
  have hkept := hkeeps "out" (by simp [hnames]) (by decide +kernel) 0 y
  exact ⟨g', hrun, hnames, y, hnumbers, evaluates_of_value? hy, hkept.mp (evaluates_of_value? hy)⟩

/-- Factors from any other operation with one input are taken for factors that change their sign. -/
theorem fusePrelu_other_factor : Regular (rectifierBy "Identity") ∧ Acyclic (rectifierBy "Identity") ∧
    ∃ g', fusePrelu (rectifierBy "Identity") = .ok g' ∧ "out" ∈ g'.map (·.name) ∧
      ∃ y, Evaluates given.elementwise (rectifierBy "Identity") "out" 0 y ∧ ¬ Evaluates given.elementwise g' "out" 0 y := by
  refine ⟨regular_rectifierBy (.inr rfl), acyclic_rectifierBy (.inr rfl), ?_⟩
  have hold : (value? given.elementwise (rectifierBy "Identity") 6 "out" 0).map Table.numbers = some [4] := by
    decide +kernel
  have hrun : ∃ g', fusePrelu (rectifierBy "Identity") = .ok g' ∧ g'.map (·.name) = ["x", "alpha", "relu", "factor", "sum", "out"] ∧
      (value? given.elementwise g' 6 "out" 0).map Table.numbers = some [-4] :=
    ⟨_, rfl, by decide +kernel, by decide +kernel⟩
  obtain ⟨g', hrun, hnames, hnew⟩ := hrun
  obtain ⟨y, hy, hys⟩ := Option.map_eq_some_iff.mp hold
  obtain ⟨z, hz, hzs⟩ := Option.map_eq_some_iff.mp hnew
  refine ⟨g', hrun, by simp [hnames], y, evaluates_of_value? hy, fun hy' => ?_⟩
  have hyz := Evaluates.unique (by rw [hnames]; decide) hy' (evaluates_of_value? hz)
  rw [hyz, hzs] at hys
  revert hys
  decide +kernel
end TensorKit.Flow
