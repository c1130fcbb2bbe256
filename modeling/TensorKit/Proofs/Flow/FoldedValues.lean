import TensorKit.Proofs.Flow.Parts

/-! # Values of the folded graph

Folding scales the weights of a convolution, so everything else that reads them, or reads the convolution, gets other
numbers. If nothing does but the normalization, the folded graph is well-formed, and all other nodes keep their values.
-/
namespace TensorKit.Flow
open List Meaning
open TensorKit.Convert (nodeName)
variable {K : Type} [Field K]
variable {t : Table K} {n' : ExactNode K} {at'' : NormInputs} {p' : NormParts (Table K) K} {read : String}

/-! ## Nodes by their arguments -/

section Arguments
variable {M : Meaning K} {g : ExactGraph K} {n : ExactNode K} {port : Nat} {x : Table K} {a b : String}
  {cs : Strings}

variable {name : String}
variable (hg : Distinct g)
include hg
theorem evaluates_const_iff (hn : n ∈ g) (hop : n.op = "Const") (hinputs : ∀ r ∈ n.inputs, isControl
    r = true) (ht : tensor? n = some t) : Evaluates M g n.name port x ↔ port = 0 ∧ x = t := by
  rw [evaluates_iff hg hn (nil_append _).symm (forall_mem_nil _) hinputs]
  cases port with
  | zero => simp [output,first,hop,ht,eq_comm]
  | succ port => simp [output,hasOneOutput,hop]

theorem evaluates_conv_iff (hn : n ∈ g) (hop : isConv n) (hinputs : n.inputs = [a,b] ++ cs) (hrs :
    ∀ r ∈ [a,b], isControl r = false) (hcs : ∀ r ∈ cs, isControl r = true) (hb : ∀ w, Gives M g b w ↔ w = t) :
    Evaluates M g n.name 0 x ↔ ∃ v, Gives M g a v ∧ M.convolution n v t = some x := by
  rw [evaluates_two_iff hg hn hinputs hrs hcs]
  simp [first,op_ne_const_of_isConv hop,hop,hb]

theorem evaluates_biasAdd_iff (hn : n ∈ g) (hop : n.op = "BiasAdd") (hinputs : n.inputs = [a,b])
    (hrs : ∀ r ∈ [a,b], isControl r = false) : Evaluates M g n.name 0 x ↔ ∃ v w, Gives M g a v ∧ Gives M g b w ∧
    biasAdd (layoutOf (n.attr "data_format")) v w = x := by
  have hconv : isConv n = false := by simp [isConv,isDepthwise,hop]
  rw [evaluates_two_iff hg hn (hinputs.trans (append_nil _).symm) hrs (forall_mem_nil _)]
  simp [first,hop,hconv]
end Arguments

/-! ## Normalizations -/

variable {M : Meaning K} {g : ExactGraph K} {n m : ExactNode K} {at' : NormInputs}
  {p : NormParts (Table K) K} {x : Table K} {r : String}

theorem gives_const_iff (hg : WellFormed g) (hn : n ∈ g) (hr : r ∈ n.inputs) (hc : isControl r = false) (hm : m ∈ g)
    (hname : m.name = nodeName r) (hop : m.op = "Const") (ht : tensor? m = some t) : Gives M g r x ↔ x = t := by
  obtain ⟨rs,cs,hinputs,hlength,-,hcs⟩ := hg.inputs_eq hm (k := 0) (by simp [arity?,hop])
  obtain rfl := length_eq_zero_iff.mp hlength
  have hport := hg.portOf_eq_zero hn hr hc hm hname (by simp [hasOneOutput,hop])
  rw [Gives,← hname,hport,evaluates_const_iff hg.names hm hop (by rw [hinputs]; exact hcs) ht]
  simp

theorem HasConst.gives_iff (hg : WellFormed g) (hn : n ∈ g) (h : HasConst g n place channels t)
    (hr : n.inputs[place]? = some r) : Gives M g r x ↔ x = t := by
  obtain ⟨r',hr',hc,m,hm,hname,hop,ht,-⟩ := h
  obtain rfl := Option.some.inj (hr.symm.trans hr')
  exact gives_const_iff hg hn (mem_of_getElem? hr) hc hm hname hop ht

theorem first_of_normInputs? (hat : normInputs? n.op = some at') (args : List (Option (Table K))) :
    M.first n args = (normArgs n args).map fun (x,mean,var,beta,gamma) => normalize M.sqrt (normLayout n)
    (normEpsilon n) (if scalesAfter n then some gamma else none) x mean var beta := by
  unfold normInputs? at hat
  split at hat
  case h_4 => cases hat
  all_goals
    next hop =>
    cases hscale : (n.attr "scale_after_normalization").bool? <;>
      simp [first,hop,isConv,isDepthwise,isGlobalNorm,scalesAfter,hscale]

omit [Field K] in
theorem normInputs?_cases (hat : normInputs? n.op = some at') : isGlobalNorm n =
    true ∧ at' = ⟨0,1,2,3,4,"variance_epsilon"⟩ ∨ isGlobalNorm n = false ∧ at' = ⟨0,3,4,2,1,"epsilon"⟩ := by
  unfold normInputs? at hat
  split at hat <;> cases hat <;> simp_all [isGlobalNorm]

theorem Parts.evaluates_iff (hg : WellFormed g) (hn : n ∈ g) (hat : normInputs? n.op = some at')
    (hp : Parts g n at' p) : Evaluates M g n.name 0 x ↔ ∃ y, Evaluates M g p.conv.name 0 y ∧ x = normalize
    M.sqrt (normLayout n) (normEpsilon n) (if scalesAfter n then some p.gamma else none) y p.mean p.var p.beta := by
  obtain ⟨rs,cs,hinputs,hlength,hrs,hcs⟩ := hg.inputs_eq hn (arity?_of_normInputs? hat)
  obtain ⟨a,b,c,d,e,rfl⟩ : ∃ a b c d e, rs = [a,b,c,d,e] := by
    match rs, hlength with
    | [a,b,c,d,e], _ => exact ⟨a,b,c,d,e,rfl⟩
  obtain ⟨r,hr,hc,hname⟩ := hp.convRef
  have hport := hg.portOf_eq_zero hn (mem_of_getElem? hr) hc hp.conv_mem hname (by simp [hasOneOutput,hp.isConv])
  have hconv v : Gives M g r v ↔ Evaluates M g p.conv.name 0 v := by rw [Gives,hname,hport]
  have hmean {s : String} v := hp.mean.gives_iff (M := M) (x := v) (r := s) hg hn
  have hvar {s : String} v := hp.var.gives_iff (M := M) (x := v) (r := s) hg hn
  have hbeta {s : String} v := hp.beta.gives_iff (M := M) (x := v) (r := s) hg hn
  have hgamma {s : String} v := hp.gamma.gives_iff (M := M) (x := v) (r := s) hg hn
  rw [Flow.evaluates_iff hg.names hn hinputs hrs hcs]
  simp only [forall₂_cons_left_iff,output,first_of_normInputs? hat]
  rw [hinputs] at hr hmean hvar hbeta hgamma
  rcases normInputs?_cases hat with ⟨hglobal,rfl⟩ | ⟨hglobal,rfl⟩ <;> cases hr <;>
    simp [hconv,hmean,hvar,hbeta,hgamma,normArgs,hglobal,@eq_comm _ x]

/-! ## The nodes of the folded graph -/

/-- A normalization that can be folded without changing anything else: nothing else reads the convolution or its
weights, the name of the offset is free, only the first output is read, and the attributes say the same. -/
@[mk_iff] structure Foldable (g : ExactGraph K) (n : ExactNode K) (at' : NormInputs) (p : NormParts (Table K) K) : Prop where
  conv : ∀ m ∈ g, ∀ r ∈ m.inputs, isControl r = false → nodeName r = p.conv.name → m.name = n.name
  weights : ∀ m ∈ g, ∀ i < m.inputs.length, ∀ r ∈ m.inputs[i]?, isControl r = false → nodeName r = p.weights.name →
    m.name = p.conv.name ∧ i = 1
  offset : ∀ m ∈ g, m.name ≠ offsetName p.conv
  output : ∀ m ∈ g, ∀ r ∈ m.inputs, isControl r = false → nodeName r = n.name → portOf r = 0
  epsilon : (n.attr at'.epsilon).float? = normEpsilon n
  layout : normLayout n = layoutOf (p.conv.attr "data_format")

instance [DecidableEq K] : Decidable (Foldable g n at' p) := decidable_of_iff' _ (foldable_iff g n at' p)
variable [LinearOrder K]
def AllFoldable (M : Meaning K) (g : ExactGraph K) : Prop := ∀ n ∈ g, ∀ q ∈ M.found g n, Foldable g n q.1 q.2

/-- Names of the convolutions into which normalizations are folded, and of their weights. -/
def Meaning.altered (M : Meaning K) (g : ExactGraph K) : Strings :=
  g.flatMap fun n => match M.found g n with
    | some (_,p) => [p.weights.name,p.conv.name]
    | none => []

theorem mem_altered :
    name ∈ M.altered g ↔ ∃ n ∈ g, ∃ q, M.found g n = some q ∧ (name = q.2.weights.name ∨ name = q.2.conv.name) := by
  simp only [altered,mem_flatMap]
  refine exists_congr fun n => and_congr_right fun _ => ?_
  cases M.found g n with
  | none | some q => simp

theorem mem_gone : name ∈ g.flatMap (M.gone g) ↔
    name ∈ M.altered g ∨ ∃ n ∈ g, (M.found g n).isSome ∧ name = n.name := by
  simp only [mem_altered,mem_flatMap,← exists_or,← and_or_left]
  refine exists_congr fun n => and_congr_right fun _ => ?_
  cases hq : M.found g n with
  | none => simp [gone,hq]
  | some q => simp [gone,hq,or_comm]

section
variable (hg : WellFormed g) (hroots : HasRoots M g) (hfold : AllFoldable M g)
include hg hroots
variable (hn : n ∈ g)
include hn
variable (hfound : M.found g n = some (at',p))
include hfound
theorem made_eq : ∃ w offset, M.made g n = p.replacedBy n w offset ∧ M.FoldsTo n at' p w offset := by
  obtain ⟨w,offset,hconstants,hrest⟩ :=
    foldedConstants_eq_ok (M := M) (parts_of_found hg hn hfound).2 (hroots n hn _ hfound)
  exact ⟨w,offset,by simp [made,hfound,hconstants],hrest⟩

theorem names_made : (M.made g n).map (·.name) = [p.weights.name,p.conv.name,offsetName p.conv,n.name] := by
  obtain ⟨w,offset,hmade,-⟩ := made_eq hg hroots hn hfound
  rw [hmade]
  rfl

omit hroots

theorem names_ne (hn' : n' ∈ g) (hfound' : M.found g n' = some (at'',p')) :
    p.weights.name ≠ p'.conv.name ∧ p.weights.name ≠ n'.name ∧ p.conv.name ≠ n'.name := by
  obtain ⟨-,hp⟩ := parts_of_found hg hn hfound
  obtain ⟨hat',hp'⟩ := parts_of_found hg hn' hfound'
  obtain ⟨hconst,hconv,-⟩ := op_of_normInputs? hat'
  refine ⟨fun h => ?_,fun h => ?_,fun h => ?_⟩
  · have h := eq_of_name_eq hg.names hp.weights_mem hp'.conv_mem h
    exact op_ne_const_of_isConv hp'.isConv (h ▸ hp.weights_op)
  · exact hconst (eq_of_name_eq hg.names hp.weights_mem hn' h ▸ hp.weights_op)
  · have h := eq_of_name_eq hg.names hp.conv_mem hn' h
    simp [← h,hp.isConv] at hconv

include hfold
theorem eq_of_conv_eq (hn' : n' ∈ g)
    (hfound' : M.found g n' = some (at'',p')) (h : p.conv.name = p'.conv.name) : n = n' := by
  obtain ⟨r,hr,hc,hname⟩ := (parts_of_found hg hn' hfound').2.convRef
  exact eq_of_name_eq hg.names hn hn'
    ((hfold n hn _ hfound).conv n' hn' r (mem_of_getElem? hr) hc (hname.symm.trans h.symm)).symm

theorem eq_of_weights_eq (hn' : n' ∈ g)
    (hfound' : M.found g n' = some (at'',p')) (h : p.weights.name = p'.weights.name) : n = n' := by
  have hp' := (parts_of_found hg hn' hfound').2
  obtain ⟨r,hr,hc,hname⟩ := hp'.weightsRef
  have hconv := (hfold n hn _ hfound).weights _ hp'.conv_mem 1 (List.getElem?_eq_some_iff.mp hr).1 r hr hc
    (hname.symm.trans h.symm)
  exact eq_of_conv_eq hg hfold hn hfound hn' hfound' hconv.1.symm
omit hfound

include hroots
omit hfold in
theorem mem_names_made : name ∈ (M.made g n).map (·.name) ↔ ∃ at' p, M.found g n =
    some (at',p) ∧ (name = p.weights.name ∨ name = p.conv.name ∨ name = offsetName p.conv ∨ name = n.name) := by
  cases hq : M.found g n with
  | none => simp [made,hq]
  | some q =>
    obtain ⟨at',p⟩ := q
    simp [names_made hg hroots hn hq]

theorem made_unique (hn' : n' ∈ g) (h : name ∈ (M.made g n).map (·.name))
    (h' : name ∈ (M.made g n').map (·.name)) : n = n' := by
  obtain ⟨at',p,hfound,h⟩ := (mem_names_made hg hroots hn).mp h
  obtain ⟨at'',p',hfound',h'⟩ := (mem_names_made hg hroots hn').mp h'
  have hne := names_ne hg hn hfound hn' hfound'
  have hne' := names_ne hg hn' hfound' hn hfound
  have hoffset := (hfold n hn _ hfound).offset
  have hoffset' := (hfold n' hn' _ hfound').offset
  have hp := (parts_of_found hg hn hfound).2
  have hp' := (parts_of_found hg hn' hfound').2
  rcases h with rfl | rfl | rfl | rfl <;> rcases h' with h' | h' | h' | h'
  · exact eq_of_weights_eq hg hfold hn hfound hn' hfound' h'
  · exact absurd h' hne.1
  · exact absurd h' (hoffset' _ hp.weights_mem)
  · exact absurd h' hne.2.1
  · exact absurd h'.symm hne'.1
  · exact eq_of_conv_eq hg hfold hn hfound hn' hfound' h'
  · exact absurd h' (hoffset' _ hp.conv_mem)
  · exact absurd h' hne.2.2
  · exact absurd h'.symm (hoffset _ hp'.weights_mem)
  · exact absurd h'.symm (hoffset _ hp'.conv_mem)
  · exact eq_of_conv_eq hg hfold hn hfound hn' hfound' ((String.append_left_inj _).mp h')
  · exact absurd h'.symm (hoffset _ hn')
  · exact absurd h'.symm hne'.2.1
  · exact absurd h'.symm hne'.2.2
  · exact absurd h' (hoffset' _ hn)
  · exact eq_of_name_eq hg.names hn hn' h'

omit hn in
theorem nodup_folded : ((M.folded g).map (·.name)).Nodup := by
  rw [folded,map_append,nodup_append]
  refine ⟨hg.names.sublist (filter_sublist.map _),?_,?_⟩
  · rw [map_flatMap,nodup_flatMap]
    refine ⟨fun n hn => ?_,(hg.names.of_map _).pairwise_of_forall_ne fun n hn n' hn' hne name h h' =>
      hne (made_unique hg hroots hfold hn hn' h h')⟩
    cases hq : M.found g n with
    | none => simp [made,hq]
    | some q =>
      have hp := (parts_of_found hg hn hq).2
      obtain ⟨hwc,hwn,hcn⟩ := names_ne hg hn hq hn hq
      have hoffset := (hfold n hn _ hq).offset
      rw [names_made hg hroots hn hq]
      simp [hwc,hwn,hcn,hoffset _ hp.weights_mem,hoffset _ hp.conv_mem,(hoffset _ hn).symm]
  · rintro name h _ h' rfl
    obtain ⟨m,hm,rfl⟩ := mem_map.mp h
    obtain ⟨hm,hgone⟩ := mem_filter.mp hm
    rw [map_flatMap,mem_flatMap] at h'
    obtain ⟨n,hn,h'⟩ := h'
    obtain ⟨at',p,hfound,h'⟩ := (mem_names_made hg hroots hn).mp h'
    have hgone : ¬ m.name ∈ g.flatMap (M.gone g) := by simpa using hgone
    rw [mem_gone,mem_altered] at hgone
    rcases h' with h' | h' | h' | h'
    · exact hgone (.inl ⟨n,hn,_,hfound,.inl h'⟩)
    · exact hgone (.inl ⟨n,hn,_,hfound,.inr h'⟩)
    · exact (hfold n hn _ hfound).offset m hm h'
    · exact hgone (.inr ⟨n,hn,by simp [hfound],h'⟩)

omit hfold hroots hg in
theorem mem_folded_of_made (hmade : M.made g n = p.replacedBy n w offset) : constantOf
    p.weights.name (p.weights.attr "dtype") w ∈ M.folded g ∧ p.conv ∈ M.folded g ∧ constantOf (offsetName p.conv)
    (p.meanNode.attr "dtype") offset ∈ M.folded g ∧ additionFor n p.conv ∈ M.folded g := by
  have hmem m hm : m ∈ M.folded g := mem_append_right _ (mem_flatMap.mpr ⟨n,hn,hmade ▸ hm⟩)
  simpa [NormParts.replacedBy] using hmem
omit hn

omit hfold hroots in
theorem mem_folded_of_kept (hm : m ∈ g) (hfound : M.found g m = none) (hname : m.name ∉ M.altered g) :
    m ∈ M.folded g := by
  refine mem_append_left _ (mem_filter.mpr ⟨hm,?_⟩)
  suffices m.name ∉ g.flatMap (M.gone g) by simpa using this
  rw [mem_gone,not_or]
  refine ⟨hname,?_⟩
  rintro ⟨n,hn,hsome,h⟩
  obtain rfl := eq_of_name_eq hg.names hm hn h
  simp [hfound] at hsome

omit hfold in
theorem exists_folded (hm : m ∈ g) : ∃ m' ∈ M.folded g, m'.name = m.name ∧
    ((M.found g m).isSome → m'.op = "BiasAdd") ∧ (hasOneOutput m' → hasOneOutput m ∨ (M.found g m).isSome) := by
  cases hq : M.found g m with
  | some q =>
    obtain ⟨w,offset,hmade,-⟩ := made_eq hg hroots hm hq
    exact ⟨_,(mem_folded_of_made hm hmade).2.2.2,rfl,fun _ => rfl,fun _ => .inr rfl⟩
  | none =>
    by_cases h : m.name ∈ M.altered g
    · obtain ⟨n,hn,q,hq,h⟩ := mem_altered.mp h
      obtain ⟨w,offset,hmade,-⟩ := made_eq hg hroots hn hq
      obtain ⟨-,hp⟩ := parts_of_found hg hn hq
      obtain ⟨hw,hconv,-⟩ := mem_folded_of_made hn hmade
      rcases h with h | h
      · obtain rfl := eq_of_name_eq hg.names hm hp.weights_mem h
        exact ⟨_,hw,rfl,by simp,fun _ => .inl (by simp [hasOneOutput,hp.weights_op])⟩
      · obtain rfl := eq_of_name_eq hg.names hm hp.conv_mem h
        exact ⟨_,hconv,rfl,by simp,.inl⟩
    · exact ⟨m,mem_folded_of_kept hg hm hq h,rfl,by simp,.inl⟩

theorem resolvable_folded : Resolvable (M.folded g) := by
  -- references of nodes that were there before
  have hold m (hm : m ∈ g) r (hr : r ∈ m.inputs) : ∃ m' ∈ M.folded g,
      m'.name = nodeName r ∧ (isControl r = false → hasOneOutput m' → portOf r = 0) := by
    obtain ⟨k,hk,hname,hport⟩ := hg.resolvable m hm r hr
    obtain ⟨k',hk',hname',-,hone⟩ := exists_folded hg hroots hk
    refine ⟨k',hk',hname'.trans hname,fun hc h => ?_⟩
    rcases hone h with h | h
    · exact hport hc h
    · obtain ⟨q,hq⟩ := Option.isSome_iff_exists.mp h
      exact (hfold k hk q hq).output m hm r hr hc hname.symm
  intro m hm r hr
  rcases mem_append.mp hm with hm | hm
  · exact hold m (mem_filter.mp hm).1 r hr
  obtain ⟨n,hn,hm⟩ := mem_flatMap.mp hm
  cases hq : M.found g n with
  | none => simp [made,hq] at hm
  | some q =>
    obtain ⟨w,offset,hmade,-⟩ := made_eq hg hroots hn hq
    have hp := (parts_of_found hg hn hq).2
    have hconv := hg.plain _ hp.conv_mem
    have hoffset : isPlain (offsetName q.2.conv) := isPlain_append hconv (by decide)
    obtain ⟨-,hconv',hoffset',-⟩ := mem_folded_of_made hn hmade
    rw [hmade] at hm
    simp only [NormParts.replacedBy,mem_cons,not_mem_nil,or_false] at hm
    rcases hm with rfl | rfl | rfl | rfl
    · cases hr
    · exact hold _ hp.conv_mem r hr
    · cases hr
    · rcases mem_pair.mp hr with rfl | rfl
      · exact ⟨_,hconv',(nodeName_of_isPlain hconv).symm,fun _ _ => portOf_of_isPlain hconv⟩
      · exact ⟨_,hoffset',(nodeName_of_isPlain hoffset).symm,fun _ _ => portOf_of_isPlain hoffset⟩

/-! ## Values -/

omit hg hroots hfold [LinearOrder K] in
theorem gives_constantOf {h : ExactGraph K} (hh : Distinct h) (hmem : constantOf name dtype t ∈ h)
    (hname : nodeName r = name) (hport : portOf r = 0) : Gives M h r v ↔ v = t := by
  have ht : tensor? (constantOf name dtype t) = some t := rfl
  rw [Gives,hname,hport,← show (constantOf name dtype t).name = name from rfl,
    evaluates_const_iff hh hmem rfl (forall_mem_nil _) ht]
  simp

/-- The addition computes from the scaled convolution what the normalization computed from the convolution. -/
theorem evaluates_folded_norm (hn : n ∈ g) (hfound : M.found g n = some (at',p))
    (hagree : ∀ r ∈ p.conv.inputs[0]?, isControl r = false → AgreeOn M g (M.folded g) r) :
    Evaluates M g n.name 0 x ↔ Evaluates M (M.folded g) n.name 0 x := by
  obtain ⟨hat,hp⟩ := parts_of_found hg hn hfound
  have hfoldable := hfold n hn _ hfound
  have hnodup := nodup_folded hg hroots hfold
  obtain ⟨w,offset,hmade,hshape,hscale,hoffset⟩ := made_eq hg hroots hn hfound
  obtain ⟨hwmem,hcmem,homem,hamem⟩ := mem_folded_of_made hn hmade
  obtain ⟨rs,cs,hinputs,hlength,hrs,hcs⟩ := hg.inputs_eq hp.conv_mem (arity?_of_isConv hp.isConv)
  obtain ⟨a,b,rfl⟩ := length_eq_two.mp hlength
  obtain ⟨b',hb',hc,hname⟩ := hp.weightsRef
  obtain rfl : b = b' := by simpa [hinputs] using hb'
  have hport : portOf b = 0 := hg.portOf_eq_zero hp.conv_mem (mem_of_getElem? hb') hc hp.weights_mem hname
    (by simp [hasOneOutput,hp.weights_op])
  have hconv := hg.plain _ hp.conv_mem
  have hplain : isPlain (offsetName p.conv) := isPlain_append hconv (by decide)
  -- the convolution before and after
  have hold v : Gives M g b v ↔ v = p.filter :=
    gives_const_iff hg hp.conv_mem (mem_of_getElem? hb') hc hp.weights_mem hname hp.weights_op hp.filter
  have hnew v : Gives M (M.folded g) b v ↔ v = w := gives_constantOf hnodup hwmem hname.symm hport
  have hbias v : Gives M (M.folded g) (offsetName p.conv) v ↔ v = offset :=
    gives_constantOf hnodup homem (nodeName_of_isPlain hplain) (portOf_of_isPlain hplain)
  have hgives y : Gives M (M.folded g) p.conv.name y ↔ Evaluates M (M.folded g) p.conv.name 0 y := by
    rw [Gives,nodeName_of_isPlain hconv,portOf_of_isPlain hconv]
  rw [hp.evaluates_iff hg hn hat,show n.name = (additionFor n p.conv).name from rfl,
    evaluates_biasAdd_iff hnodup hamem rfl rfl (by simp [isControl_of_isPlain hconv,isControl_of_isPlain hplain])]
  simp only [hbias,hgives,evaluates_conv_iff hg.names hp.conv_mem hp.isConv hinputs hrs hcs hold,
    evaluates_conv_iff hnodup hcmem hp.isConv hinputs hrs hcs hnew]
  -- channel by channel
  obtain ⟨rows,cols,ins,last,hfilter,hchannels⟩ := hp.shape
  have hfactor : M.factor n at' p =
      normScale M.sqrt (normEpsilon n) (if scalesAfter n then some p.gamma else none) p.var := by
    rw [factor,hfoldable.epsilon]
  have hlayout : layoutOf ((additionFor n p.conv).attr "data_format") = layoutOf (p.conv.attr "data_format") := rfl
  have hscaled v : M.convolution p.conv v w =
      (M.convolution p.conv v p.filter).map (scaleChannels (layoutOf (p.conv.attr "data_format")) (M.factor n at' p)) := by
    rw [convolution,hshape]
    exact convolve_scaled hfilter hshape fun loc hloc => hscale loc (hchannels ▸ hloc)
  have hvalue {v y : Table K} (hy : M.convolution p.conv v p.filter = some y) :=
    biasAdd_scaleChannels (y := y) (hchannels ▸ channelsBelow_of_convolve hfilter hy) (hfactor ▸ hoffset)
  have hfirst := hagree a (by simp [hinputs]) (hrs a (by simp))
  rw [hfoldable.layout,hlayout]
  constructor
  · rintro ⟨y,⟨v,hv,hy⟩,rfl⟩
    refine ⟨_,offset,⟨v,(hfirst v).mp hv,by rw [hscaled,hy]; rfl⟩,rfl,?_⟩
    rw [hfactor,hvalue hy]
  · rintro ⟨y',_,⟨v,hv,hy'⟩,rfl,rfl⟩
    rw [hscaled] at hy'
    obtain ⟨y,hy,rfl⟩ := Option.map_eq_some_iff.mp hy'
    exact ⟨y,⟨v,(hfirst v).mpr hv,hy⟩,by rw [hfactor,hvalue hy]⟩

omit hroots in
theorem nodeName_not_mem_altered (hm : m ∈ g) (hr : m.inputs[i]? = some r) (hc : isControl r = false)
    (hfound : M.found g m = none) (hplace : m.name ∈ M.altered g → i = 0) : nodeName r ∉ M.altered g := by
  rw [mem_altered]
  rintro ⟨n,hn,q,hq,h | h⟩
  · obtain ⟨hname,rfl⟩ := (hfold n hn q hq).weights m hm i (List.getElem?_eq_some_iff.mp hr).1 r hr hc h
    cases hplace (mem_altered.mpr ⟨n,hn,q,hq,.inr hname⟩)
  · obtain rfl := eq_of_name_eq hg.names hm hn ((hfold n hn q hq).conv m hm r (mem_of_getElem? hr) hc h)
    simp [hfound] at hq

theorem evaluates_folded {rank : String → Nat} (hrank : ∀ n ∈ g, ∀ r ∈ n.inputs, isControl r = false →
    rank (nodeName r) < rank n.name) (hm : m ∈ g) (hname : m.name ∉ M.altered g) (hport :
    (M.found g m).isSome → port = 0) : Evaluates M g m.name port x ↔ Evaluates M (M.folded g) m.name port x := by
  induction hk : rank m.name using Nat.strong_induction_on generalizing m port x with
  | h k ih =>
    subst hk
    -- references that do not lead to what is scaled
    have hagree {k : ExactNode K} (hk : k ∈ g) (hle : rank k.name ≤ rank m.name) {r : String} (hr : r ∈ k.inputs)
        (hc : isControl r = false) (hname : nodeName r ∉ M.altered g) : AgreeOn M g (M.folded g) r := by
      obtain ⟨k',hk',hname',-⟩ := hg.resolvable k hk r hr
      intro v
      rw [Gives,Gives,← hname']
      refine ih _ (lt_of_lt_of_le (hname' ▸ hrank k hk r hr hc) hle) hk' (hname' ▸ hname) (fun hsome => ?_) rfl
      obtain ⟨q,hq⟩ := Option.isSome_iff_exists.mp hsome
      exact (hfold k' hk' q hq).output k hk r hr hc hname'.symm
    cases hq : M.found g m with
    | none =>
      refine evaluates_congr hg.names (nodup_folded hg hroots hfold) hm (mem_folded_of_kept hg hm hq hname)
        fun r hr hc => hagree hm le_rfl hr hc ?_
      obtain ⟨i,hi⟩ := mem_iff_getElem?.mp hr
      exact nodeName_not_mem_altered hg hfold hm hi hc hq (absurd · hname)
    | some q =>
      obtain ⟨at',p⟩ := q
      have hp := (parts_of_found hg hm hq).2
      obtain ⟨s,hs,hc',hconv⟩ := hp.convRef
      have hlt := hrank m hm s (mem_of_getElem? hs) hc'
      obtain rfl := hport (by simp [hq])
      refine evaluates_folded_norm hg hroots hfold hm hq fun r hr hc => ?_
      refine hagree hp.conv_mem (hconv ▸ hlt).le (mem_of_getElem? hr) hc
        (nodeName_not_mem_altered hg hfold hp.conv_mem hr hc ?_ fun _ => rfl)
      -- a convolution is no normalization
      cases hq' : M.found g p.conv with
      | none => rfl
      | some q' =>
        have hop := (op_of_normInputs? (parts_of_found hg hp.conv_mem hq').1).2.1
        simp [hp.isConv] at hop
end

/-! ## The pass -/

section
variable {h : ExactGraph K} {name : String} {port : Nat}
omit [Field K] [LinearOrder K] in
theorem exists_alike (hgh : Forall₂ Alike g h) (hn : n ∈ g) : ∃ m ∈ h, Alike n m := by
  obtain ⟨i,hi,rfl⟩ := getElem_of_mem hn
  obtain ⟨hlength,hget⟩ := forall₂_iff_get.mp hgh
  exact ⟨h.get ⟨i,hlength ▸ hi⟩,getElem_mem _,hget i hi _⟩

omit [LinearOrder K] in
theorem evaluates_alike_iff (hgh : Forall₂ Alike g h) : Evaluates M g name port x ↔ Evaluates M h name port x :=
  ⟨.alike fun _ hn => exists_alike hgh hn, .alike fun _ hn => exists_alike (hgh.flip.imp fun _ _ => .symm) hn⟩

omit [Field K] [LinearOrder K] in
theorem names_alike (hgh : Forall₂ Alike g h) : g.map (·.name) = h.map (·.name) := by
  induction hgh with
  | nil => rfl
  | cons hnm _ ih => rw [map_cons,map_cons,ih,hnm.name]

omit [Field K] [LinearOrder K] in
theorem resolvable_alike (hgh : Forall₂ Alike g h) (hg : Resolvable g) : Resolvable h := by
  intro m hm r hr
  obtain ⟨n,hn,hmn⟩ := exists_alike (hgh.flip.imp fun _ _ => .symm) hm
  obtain ⟨k,hk,hname,hport⟩ := hg n hn r (hmn.inputs ▸ hr)
  obtain ⟨k',hk',hkk'⟩ := exists_alike hgh hk
  refine ⟨k',hk',hkk'.name.symm.trans hname,fun hc hone => hport hc ?_⟩
  rw [← hone]
  simp only [hasOneOutput,isConv,isDepthwise,isGlobalNorm,hkk'.op]
end

/-- Folding normalizations keeps the meaning of a graph in which nothing else depends on what is scaled. -/
theorem foldNorms_preserves (hg : WellFormed g) (hacyclic : Acyclic g) (hroots : HasRoots M g)
    (hfold : AllFoldable M g) :
    Meets (M.arrays.foldNorms g) fun g' => (g'.map (·.name)).Nodup ∧ Resolvable g' ∧
      ∀ m ∈ g, (∃ m' ∈ g', m'.name = m.name ∧ ((M.found g m).isSome → m'.op = "BiasAdd")) ∧
        (m.name ∉ M.altered g → ∀ port, ((M.found g m).isSome → port = 0) →
          ∀ x, Evaluates M g m.name port x ↔ Evaluates M g' m.name port x) := by
  obtain ⟨g', halike, hruns⟩ := foldNorms_meets hg hroots
  obtain ⟨rank, hrank⟩ := hacyclic
  refine ⟨g', ⟨names_alike halike ▸ nodup_folded hg hroots hfold,
    resolvable_alike halike (resolvable_folded hg hroots hfold), fun m hm => ⟨?_, fun hname port hport x => ?_⟩⟩, hruns⟩
  · obtain ⟨k, hk, hname, hop, -⟩ := exists_folded hg hroots hm
    obtain ⟨k', hk', hkk'⟩ := exists_alike halike hk
    exact ⟨k', hk', hkk'.name.symm.trans hname, fun h => hkk'.op.symm.trans (hop h)⟩
  · rw [← evaluates_alike_iff halike]
    exact evaluates_folded hg hroots hfold hrank hm hname hport

/-! ## A convolution that is read twice -/

/-- A normalized convolution of one number, and a node that reads one of the others. -/
def normed (read : String) : ExactGraph ℚ :=
  [{ name := "x", op := "Placeholder" },constantOf "w" .unset (.ofList [1,1,1,1] [2]),
    { name := "conv", op := "Conv2D", inputs := ["x","w"] },constantOf "gamma" .unset (.ofList [1] [3]),
    constantOf "beta" .unset (.ofList [1] [5]),constantOf "mean" .unset (.ofList [1] [1]),
    constantOf "var" .unset (.ofList [1] [4]),
    { name := "norm", op := "FusedBatchNorm", inputs := ["conv","gamma","beta","mean","var"],
      attrs := [("epsilon",.float 0)] },{ name := "out", op := "Identity", inputs := [read] }]

def pointwise : Meaning ℚ where
  sqrt := .sqrt
  geometry _ x _ := ⟨x.tail.dropLast,fun place _ => some place⟩
  other _ op _ args _ := if op = "Placeholder" then some (.ofList [1,1,1,1] [3]) else args.head?.join

variable (hread : read = "norm" ∨ read = "conv")
include hread
theorem wellFormed_normed : WellFormed (normed read) := by
  rcases hread with rfl | rfl <;> refine ⟨⟨?_,?_,?_,?_⟩,?_,?_⟩ <;> decide +kernel
theorem acyclic_normed : Acyclic (normed read) := by
  refine ⟨fun name => ((normed read).map (·.name)).idxOf name,?_⟩
  rcases hread with rfl | rfl <;> decide +kernel
theorem hasRoots_normed : HasRoots pointwise (normed read) := by
  unfold HasRoots
  rcases hread with rfl | rfl <;> decide +kernel
omit hread
theorem allFoldable_normed : AllFoldable pointwise (normed "norm") := by
  unfold AllFoldable
  decide +kernel

/-- The normalization reads the convolution alone. -/
theorem foldNorms_preserves_normed : WellFormed (normed "norm") ∧ Acyclic (normed "norm") ∧
    HasRoots pointwise (normed "norm") ∧ AllFoldable pointwise (normed "norm") ∧
    ∃ x, x.numbers = [25 / 2] ∧ Evaluates pointwise (normed "norm") "out" 0 x ∧
      Meets (pointwise.arrays.foldNorms (normed "norm")) fun g' => Evaluates pointwise g' "out" 0 x := by
  have hg := wellFormed_normed (.inl rfl)
  have hacyclic := acyclic_normed (.inl rfl)
  have hroots := hasRoots_normed (.inl rfl)
  refine ⟨hg, hacyclic, hroots, allFoldable_normed, ?_⟩
  have hvalue : (value? pointwise (normed "norm") 4 "out" 0).map Table.numbers = some [25 / 2] := by decide +kernel
  obtain ⟨x, hx, hnumbers⟩ := Option.map_eq_some_iff.mp hvalue
  obtain ⟨g', ⟨-, -, hkeeps⟩, hruns⟩ := foldNorms_preserves hg hacyclic hroots allFoldable_normed
  have hkept := (hkeeps { name := "out", op := "Identity", inputs := ["norm"] } (by simp [normed])).2
    (by decide +kernel) 0 (fun _ => rfl) x
  exact ⟨x, hnumbers, evaluates_of_value? hx, g', hkept.mp (evaluates_of_value? hx), hruns⟩

/-- If another node reads the convolution too, that node gets another value. -/
theorem foldNorms_shared_conv : WellFormed (normed "conv") ∧ Acyclic (normed "conv") ∧
    HasRoots pointwise (normed "conv") ∧ "out" ∉ pointwise.altered (normed "conv") ∧
    ∃ x, Evaluates pointwise (normed "conv") "out" 0 x ∧
      Meets (pointwise.arrays.foldNorms (normed "conv")) fun g' => ¬ Evaluates pointwise g' "out" 0 x := by
  have hg := wellFormed_normed (.inr rfl)
  have hroots := hasRoots_normed (.inr rfl)
  refine ⟨hg, acyclic_normed (.inr rfl), hroots, by decide +kernel, ?_⟩
  have hold : (value? pointwise (normed "conv") 4 "out" 0).map Table.numbers = some [6] := by decide +kernel
  have hnew : (value? pointwise (pointwise.folded (normed "conv")) 4 "out" 0).map Table.numbers = some [9] := by
    decide +kernel
  obtain ⟨x, hx, hxs⟩ := Option.map_eq_some_iff.mp hold
  obtain ⟨y, hy, hys⟩ := Option.map_eq_some_iff.mp hnew
  obtain ⟨g', halike, hruns⟩ := foldNorms_meets hg hroots
  refine ⟨x, evaluates_of_value? hx, g', fun hx' => ?_, hruns⟩
  have hxy := Evaluates.unique (by decide +kernel) ((evaluates_alike_iff halike).mpr hx') (evaluates_of_value? hy)
  rw [hxy, hys] at hxs
  revert hxs
  decide +kernel
end TensorKit.Flow
