import TensorKit.Proofs.Flow.Meaning

/-! # Folding as a function of the graph

Neither the attributes that are asked for nor warnings change what is found: every normalization of a well-formed graph
is folded on its own. The result is, up to attributes without a value, the graph with the folded nodes taken out and
their replacements put behind.
-/
namespace TensorKit.Flow
open List
open TensorKit.Convert (nodeName)

/-! ## Passes that give a result -/

/-- A pass that gives a result of a kind whatever warnings there are. -/
def Meets {β : Type} (x : Pass β) (P : β → Prop) : Prop := ∃ b, P b ∧ ∀ log, ∃ log', x log = .ok b log'

namespace Meets
variable {β γ : Type} {x : Pass β} {P : β → Prop} {Q : γ → Prop}
theorem pure (h : P b) : Meets (pure b) P := ⟨b,h,fun log => ⟨log,rfl⟩⟩

theorem bind (hx : Meets x P) (hk : ∀ b, P b → Meets (k b) Q) : Meets (x >>= k) Q := by
  obtain ⟨b,hb,hx⟩ := hx
  obtain ⟨c,hc,hk⟩ := hk b hb
  refine ⟨c,hc,fun log => ?_⟩
  obtain ⟨log₁,h₁⟩ := hx log
  obtain ⟨log₂,h₂⟩ := hk log₁
  refine ⟨log₂,?_⟩
  change EStateM.bind x k log = _
  rw [EStateM.bind,h₁]
  exact h₂

theorem ofExcept {x : Except Refusal β} (hx : x = .ok b) (hk : Meets (k b) Q) : Meets (.ofExcept x >>= k) Q := by
  rwa [hx,Pass.ofExcept]
theorem warn (text : String) (hx : Meets x P) : Meets (.warn text >>= fun _ => x) P :=
  bind (P := fun _ => True) ⟨(),trivial,fun _ => ⟨_,rfl⟩⟩ fun _ _ => hx
end Meets

/-! ## Graphs that differ only in attributes without a value -/

section Touched
variable {κ α : Type} {g : GraphOf κ α} {f : NodeOf κ α → NodeOf κ α}
theorem alike_touch (n : NodeOf κ α) (key : String) : Alike n (n.touch key) := by
  unfold NodeOf.touch
  split
  · exact .refl n
  · next hnone =>
    rw [NodeOf.attr?,Option.not_isSome_iff_eq_none] at hnone
    refine ⟨rfl,rfl,rfl,funext fun k => ?_⟩
    simp only [NodeOf.attr,NodeOf.attr?,NodeOf.setAttr,lookup_put]
    split
    · next hk => rw [hk,hnone]; rfl
    · rfl

theorem find?_map (hf : ∀ n, (f n).name = n.name) (name : String) :
    Graph.find? (g.map f) name = (Graph.find? g name).map f := by
  have hname : (fun n => n.name == name) ∘ f = fun n => n.name == name :=
    funext fun n => by rw [Function.comp_apply,hf n]
  rw [Graph.find?,List.find?_map,hname]
  rfl

theorem find?_eq_some_iff (hg : Distinct g) : Graph.find? g name = some n ↔ n ∈ g ∧ n.name = name := by
  constructor
  · intro h
    exact ⟨mem_of_find?_eq_some h,by simpa using find?_some h⟩
  · rintro ⟨hn,rfl⟩
    obtain ⟨m,hm⟩ : ∃ m, Graph.find? g n.name = some m := by
      rw [← Option.isSome_iff_exists,Graph.find?,find?_isSome]
      exact ⟨n,hn,beq_self_eq_true _⟩
    rw [hm,eq_of_name_eq hg (mem_of_find?_eq_some hm) hn (by simpa using find?_some hm)]

theorem inputOf_map (hf : ∀ n, Alike n (f n)) (n : NodeOf κ α) (place : Nat) :
    Graph.inputOf (g.map f) n place = (Graph.inputOf g n place).map f := by
  simp only [Graph.inputOf,Graph.resolve,find?_map fun n => (hf n).name.symm]
  cases n.input place with
  | error e => rfl
  | ok r =>
    cases hfind : Graph.find? g (nodeName r) with
    | none | some m => simp [bind,Except.bind,Except.map,hfind]

theorem inputOf_alike (h : Alike n m) (place : Nat) : Graph.inputOf g m place = Graph.inputOf g n place := by
  simp only [Graph.inputOf,NodeOf.input,h.inputs]
theorem constant_alike {n m : NodeOf κ α} (h : Alike n m) : m.constant = n.constant := by
  simp only [NodeOf.constant,h.op,h.name,h.attr]
theorem ofExcept_map {β γ : Type} (h : β → γ) (x : Except Refusal β) : .ofExcept (x.map h) = h <$> Pass.ofExcept x := by
  cases x <;> rfl
def NormParts.map (f : NodeOf κ α → NodeOf κ α) (p : NormParts κ α) : NormParts κ α :=
  { p with conv := f p.conv, weights := f p.weights, meanNode := f p.meanNode }

variable {ar : Arrays κ α}
theorem channelValues_map (hf : ∀ n, Alike n (f n)) (htext : ∀ n, ar.text (f n) = ar.text n) (n : NodeOf κ α) (place :
    Nat) (role : String) (channels : Nat) : ar.channelValues (g.map f) n place role channels = .map (.map f
    id) <$> ar.channelValues g n place role channels := by
  unfold Arrays.channelValues
  rw [inputOf_map hf,ofExcept_map,bind_map_left,map_bind]
  refine bind_congr fun op => ?_
  rw [← (hf op).op,constant_alike (hf op),htext]
  split
  · simp
  · rw [map_bind]
    refine bind_congr fun value => ?_
    split <;> simp

theorem normParts_map (hf : ∀ n, Alike n (f n)) (htext : ∀ n, ar.text (f n) = ar.text n) (n : NodeOf κ α)
    (at' : NormInputs) : ar.normParts (g.map f) n at' = .map (.map f) <$> ar.normParts g n at' := by
  unfold Arrays.normParts
  rw [inputOf_map hf,ofExcept_map,bind_map_left,map_bind]
  refine bind_congr fun conv => ?_
  have hconv : isConv (f conv) = isConv conv := by simp only [isConv,isDepthwise,(hf conv).op]
  have hdepthwise : isDepthwise (f conv) = isDepthwise conv := by simp only [isDepthwise,(hf conv).op]
  rw [hconv,hdepthwise]
  split
  · simp
  rw [inputOf_map hf,inputOf_alike (hf conv),ofExcept_map,bind_map_left,map_bind]
  refine bind_congr fun weights => ?_
  rw [← (hf weights).op,constant_alike (hf weights),htext,← (hf conv).name]
  split
  · simp
  simp only [map_bind,channelValues_map hf htext,bind_map_left]
  refine bind_congr fun filter => bind_congr fun channels => bind_congr fun mean => ?_
  rcases mean with _ | ⟨meanNode,mean⟩
  · simp
  simp only [map_bind]
  refine bind_congr fun var => ?_
  rcases var with _ | ⟨_,var⟩
  · simp
  simp only [map_bind]
  refine bind_congr fun beta => ?_
  rcases beta with _ | ⟨_,beta⟩
  · simp
  simp only [map_bind]
  refine bind_congr fun gamma => ?_
  rcases gamma with _ | ⟨_,gamma⟩ <;> simp [NormParts.map]

/-- A graph that differs from another one only in attributes without a value. -/
def Touched (g h : GraphOf κ α) : Prop := ∃ f, (∀ n, Alike n (f n)) ∧ h = g.map f

theorem Touched.update (hgh : Touched g h) (name : String)
    (ht : ∀ n, Alike n (t n)) : Touched g (Graph.update h name t) := by
  obtain ⟨f,hf,rfl⟩ := hgh
  refine ⟨fun n => if (f n).name == name then t (f n) else f n,fun n => ?_,by simp [Graph.update]⟩
  dsimp only
  split
  · exact (hf n).trans (ht (f n))
  · exact hf n

theorem replacedBy_map (hf : ∀ n, Alike n (f n)) (p : NormParts κ α) (n : NodeOf κ α) (filter offset : κ) :
    Forall₂ Alike (p.replacedBy n filter offset) ((p.map f).replacedBy n filter offset) := by
  simp only [NormParts.replacedBy,NormParts.map,additionFor,offsetName,← (hf _).name,← (hf _).attr]
  exact .cons (.refl _) (.cons (hf p.conv) (.cons (.refl _) (.cons (.refl _) .nil)))
end Touched

/-! ## Well-formed graphs -/

variable {K : Type}
/-- How many arguments an operation takes. -/
def arity? (n : ExactNode K) : Option Nat :=
  if n.op = "Const" then some 0 else if isConv n then some 2 else if (normInputs? n.op).isSome then some 5
  else if ["Neg","Relu","Identity"].contains n.op then some 1
  else if ["Add","AddV2","Mul","Prelu"].contains n.op then some 2 else none

/-- Every reference leads to a node that has the output it means. -/
def Resolvable (g : ExactGraph K) : Prop :=
  ∀ n ∈ g, ∀ r ∈ n.inputs, ∃ m ∈ g, m.name = nodeName r ∧ (isControl r = false → hasOneOutput m → portOf r = 0)

instance (g : ExactGraph K) : Decidable (Resolvable g) := inferInstanceAs (Decidable (∀ n ∈ g, _))

/-- Names are plain and stand for one node each, references lead to outputs of nodes, and arguments stand before the
references that only order nodes. -/
structure Regular (g : ExactGraph K) : Prop where
  names : (g.map (·.name)).Nodup
  plain : ∀ n ∈ g, isPlain n.name
  resolvable : Resolvable g
  arguments : ∀ n ∈ g, ∀ k ∈ arity? n,
    n.inputs.map isControl = .replicate k false ++ .replicate (n.inputs.length - k) true

/-- Moreover constants have tensors, and constant filters have four axes and are not empty. -/
structure WellFormed (g : ExactGraph K) : Prop extends Regular g where
  constants : ∀ n ∈ g, n.op = "Const" → (tensor? n).isSome
  filters : ∀ n ∈ g, isConv n → ∀ r ∈ n.inputs[1]?, ∀ m ∈ g, m.name = nodeName r → m.op = "Const" →
    ∀ t ∈ tensor? m, t.shape.length = 4 ∧ t.shape.size ≠ 0

variable {g : ExactGraph K} {n m : ExactNode K} {r : String}
section
variable (hg : Regular g) (hn : n ∈ g)
include hg hn
theorem Regular.argument (hk : arity? n = some k) (hi : i < k) : ∃ r, n.inputs[i]? = some r ∧ isControl r = false := by
  have hmap := congrArg (·[i]?) (hg.arguments n hn k hk)
  simp only [getElem?_map,getElem?_append_left (by simpa using hi : i < (replicate k false).length),
    getElem?_replicate,if_pos hi] at hmap
  exact Option.map_eq_some_iff.mp hmap

theorem Regular.inputs_eq (hk : arity? n = some k) : ∃ rs cs, n.inputs = rs ++
    cs ∧ rs.length = k ∧ (∀ r ∈ rs, isControl r = false) ∧ ∀ r ∈ cs, isControl r = true := by
  obtain ⟨rs,cs,hinputs,hrs,hcs⟩ := map_eq_append_iff.mp (hg.arguments n hn k hk)
  obtain ⟨hlength,hrs⟩ := eq_replicate_iff.mp hrs
  obtain ⟨-,hcs⟩ := eq_replicate_iff.mp hcs
  exact ⟨rs,cs,hinputs,by simpa using hlength,fun r hr => hrs _ (mem_map_of_mem hr),
    fun r hr => hcs _ (mem_map_of_mem hr)⟩

theorem Regular.portOf_eq_zero (hr : r ∈ n.inputs) (hc : isControl r = false)
    (hm : m ∈ g) (hname : m.name = nodeName r) (hone : hasOneOutput m) : portOf r = 0 := by
  obtain ⟨m',hm',hname',hport⟩ := hg.resolvable n hn r hr
  obtain rfl := eq_of_name_eq hg.names hm hm' (hname.trans hname'.symm)
  exact hport hc hone

theorem Regular.resolve (hr : r ∈ n.inputs) : ∃ m ∈ g, Graph.resolve g r = .ok m ∧ m.name = nodeName r := by
  obtain ⟨m,hm,hname,-⟩ := hg.resolvable n hn r hr
  exact ⟨m,hm,by rw [Graph.resolve,(find?_eq_some_iff hg.names).mpr ⟨hm,hname⟩],hname⟩

theorem Regular.inputOf (hr : n.inputs[i]? = some r) : ∃ m ∈ g, Graph.inputOf g n i = .ok m ∧ m.name = nodeName r := by
  obtain ⟨m,hm,hresolve,hname⟩ := hg.resolve hn (mem_of_getElem? hr)
  refine ⟨m,hm,?_,hname⟩
  simp [Graph.inputOf,NodeOf.input,hr,hresolve,bind,Except.bind]
end

theorem constant_eq_ok (hop : n.op = "Const") (ht : tensor? n = some t) : n.constant = .ok t := by
  unfold tensor? at ht
  split at ht
  · next hvalue =>
    cases ht
    simp [NodeOf.constant,hop,hvalue]
  · cases ht

theorem lt_five_of_normInputs? (h : normInputs? op = some at') :
    at'.conv < 5 ∧ at'.mean < 5 ∧ at'.var < 5 ∧ at'.beta < 5 ∧ at'.gamma < 5 := by
  unfold normInputs? at h
  split at h <;> cases h <;> decide
theorem op_ne_const_of_isConv (h : isConv n) : n.op ≠ "Const" := by
  intro hop
  simp [isConv,isDepthwise,hop] at h

theorem op_of_normInputs? (h : normInputs? n.op = some at') : n.op ≠ "Const" ∧ isConv n = false ∧ n.op ≠ "BiasAdd" := by
  unfold normInputs? at h
  split at h
  case h_4 => cases h
  all_goals
    next hop => simp [isConv,isDepthwise,hop]

theorem arity?_of_normInputs? (h : normInputs? n.op = some at') : arity? n = some 5 := by
  obtain ⟨hconst,hconv,-⟩ := op_of_normInputs? h
  simp [arity?,hconst,hconv,h]
theorem arity?_of_isConv (h : isConv n) : arity? n = some 2 := by simp [arity?,op_ne_const_of_isConv h,h]

/-! ## What is found -/

/-- A constant with one number for each channel among the inputs of a node. -/
def HasConst (g : ExactGraph K) (n : ExactNode K) (place channels : Nat) (t : Table K) : Prop :=
  ∃ r, n.inputs[place]? = some r ∧ isControl r = false ∧
    ∃ m ∈ g, m.name = nodeName r ∧ m.op = "Const" ∧ tensor? m = some t ∧ t.shape = [channels]

structure Parts (g : ExactGraph K) (n : ExactNode K) (at' : NormInputs) (p : NormParts (Table K) K) : Prop where
  convRef : ∃ r, n.inputs[at'.conv]? = some r ∧ isControl r = false ∧ p.conv.name = nodeName r
  conv_mem : p.conv ∈ g
  isConv : isConv p.conv
  weightsRef : ∃ r, p.conv.inputs[1]? = some r ∧ isControl r = false ∧ p.weights.name = nodeName r
  weights_mem : p.weights ∈ g
  weights_op : p.weights.op = "Const"
  filter : tensor? p.weights = some p.filter
  shape : ∃ rows cols ins last, p.filter.shape = [rows,cols,ins,last] ∧
    p.channels = outputs (isDepthwise p.conv) ins last
  size : p.filter.shape.size ≠ 0
  mean : HasConst g n at'.mean p.channels p.mean
  var : HasConst g n at'.var p.channels p.var
  beta : HasConst g n at'.beta p.channels p.beta
  gamma : HasConst g n at'.gamma p.channels p.gamma

variable [Field K] [LinearOrder K]
/-- Folding with exact numbers; roots are taken of numbers that are not below zero. -/
def Meaning.arrays (M : Meaning K) : Arrays (Table K) K where
  read := id
  shape := Table.shape
  numbers := Table.numbers
  isEmpty t := t.shape.size == 0
  isFloating _ := true
  like _ := .ofList
  near _ := id
  root x := if x < 0 then .error (.plain .badValue) else .ok (M.sqrt x)
  missing := 0
  text := NodeOf.name

variable {M : Meaning K} {at' : NormInputs}
theorem channelValues_meets (hg : WellFormed g) (hn : n ∈ g) (hat : normInputs? n.op = some at') (hplace : place < 5)
    (role : String) (channels : Nat) : Meets (M.arrays.channelValues g n place role channels) fun o => ∀ m t,
    o = some (m,t) → HasConst g n place channels t := by
  obtain ⟨r,hr,hc⟩ := hg.argument hn (arity?_of_normInputs? hat) hplace
  obtain ⟨m,hm,hinput,hname⟩ := hg.inputOf hn hr
  refine .ofExcept hinput ?_
  split
  · exact .warn _ (.pure (by rintro _ _ ⟨⟩))
  next hop =>
  have hop : m.op = "Const" := by simpa using hop
  obtain ⟨t,ht⟩ := Option.isSome_iff_exists.mp (hg.constants m hm hop)
  refine .ofExcept (b := t) (by rw [constant_eq_ok hop ht]; rfl) ?_
  split
  · exact .warn _ (.pure (by rintro _ _ ⟨⟩))
  next hshape =>
  refine .pure ?_
  rintro _ _ ⟨⟩
  exact ⟨r,hr,hc,m,hm,hname,hop,ht,by simpa [Meaning.arrays] using hshape⟩

theorem normParts_meets (hg : WellFormed g) (hn : n ∈ g) (hat : normInputs? n.op = some at') :
    Meets (M.arrays.normParts g n at') fun o => ∀ p, o = some p → Parts g n at' p := by
  obtain ⟨hconv,hmean,hvar,hbeta,hgamma⟩ := lt_five_of_normInputs? hat
  have values {place : Nat} (h : place < 5) role channels := channelValues_meets (M := M) hg hn hat h role channels
  obtain ⟨r,hr,hc⟩ := hg.argument hn (arity?_of_normInputs? hat) hconv
  obtain ⟨conv,hmem,hinput,hname⟩ := hg.inputOf hn hr
  refine .ofExcept hinput ?_
  split
  · exact .warn _ (.pure (by rintro _ ⟨⟩))
  next hop =>
  have hop : isConv conv = true := by simpa using hop
  obtain ⟨r',hr',hc'⟩ := hg.argument hmem (arity?_of_isConv hop) Nat.one_lt_two
  obtain ⟨weights,hmem',hinput',hname'⟩ := hg.inputOf hmem hr'
  refine .ofExcept hinput' ?_
  split
  · exact .warn _ (.pure (by rintro _ ⟨⟩))
  next hop' =>
  have hop' : weights.op = "Const" := by simpa using hop'
  obtain ⟨t,ht⟩ := Option.isSome_iff_exists.mp (hg.constants weights hmem' hop')
  obtain ⟨hrank,hsize⟩ := hg.filters conv hmem hop r' hr' weights hmem' hname' hop' t ht
  obtain ⟨rows,cols,ins,last,hshape⟩ := length_eq_four.mp hrank
  have hcount : M.arrays.channelCount (isDepthwise conv) t = .ok (outputs (isDepthwise conv) ins last) := by
    simp [Arrays.channelCount,Meaning.arrays,hshape,outputs]
  refine .ofExcept (b := t) (by rw [constant_eq_ok hop' ht]; rfl) (.ofExcept hcount ?_)
  refine .bind (values hmean _ _) fun o ho => ?_
  rcases o with _ | ⟨meanNode,mean⟩
  · exact .pure (by rintro _ ⟨⟩)
  refine .bind (values hvar _ _) fun o hv => ?_
  rcases o with _ | ⟨_,var⟩
  · exact .pure (by rintro _ ⟨⟩)
  refine .bind (values hbeta _ _) fun o hb => ?_
  rcases o with _ | ⟨_,beta⟩
  · exact .pure (by rintro _ ⟨⟩)
  refine .bind (values hgamma _ _) fun o hgam => ?_
  rcases o with _ | ⟨_,gamma⟩
  · exact .pure (by rintro _ ⟨⟩)
  refine .pure ?_
  rintro _ ⟨⟩
  exact ⟨⟨r,hr,hc,hname⟩,hmem,hop,⟨r',hr',hc',hname'⟩,hmem',hop',ht,⟨rows,cols,ins,last,hshape,rfl⟩,
    hsize,ho _ _ rfl,hv _ _ rfl,hb _ _ rfl,hgam _ _ rfl⟩

/-! # The folded graph

What a normalization is replaced by in exact arithmetic, and the graph that folding all normalizations gives.
-/

open Meaning
variable {p : NormParts (Table K) K} {epsilon : K} {s : Folding (Table K) K} {κ α : Type}

/-! ## New weights and offsets -/

def Meaning.factor (M : Meaning K) (n : ExactNode K) (at' : NormInputs) (p : NormParts (Table K) K) : Nat → K :=
  normScale M.sqrt (n.attr at'.epsilon).float? (if scalesAfter n then some p.gamma else none) p.var

theorem mapM_root_eq_ok {vs : List K} (h : ∀ v ∈ vs, 0 ≤ v + epsilon) :
    vs.mapM (fun v => M.arrays.root (v + epsilon)) = .ok (vs.map fun v => M.sqrt (v + epsilon)) := by
  induction vs with
  | nil => rfl
  | cons v vs ih =>
    obtain ⟨hv,hvs⟩ := forall_mem_cons.mp h
    have hroot : M.arrays.root (v + epsilon) = .ok (M.sqrt (v + epsilon)) := if_neg (not_lt.mpr hv)
    rw [mapM_cons,hroot,ih hvs]
    rfl

theorem channelScales_eq_ok {var : Table K} {gamma : Option (Table K)} (hvar : var.shape = [channels])
    (hgamma : ∀ t ∈ gamma, t.shape = [channels]) (hpos : channels ≠ 0) (hroot : ∀ v ∈ var.numbers, 0 ≤ v + epsilon) :
    M.arrays.channelScales var epsilon (gamma.map Table.numbers) = .ok ((range channels).map (normScale M.sqrt
    epsilon gamma var)) := by
  have hsize : var.shape.size = channels := by simp [hvar,Shape.size]
  have hempty : M.arrays.isEmpty var = false := by simp [arrays,hsize,hpos]
  have hmapM : (M.arrays.numbers var).mapM (fun v => M.arrays.root (M.arrays.near var (v + M.arrays.near var epsilon))) =
      .ok (var.numbers.map fun v => M.sqrt (v + epsilon)) := mapM_root_eq_ok hroot
  rw [Arrays.channelScales,hempty,hmapM]
  refine congrArg Except.ok (ext_getElem (by simp [hsize]) fun i hi _ => ?_)
  have hi : i < var.numbers.length := by simpa using hi
  have hget : var.get [i] = var.numbers[i] := by
    rw [Table.get_single hvar,getD_eq_getElem?_getD,getElem?_eq_getElem hi,Option.getD_some]
  cases gamma with
  | none => simp [normScale,hget]
  | some t => simp [normScale,hget,Table.get_single (hgamma t rfl),arrays]

theorem scaleWeights_eq_ok (hsize : w.shape.size ≠ 0) (depthwise : Bool) (scales : List K) : ∃ w',
    M.arrays.scaleWeights depthwise w scales = .ok w' ∧ w'.shape = w.shape ∧ ∀ loc, w'.get loc = w.get loc * scales.getD
    (channelAt depthwise w.shape (w.shape.index loc)) 0 := by
  have hempty : M.arrays.isEmpty w = false := by simp [arrays,hsize]
  refine ⟨.ofList w.shape (w.numbers.zipIdx.map fun x =>
    x.1 * scales.toArray.getD (channelAt depthwise w.shape x.2) 0),?_,rfl,fun loc => ?_⟩
  · rw [Arrays.scaleWeights,hempty]
    rfl
  rw [Table.get,Table.numbers_ofList (by simp),Table.get]
  cases hx : w.numbers[w.shape.index loc]? with
  | none | some x => simp [hx]

/-- Weights and an offset that do what a normalization did, channel by channel. -/
structure Meaning.FoldsTo (M : Meaning K) (n : ExactNode K) (at' : NormInputs) (p : NormParts (Table K) K)
    (w offset : Table K) : Prop where
  shape : w.shape = p.filter.shape
  scaled : ∀ loc, channelAt (isDepthwise p.conv) p.filter.shape (p.filter.shape.index loc) < p.channels →
    w.get loc = p.filter.get loc *
      M.factor n at' p (channelAt (isDepthwise p.conv) p.filter.shape (p.filter.shape.index loc))
  offset : ∀ c < p.channels, offset.get [c] = -p.mean.get [c] * M.factor n at' p c + p.beta.get [c]

theorem foldedConstants_eq_ok (hp : Parts g n at' p) (hroot : ∀ v ∈ p.var.numbers, 0 ≤ v + (n.attr at'.epsilon).float?)
    : ∃ w offset, M.arrays.foldedConstants n at' p = .ok (w,offset) ∧ M.FoldsTo n at' p w offset := by
  obtain ⟨_,-,-,_,-,-,-,-,hmean⟩ := hp.mean
  obtain ⟨_,-,-,_,-,-,-,-,hvar⟩ := hp.var
  obtain ⟨_,-,-,_,-,-,-,-,hbeta⟩ := hp.beta
  obtain ⟨_,-,-,_,-,-,-,-,hgamma⟩ := hp.gamma
  obtain ⟨rows,cols,ins,last,hshape,hchannels⟩ := hp.shape
  have hpos : p.channels ≠ 0 := by
    have hsize := hp.size
    rw [hshape] at hsize
    rw [hchannels,outputs]
    simp only [Shape.size_cons,Shape.size_nil,mul_one] at hsize
    split
    · exact fun h => hsize (by rw [h,mul_zero,mul_zero])
    · exact fun h => hsize (by rw [h,mul_zero,mul_zero,mul_zero])
  have hscales : M.arrays.channelScales p.var (n.attr at'.epsilon).float?
      (if scalesAfter n then some (M.arrays.numbers p.gamma) else none) =
      .ok ((range p.channels).map (M.factor n at' p)) := by
    have hmap : (if scalesAfter n then some (M.arrays.numbers p.gamma) else none) =
        (if scalesAfter n then some p.gamma else none).map Table.numbers := by
      split <;> rfl
    rw [hmap]
    refine channelScales_eq_ok hvar (fun t ht => ?_) hpos hroot
    split at ht <;> cases ht
    exact hgamma
  obtain ⟨w,hw,hwshape,hwget⟩ := scaleWeights_eq_ok (M := M) hp.size (isDepthwise p.conv)
    ((range p.channels).map (M.factor n at' p))
  refine ⟨w,_,by rw [Arrays.foldedConstants,hscales]; simp only [bind,Except.bind,hw]; rfl,⟨hwshape,?_,?_⟩⟩
  · intro loc hc
    rw [hwget]
    simp [hc]
  · intro c hc
    have hc' : ∀ t : Table K, t.shape = [p.channels] → c < t.shape.size := fun t ht => by simpa [ht,Shape.size] using hc
    rw [Table.get_single rfl]
    change (Table.ofList [p.channels] (Arrays.channelOffsets p.mean.numbers _ p.beta.numbers)).numbers.getD c 0 = _
    rw [Table.numbers_ofList (by simp [Arrays.channelOffsets,hmean,hbeta,Shape.size]),Table.get_single hmean,
      Table.get_single hbeta]
    simp [Arrays.channelOffsets,hc,hc' _ hmean,hc' _ hbeta]

/-! ## All normalizations -/

/-- The parts of a normalization that is folded, with the places of its inputs. -/
def Meaning.found (M : Meaning K) (g : ExactGraph K) (n : ExactNode K) : Option (NormInputs × NormParts (Table K) K) :=
  match normInputs? n.op with
  | some at' =>
    match M.arrays.normParts g n at' [] with
    | .ok o _ => o.map fun p => (at',p)
    | .error _ _ => none
  | none => none

/-- The names of the nodes that are replaced with a node. -/
def Meaning.gone (M : Meaning K) (g : ExactGraph K) (n : ExactNode K) : Strings := match M.found g n with
  | some (_,p) => [n.name,p.weights.name,p.conv.name]
  | none => []

def Meaning.made (M : Meaning K) (g : ExactGraph K) (n : ExactNode K) : List (ExactNode K) := match M.found g n with
  | some (at',p) =>
    match M.arrays.foldedConstants n at' p with
    | .ok (filter,offset) => p.replacedBy n filter offset
    | .error _ => []
  | none => []

def Meaning.folded (M : Meaning K) (g : ExactGraph K) : ExactGraph K :=
  g.filter (fun m => !(g.flatMap (M.gone g)).contains m.name) ++ g.flatMap (M.made g)

/-- The variances of the normalizations that are folded have roots. -/
def HasRoots (M : Meaning K) (g : ExactGraph K) : Prop :=
  ∀ n ∈ g, ∀ q ∈ M.found g n, ∀ v ∈ q.2.var.numbers, 0 ≤ v + (n.attr q.1.epsilon).float?

variable (hg : WellFormed g)
include hg
theorem normParts_meets_found (hn : n ∈ g) (hat : normInputs? n.op = some at') : Meets (M.arrays.normParts g n at')
    fun o => M.found g n = o.map (fun p => (at',p)) ∧ ∀ p, o = some p → Parts g n at' p := by
  obtain ⟨o,hparts,hruns⟩ := normParts_meets (M := M) hg hn hat
  obtain ⟨log,hrun⟩ := hruns []
  exact ⟨o,⟨by simp [found,hat,hrun],hparts⟩,hruns⟩

theorem parts_of_found (hn : n ∈ g) (h : M.found g n = some (at',p)) :
    normInputs? n.op = some at' ∧ Parts g n at' p := by
  cases hat : normInputs? n.op with
  | none => simp [found,hat] at h
  | some at'' =>
    obtain ⟨o,⟨hfound,hparts⟩,-⟩ := normParts_meets_found (M := M) hg hn hat
    rw [h] at hfound
    obtain ⟨p',rfl,hp⟩ := Option.map_eq_some_iff.mp hfound.symm
    cases hp
    exact ⟨rfl,hparts p rfl⟩

omit hg in
theorem foldedConstants_map {f : ExactNode K → ExactNode K} (hf : ∀ n, Alike n (f n)) :
    M.arrays.foldedConstants n at' (p.map f) = M.arrays.foldedConstants n at' p := by
  simp only [Arrays.foldedConstants,NormParts.map,isDepthwise,← (hf p.conv).op]

theorem foldNode_meets (hroots : HasRoots M g) (hn : n ∈ g) (hs : Touched g s.graph) :
    Meets (M.arrays.foldNode s n) fun s' => Touched g s'.graph ∧ s'.gone = s.gone ++ M.gone g n ∧ ∃ l, Forall₂ Alike
    (M.made g n) l ∧ s'.made = s.made ++ l := by
  unfold Arrays.foldNode
  cases hat : normInputs? n.op with
  | none =>
    have hfound : M.found g n = none := by simp [found,hat]
    exact .pure ⟨hs,by simp [gone,hfound],[],by simp [made,hfound],by simp⟩
  | some at' =>
    obtain ⟨f,hf,hgraph⟩ := hs
    dsimp only
    rw [Arrays.foldNorm,hgraph,normParts_map hf fun m => (hf m).name.symm,bind_map_left]
    refine .bind (normParts_meets_found hg hn hat) ?_
    rintro o ⟨hfound,hparts⟩
    cases o with
    | none => exact .pure ⟨⟨f,hf,hgraph⟩,by simp [gone,hfound],[],by simp [made,hfound],by simp⟩
    | some p =>
      have hfound : M.found g n = some (at',p) := hfound
      obtain ⟨filter,offset,hconstants,-⟩ := foldedConstants_eq_ok (M := M) (hparts p rfl) (hroots n hn _ hfound)
      simp only [Option.map_some,foldedConstants_map hf]
      refine .ofExcept hconstants (.pure ⟨?_,?_,_,?_,rfl⟩)
      · have ht (m : ExactNode K) : Alike m ((m.touch "T").touch "data_format") :=
          (alike_touch m "T").trans (alike_touch _ _)
        exact (Touched.update ⟨f,hf,rfl⟩ _ fun m => alike_touch m "dtype").update _ ht
      · simp [gone,hfound,NormParts.map,← (hf _).name]
      · simpa only [made,hfound,hconstants] using replacedBy_map hf p n filter offset

theorem foldNodes_meets (hroots : HasRoots M g) {l : List (ExactNode K)} (hl : ∀ n ∈ l, n ∈ g) (hs :
    Touched g s.graph) : Meets (l.foldlM M.arrays.foldNode s) fun s' => Touched g s'.graph ∧ s'.gone = s.gone ++
    l.flatMap (M.gone g) ∧ ∃ l', Forall₂ Alike (l.flatMap (M.made g)) l' ∧ s'.made = s.made ++ l' := by
  induction l generalizing s with
  | nil => exact .pure ⟨hs,by simp,[],by simp,by simp⟩
  | cons n l ih =>
    obtain ⟨hn,hl⟩ := forall_mem_cons.mp hl
    refine .bind (foldNode_meets hg hroots hn hs) ?_
    rintro s₁ ⟨hs₁,hgone₁,l₁,hl₁,hmade₁⟩
    obtain ⟨s₂,⟨hs₂,hgone₂,l₂,hl₂,hmade₂⟩,hruns⟩ := ih hl hs₁
    refine ⟨s₂,⟨hs₂,?_,l₁ ++ l₂,?_,?_⟩,hruns⟩
    · rw [hgone₂,hgone₁,flatMap_cons,append_assoc]
    · exact rel_append hl₁ hl₂
    · rw [hmade₂,hmade₁,append_assoc]
omit hg

theorem repeated?_eq_none {g : GraphOf κ α} {seen : Strings} (hg : Distinct g)
    (hseen : ∀ n ∈ g, n.name ∉ seen) : Graph.repeated? seen g = none := by
  induction g generalizing seen with
  | nil => rfl
  | cons n g ih =>
    obtain ⟨hn,hg⟩ := nodup_cons.mp hg
    obtain ⟨hn',hseen⟩ := forall_mem_cons.mp hseen
    rw [Graph.repeated?,if_neg (by simpa using hn')]
    refine ih hg fun m hm => ?_
    rw [mem_cons,not_or]
    exact ⟨fun h => hn (mem_map.mpr ⟨m,hm,h⟩),hseen m hm⟩

theorem checkNames_eq_ok {g : GraphOf κ α} (hg : Distinct g) : Graph.checkNames g = .ok () := by
  rw [Graph.checkNames,repeated?_eq_none hg fun _ _ => not_mem_nil]

theorem foldNorms_meets (hg : WellFormed g) (hroots : HasRoots M g) :
    Meets (M.arrays.foldNorms g) fun g' => Forall₂ Alike (M.folded g) g' := by
  refine .ofExcept (checkNames_eq_ok hg.names) (.bind (foldNodes_meets hg hroots (fun _ hn => hn) ⟨id,.refl,by simp⟩) ?_)
  rintro s ⟨⟨f,hf,hgraph⟩,hgone,l,hl,hmade⟩
  refine .pure ?_
  rw [hgraph,hgone,hmade,filter_map]
  refine rel_append ?_ hl
  have hkept : (fun m => !(g.flatMap (M.gone g)).contains m.name) ∘ f =
      fun m => !(g.flatMap (M.gone g)).contains m.name := funext fun m => by rw [Function.comp_apply,← (hf m).name]
  rw [nil_append,hkept,forall₂_map_right_iff,forall₂_same]
  exact fun m _ => hf m
end TensorKit.Flow
