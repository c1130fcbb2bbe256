import Mathlib
import TensorKit.Flow.FoldNorms

/-! # Channels in exact arithmetic

Convolutions, normalizations and additions to channels on arrays of exact numbers. A convolution is linear in
its weights, channel by channel, so a factor for every channel can be moved from its result to its weights, and a
normalization behind it becomes an addition.
-/
open List
namespace TensorKit.Shape
variable {s : Shape} {i : Nat}
@[simp] theorem size_nil : size [] = 1 := rfl

theorem size_cons (d : Nat) (s : Shape) : size (d :: s) = d * size s := by
  unfold size
  rw [← prod_eq_foldl,← prod_eq_foldl,prod_cons]

theorem index_coords (h : i < size s) : index s (coords s i) = i := by
  induction s generalizing i with
  | nil =>
    rw [size_nil,Nat.lt_one_iff] at h
    rw [h]
    rfl
  | cons d s ih =>
    rw [size_cons] at h
    have hpos : 0 < size s := Nat.pos_of_mul_pos_left (Nat.zero_lt_of_lt h)
    rw [coords,index,ih (Nat.mod_lt i hpos),Nat.div_add_mod']

theorem coords_lt (h : i < size s) : Forall₂ (· < ·) (coords s i) s := by
  induction s generalizing i with
  | nil => exact .nil
  | cons d s ih =>
    rw [size_cons] at h
    have hpos : 0 < size s := Nat.pos_of_mul_pos_left (Nat.zero_lt_of_lt h)
    exact .cons (Nat.div_lt_of_lt_mul (by rwa [mul_comm])) (ih (Nat.mod_lt i hpos))
end TensorKit.Shape
namespace TensorKit.Flow
variable {channels : Nat}

/-! ## Tables -/

structure Table (K : Type) where
  shape : Shape
  entries : Fin shape.size → K

namespace Table
variable {K : Type}
def numbers (t : Table K) : List K := .ofFn t.entries
def ofCoords (shape : Shape) (f : Nats → K) : Table K := ⟨shape,fun i => f (shape.coords i)⟩
@[simp] theorem shape_ofCoords (s : Shape) (f : Nats → K) : (ofCoords s f).shape = s := rfl
@[simp] theorem length_numbers (t : Table K) : t.numbers.length = t.shape.size := length_ofFn

theorem ofCoords_congr {f f' : Nats → K} (h : ∀ i < s.size, f (s.coords i) = f' (s.coords i)) :
    ofCoords s f = ofCoords s f' := by
  unfold ofCoords
  congr 1
  funext i
  exact h i i.isLt

variable [Zero K]
def ofList (shape : Shape) (xs : List K) : Table K := ⟨shape,(xs.getD · 0)⟩
def get (t : Table K) (loc : Nats) : K := t.numbers.getD (t.shape.index loc) 0
@[simp] theorem shape_ofList (s : Shape) (xs : List K) : (ofList s xs).shape = s := rfl

theorem numbers_ofList {xs : List K} (h : xs.length = s.size) : (ofList s xs).numbers = xs := by
  apply ext_getElem
  · rw [length_numbers,shape_ofList,h]
  · intro i _ hi
    simp [numbers,ofList,hi]

theorem get_ofCoords {f : Nats → K} (h : i < s.size) : (ofCoords s f).get (s.coords i) = f (s.coords i) := by
  simp [get,numbers,Shape.index_coords h,ofCoords,h]
theorem get_single {t : Table K} (h : t.shape = [n]) (c : Nat) : t.get [c] = t.numbers.getD c 0 := by
  rw [get,h]
  simp [Shape.index]
end Table

/-! ## Layouts -/

/-- Where the channels of an image are: behind the places or before them. -/
inductive Layout where
  | channelsLast
  | channelsFirst
  deriving DecidableEq

namespace Layout
/-- The location of an image in a batch, a place in it and a channel. -/
def join : Layout → Nat → Nats → Nat → Nats
  | channelsLast, image, place, c => image :: (place ++ [c])
  | channelsFirst, image, place, c => image :: c :: place

def channel : Layout → Nats → Nat
  | channelsLast, loc => loc.getLastD 0
  | channelsFirst, loc => loc.getD 1 0
def place : Layout → Nats → Nats
  | channelsLast, loc => loc.tail.dropLast
  | channelsFirst, loc => loc.drop 2

theorem channel_coords_lt (layout : Layout) (h : i < Shape.size (layout.join images
    extent channels)) : layout.channel (Shape.coords (layout.join images extent channels) i) < channels := by
  have hlt := Shape.coords_lt h
  generalize Shape.coords (layout.join images extent channels) i = loc at hlt
  cases layout with
  | channelsLast =>
    obtain ⟨b,rest,-,hrest,rfl⟩ := forall₂_cons_right_iff.mp hlt
    have hrev : Forall₂ (· < ·) rest.reverse (channels :: extent.reverse) := by
      simpa using forall₂_reverse_iff.mpr hrest
    obtain ⟨c,front,hc,-,hfront⟩ := forall₂_cons_right_iff.mp hrev
    have hsplit : rest = front.reverse ++ [c] := by rw [← reverse_reverse rest,hfront,reverse_cons]
    rwa [hsplit,channel,← cons_append,getLastD_concat]
  | channelsFirst =>
    obtain ⟨b,rest,-,hrest,rfl⟩ := forall₂_cons_right_iff.mp hlt
    obtain ⟨c,places,hc,-,rfl⟩ := forall₂_cons_right_iff.mp hrest
    simpa [channel] using hc
end Layout

/-! ## Convolutions -/

/-- Where a convolution reads, by its strides, dilations and padding: the extent of its result, and the place of
the input that lies under a tap of the filter, none on the padding. -/
structure Geometry where
  extent : Nats
  source : Nats → Nats → Option Nats

/-- The output channels of a filter by its last two dimensions. -/
def outputs (depthwise : Bool) (ins last : Nat) : Nat := if depthwise then ins * last else last

/-- The last two coordinates of the weights of an output channel; the first of them is the input channel. -/
def feeds (depthwise : Bool) (ins last c : Nat) : List (Nat × Nat) :=
  if depthwise then [(c / last,c % last)] else (List.range ins).map fun d => (d,c)

/-- The locations of the numbers and of the weights whose products make up a number of the result. -/
def reads (depthwise : Bool) (layout : Layout) (geo : Geometry) (rows cols ins last : Nat) (loc : Nats) :
    List (Nats × Nats) :=
  (List.range rows).flatMap fun a => (List.range cols).flatMap fun b =>
    match geo.source (layout.place loc) [a,b] with
    | some p => (feeds depthwise ins last (layout.channel loc)).map fun f =>
        (layout.join (loc.headD 0) p f.1,[a,b,f.1,f.2])
    | none => []

theorem channelAt_feeds (hf : f ∈ feeds depthwise ins last c) (hc : c < outputs depthwise ins last) (rows cols a b :
    Nat) : channelAt depthwise [rows,cols,ins,last] (Shape.index [rows,cols,ins,last] [a,b,f.1,f.2]) = c := by
  have hindex : Shape.index [rows,cols,ins,last] [a,b,f.1,f.2] = last * (ins * (cols * a + b) + f.1) + f.2 := by
    simp only [Shape.index,Shape.size_cons,Shape.size_nil]
    ring
  rw [hindex]
  cases depthwise with
  | false =>
    obtain ⟨d,-,rfl⟩ := mem_map.mp hf
    have hlast : c < last := hc
    simp [channelAt,Nat.mod_eq_of_lt hlast]
  | true =>
    obtain rfl : f = (c / last,c % last) := mem_singleton.mp hf
    have hins : c < ins * last := hc
    have hpos : 0 < last := Nat.pos_of_mul_pos_left (Nat.zero_lt_of_lt hins)
    have hd : c / last < ins := Nat.div_lt_of_lt_mul (by rwa [mul_comm])
    have hrow : (last * (ins * (cols * a + b) + c / last) + c % last) / last = ins * (cols * a + b) + c / last := by
      rw [Nat.mul_add_div hpos,Nat.div_eq_of_lt (Nat.mod_lt c hpos),add_zero]
    simp [channelAt,hrow,Nat.mod_eq_of_lt hd,Nat.div_add_mod']

theorem channelAt_of_mem_reads (hr : r ∈ reads depthwise layout geo rows cols ins last loc)
    (hc : layout.channel loc < outputs depthwise ins last) :
    channelAt depthwise [rows,cols,ins,last] (Shape.index [rows,cols,ins,last] r.2) = layout.channel loc := by
  obtain ⟨a,-,hr⟩ := mem_flatMap.mp hr
  obtain ⟨b,-,hr⟩ := mem_flatMap.mp hr
  cases hsource : geo.source (layout.place loc) [a,b] with
  | none =>
    rw [hsource] at hr
    cases hr
  | some p =>
    rw [hsource] at hr
    obtain ⟨f,hf,rfl⟩ := mem_map.mp hr
    exact channelAt_feeds hf hc rows cols a b

section Operations
variable {K : Type} [Field K]
/-- The convolution of an image with a filter of four axes. -/
def convolve (depthwise : Bool) (layout : Layout) (geo : Geometry) (x w : Table K) : Option (Table K) :=
  match w.shape with
  | [rows,cols,ins,last] =>
    some (.ofCoords (layout.join (x.shape.headD 0) geo.extent (outputs depthwise ins last)) fun loc =>
      ((reads depthwise layout geo rows cols ins last loc).map fun r => x.get r.1 * w.get r.2).sum)
  | _ => none

def biasAdd (layout : Layout) (x b : Table K) : Table K :=
  .ofCoords x.shape fun loc => x.get loc + b.get [layout.channel loc]

/-- Normalizes every channel by its mean and its variance, then multiplies it by its factor, if there are factors,
and adds to it. -/
def normalize (sqrt : K → K) (layout : Layout) (epsilon : K) (gamma : Option (Table K)) (x mean var beta : Table K) :
    Table K :=
  .ofCoords x.shape fun loc =>
    let c := [layout.channel loc]
    (x.get loc - mean.get c) / sqrt (var.get c + epsilon) * (gamma.elim 1 (·.get c)) + beta.get c

def scaleChannels (layout : Layout) (scale : Nat → K) (x : Table K) : Table K :=
  .ofCoords x.shape fun loc => x.get loc * scale (layout.channel loc)

/-- The factor of a channel in a normalization. -/
def normScale (sqrt : K → K) (epsilon : K) (gamma : Option (Table K)) (var : Table K) (c : Nat) : K :=
  1 / sqrt (var.get [c] + epsilon) * gamma.elim 1 fun g => g.get [c]

/-- A result in which every channel is below a number. -/
def ChannelsBelow (layout : Layout) (channels : Nat) (x : Table K) : Prop :=
  ∀ i < x.shape.size, layout.channel (x.shape.coords i) < channels

variable {depthwise : Bool} {layout : Layout} {geo : Geometry} {x w w' y : Table K} {rows cols ins last : Nat}
theorem channelsBelow_of_convolve (hw : w.shape = [rows,cols,ins,last])
    (h : convolve depthwise layout geo x w = some y) : ChannelsBelow layout (outputs depthwise ins last) y := by
  simp only [convolve,hw,Option.some.injEq] at h
  subst h
  intro i hi
  exact layout.channel_coords_lt hi

theorem convolve_scaled (hw : w.shape = [rows,cols,ins,last]) (hshape : w'.shape = w.shape)
    (hscale : ∀ loc, channelAt depthwise w.shape (w.shape.index loc) < outputs depthwise ins last → w'.get loc =
    w.get loc * scale (channelAt depthwise w.shape (w.shape.index loc))) : convolve depthwise layout geo x w' =
    (convolve depthwise layout geo x w).map (scaleChannels layout scale) := by
  rw [hw] at hshape hscale
  simp only [convolve,hshape,hw,Option.map_some,Option.some.injEq]
  refine Table.ofCoords_congr fun i hi => ?_
  rw [Table.get_ofCoords hi,← sum_map_mul_right]
  congr 1
  refine map_congr_left fun r hr => ?_
  have hc := layout.channel_coords_lt hi
  have hr := channelAt_of_mem_reads hr hc
  rw [hscale r.2 (by rwa [hr]),hr,mul_assoc]

/-- With its factors in the weights of the convolution before it, a normalization is an addition. -/
theorem biasAdd_scaleChannels (hy : ChannelsBelow layout channels y) (hoffset : ∀ c < channels,
    offset.get [c] = -mean.get [c] * normScale sqrt epsilon gamma var c + beta.get [c]) : biasAdd layout (scaleChannels
    layout (normScale sqrt epsilon gamma var) y) offset = normalize sqrt layout epsilon gamma y mean var beta := by
  refine Table.ofCoords_congr fun i hi => ?_
  have hi : i < y.shape.size := hi
  rw [scaleChannels,Table.shape_ofCoords,Table.get_ofCoords hi,hoffset _ (hy i hi),normScale]
  ring
end Operations

/-! # Values of graphs

Constants, convolutions, normalizations and additions to channels have their usual meaning in exact arithmetic, all
other operations any meaning at all. A reference that only orders nodes counts for nothing.
-/

open TensorKit.Convert (nodeName beforePlace?)
variable {s : String}

/-! ## References -/

/-- A reference that only orders nodes. -/
def isControl (r : String) : Bool := r.toList.head? == some '^'

/-- Which output of its node a reference means. -/
def portOf (r : String) : Nat := match beforePlace? r.toList with
  | some _ => (r.toList.reverse.takeWhile Text.isDecimalDigit).foldr (fun c k => c.toNat - 48 + 10 * k) 0
  | none => 0

/-- A name without the marks of references. -/
def isPlain (name : String) : Bool := name.toList.all fun c => c != ':' && c != '^'

theorem not_mem_of_isPlain (h : isPlain s) : ':' ∉ s.toList ∧ '^' ∉ s.toList := by
  have h := all_eq_true.mp h
  refine ⟨fun hc => ?_,fun hc => ?_⟩
  · simpa using h _ hc
  · simpa using h _ hc

theorem beforePlace?_eq_none (h : ':' ∉ cs) : beforePlace? cs = none := by
  unfold beforePlace?
  extract_lets body line rest
  have hbody : ∀ c ∈ body, c ∈ cs := by
    intro c hc
    rw [← mem_reverse]
    unfold body at hc
    split at hc
    · next heq => exact heq ▸ mem_cons_of_mem _ hc
    · exact hc
  split
  · next heq =>
    have hrest : ':' ∈ rest := heq ▸ mem_cons_self
    exact absurd (hbody _ ((takeWhile_sublist _).subset ((dropWhile_sublist _).subset hrest))) h
  · rfl

theorem nodeName_of_isPlain (h : isPlain s) : nodeName s = s := by
  obtain ⟨hcolon,hcaret⟩ := not_mem_of_isPlain h
  unfold nodeName
  split
  · next heq => exact absurd (heq ▸ mem_cons_self) hcaret
  · simp only [beforePlace?_eq_none hcolon,Option.getD_none,String.ofList_toList]

theorem portOf_of_isPlain (h : isPlain s) : portOf s = 0 := by rw [portOf,beforePlace?_eq_none (not_mem_of_isPlain h).1]
theorem isControl_of_isPlain (h : isPlain s) : isControl s = false := by
  have hcaret := (not_mem_of_isPlain h).2
  rw [isControl,beq_eq_false_iff_ne]
  exact fun hhead => hcaret (mem_of_head? hhead)
theorem isPlain_append (hs : isPlain s) (ht : isPlain t) : isPlain (s ++ t) := by
  rw [isPlain,String.toList_append,all_append]
  exact Bool.and_eq_true_iff.mpr ⟨hs,ht⟩

/-! ## Operations -/

variable {K : Type}
abbrev ExactNode (K : Type) := NodeOf (Table K) K
abbrev ExactGraph (K : Type) := GraphOf (Table K) K

/-- The layout that an attribute names; the channels come last unless it says otherwise. -/
def layoutOf : AttrOf (Table K) K → Layout
  | .text s => if s = "NCHW" then .channelsFirst else .channelsLast
  | _ => .channelsLast

def tensor? (n : ExactNode K) : Option (Table K) := match n.attr "value" with
  | .tensor t => some t
  | _ => none

/-- What the meaning of a graph depends on: roots, where convolutions read by their attributes and the shapes of
their inputs, and the outputs of all other operations by the name, the operation, the attributes and the inputs
of a node. Given inputs of a graph are among the latter. -/
structure Meaning (K : Type) where
  sqrt : K → K
  geometry : (String → AttrOf (Table K) K) → Shape → Shape → Geometry
  other : String → String → (String → AttrOf (Table K) K) → List (Option (Table K)) → Nat → Option (Table K)

section Normalizations
variable [Field K]
def isGlobalNorm (n : ExactNode K) : Bool := n.op == "BatchNormWithGlobalNormalization"

def normLayout (n : ExactNode K) : Layout := if isGlobalNorm n then .channelsLast else layoutOf (n.attr "data_format")

/-- What a normalization adds to variances: it may be left out, but then it is not zero. -/
def normEpsilon (n : ExactNode K) : K :=
  if isGlobalNorm n then (n.attr "variance_epsilon").float?
  else match n.attr "epsilon" with
    | .float e => e
    | _ => 1 / 10000

/-- Operations without further outputs. -/
def hasOneOutput (n : ExactNode K) : Bool :=
  n.op == "Const" || isConv n || n.op == "BiasAdd" || isGlobalNorm n ||
    ["_FusedConv2D","Add","AddV2","Mul","Neg","Relu","Prelu","Identity"].contains n.op

/-- The inputs of a normalization by their roles: image, mean, variance, offset and factor. -/
def normArgs (n : ExactNode K) : List (Option (Table K)) → Option (Table K × Table K × Table K × Table K × Table K)
  | some a :: some b :: some c :: some d :: some e :: _ => some (if isGlobalNorm n then (a,b,c,d,e) else (a,d,e,c,b))
  | _ => none
end Normalizations
namespace Meaning
variable [Field K] (M : Meaning K)
def convolution (n : ExactNode K) (x w : Table K) : Option (Table K) :=
  convolve (isDepthwise n) (layoutOf (n.attr "data_format")) (M.geometry n.attr x.shape w.shape) x w

def first (n : ExactNode K) (args : List (Option (Table K))) : Option (Table K) :=
  if n.op = "Const" then tensor? n
  else if isConv n then
    match args with
    | some x :: some w :: _ => M.convolution n x w
    | _ => none
  else if n.op = "BiasAdd" then
    match args with
    | some x :: some b :: _ => some (biasAdd (layoutOf (n.attr "data_format")) x b)
    | _ => none
  else if isGlobalNorm n || n.op == "FusedBatchNorm" || n.op == "FusedBatchNormV3" then
    (normArgs n args).map fun (x,mean,var,beta,gamma) =>
      normalize M.sqrt (normLayout n) (normEpsilon n)
        (if isGlobalNorm n && !(n.attr "scale_after_normalization").bool? then none else some gamma) x mean var beta
  else M.other n.name n.op n.attr args 0

def output (n : ExactNode K) (args : List (Option (Table K))) : Nat → Option (Table K)
  | 0 => M.first n args
  | port + 1 => if hasOneOutput n then none else M.other n.name n.op n.attr args (port + 1)
end Meaning

/-- The arguments of a node by the values of its references. -/
def argsOf (env : String → Table K) (n : ExactNode K) : List (Option (Table K)) :=
  n.inputs.map fun r => if isControl r then none else some (env r)

theorem argsOf_congr {n : ExactNode K}
    (h : ∀ r ∈ n.inputs, isControl r = false → env r = env' r) : argsOf env n = argsOf env' n := by
  refine map_congr_left fun r hr => ?_
  cases hc : isControl r with
  | true => rfl
  | false => rw [h r hr hc]

theorem eq_argsOf_of_mapM {v : String → Option (Table K)} (d : Table K) {rs : Strings}
    (h : rs.mapM (fun r => if isControl r then some none else (v r).map some) = some args) : (∀ r ∈ rs, isControl r =
    false → v r = some ((v r).getD d)) ∧ args = rs.map fun r => if isControl r then none else some ((v r).getD d) := by
  induction rs generalizing args with
  | nil =>
    cases h
    exact ⟨fun r hr => absurd hr not_mem_nil,rfl⟩
  | cons r rs ih =>
    rw [mapM_cons] at h
    obtain ⟨a,ha,h⟩ := Option.bind_eq_some_iff.mp h
    obtain ⟨rest,hrest,h⟩ := Option.bind_eq_some_iff.mp h
    obtain ⟨hsome,rfl⟩ := ih hrest
    cases h
    cases hc : isControl r with
    | true =>
      rw [hc] at ha
      cases ha
      exact ⟨forall_mem_cons.mpr ⟨fun hr => by simp [hc] at hr,hsome⟩,by simp [hc]⟩
    | false =>
      rw [hc] at ha
      obtain ⟨x,hx,rfl⟩ := Option.map_eq_some_iff.mp ha
      exact ⟨forall_mem_cons.mpr ⟨fun _ => by rw [hx]; rfl,hsome⟩,by simp [hc,hx]⟩

/-! ## Values -/

/-- The output of a node has a value. -/
inductive Evaluates [Field K] (M : Meaning K) (g : ExactGraph K) : String → Nat → Table K → Prop
  | node {n : ExactNode K} {port : Nat} {x : Table K} (hn : n ∈ g) (env : String → Table K)
      (hargs : ∀ r ∈ n.inputs, isControl r = false → Evaluates M g (nodeName r) (portOf r) (env r))
      (hx : M.output n (argsOf env n) port = some x) : Evaluates M g n.name port x

/-- Nodes that differ only in attributes without a value. -/
structure Alike {κ α : Type} (n m : NodeOf κ α) : Prop where
  name : n.name = m.name
  op : n.op = m.op
  inputs : n.inputs = m.inputs
  attr : n.attr = m.attr

namespace Alike
variable {κ α : Type} {n m k : NodeOf κ α}
theorem refl (n : NodeOf κ α) : Alike n n := ⟨rfl,rfl,rfl,rfl⟩
theorem symm (h : Alike n m) : Alike m n := ⟨h.name.symm,h.op.symm,h.inputs.symm,h.attr.symm⟩

theorem trans (h : Alike n m) (h' : Alike m k) : Alike n k :=
  ⟨h.name.trans h'.name,h.op.trans h'.op,h.inputs.trans h'.inputs,h.attr.trans h'.attr⟩
end Alike
section
variable [Field K] {M : Meaning K} {g h : ExactGraph K} {name : String} {port : Nat} {x y : Table K}
theorem Meaning.output_alike {n m : ExactNode K} (hnm : Alike n m) : M.output n = M.output m := by
  funext args port
  cases port with
  | zero =>
    simp only [output,first,convolution,tensor?,isConv,isDepthwise,isGlobalNorm,normArgs,normLayout,normEpsilon,
      hnm.op,hnm.attr,hnm.name]
    rfl
  | succ port =>
    simp only [output,hasOneOutput,isConv,isDepthwise,isGlobalNorm,hnm.op,hnm.attr,hnm.name]
    rfl

theorem Evaluates.alike (hgh : ∀ n ∈ g, ∃ m ∈ h, Alike n m) (hx : Evaluates M g name port x) :
    Evaluates M h name port x := by
  induction hx with
  | @node n port x hn env hargs hx ih =>
    obtain ⟨m,hm,hnm⟩ := hgh n hn
    have hargs' : argsOf env n = argsOf env m := by rw [argsOf,hnm.inputs]; rfl
    rw [hnm.name]
    refine .node hm env (fun r hr hc => ih r (hnm.inputs ▸ hr) hc) ?_
    rw [← Meaning.output_alike hnm,← hargs',hx]

/-- No two nodes have one name. -/
abbrev Distinct {κ α : Type} (g : GraphOf κ α) : Prop := (g.map (·.name)).Nodup

theorem eq_of_name_eq {κ α : Type} {g : GraphOf κ α} {n m : NodeOf κ α} (hg : Distinct g) (hn : n ∈ g) (hm : m ∈ g)
    (h : n.name = m.name) : n = m :=
  inj_on_of_nodup_map hg hn hm h

theorem Evaluates.inv {n : ExactNode K} (hg : Distinct g) (hn : n ∈ g) (h : Evaluates M g n.name port x) : ∃ env,
    (∀ r ∈ n.inputs, isControl r = false → Evaluates M g (nodeName r) (portOf r) (env r)) ∧ M.output n (argsOf env n)
    port = some x := by
  generalize hname : n.name = name at h
  cases h with
  | @node m _ _ hm env hargs hx =>
    obtain rfl := eq_of_name_eq hg hn hm hname
    exact ⟨env,hargs,hx⟩

theorem Evaluates.unique (hg : (g.map (·.name)).Nodup)
    (hx : Evaluates M g name port x) (hy : Evaluates M g name port y) : x = y := by
  induction hx generalizing y with
  | @node n port x hn env hargs hx ih =>
    obtain ⟨env',hargs',hy⟩ := hy.inv hg hn
    rw [argsOf_congr fun r hr hc => ih r hr hc (hargs' r hr hc),hy] at hx
    exact (Option.some.inj hx).symm

/-- The value of an output, if it is found in a number of steps. -/
def value? (M : Meaning K) (g : ExactGraph K) : Nat → String → Nat → Option (Table K)
  | 0, _, _ => none
  | steps + 1, name, port => do
    let n ← Graph.find? g name
    let args ← n.inputs.mapM fun r =>
      if isControl r then some none else (value? M g steps (nodeName r) (portOf r)).map some
    M.output n args port

theorem evaluates_of_value? (h : value? M g steps name port = some x) : Evaluates M g name port x := by
  induction steps generalizing name port x with
  | zero => cases h
  | succ steps ih =>
    obtain ⟨n,hn,h⟩ := Option.bind_eq_some_iff.mp h
    obtain ⟨args,hargs,hx⟩ := Option.bind_eq_some_iff.mp h
    have hname : n.name = name := by simpa using find?_some hn
    subst hname
    obtain ⟨hsome,rfl⟩ := eq_argsOf_of_mapM ⟨[0],Fin.elim0⟩ hargs
    exact .node (mem_of_find?_eq_some hn) _ (fun r hr hc => ih (hsome r hr hc)) hx

/-! # Values through arguments

The value of a node is a function of what its references give, so two graphs agree on a node if they agree on its
references. References that only order nodes stand behind the others and give nothing.
-/

variable {n : ExactNode K} {rs cs : Strings}
def Gives (M : Meaning K) (g : ExactGraph K) (r : String) (v : Table K) : Prop :=
  Evaluates M g (nodeName r) (portOf r) v

variable (hg : Distinct g)
include hg
theorem exists_env_of_forall₂
    (h : Forall₂ (Gives M g) rs vs) : ∃ env, (∀ r ∈ rs, Gives M g r (env r)) ∧ vs = rs.map env := by
  have : Nonempty (Table K) := ⟨⟨[0],Fin.elim0⟩⟩
  -- a reference that comes again gives the same value
  have hsame {r : String} {v : Table K} hv : Classical.epsilon (Gives M g r) = v :=
    Evaluates.unique hg (Classical.epsilon_spec ⟨v,hv⟩) hv
  refine ⟨fun r => Classical.epsilon (Gives M g r),?_⟩
  induction h with
  | nil => exact ⟨forall_mem_nil _,rfl⟩
  | cons hv _ ih => exact ⟨forall_mem_cons.mpr ⟨Classical.epsilon_spec ⟨_,hv⟩,ih.1⟩,congrArg₂ _ (hsame hv).symm ih.2⟩

omit [Field K] in
omit hg in
theorem argsOf_eq (hinputs : n.inputs = rs ++ cs) (hrs : ∀ r ∈ rs, isControl r = false) (hcs :
    ∀ r ∈ cs, isControl r = true) : argsOf env n = (rs.map env).map some ++ .replicate cs.length none := by
  rw [argsOf,hinputs,map_append,map_map,map_congr_left (l := rs) (g := some ∘ env),
    map_congr_left (l := cs) (g := fun _ => none),map_const']
  · exact fun r hr => if_pos (hcs r hr)
  · exact fun r hr => by rw [hrs r hr]; rfl

theorem evaluates_iff (hn : n ∈ g) (hinputs : n.inputs = rs ++ cs) (hrs : ∀ r ∈ rs, isControl r =
    false) (hcs : ∀ r ∈ cs, isControl r = true) : Evaluates M g n.name port x ↔ ∃ vs, Forall₂ (Gives M g) rs vs ∧
    M.output n (vs.map some ++ .replicate cs.length none) port = some x := by
  constructor
  · intro hx
    obtain ⟨env,henv,hx⟩ := hx.inv hg hn
    rw [argsOf_eq hinputs hrs hcs] at hx
    refine ⟨rs.map env,?_,hx⟩
    rw [forall₂_map_right_iff,forall₂_same]
    exact fun r hr => henv r (hinputs ▸ mem_append_left cs hr) (hrs r hr)
  · rintro ⟨vs,hvs,hx⟩
    obtain ⟨env,henv,rfl⟩ := exists_env_of_forall₂ hg hvs
    refine .node hn env (fun r hr hc => ?_) (by rwa [argsOf_eq hinputs hrs hcs])
    rcases mem_append.mp (hinputs ▸ hr) with hr | hr
    · exact henv r hr
    · simp [hcs r hr] at hc

theorem evaluates_one_iff (hn : n ∈ g) (hinputs : n.inputs = [a]) (ha : isControl a =
    false) : Evaluates M g n.name 0 x ↔ ∃ v, Gives M g a v ∧ M.first n [some v] = some x := by
  rw [evaluates_iff hg hn (hinputs.trans (append_nil _).symm) (by simpa using ha) (forall_mem_nil _)]
  simp [forall₂_cons_left_iff,Meaning.output]

theorem evaluates_two_iff {a b : String} (hn : n ∈ g) (hinputs : n.inputs = [a,b] ++ cs) (hrs :
    ∀ r ∈ [a,b], isControl r = false) (hcs : ∀ r ∈ cs, isControl r = true) : Evaluates M g n.name 0 x ↔ ∃ v w, Gives M
    g a v ∧ Gives M g b w ∧ M.first n ([some v,some w] ++ .replicate cs.length none) = some x := by
  rw [evaluates_iff hg hn hinputs hrs hcs]
  simp [forall₂_cons_left_iff,Meaning.output,and_assoc]

omit hg in
def AgreeOn (M : Meaning K) (g h : ExactGraph K) (r : String) : Prop := ∀ v, Gives M g r v ↔ Gives M h r v

theorem evaluates_congr (hh : Distinct h) (hn : n ∈ g) (hn' : n ∈ h) (hrs : ∀ r ∈ n.inputs, isControl
    r = false → AgreeOn M g h r) : Evaluates M g n.name port x ↔ Evaluates M h n.name port x := by
  constructor
  · intro hx
    obtain ⟨env,henv,hx⟩ := hx.inv hg hn
    exact .node hn' env (fun r hr hc => (hrs r hr hc _).mp (henv r hr hc)) hx
  · intro hx
    obtain ⟨env,henv,hx⟩ := hx.inv hh hn'
    exact .node hn env (fun r hr hc => (hrs r hr hc _).mpr (henv r hr hc)) hx
omit hg

/-- Nodes can be given numbers that grow along all references to values. -/
def Acyclic {κ α : Type} (g : GraphOf κ α) : Prop :=
  ∃ rank : String → Nat, ∀ n ∈ g, ∀ r ∈ n.inputs, isControl r = false → rank (nodeName r) < rank n.name
end
end TensorKit.Flow
