import Mathlib
import TensorKit.Autodiff.Gradients

/-! # Paths along a tape

A hop goes through one operation, and a path is a chain of hops. On a tape in the order of creation it only goes
forward, so the paths can be listed; what flows back along all of them is given by a recursion over the tape.
-/
namespace TensorKit.Tape
open List
variable {p : List Hop} {tape rest : Tape} {y x place : Nat} (n : TapeNode)
/-- From one input to one output of the operation at a place of the tape. -/
structure Hop where
  place : Nat
  node : TapeNode
  input : Fin node.inputs.length
  output : Fin node.outputs.length

namespace Hop
def name (h : Hop) : String := (h.node.inputs.get h.input).1
def source (h : Hop) : Nat := (h.node.inputs.get h.input).2.id
def target (h : Hop) : Nat := (h.node.outputs.get h.output).id
end Hop

/-- Hops of the tape that lead from a tensor to `y`, each from where the last one ended. -/
inductive IsPath (tape : Tape) (y : Nat) : Nat → List Hop → Prop where
  | done : IsPath tape y y []
  | step {h : Hop} {rest : List Hop} : tape[h.place]? = some h.node → IsPath tape y h.target rest →
    IsPath tape y h.source (h :: rest)

/-- No input of the one operation is made by the other. -/
def Unmade (n n' : TapeNode) : Prop := ∀ a ∈ n.inputs, ∀ o ∈ n'.outputs, o.id ≠ a.2.id

instance (n' : TapeNode) : Decidable (Unmade n n') := inferInstanceAs (Decidable (∀ a ∈ n.inputs, _))

/-- The order of creation: operations have numbers of their own, and a tensor that one of them uses is made
by an earlier one, if by any. -/
structure InOrder (tape : Tape) : Prop where
  ids : (tape.map TapeNode.id).Nodup
  later : tape.Pairwise Unmade
  own : ∀ n ∈ tape, Unmade n n

/-- Places go up along the hops, from a first one on. -/
def RisesFrom : Nat → List Hop → Prop
  | _, [] => True
  | k, h :: rest => k ≤ h.place ∧ RisesFrom (h.place + 1) rest

theorem RisesFrom.mono (hk : k' ≤ k) (h : RisesFrom k p) : RisesFrom k' p := by
  cases p with
  | nil => trivial
  | cons a rest => exact ⟨hk.trans h.1,h.2⟩

theorem InOrder.lt (ht : InOrder tape) {i j : Nat} {n n' : TapeNode} (hi : tape[i]? = some n)
    (hj : tape[j]? = some n') (ho : o ∈ n.outputs) (ha : a ∈ n'.inputs) (heq : o.id = a.2.id) : i < j := by
  obtain ⟨hi',rfl⟩ := List.getElem?_eq_some_iff.mp hi
  obtain ⟨hj',rfl⟩ := List.getElem?_eq_some_iff.mp hj
  rcases lt_trichotomy i j with hlt | rfl | hlt
  · exact hlt
  · exact absurd heq (ht.own _ (getElem_mem hi') a ha o ho)
  · exact absurd heq (pairwise_iff_getElem.mp ht.later j i hj' hi' hlt a ha o ho)

theorem IsPath.rises (ht : InOrder tape) (h : IsPath tape y x p) : RisesFrom 0 p := by
  suffices hgen : ∀ {x : Nat} {p : List Hop}, IsPath tape y x p →
      ∀ k, (∀ j n, tape[j]? = some n → (∃ a ∈ n.inputs, a.2.id = x) → k ≤ j) → RisesFrom k p from
    hgen h 0 fun _ _ _ _ => Nat.zero_le _
  intro x p h
  induction h with
  | done => exact fun _ _ => trivial
  | @step h rest hnode _ ih =>
    intro k hk
    refine ⟨hk h.place h.node hnode ⟨_,get_mem _ _,rfl⟩,ih (h.place + 1) ?_⟩
    rintro j n hj ⟨a,ha,heq⟩
    exact ht.lt hnode hj (get_mem _ h.output) ha heq.symm

/-! ## All paths -/

/-- Hops from a tensor through an operation. -/
def hops (place : Nat) (n : TapeNode) (x : Nat) : List Hop :=
  ((finRange n.inputs.length).filter fun a => (n.inputs.get a).2.id == x).flatMap fun a =>
    (finRange n.outputs.length).map fun b => ⟨place,n,a,b⟩

/-- Paths to `y` through operations that stand one after another from a place on. -/
def pathsFrom (y : Nat) : Nat → Tape → Nat → List (List Hop)
  | _, [], x => if x = y then [[]] else []
  | place, n :: rest, x => pathsFrom y (place + 1) rest x ++
    (hops place n x).flatMap fun h => (pathsFrom y (place + 1) rest h.target).map (h :: ·)

/-- All paths of a tape from `x` to `y`. -/
def paths (tape : Tape) (y x : Nat) : List (List Hop) := pathsFrom y 0 tape x

theorem mem_hops {n : TapeNode} : h ∈ hops place n x ↔ h.place = place ∧ h.node = n ∧ h.source = x := by
  constructor
  · intro hmem
    obtain ⟨a,ha,hb⟩ := mem_flatMap.mp hmem
    obtain ⟨b,-,rfl⟩ := mem_map.mp hb
    exact ⟨rfl,rfl,beq_iff_eq.mp (mem_filter.mp ha).2⟩
  · obtain ⟨place',node,a,b⟩ := h
    rintro ⟨rfl,rfl,hx⟩
    exact mem_flatMap.mpr ⟨a,mem_filter.mpr ⟨mem_finRange a,beq_iff_eq.mpr hx⟩,mem_map.mpr ⟨b,mem_finRange b,rfl⟩⟩

theorem mem_pathsFrom_cons {n : TapeNode} : p ∈ pathsFrom y place (n :: rest) x ↔ p ∈ pathsFrom y (place + 1) rest x ∨
    ∃ h q, p = h :: q ∧ h.place = place ∧ h.node = n ∧ h.source = x ∧ q ∈ pathsFrom y (place + 1) rest h.target := by
  rw [pathsFrom,mem_append,mem_flatMap]
  refine or_congr .rfl ?_
  constructor
  · rintro ⟨h,hh,hp⟩
    obtain ⟨q,hq,rfl⟩ := mem_map.mp hp
    obtain ⟨hplace,hnode,hsource⟩ := mem_hops.mp hh
    exact ⟨h,q,rfl,hplace,hnode,hsource,hq⟩
  · rintro ⟨h,q,rfl,hplace,hnode,hsource,hq⟩
    exact ⟨h,mem_hops.mpr ⟨hplace,hnode,hsource⟩,mem_map_of_mem hq⟩

theorem mem_pathsFrom (before after : Tape) (htape : tape = before ++ after) :
    p ∈ pathsFrom y before.length after x ↔ IsPath tape y x p ∧ RisesFrom before.length p := by
  induction after generalizing before x p with
  | nil =>
    rw [append_nil] at htape
    constructor
    · intro hp
      rw [pathsFrom] at hp
      split at hp
      next hx =>
        rw [mem_singleton.mp hp,hx]
        exact ⟨.done,trivial⟩
      next => cases hp
    · rintro ⟨hp,hrise⟩
      cases hp with
      | done => simp [pathsFrom]
      | step hnode _ =>
        rw [htape,getElem?_eq_none hrise.1] at hnode
        cases hnode
  | cons n after ih =>
    have hlength : (before ++ [n]).length = before.length + 1 := by simp
    have hnext : ∀ {x : Nat} {p : List Hop}, p ∈ pathsFrom y (before.length + 1) after x ↔
        IsPath tape y x p ∧ RisesFrom (before.length + 1) p := by
      rw [← hlength]
      exact ih (before ++ [n]) (by rw [htape,append_assoc]; rfl)
    have hhere : tape[before.length]? = some n := by rw [htape]; simp
    rw [mem_pathsFrom_cons]
    constructor
    · rintro (hp | ⟨h,q,rfl,hplace,rfl,rfl,hq⟩)
      · obtain ⟨hp,hrise⟩ := hnext.mp hp
        exact ⟨hp,hrise.mono (Nat.le_succ _)⟩
      · obtain ⟨hq,hrise⟩ := hnext.mp hq
        exact ⟨.step (hplace ▸ hhere) hq,hplace.ge,hplace ▸ hrise⟩
    · rintro ⟨hp,hrise⟩
      cases hp with
      | done => exact .inl (hnext.mpr ⟨.done,trivial⟩)
      | @step h q hnode hq =>
        rcases hrise.1.eq_or_lt with hplace | hplace
        · -- the first hop is through the operation at this place
          refine .inr ⟨h,q,rfl,hplace.symm,?_,rfl,hnext.mpr ⟨hq,hplace ▸ hrise.2⟩⟩
          rw [← hplace,hhere] at hnode
          exact (Option.some.inj hnode).symm
        · exact .inl (hnext.mpr ⟨.step hnode hq,hplace,hrise.2⟩)

theorem mem_paths_iff (ht : InOrder tape) : p ∈ paths tape y x ↔ IsPath tape y x p := by
  have hmem := mem_pathsFrom (y := y) (x := x) (p := p) [] tape rfl
  exact hmem.trans ⟨And.left,fun h => ⟨h,h.rises ht⟩⟩

variable {γ : Type} [AddCommMonoid γ]
/-- Derivatives: for an operation and the name of an input, what gradients of the outputs amount to for the
input. -/
abbrev Derivative (γ : Type) [AddCommMonoid γ] := (n : TapeNode) → String → (Fin n.outputs.length → γ) →+ γ

abbrev Entry := TapeNode × List (String × Tensor)

/-- What comes back to a tensor through operations that stand one after another. -/
def flow (D : Derivative γ) (dy : γ) (y : Nat) : List Entry → Nat → γ
  | [], x => if x = y then dy else 0
  | (n,inputs) :: rest, x => flow D dy y rest x +
    ((inputs.filter fun a => a.2.id == x).map fun a => D n a.1 fun b => flow D dy y rest (n.outputs.get b).id).sum

def whole (ns : Tape) : List Entry := ns.map fun n => (n,n.inputs)
variable {m : Type → Type} [Monad m] {γ : Type}
variable {α β : Type} {n : TapeNode} {a : String × Tensor} {ns rest : Tape} {seen : Nats} {t k y x : Nat}
  {inputs : List (String × Tensor)}

/-! ## Gradients found so far -/

variable (found : Found γ)
variable [AddCommMonoid γ]
/-- The gradient found for a tensor, zero where there is none. -/
def Found.value (t : Nat) : γ := (found.lookup t).getD 0

variable [LawfulMonad m] {c : Calculus m γ} {D : Derivative γ} {tape : Tape}
omit [AddCommMonoid γ] in
theorem backpropagate_cons (n : TapeNode) (rest : Tape) (start : Found γ) :
    backpropagate c (n :: rest) start = backpropagate c rest start >>= stepBack c n := by
  unfold backpropagate
  simp

theorem forwards_cons (n : TapeNode) (rest : Tape) (seen : Nats) : forwards (n :: rest) seen =
      if anyInput seen n then
        ((forwards rest (n.outputs.map (·.id) ++ seen)).1,n :: (forwards rest (n.outputs.map (·.id) ++ seen)).2)
      else forwards rest seen := rfl

theorem subset_forwards (ns : Tape) (seen : Nats) : seen ⊆ (forwards ns seen).1 := by
  induction ns generalizing seen with
  | nil => exact .refl seen
  | cons n rest ih =>
    rw [forwards_cons]
    split
    · exact List.Subset.trans (subset_append_right _ _) (ih _)
    · exact ih seen

theorem backwards_cons (n : TapeNode) (rest : Tape) (seen : Nats) : backwards (n :: rest) seen =
      if anyOutput (backwards rest seen).2 n && !n.inputs.isEmpty then
        (n.id :: (backwards rest seen).1,n.inputs.map (·.2.id) ++ (backwards rest seen).2)
      else backwards rest seen := rfl

/-- An operation leads on where one of its outputs does. -/
def LeadsOn (n : TapeNode) (seen : Nats) : Prop := n.inputs ≠ [] ∧ ∃ o ∈ n.outputs, o.id ∈ seen

theorem leadsOn_iff : (anyOutput seen n && !n.inputs.isEmpty) = true ↔ LeadsOn n seen := by
  simp [anyOutput,LeadsOn,and_comm]

theorem mem_seen_backwards_cons : t ∈ (backwards (n :: rest) seen).2 ↔
    t ∈ (backwards rest seen).2 ∨ ((∃ a ∈ n.inputs, a.2.id = t) ∧ ∃ o ∈ n.outputs, o.id ∈ (backwards rest seen).2) := by
  rw [backwards_cons]
  split
  next hn =>
    obtain ⟨-,hout⟩ := leadsOn_iff.mp hn
    rw [mem_append,mem_map,or_comm,and_iff_left hout]
  next hn =>
    rw [leadsOn_iff] at hn
    refine ⟨.inl,(·.resolve_right ?_)⟩
    rintro ⟨⟨a,ha,-⟩,hout⟩
    exact hn ⟨ne_nil_of_mem ha,hout⟩

theorem mem_ids_backwards_cons : k ∈
    (backwards (n :: rest) seen).1 ↔ k ∈ (backwards rest seen).1 ∨ (k = n.id ∧ LeadsOn n (backwards rest seen).2) := by
  rw [backwards_cons]
  split
  next hn => rw [mem_cons,or_comm,and_iff_left (leadsOn_iff.mp hn)]
  next hn => rw [leadsOn_iff] at hn; simp [hn]

theorem mem_seen_backwards (place : Nat) : t ∈ (backwards ns [y]).2 ↔ ∃ p, p ∈ pathsFrom y place ns t := by
  induction ns generalizing place t with
  | nil =>
    rw [backwards,pathsFrom]
    split <;> simp_all
  | cons n rest ih =>
    simp only [mem_seen_backwards_cons,mem_pathsFrom_cons,exists_or,ih (place + 1)]
    refine or_congr .rfl ?_
    constructor
    · rintro ⟨⟨a,ha,rfl⟩,o,ho,q,hq⟩
      obtain ⟨i,rfl⟩ := mem_iff_get.mp ha
      obtain ⟨j,rfl⟩ := mem_iff_get.mp ho
      exact ⟨_,⟨place,n,i,j⟩,q,rfl,rfl,rfl,rfl,hq⟩
    · rintro ⟨p,h,q,-,-,rfl,rfl,hq⟩
      exact ⟨⟨_,get_mem _ h.input,rfl⟩,_,get_mem _ h.output,q,hq⟩

variable (D) (dy : γ)
/-- Operations that lead to `y`, each with those inputs that were seen. -/
def entries (seen toY : Nats) (ns : Tape) : List Entry :=
  (ns.filter (toY.contains ·.id)).map fun n => (n,n.inputs.filter (seen.contains ·.2.id))

theorem mem_backwards_iff (ht : InOrder tape) : t ∈ (backwards tape [y]).2 ↔ ∃ p, IsPath tape y t p := by
  simp only [mem_seen_backwards 0,← mem_paths_iff ht,paths]

theorem mem_ids_backwards (hlater : ns.Pairwise Unmade) (hown : ∀ n ∈ ns, Unmade n n) :
    k ∈ (backwards ns [y]).1 ↔ ∃ n ∈ ns, k = n.id ∧ LeadsOn n (backwards ns [y]).2 := by
  induction ns with
  | nil => simp [backwards]
  | cons n rest ih =>
    obtain ⟨hn,hlater⟩ := pairwise_cons.mp hlater
    obtain ⟨hself,hown⟩ := forall_mem_cons.mp hown
    -- no output is an input of the first operation
    have hsame : ∀ m ∈ n :: rest, LeadsOn m (backwards (n :: rest) [y]).2 ↔ LeadsOn m (backwards rest [y]).2 := by
      refine fun m hm => and_congr_right fun _ => exists_congr fun o => and_congr_right fun ho => ?_
      rw [mem_seen_backwards_cons,or_iff_left]
      rintro ⟨⟨a,ha,heq⟩,-⟩
      exact forall_mem_cons.mpr ⟨hself,hn⟩ m hm a ha o ho heq.symm
    rw [mem_ids_backwards_cons,ih hlater hown,← hsame n mem_cons_self,exists_mem_cons_iff,or_comm]
    refine or_congr .rfl (exists_congr fun m => and_congr_right fun hm => ?_)
    rw [hsame m (mem_cons_of_mem n hm)]

theorem isPath_append : IsPath tape y x (p ++ q) ↔ ∃ t, IsPath tape t x p ∧ IsPath tape y t q := by
  induction p generalizing x with
  | nil =>
    refine ⟨fun h => ⟨x,.done,h⟩,?_⟩
    rintro ⟨t,⟨⟩,hq⟩
    exact hq
  | cons h p ih =>
    constructor
    · rintro (_ | ⟨hnode,hrest⟩)
      obtain ⟨t,hp,hq⟩ := ih.mp hrest
      exact ⟨t,.step hnode hp,hq⟩
    · rintro ⟨t,_ | ⟨hnode,hp⟩,hq⟩
      exact .step hnode (ih.mpr ⟨t,hp,hq⟩)

/-- An operation leads to `y` if one of its inputs, and then each of them, begins a path through it. -/
theorem id_mem_backwards_iff (ht : InOrder tape) (hn : n ∈ tape) (ha : a ∈ n.inputs) :
    n.id ∈ (backwards tape [y]).1 ↔ ∃ h q, h.node = n ∧ IsPath tape y a.2.id (h :: q) := by
  rw [mem_ids_backwards ht.later ht.own]
  constructor
  · rintro ⟨n',hn',hid,-,o,ho,hseen⟩
    obtain rfl := inj_on_of_nodup_map ht.ids hn hn' hid
    obtain ⟨q,hq⟩ := (mem_backwards_iff ht).mp hseen
    obtain ⟨place,hplace⟩ := mem_iff_getElem?.mp hn
    obtain ⟨i,rfl⟩ := mem_iff_get.mp ha
    obtain ⟨j,rfl⟩ := mem_iff_get.mp ho
    exact ⟨⟨place,n,i,j⟩,q,rfl,.step (h := ⟨place,n,i,j⟩) hplace hq⟩
  · rintro ⟨h,q,rfl,hp⟩
    refine ⟨h.node,hn,rfl,ne_nil_of_mem ha,_,get_mem _ h.output,(mem_backwards_iff ht).mpr ⟨q,?_⟩⟩
    generalize a.2.id = x at hp
    cases hp with
    | step _ hq => exact hq

theorem anyInput_iff : anyInput seen n = true ↔ ∃ a ∈ n.inputs, a.2.id ∈ seen := by simp [anyInput]

/-- A tensor is seen on the way forwards if a path leads to it from one that was seen before. -/
theorem mem_seen_forwards (place : Nat) : t ∈ (forwards ns seen).1 ↔ ∃ x ∈ seen, ∃ p, p ∈ pathsFrom t place ns x := by
  induction ns generalizing seen place with
  | nil => simp [forwards,pathsFrom]
  | cons n rest ih =>
    simp only [forwards_cons,mem_pathsFrom_cons,exists_or,and_or_left]
    split
    next hn =>
      obtain ⟨a,ha,hseen⟩ := anyInput_iff.mp hn
      obtain ⟨i,rfl⟩ := mem_iff_get.mp ha
      rw [ih (place + 1)]
      constructor
      · rintro ⟨x,hx,q,hq⟩
        rcases mem_append.mp hx with hx | hx
        · obtain ⟨o,ho,rfl⟩ := mem_map.mp hx
          obtain ⟨j,rfl⟩ := mem_iff_get.mp ho
          exact .inr ⟨_,hseen,_,⟨place,n,i,j⟩,q,rfl,rfl,rfl,rfl,hq⟩
        · exact .inl ⟨x,hx,q,hq⟩
      · rintro (⟨x,hx,hq⟩ | ⟨x,-,p,h,q,-,-,rfl,-,hq⟩)
        · exact ⟨x,mem_append_right _ hx,hq⟩
        · exact ⟨_,mem_append_left _ (mem_map_of_mem (get_mem _ h.output)),q,hq⟩
    next hn =>
      rw [ih (place + 1)]
      refine ⟨.inl,(·.resolve_right ?_)⟩
      rintro ⟨x,hx,p,h,q,-,-,rfl,rfl,-⟩
      exact hn (anyInput_iff.mpr ⟨_,get_mem _ h.input,hx⟩)

theorem mem_forwards_iff (ht : InOrder tape) : t ∈ (forwards tape xs).1 ↔ ∃ x ∈ xs, ∃ p, IsPath tape t x p := by
  simp only [mem_seen_forwards 0,← mem_paths_iff ht,paths]

theorem made_of_mem_forwards (h : t ∈ (forwards ns seen).1) : t ∈ seen ∨ ∃ n ∈ ns, ∃ o ∈ n.outputs, o.id = t := by
  induction ns generalizing seen with
  | nil => exact .inl h
  | cons n rest ih =>
    rw [forwards_cons] at h
    rw [exists_mem_cons_iff,or_left_comm]
    split at h
    · simpa [or_assoc] using ih h
    · exact .inr (ih h)

/-- Later operations make no input of an earlier one. -/
theorem forwards_nodes (ht : ns.Pairwise Unmade) : (forwards ns seen).2 = ns.filter (anyInput (forwards ns seen).1) := by
  induction ns generalizing seen with
  | nil => rfl
  | cons n rest ih =>
    obtain ⟨hn,hrest⟩ := pairwise_cons.mp ht
    rw [forwards_cons]
    split
    next hany =>
      obtain ⟨a,ha,hseen⟩ := anyInput_iff.mp hany
      rw [filter_cons_of_pos (anyInput_iff.mpr ⟨a,ha,subset_forwards _ _ (mem_append_right _ hseen)⟩),← ih hrest]
    next hany =>
      rw [filter_cons_of_neg,ih hrest]
      intro h
      obtain ⟨a,ha,hseen⟩ := anyInput_iff.mp h
      rcases made_of_mem_forwards hseen with hseen | ⟨n',hn',o,ho,heq⟩
      · exact hany (anyInput_iff.mpr ⟨a,ha,hseen⟩)
      · exact hn n' hn' a ha o ho heq

/-- An operation lies between if it is on a path. -/
theorem mem_between_iff (ht : InOrder tape) : n ∈ (forwards tape xs).2 ∧ n.id ∈ (backwards tape [y]).1 ↔
    ∃ x ∈ xs, ∃ p, IsPath tape y x p ∧ ∃ h ∈ p, h.node = n := by
  rw [forwards_nodes ht.later,mem_filter,anyInput_iff]
  constructor
  · rintro ⟨⟨hn,a,ha,hseen⟩,hid⟩
    obtain ⟨x,hx,p,hp⟩ := (mem_forwards_iff ht).mp hseen
    obtain ⟨h,q,hnode,hq⟩ := (id_mem_backwards_iff ht hn ha).mp hid
    exact ⟨x,hx,p ++ h :: q,isPath_append.mpr ⟨_,hp,hq⟩,h,by simp,hnode⟩
  · rintro ⟨x,hx,p,hp,h,hh,rfl⟩
    obtain ⟨p,q,rfl⟩ := append_of_mem hh
    obtain ⟨t,hp,hq⟩ := isPath_append.mp hp
    obtain ⟨rfl,hn⟩ : h.source = t ∧ h.node ∈ tape := by
      cases hq with
      | step hnode _ => exact ⟨rfl,mem_of_getElem? hnode⟩
    have ha := get_mem h.node.inputs h.input
    exact ⟨⟨hn,_,ha,(mem_forwards_iff ht).mpr ⟨x,hx,p,hp⟩⟩,(id_mem_backwards_iff ht hn ha).mpr ⟨h,q,rfl,hq⟩⟩

open Classical in
/-- What lies between are the operations on the paths from one of `xs` to `y`, in their order, each with those
inputs that are one of `xs` or come from one. -/
theorem between_eq_filter (ht : InOrder tape) (xs : Nats) (y : Nat) : between tape xs y =
    (tape.filter fun n => ∃ x ∈ xs, ∃ p, IsPath tape y x p ∧ ∃ h ∈ p, h.node = n).map fun n =>
      { n with inputs := n.inputs.filter fun a => ∃ x ∈ xs, ∃ p, IsPath tape a.2.id x p } := by
  have hinputs : prune (forwards tape xs).1 = fun n =>
      { n with inputs := n.inputs.filter fun a => ∃ x ∈ xs, ∃ p, IsPath tape a.2.id x p } := by
    funext n
    simp [prune, mem_forwards_iff ht]
  rw [← hinputs]
  refine congrArg (List.map _) ?_
  rw [forwards_nodes ht.later, List.filter_filter]
  refine List.filter_congr fun n hn => ?_
  rw [Bool.eq_iff_iff, decide_eq_true_iff, ← mem_between_iff ht, forwards_nodes ht.later, List.mem_filter]
  simp [hn, and_comm]

variable {D} (w : Nat → String → Nat → ℤ)
/-- Operations that weigh the gradients of their outputs. -/
def weighted : Derivative ℤ := fun n name =>
  { toFun := fun dys => ∑ b : Fin n.outputs.length, w n.id name b * dys b
    map_zero' := by simp
    map_add' := fun dys dys' => by simp [mul_add,Finset.sum_add_distrib] }

/-- A tensor is split in two. One part is used twice by one operation, the other by none, and the whole again
together with the result of the first. Another operation has nothing to do with it. -/
def forked : Tape :=
  [⟨0,"split",[("x",⟨0,[2],.float32⟩)],[⟨1,[1],.float32⟩,⟨2,[1],.float32⟩],none,[]⟩,
    ⟨1,"mul",[("a",⟨1,[1],.float32⟩),("b",⟨1,[1],.float32⟩)],[⟨3,[1],.float32⟩],none,[]⟩,
    ⟨2,"neg",[("x",⟨9,[1],.float32⟩)],[⟨4,[1],.float32⟩],none,[]⟩,
    ⟨3,"add",[("a",⟨3,[1],.float32⟩),("b",⟨0,[2],.float32⟩),("c",⟨4,[1],.float32⟩)],[⟨5,[2],.float32⟩],none,[]⟩]

theorem inOrder_forked : InOrder forked := ⟨by decide,by decide,by decide⟩

open Classical in
/-- The operation that has nothing to do with the tensor is on no path. -/
theorem between_forked : InOrder forked ∧
    (forked.filter fun n => ∃ x ∈ [0], ∃ p, IsPath forked 5 x p ∧ ∃ h ∈ p, h.node = n).map (·.name) =
      ["split", "mul", "add"] := by
  have hnames := congrArg (List.map (·.name)) (between_eq_filter inOrder_forked [0] 5)
  rw [List.map_map] at hnames
  refine ⟨inOrder_forked, Eq.trans ?_ (hnames.symm.trans (by decide))⟩
  congr!

end TensorKit.Tape
