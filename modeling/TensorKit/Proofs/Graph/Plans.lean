import TensorKit.Graph.Execute
import Mathlib.Data.List.Permutation

/-! # Plans that are kept

A graph keeps its plans under a text made of the names of the nodes that were fed and asked for. Names without separators
can be read off this text up to their order, so that a plan that is found again was made for the same nodes.
-/
namespace TensorKit.Graph
open List
structure Call (τ : Type) where
  fed : Results τ
  outputs : Strings

variable {m : Type → Type} [Monad m] [MonadExceptOf Fault m] {ν τ : Type}
namespace Call
variable (c d : Call τ)
def names : Strings := c.fed.map (·.1)
def nodes : Strings := c.outputs.map nodeOf
def key : String := planKey c.names c.nodes

/-- The same nodes are fed and asked for, in any order. -/
def Alike : Prop := c.names.Perm d.names ∧ c.nodes.Perm d.nodes

/-- No name is empty or has a separator in it. -/
def Plain : Prop := ∀ name ∈ c.names ++ c.nodes, name ≠ "" ∧ ',' ∉ name.toList ∧ '-' ∉ name.toList

variable (mach : Machine m ν τ) (g : Graph ν) (weights : Results τ)
def plan : Tried Strings := Graph.plan g (weights.map (·.1)) c.names c.nodes

def run (order : Strings) : m (List (Option τ)) := do
  let r ← runInOrder mach g order c.outputs (startResults weights c.fed)
  return c.outputs.map (getTensor · r .start)

/-- What a call gives by the plan for another one. -/
def plannedAs : Tried (m (List (Option τ))) := (d.plan g weights).map (c.run mach g weights)
end Call
variable (mach : Machine m ν τ) (g : Graph ν) (weights : Results τ)
/-- Calls one after the other. -/
def outcomes : List (Call τ) → Plans → List (Tried (m (List (Option τ))))
  | [], _ => []
  | c :: calls, plans =>
    let (outcome,plans) := execute mach g weights c.fed c.outputs plans
    outcome :: outcomes calls plans

theorem execute_eq (c : Call τ) (plans : Plans) : execute mach g weights c.fed c.outputs plans =
    match plans.lookup c.key with
    | some order => (.ok (c.run mach g weights order),plans)
    | none =>
      match c.plan g weights with
      | .ok order => (.ok (c.run mach g weights order),(c.key,order) :: plans)
      | .error fault => (.error fault,plans) := rfl

/-! ## Reading keys -/

variable {xs ys : Strings}
/-- What stands between commas. -/
theorem map_toList_eq (h : ∀ x ∈ xs, x ≠ "" ∧ ',' ∉ x.toList) :
    xs.map String.toList = ((commas xs).toList.splitOn ',').filter (· ≠ []) := by
  cases xs with
  | nil => rfl
  | cons x xs =>
    have hsplit : (commas (x :: xs)).toList.splitOn ',' = (x :: xs).map String.toList := by
      rw [commas,String.toList_intercalate]
      exact splitOn_intercalate ',' (by simpa using fun y hy => (h y hy).2) (by simp)
    rw [hsplit,eq_comm]
    simpa using fun y hy => (h y hy).1

theorem not_mem_commas (h : ∀ x ∈ xs, '-' ∉ x.toList) : '-' ∉ (commas xs).toList := by
  rw [commas]
  induction xs with
  | nil => simp
  | cons x xs ih =>
    obtain ⟨hx,hxs⟩ := forall_mem_cons.mp h
    cases xs with
    | nil => simpa using hx
    | cons y xs => simpa [hx] using ih hxs

theorem sortNames_perm (xs : Strings) : (sortNames xs).Perm xs := mergeSort_perm xs _

theorem splitOn_planKey (h : ∀ x ∈ xs ++ ys, '-' ∉ x.toList) :
    (planKey xs ys).toList.splitOn '-' = [(commas (sortNames xs)).toList,[],(commas (sortNames ys)).toList] := by
  have hpart {zs : Strings} (hzs : zs ⊆ xs ++ ys) : '-' ∉ (commas (sortNames zs)).toList :=
    not_mem_commas fun z hz => h z (hzs ((sortNames_perm zs).mem_iff.mp hz))
  have hkey : (planKey xs ys).toList =
      ['-'].intercalate [(commas (sortNames xs)).toList,[],(commas (sortNames ys)).toList] := by
    simp [planKey]
  rw [hkey]
  exact splitOn_intercalate '-' (by simpa using ⟨hpart (by simp),hpart (by simp)⟩) (by simp)

theorem perm_of_commas_eq (hxs : ∀ x ∈ xs, x ≠ "" ∧ ',' ∉ x.toList) (hys : ∀ y ∈ ys, y ≠ "" ∧ ',' ∉ y.toList)
    (h : (commas (sortNames xs)).toList = (commas (sortNames ys)).toList) : xs.Perm ys := by
  have hx := map_toList_eq fun x hx => hxs x ((sortNames_perm xs).mem_iff.mp hx)
  have hy := map_toList_eq fun y hy => hys y ((sortNames_perm ys).mem_iff.mp hy)
  rw [h,← hy] at hx
  have hsame : sortNames xs = sortNames ys := (map_inj_right fun _ _ => String.toList_inj.mp).mp hx
  exact (sortNames_perm xs).symm.trans (hsame ▸ sortNames_perm ys)

variable {c d : Call τ}
theorem Call.Plain.alike (hc : c.Plain) (hd : d.Plain) (h : c.key = d.key) : c.Alike d := by
  have hsplit := splitOn_planKey fun x hx => (hc x hx).2.2
  rw [show planKey c.names c.nodes = planKey d.names d.nodes from h,
    splitOn_planKey fun x hx => (hd x hx).2.2] at hsplit
  obtain ⟨hnames,hnodes⟩ : _ ∧ _ := by simpa using hsplit.symm
  have hplain {c : Call τ} (hc : c.Plain) {x : String} hx : x ≠ "" ∧ ',' ∉ x.toList := ⟨(hc x hx).1,(hc x hx).2.1⟩
  exact ⟨perm_of_commas_eq (fun x hx => hplain hc (mem_append_left _ hx))
      (fun x hx => hplain hd (mem_append_left _ hx)) hnames,
    perm_of_commas_eq (fun x hx => hplain hc (mem_append_right _ hx))
      (fun x hx => hplain hd (mem_append_right _ hx)) hnodes⟩

/-! ## Plans of calls -/

/-- Each plan is the one of a call. -/
def PlansOf (calls : List (Call τ)) (plans : Plans) : Prop :=
  ∀ p ∈ plans, ∃ c ∈ calls, p.1 = c.key ∧ c.plan g weights = .ok p.2

variable {g weights} {calls : List (Call τ)} {plans : Plans}
theorem PlansOf.execute (h : PlansOf g weights calls plans) (hplain : ∀ c ∈ calls, c.Plain) (hc : c ∈ calls) :
    (∃ d ∈ calls, c.Alike d ∧ (execute mach g weights c.fed c.outputs plans).1 = c.plannedAs d mach g weights) ∧ PlansOf
    g weights calls (execute mach g weights c.fed c.outputs plans).2 := by
  rw [execute_eq]
  cases hfound : plans.lookup c.key with
  | some order =>
    obtain ⟨before,after,hsplit,-⟩ := lookup_eq_some_iff.mp hfound
    obtain ⟨d,hd,hkey,horder⟩ := h _ (hsplit ▸ mem_append_right before mem_cons_self)
    exact ⟨⟨d,hd,(hplain c hc).alike (hplain d hd) hkey,by rw [Call.plannedAs,horder]; rfl⟩,h⟩
  | none =>
    have hself : c.Alike c := ⟨.rfl,.rfl⟩
    cases horder : c.plan g weights with
    | error fault => exact ⟨⟨c,hc,hself,by rw [Call.plannedAs,horder]; rfl⟩,h⟩
    | ok order => refine ⟨⟨c,hc,hself,by rw [Call.plannedAs,horder]; rfl⟩,forall_mem_cons.mpr ⟨⟨c,hc,rfl,horder⟩,h⟩⟩

theorem PlansOf.outcomes (hplain : ∀ c ∈ calls, c.Plain) (hrest : rest ⊆ calls) (h : PlansOf g
    weights calls plans) : Forall₂ (fun c o => ∃ d ∈ calls, c.Alike d ∧ o = c.plannedAs d mach g weights) rest (outcomes
    mach g weights rest plans) := by
  induction rest generalizing plans with
  | nil => exact .nil
  | cons c rest ih =>
    obtain ⟨hc,hrest⟩ := cons_subset.mp hrest
    obtain ⟨hplanned,hnext⟩ := h.execute mach hplain hc
    exact .cons hplanned (ih hrest hnext)

/-- If names have no separators in them, each call gives what it gives by the plan for a call of the same nodes, and if
that call lists them in the same order, what it would give as the first call. -/
theorem outcomes_planned (mach : Machine m ν τ) (g : Graph ν) (weights : Results τ) {calls : List (Call τ)}
    (hplain : ∀ c ∈ calls, c.Plain) :
    List.Forall₂ (fun c o => ∃ d ∈ calls, c.Alike d ∧ o = c.plannedAs d mach g weights ∧
        (d.names = c.names → d.nodes = c.nodes → o = (execute mach g weights c.fed c.outputs []).1))
      calls (outcomes mach g weights calls []) := by
  have hstart : PlansOf g weights calls [] := fun _ hp => by cases hp
  refine (hstart.outcomes mach hplain (List.Subset.refl calls)).imp fun c o ⟨d, hd, halike, ho⟩ =>
    ⟨d, hd, halike, ho, fun hnames hnodes => ?_⟩
  have hplan : d.plan g weights = c.plan g weights := by rw [Call.plan, hnames, hnodes]; rfl
  rw [ho, Call.plannedAs, hplan, execute_eq, List.lookup_nil]
  cases c.plan g weights <;> rfl

/-! ## Names with commas -/

/-- The sums of what is read. -/
def adding : Machine (Tried) Unit Nat where
  key := id
  run n r c := match n.inputNames.mapM fun i => getTensor i r c with
    | some xs => .ok (.now [some (xs.foldl (· + ·) 0)],c)
    | none => .error (.failure "A tensor is missing.")
  dispose _ := .ok ()
  release _ := .ok ()
  isConstantEnter _ := false

def sums : Graph Unit :=
  let node name inputNames : Node Unit := { name, op := "AddN", category := none, inputNames, raw := () }
  (ofNodes [node "a" [],node "b" [],node "both" ["a","b"],node "a,b" ["both"],node "o" ["a,b"]]).toOption.getD
    ⟨[],[],[],[],[]⟩

def feeding (names : Strings) (x : Nat) : Call Nat := ⟨names.map (·,[some x]),["o"]⟩
def numbers? (o : Tried (Tried (List (Option Nat)))) : Option (List (Option Nat)) := o.toOption.bind Except.toOption

theorem outcomes_planned_sums : let c := feeding ["a", "b"] 1
    c.Plain ∧ (outcomes adding sums [] [c, c] []).map numbers? = [some [some 2], some [some 2]] := by
  have hplain : (feeding ["a", "b"] 1).Plain := by
    unfold Call.Plain
    decide +kernel
  have hcalls : ∀ c ∈ [feeding ["a", "b"] 1, feeding ["a", "b"] 1], c.Plain := by simpa using hplain
  have hall := (outcomes_planned adding sums [] hcalls).imp fun c o ⟨d, hd, _, ho, _⟩ => by
    obtain rfl : d = feeding ["a", "b"] 1 := by simpa using hd
    exact ho.symm
  rw [← List.forall₂_map_left_iff, List.forall₂_eq_eq_eq] at hall
  refine ⟨hplain, ?_⟩
  rw [← hall]
  decide +kernel

/-- The plan for a node with a comma in its name is taken for two nodes. -/
theorem outcomes_not_planned : let calls := [feeding ["a,b"] 5, feeding ["a", "b"] 1]
    (outcomes adding sums [] calls []).map numbers? = [some [some 5], none] ∧
      (calls.map fun c => numbers? (execute adding sums [] c.fed c.outputs []).1) = [some [some 5], some [some 2]] := by
  have hkey : (feeding ["a", "b"] 1).key = (feeding ["a,b"] 5).key := by cbv
  have hplan : (feeding ["a,b"] 5).plan sums [] = .ok ["a,b", "o"] := by rfl
  refine ⟨?_, by decide +kernel⟩
  simp only [outcomes, execute_eq, hplan, hkey, List.lookup_nil, List.lookup_cons_self]
  decide +kernel
end TensorKit.Graph
