import TensorKit.Flow.Node

/-!
# Fusing rectifiers

`relu x + (-alpha) * relu (-x)` is one operation of `x` and `alpha`. It stands where `relu x` stood, and the
sum becomes a copy of it.
-/
namespace TensorKit.Flow
variable {κ α : Type}
/-- The nodes around a sum that is a rectifier. -/
structure RectifierParts (κ α : Type) where
  (relu mul reluNeg neg : NodeOf κ α)
  /-- The reference to the factor of numbers below zero. -/
  alpha : String

variable (g : GraphOf κ α) (n : NodeOf κ α)
def NodeOf.has (op : String) (inputs : Nat) : Bool := n.op == op && n.inputs.length == inputs

def rectifierAt (sum : NodeOf κ α) : Checked (Option (RectifierParts κ α)) := do
  let [a,b] := sum.inputs | return none
  if sum.op != "Add" && sum.op != "AddV2" then return none
  let relu ← Graph.resolve g a
  if !relu.has "Relu" 1 then return none
  let mul ← Graph.resolve g b
  match mul.inputs with
  | [c,d] =>
    if mul.op != "Mul" then return none
    let negAlpha ← Graph.resolve g c
    let [alpha] := negAlpha.inputs | return none
    let reluNeg ← Graph.resolve g d
    let [e] := reluNeg.inputs | return none
    if reluNeg.op != "Relu" then return none
    let neg ← Graph.resolve g e
    if !neg.has "Neg" 1 then return none
    if relu.inputs != neg.inputs then return none
    return some ⟨relu,mul,reluNeg,neg,alpha⟩
  | _ => return none

structure Fusing (κ α : Type) where
  graph : GraphOf κ α
  gone : Strings := []

def fuseAt (s : Fusing κ α) (name : String) : Checked (Fusing κ α) := do
  let some sum := Graph.find? s.graph name | return s
  let some p ← rectifierAt s.graph sum | return s
  let graph := Graph.update s.graph p.relu.name fun n => { n with op := "Prelu", inputs := n.inputs ++ [p.alpha] }
  let graph := Graph.update graph sum.name fun n => { n with op := "Identity", inputs := [p.relu.name] }
  return ⟨graph,s.gone ++ [p.mul.name,p.reluNeg.name,p.neg.name]⟩

def fusePrelu : Checked (GraphOf κ α) := do
  Graph.checkNames g
  let s ← (g.map (·.name)).foldlM fuseAt { graph := g }
  return s.graph.filter fun n => !s.gone.contains n.name
def NodeOf.fusedOps : Strings := (n.attr "fused_ops").texts?
def NodeOf.withPrelu (alpha : String) : NodeOf κ α :=
  ({ n with inputs := n.inputs ++ [alpha] }.setAttr "fused_ops" (.texts (n.fusedOps ++ ["Prelu"]))).setAttr
    "num_args" (.int ((n.attr "num_args").int? + 1))

/-- Gives the rectifier at the node of a name to the convolution before it, unless that has one. -/
def fuseConvAt (name : String) : Checked (GraphOf κ α) := do
  let some node := Graph.find? g name | return g
  match node.inputs with
  | [x,alpha] =>
    if node.op != "Prelu" then return g
    let conv ← Graph.resolve g x
    if conv.op != "_FusedConv2D" || conv.fusedOps.length > 1 then return g
    return Graph.update (Graph.update g conv.name (·.withPrelu alpha)) name fun n => { n with op := "Identity", inputs := [x] }
  | _ => return g

def fusePreluWithConv : Checked (GraphOf κ α) := do
  Graph.checkNames g
  (g.map (·.name)).foldlM fuseConvAt g
end TensorKit.Flow
