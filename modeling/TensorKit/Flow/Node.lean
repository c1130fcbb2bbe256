import TensorKit.Convert.Archived

/-!
# Nodes of a graph

A node has a name, an operation, references to its inputs, and attributes. Names are looked up in the whole
graph, so a graph is a list of nodes. Attributes hold arrays of one type and numbers of another; `Node` and
`Graph` are those with stored arrays and doubles.
-/
namespace TensorKit.Flow
open Convert (nodeName)
inductive AttrOf (κ α : Type) where
  /-- An attribute that was asked for and has no value. -/
  | unset
  | tensor (g : κ)
  /-- The type and the shape of a tensor whose elements are kept elsewhere. -/
  | outline (e : Element) (shape : Nats)
  | texts (xs : Strings)
  | dtype (name : String)
  | text (s : String)
  | float (x : α)
  | int (n : Int)
  | bool (b : Bool)

structure NodeOf (κ α : Type) where
  (name op : String)
  inputs : Strings := []
  attrs : Named (AttrOf κ α) := []
  device : String := ""

abbrev GraphOf (κ α : Type) := List (NodeOf κ α)
abbrev Attr := AttrOf Grid Float
abbrev Node := NodeOf Grid Float
abbrev Graph := GraphOf Grid Float
variable {κ α : Type}
namespace NodeOf
variable (n : NodeOf κ α) (key : String)
def attr? : Option (AttrOf κ α) := n.attrs.lookup key
def attr (n : NodeOf κ α) (key : String) : AttrOf κ α := (n.attr? key).getD .unset
def setAttr (a : AttrOf κ α) : NodeOf κ α := { n with attrs := n.attrs.put key a }
def touch : NodeOf κ α := if (n.attr? key).isSome then n else n.setAttr key .unset
def input (place : Nat) : Checked String := match n.inputs[place]? with
  | some r => .ok r
  | none => .error (.plain .badIndex)
def constant : Checked κ :=
  if n.op != "Const" then .error (.badValue s!"Node named '{n.name}' should be a Const op for values_from_const.")
  else
    match n.attr "value" with
    | .tensor g => .ok g
    | _ => .error .badType
end NodeOf
namespace AttrOf
def float? [OfNat α 0] : AttrOf κ α → α
  | float x => x
  | _ => 0
def int? : AttrOf κ α → Int
  | int n => n
  | _ => 0
def bool? : AttrOf κ α → Bool
  | bool b => b
  | _ => false
def texts? : AttrOf κ α → Strings
  | texts xs => xs
  | _ => []
end AttrOf
namespace Graph
def find? (g : GraphOf κ α) (name : String) : Option (NodeOf κ α) := List.find? (fun n => n.name == name) g

variable (g : GraphOf κ α)
def resolve (reference : String) : Checked (NodeOf κ α) := match find? g (nodeName reference) with
  | some n => .ok n
  | none => .error (.badValue s!"No node named '{reference}' found in map.")
def inputOf (n : NodeOf κ α) (place : Nat) : Checked (NodeOf κ α) := do resolve g (← n.input place)
def update (name : String) (f : NodeOf κ α → NodeOf κ α) : GraphOf κ α :=
  .map (fun n => if n.name == name then f n else n) g
def repeated? (seen : Strings) : GraphOf κ α → Option String
  | [] => none
  | n :: rest => if seen.contains n.name then some n.name else repeated? (n.name :: seen) rest
def checkNames : Checked Unit := match repeated? [] g with
  | some name => .error (.badValue s!"Duplicate node names detected for  {name}")
  | none => .ok ()
end Graph

def constValue (n : Node) : Checked Grid := n.constant.map .loosened
abbrev Pass := EStateM Refusal Strings

namespace Pass
def warn (text : String) : Pass Unit := modify fun log => log ++ ["warning " ++ text]
def ofExcept {α : Type} : Checked α → Pass α
  | .ok a => pure a
  | .error e => throw e
end Pass
end TensorKit.Flow
