import TensorKit.Layers.Execute
import Mathlib.Data.List.Nodup

/-! # Weights that disposal frees -/
namespace TensorKit.Layers.Lives
open List
variable {s : Lives} {i j : Nat} {n : Int} (bound : Nat)
/-- The state with other uses of one layer, and with more weights freed. -/
def put (s : Lives) (i : Nat) (n : Int) (ws : Nats) : Lives where
  layers := s.layers.modify i fun l => { l with uses := some n }
  freed := s.freed ++ ws

/-- What giving up one use of a layer frees. -/
def spent (l : Life) : Nats := if l.uses = some 1 then l.weights else []

end TensorKit.Layers.Lives
