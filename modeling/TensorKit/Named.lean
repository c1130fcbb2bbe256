/-! # Things under their keys

What is put under a key takes the place of what was there, or else comes last.
-/

namespace TensorKit
/-- Things under their names, in order. -/
abbrev Named (α : Type) := List (String × α)
abbrev Strings := List String
abbrev Nats := List Nat
abbrev Ints := List Int
abbrev Floats := List Float
abbrev Chars := List Char
abbrev Bytes := List UInt8
end TensorKit

namespace List
variable {κ α : Type} [BEq κ]
def put (l : List (κ × α)) (k : κ) (a : α) : List (κ × α) := match l with
  | [] => [(k,a)]
  | (k',b) :: l => if k' == k then (k',a) :: l else (k',b) :: l.put k a

variable [LawfulBEq κ] {l : List (κ × α)} {k n : κ} {a : α}
theorem put_of_not_mem (h : k ∉ l.map (·.1)) : l.put k a = l ++ [(k,a)] := by
  induction l with
  | nil => rfl
  | cons p l ih => grind [put]

theorem keys_put : (l.put k a).map (·.1) = if k ∈ l.map (·.1) then l.map (·.1) else l.map (·.1) ++ [k] := by
  induction l with
  | nil => simp [put]
  | cons p l ih => grind [put]
theorem nodup_put (h : (l.map (·.1)).Nodup) : ((l.put k a).map (·.1)).Nodup := by
  rw [keys_put]
  split <;> grind

variable [DecidableEq κ]
theorem lookup_cons_eq (p : κ × α) : (p :: l).lookup n = if n = p.1 then some p.2 else l.lookup n := by grind

theorem lookup_put : (l.put k a).lookup n = if n = k then some a else l.lookup n := by
  induction l with
  | nil => grind [put]
  | cons p l ih => grind [put]

theorem mem_iff_lookup (h : (l.map (·.1)).Nodup) : (n,a) ∈ l ↔ l.lookup n = some a := by
  induction l with
  | nil => simp
  | cons p l ih => grind
end List
