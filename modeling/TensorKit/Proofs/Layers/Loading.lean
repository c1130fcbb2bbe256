import TensorKit.Layers.Topology
import Mathlib.Data.List.Nodup

/-! # Loading of named weights

Names are compared before anything is written. Values are then written in turn, and a write that fails leaves those
before it in place.
-/
namespace TensorKit.Layers
open List
variable {α β ν τ σ : Type} (targets : List (String × ν)) (values : List (String × τ))
def keysOf (entries : Named α) : Strings := entries.map (·.1)

/-- Every target has a name of its own, and values are given for these names and no others. -/
def NamesAgree : Prop := (keysOf targets).Nodup ∧ ∀ n, n ∈ keysOf targets ↔ n ∈ keysOf values

/-- The values with the targets of their names. -/
def paired : List (ν × τ) := values.filterMap fun x => (targets.lookup x.1).map (·,x.2)

theorem toOption_bind (x : Tried α) (f : α → Tried β) :
    (x >>= f).toOption = x.toOption.bind fun a => (f a).toOption := by
  cases x <;> rfl

theorem toOption_addTarget (seen : Named ν) (t : String × ν) :
    (addTarget seen t).toOption = if t.1 ∈ keysOf seen then none else some (seen ++ [t]) := by
  have hany : seen.any (·.1 == t.1) = true ↔ t.1 ∈ keysOf seen := by simp [keysOf]
  unfold addTarget
  by_cases h : t.1 ∈ keysOf seen
  · rw [if_pos (hany.2 h),if_pos h]
    rfl
  · rw [if_neg (mt hany.1 h),if_neg h]
    rfl

theorem toOption_addTargets : ∀ (rest seen : Named ν), (keysOf seen).Nodup →
    (rest.foldlM addTarget seen).toOption = if (keysOf (seen ++ rest)).Nodup then some (seen ++ rest) else none
  | [], seen, h => by simp [h]; rfl
  | t :: rest, seen, h => by
    rw [foldlM_cons,toOption_bind,toOption_addTarget]
    by_cases ht : t.1 ∈ keysOf seen
    · have hdup : ¬(keysOf (seen ++ t :: rest)).Nodup := by
        simp only [keysOf,map_append,map_cons,nodup_append] at ht ⊢
        exact fun hn => hn.2.2 _ ht _ (by simp) rfl
      simp [ht,hdup]
    · have hseen : (keysOf (seen ++ [t])).Nodup := by
        simp only [keysOf,map_append,map_cons,map_nil] at ht h ⊢
        exact nodup_append.2 ⟨h,by simp,by grind⟩
      simpa [ht] using toOption_addTargets rest (seen ++ [t]) hseen

theorem lookup_isSome (n : String) : (targets.lookup n).isSome ↔ n ∈ keysOf targets := by simp [keysOf]

theorem toOption_addPairs : ∀ values (pairs : List (ν × τ)),
    (values.foldlM (addPair targets true) pairs).toOption =
      if ∀ n ∈ keysOf values, n ∈ keysOf targets then some (pairs ++ paired targets values) else none
  | [], pairs => by simp [keysOf,paired]; rfl
  | x :: values, pairs => by
    have hx := lookup_isSome targets x.1
    rw [foldlM_cons,toOption_bind,addPair]
    cases h : targets.lookup x.1 with
    | none =>
      have hx : x.1 ∉ keysOf targets := by simpa [h] using hx
      rw [if_neg fun hall : ∀ n ∈ keysOf (x :: values), n ∈ keysOf targets => hx (hall x.1 (by simp [keysOf]))]
      rfl
    | some t =>
      have hx : x.1 ∈ keysOf targets := by simpa [h] using hx
      have ih := toOption_addPairs values (pairs ++ [(t,x.2)])
      have hall : (∀ n ∈ keysOf (x :: values), n ∈ keysOf targets) ↔ ∀ n ∈ keysOf values, n ∈ keysOf targets :=
        forall_mem_cons.trans (and_iff_right hx)
      have hp : paired targets (x :: values) = (t,x.2) :: paired targets values := by simp [paired,h]
      show (values.foldlM (addPair targets true) (pairs ++ [(t,x.2)])).toOption = _
      simpa [hall,hp] using ih

theorem toOption_matchWeights : (matchWeights targets values true).toOption =
    if (keysOf targets).Nodup ∧ (∀ n ∈ keysOf values, n ∈ keysOf targets) ∧ ∀ n ∈ keysOf targets,
    n ∈ keysOf values then some (paired targets values) else none := by
  rw [matchWeights,toOption_bind,toOption_addTargets _ _ (by simp [keysOf])]
  by_cases h : (keysOf targets).Nodup
  · simp only [nil_append,h,if_true,Option.bind_some,toOption_bind,toOption_addPairs,true_and]
    by_cases hv : ∀ n ∈ keysOf values, n ∈ keysOf targets
    · have hunset : (((targets.map (·.1)).filter fun n => !values.any (·.1 == n)).isEmpty = true) ↔
          ∀ n ∈ keysOf targets, n ∈ keysOf values := by
        simp [keysOf]
      by_cases ht : ∀ n ∈ keysOf targets, n ∈ keysOf values
      · rw [if_pos hv,if_pos ⟨hv,ht⟩,hunset.2 ht]
        rfl
      · rw [if_pos hv,if_neg (ht ·.2),Bool.eq_false_iff.2 (mt hunset.1 ht)]
        rfl
    · simp [hv]
  · simp [h]

/-- A strict load fails before it writes, unless the names agree; then it writes the values in turn, and a write that
fails ends it after those before. -/
theorem loadInto_strict (write : ν → τ → EStateM Fault σ Unit) (s : σ) :
    (¬NamesAgree targets values → ∃ f, loadInto targets write values true s = .error f s) ∧
    (NamesAgree targets values →
      loadInto targets write values true s = ((paired targets values).forM fun p => write p.1 p.2) s ∧
      ∀ done p rest u f t, paired targets values = done ++ p :: rest →
        (done.forM fun p => write p.1 p.2) s = .ok () u → write p.1 p.2 u = .error f t →
          loadInto targets write values true s = .error f t) := by
  have hmatch := toOption_matchWeights targets values
  constructor
  · intro h
    rw [if_neg fun hn => h ⟨hn.1, fun n => ⟨hn.2.2 n, hn.2.1 n⟩⟩] at hmatch
    cases hm : matchWeights targets values true with
    | ok ps => simp [hm, Except.toOption] at hmatch
    | error f => exact ⟨f, by rw [loadInto, hm]; rfl⟩
  · intro h
    rw [if_pos ⟨h.1, fun n => (h.2 n).2, fun n => (h.2 n).1⟩] at hmatch
    have hload : loadInto targets write values true s = ((paired targets values).forM fun p => write p.1 p.2) s := by
      cases hm : matchWeights targets values true with
      | error f => simp [hm, Except.toOption] at hmatch
      | ok ps =>
        obtain rfl : ps = paired targets values := by simpa [hm, Except.toOption] using hmatch
        rw [loadInto, hm]
        rfl
    refine ⟨hload, fun done p rest u f t hp hdone hfail => ?_⟩
    rw [hload, hp, List.forM_eq_forM, List.forM_append, List.forM_cons]
    simp only [List.forM_eq_forM] at hdone
    simp [bind, EStateM.bind, hdone, hfail]
end TensorKit.Layers
