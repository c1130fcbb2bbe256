import TensorKit.Layers.Batches
import Mathlib.Algebra.BigOperators.Group.List.Basic
import Mathlib.Algebra.Field.Basic
import Mathlib.Tactic.Ring

/-! # Reports of training and testing

What a batch reports is read by names, so the numbers have to stand where the names say. In exact arithmetic training
does that for every number of outputs. Testing puts the total after each output in front, which is right for one output
only.
-/
namespace TensorKit.Layers
open List
variable {K φ δ : Type} [Field K]
def rowMean (xs : List K) : K := xs.sum / xs.length

/-- Losses in exact arithmetic. A row has a number for each sample; a row of one is a number alone. -/
def exactLosses : LossOps Id (List K) where
  mean xs := [rowMean xs]
  add a b := zipWith (· + ·) a b
  keep _ := ()

/-- The losses of a batch, a row for each output. -/
def Judged.lossRows (j : Judged Id φ δ (List K)) (data : List δ) (training : Bool) : List (List K) :=
  j.measured data (j.forward training (data.take j.inputs)) j.measures.losses.zipIdx

/-- The report has a number for each name: the sum of the mean losses, then the mean loss of each output if there are
several. -/
structure Aligned (outputs names : List String) (losses report : List (List K)) : Prop where
  length : report.length = names.length
  total : report.head? = some [(losses.map rowMean).sum]
  own : 1 < outputs.length → ∀ i < outputs.length, names[i + 1]? = outputs[i]?.map (· ++ "_loss") ∧
    report[i + 1]? = losses[i]?.map fun loss => [rowMean loss]

/-- A model compiled with a loss for each of its outputs. Where weights of samples are left out, it weighs nothing. -/
structure Compiled (j : Judged Id φ δ (List K)) (outputs : List String) (losses : List φ)
    (metrics : List (List (String × φ))) : Prop where
  measures : j.measures = .of outputs losses metrics
  outputs_eq : j.outputs = outputs.length
  ne_nil : outputs ≠ []
  losses_eq : losses.length = outputs.length
  weigh : ∀ x, j.weigh j.missing x = x

/-! ## Sums of losses -/

theorem length_runningTotals (total : Option (List K)) (losses : List (List K)) :
    (exactLosses.runningTotals total losses).run.length = losses.length := by
  induction losses generalizing total with
  | nil => rfl
  | cons x xs ih => cases total <;> exact congrArg (· + 1) (ih _)

theorem rowMean_zipWith_add {xs ys : List K} (h : xs.length = ys.length) :
    rowMean (zipWith (· + ·) xs ys) = rowMean xs + rowMean ys := by
  unfold rowMean
  rw [← sum_add_sum_eq_sum_zipWith_of_length_eq _ _ h,length_zipWith,← h,min_self,add_div]

/-- The losses are added up before the mean is taken, which gives the sum of the means. -/
theorem sumLosses_run {losses : List (List K)} (hsome : total.isSome ∨ losses ≠ []) (htotal : ∀ x ∈ total, x.length = b)
    (hb : ∀ x ∈ losses, x.length = b) : ∃ sum, (exactLosses.sumLosses total losses).run =
    (some sum,losses.map fun x => [rowMean x]) ∧ rowMean sum = total.elim 0 rowMean + (losses.map rowMean).sum := by
  induction losses generalizing total with
  | nil =>
    obtain ⟨sum,rfl⟩ := Option.isSome_iff_exists.mp (hsome.resolve_right (by simp))
    exact ⟨sum,rfl,by simp⟩
  | cons x xs ih =>
    obtain ⟨hx,hb⟩ := forall_mem_cons.mp hb
    have hstep : ∃ t, t.length = b ∧ rowMean t = total.elim 0 rowMean + rowMean x ∧
        (exactLosses.sumLosses total (x :: xs)).run =
          (fun r => (r.1,[rowMean x] :: r.2)) (exactLosses.sumLosses (some t) xs).run := by
      cases total with
      | none => exact ⟨x,hx,(zero_add _).symm,rfl⟩
      | some t =>
        have ht := htotal t rfl
        exact ⟨zipWith (· + ·) t x,by simp [ht,hx],rowMean_zipWith_add (ht.trans hx.symm),rfl⟩
    obtain ⟨t,ht,hmean,hrun⟩ := hstep
    obtain ⟨sum,hsum,hall⟩ := @ih (some t) (.inl rfl) (by simpa using ht) hb
    refine ⟨sum,by rw [hrun,hsum]; rfl,?_⟩
    rw [hall,Option.elim_some,hmean,map_cons,sum_cons,add_assoc]

theorem trainMetrics_eq {means metrics : List (List K)} (h : 1 < n → ∀ i < n, metrics[i]?.map (fun x => [rowMean x]) =
    means[i]?) : (exactLosses.trainMetrics n means metrics).run = metrics.map fun x => [rowMean x] := by
  rw [LossOps.trainMetrics,idRun_mapM]
  apply ext_getElem?
  intro i
  rw [getElem?_map,getElem?_zipIdx,getElem?_map]
  cases hi : metrics[i]? with
  | none => rfl
  | some x =>
    by_cases hown : 1 < n ∧ i < n
    · have hv := h hown.1 i hown.2
      simp only [hi,Option.map_some,Nat.zero_add,← hv,hown]
      rfl
    · cases hmean : means[i]? <;> simp [hmean,hown] <;> rfl

theorem trainReport_run {losses metrics means : List (List K)}
    {sum : List K} (h : (exactLosses.sumLosses none losses).run = (some sum,means)) : (exactLosses.trainReport
    n losses metrics (pure [])).run = (some [rowMean sum],(exactLosses.trainMetrics n means metrics).run) := by
  have hsum : exactLosses.sumLosses none losses = pure (some sum,means) := h
  rw [LossOps.trainReport,hsum]
  rfl

/-! ## What is measured -/

variable {outputs : List String} {losses : List φ} {metrics : List (List (String × φ))}
theorem length_names_of : (Measures.of outputs losses metrics).names.length =
    (Measures.of outputs losses metrics).fns.length + 1 := by
  simp [Measures.of]

/-- With several outputs the losses come first among what is reported beside the total. -/
theorem fns_of (hmany : 1 < outputs.length) (hlosses : losses.length = outputs.length) (hi : i < outputs.length) :
    (Measures.of outputs losses metrics).fns[i]? =
    losses[i]?.map (·,i) ∧ (Measures.of outputs losses metrics).names[i + 1]? = outputs[i]?.map (· ++ "_loss") := by
  simp [Measures.of,hmany,getElem?_append,hlosses,hi]

variable {j : Judged Id φ δ (List K)} {data : List δ}
/-- The rows of what is reported beside the total. -/
def Judged.rows (j : Judged Id φ δ (List K)) (data : List δ) (training : Bool) : List (List K) :=
  j.measured data (j.forward training (data.take j.inputs)) j.measures.fns

theorem testBatch_run : (exactLosses.testBatch j data).run =
    (exactLosses.runningTotals none (j.lossRows data false)).run ++ (j.rows data false).map fun x => [rowMean x] := by
  have hmap : (mapM (fun k => do exactLosses.mean (← k)) (j.rows data false)).run =
      (j.rows data false).map fun x => [rowMean x] := idRun_mapM
  rw [← hmap]
  rfl

namespace Compiled
variable (h : Compiled j outputs losses metrics)
include h
omit [Field K] in
theorem length_lossRows (training : Bool) : (j.lossRows data training).length = outputs.length := by
  simp [Judged.lossRows,Judged.measured,h.measures,Measures.of,h.losses_eq]

omit [Field K] in
/-- Without weights of samples the losses are left as they are. -/
theorem weighed_eq (hdata : data.length = j.inputs + j.outputs) (outs : List δ) :
    j.weighed data outs = j.measured data outs j.measures.losses.zipIdx := by
  have hnone : j.weights data = [] := by simp [Judged.weights,hdata]
  unfold Judged.weighed
  apply ext_getElem?
  intro i
  rw [getElem?_map,getElem?_zipIdx,hnone]
  cases (j.measured data outs j.measures.losses.zipIdx)[i]? with
  | none => rfl
  | some x => exact congrArg some (h.weigh x)

omit [Field K] in
theorem rows_own (hmany : 1 < outputs.length) (training : Bool) (hi : i < outputs.length) :
    (j.rows data training)[i]? = (j.lossRows data training)[i]? := by
  have hfns : (Measures.of outputs losses metrics).fns[i]? = losses[i]?.map (·,i) := (fns_of hmany h.losses_eq hi).1
  simp only [Judged.rows,Judged.lossRows,Judged.measured,getElem?_map,getElem?_zipIdx]
  rw [h.measures,hfns,Nat.zero_add]
  rfl

theorem trainBatch_run (hdata : data.length = j.inputs + j.outputs) (hb : ∀ x ∈ j.lossRows data true, x.length = b) :
    (exactLosses.trainBatch j data (pure [])).run =
    (some [((j.lossRows data true).map rowMean).sum],(j.rows data true).map fun x => [rowMean x]) := by
  have hne : j.lossRows data true ≠ [] := by
    rw [← length_pos_iff,h.length_lossRows]
    exact length_pos_iff.mpr h.ne_nil
  obtain ⟨sum,hsum,hmean⟩ := @sumLosses_run K _ none b _ (.inr hne) (by simp) hb
  have hmetrics : (exactLosses.trainMetrics j.outputs ((j.lossRows data true).map fun x => [rowMean x])
      (j.rows data true)).run = (j.rows data true).map fun x => [rowMean x] := by
    apply trainMetrics_eq
    intro hmany i hi
    rw [h.outputs_eq] at hmany hi
    rw [h.rows_own hmany true hi,getElem?_map]
  rw [Option.elim_none,zero_add] at hmean
  rw [← hmean,← hmetrics,← trainReport_run hsum]
  simp only [LossOps.trainBatch,h.weighed_eq hdata]
  rfl
end Compiled

/-- For every model and batch, training reports what the names say, and testing does if and only if there is one output:
then both report the same, as far as the model computes the same outputs. -/
theorem testBatch_aligned_iff {b : Nat} (h : Compiled j outputs losses metrics)
    (hdata : data.length = j.inputs + j.outputs) (hb : ∀ x ∈ j.lossRows data true, x.length = b) :
    (Aligned outputs j.measures.names (j.lossRows data false) (exactLosses.testBatch j data).run ↔ outputs.length = 1) ∧
    ∃ total values, (exactLosses.trainBatch j data (pure [])).run = (some total, values) ∧
      Aligned outputs j.measures.names (j.lossRows data true) (total :: values) ∧
      (j.forward true (data.take j.inputs) = j.forward false (data.take j.inputs) →
        ((exactLosses.testBatch j data).run = total :: values ↔ outputs.length = 1)) := by
  have hnames : j.measures.names.length = j.measures.fns.length + 1 := by rw [h.measures, length_names_of]
  have htest : (exactLosses.testBatch j data).run.length = outputs.length + j.measures.fns.length := by
    rw [testBatch_run, List.length_append, length_runningTotals, h.length_lossRows]
    simp [Judged.rows, Judged.measured]
  have hreport (hone : outputs.length = 1) : (exactLosses.testBatch j data).run =
      [((j.lossRows data false).map rowMean).sum] :: (j.rows data false).map fun x => [rowMean x] := by
    obtain ⟨x, hx⟩ := List.length_eq_one_iff.mp ((h.length_lossRows false).trans hone)
    rw [testBatch_run, hx, List.map_singleton, List.sum_singleton]
    rfl
  have haligned (training : Bool) : Aligned outputs j.measures.names (j.lossRows data training)
      ([((j.lossRows data training).map rowMean).sum] :: (j.rows data training).map fun x => [rowMean x]) := by
    refine ⟨?_, rfl, fun hmany i hi => ⟨?_, ?_⟩⟩
    · simp [hnames, Judged.rows, Judged.measured]
    · rw [h.measures]
      exact (fns_of hmany h.losses_eq hi).2
    · rw [List.getElem?_cons_succ, List.getElem?_map, h.rows_own hmany training hi]
  refine ⟨⟨fun hfits => ?_, fun hone => hreport hone ▸ haligned false⟩, _, _, h.trainBatch_run hdata hb,
    haligned true, fun hsame => ⟨fun hequal => ?_, fun hone => ?_⟩⟩
  · have := hfits.length
    omega
  · have := congrArg List.length hequal
    simp only [htest, List.length_cons, List.length_map, Judged.rows, Judged.measured] at this
    omega
  · rw [hreport hone]
    simp only [Judged.lossRows, Judged.rows, hsame]

/-- Both outputs are the input itself, and losses are squares of differences. -/
def copied : Judged Id Unit (List ℚ) (List ℚ) where
  inputs := 1
  outputs := 2
  measures := .of ["a","b"] [(),()] [[],[]]
  forward _ ins := [ins.headD [],ins.headD []]
  measure _ wanted given := zipWith (fun t x => (x - t) * (x - t)) wanted given
  weigh _ loss := loss
  missing := []

theorem testBatch_aligned_iff_copied :
    ¬ Aligned ["a", "b"] copied.measures.names (copied.lossRows [[1], [2], [3]] false)
      (exactLosses.testBatch copied [[1], [2], [3]]).run ∧
    ∃ total values, (exactLosses.trainBatch copied [[1], [2], [3]] (pure [])).run = (some total, values) ∧
      Aligned ["a", "b"] copied.measures.names (copied.lossRows [[1], [2], [3]] true) (total :: values) := by
  have hrows : ∀ x ∈ copied.lossRows [[1], [2], [3]] true, x.length = 1 := by decide
  obtain ⟨htest, total, values, hrun, haligned, -⟩ := testBatch_aligned_iff
    (⟨rfl, rfl, by simp, rfl, fun _ => rfl⟩ : Compiled copied ["a", "b"] [(), ()] [[], []]) rfl hrows
  exact ⟨fun h => absurd (htest.mp h) (by decide), total, values, hrun, haligned⟩

/-- Three names, and four numbers: the loss of the first output, the total, and then the losses. -/
theorem testBatch_two_outputs : copied.measures.names = ["loss", "a_loss", "b_loss"] ∧
    (exactLosses.testBatch copied [[1], [2], [3]]).run = [[1], [5], [1], [4]] ∧
    (exactLosses.trainBatch copied [[1], [2], [3]] (pure [])).run = (some [5], [[1], [4]]) := by
  exact ⟨by decide, by decide +kernel, by decide +kernel⟩
end TensorKit.Layers
