import TensorKit.Layers.Topology
import Mathlib.Data.List.Nodup
import Mathlib.Order.Bounds.Basic

/-! # The depths of a model

The search of a model finds what its outputs depend on, each call behind those whose outputs it takes. Depths are given
out the other way around, so a call gets its own when all that take its outputs have theirs.
-/
namespace TensorKit.Layers.Topology
open List Search
variable {calls : Calls} {roots inputs : Nats} {n : Nat}
variable {l done known before : Nats} {d : Depths}
variable {groups : List (Nat × Nats)}
/-- What outputs depend on: the calls that give them, and those whose outputs these take. -/
inductive Reached (calls : Calls) (roots : Nats) : Nat → Prop
  | root {n : Nat} (h : n ∈ roots) : Reached calls roots n
  | source {n s : Nat} (h : Reached calls roots n) (hs : s ∈ (calls n).sources) : Reached calls roots s

/-- Calls as layers are applied: to outputs of older calls. Inputs of the model are calls that give what they take. -/
structure Applied (calls : Calls) : Prop where
  older : ∀ n, ∀ s ∈ (calls n).sources, s < n
  taken : ∀ n, (calls n).sources ≠ [] → ∀ t ∈ (calls n).inputs, ∃ s ∈ (calls n).sources, t ∈ (calls s).outputs
  given : ∀ n, (calls n).sources = [] → (calls n).inputs = (calls n).outputs
  own : ∀ m n t, t ∈ (calls m).outputs → t ∈ (calls n).outputs → m = n

theorem Reached.trans (h : Reached calls ns n) (hns : ∀ m ∈ ns, Reached calls roots m) : Reached calls roots n := by
  induction h with
  | root h => exact hns _ h
  | source _ hs ih => exact ih.source hs

theorem Reached.le (hcalls : Applied calls) (h : Reached calls roots n) : ∃ r ∈ roots, n ≤ r := by
  induction h with
  | root h => exact ⟨_,h,le_rfl⟩
  | source _ hs ih =>
    obtain ⟨r,hr,hle⟩ := ih
    exact ⟨r,hr,(hcalls.older _ _ hs).le.trans hle⟩

/-! ## The search -/

/-- Calls in a row, each once and behind those whose outputs it takes. -/
inductive InRow (calls : Calls) : Nats → Prop
  | nil : InRow calls []
  | snoc {l : Nats} {n : Nat} (h : InRow calls l) (hnew : n ∉ l) (hs : (calls n).sources ⊆ l) : InRow calls (l ++ [n])

theorem InRow.closed (h : InRow calls l) (hn : n ∈ l) : (calls n).sources ⊆ l := by
  induction h with
  | nil => cases hn
  | snoc _ _ hs ih =>
    rcases mem_append.mp hn with hn | hn
    · exact fun s h => mem_append_left _ (ih hn h)
    · exact fun s h => mem_append_left _ (hs (mem_singleton.mp hn ▸ h))

structure Search.Sound (calls : Calls) (s : Search) : Prop where
  row : InRow calls s.finished
  nodup : s.layers.Nodup
  layers : ∀ l, l ∈ s.layers ↔ ∃ n, n ∈ s.finished ++ s.inProgress ∧ (calls n).layer = l

/-- From `s` to `s'` the search met some calls, with all that they depend on and nothing else. -/
structure Search.Meets (calls : Calls) (ns : Nats) (s s' : Search) : Prop where
  sound : s'.Sound calls
  inProgress : s'.inProgress = s.inProgress
  keeps : s.finished ⊆ s'.finished
  meets : ns ⊆ s'.finished
  only : ∀ m ∈ s'.finished, m ∈ s.finished ∨ Reached calls ns m

theorem meets_foldlM {P : Nat → Search → Prop}
    {f : Search → Nat → Except Problem Search} (hP : ∀ n s s', s'.inProgress = s.inProgress → P n s → P n s')
    (hf : ∀ s n, s.Sound calls → P n s → ∃ s', f s n = .ok s' ∧ Search.Meets calls [n] s s') (ns : Nats)
    (hs : s.Sound calls) (hns : ∀ n ∈ ns, P n s) : ∃ s', ns.foldlM f s = .ok s' ∧ Search.Meets calls ns s s' := by
  induction ns generalizing s with
  | nil => exact ⟨s,rfl,hs,rfl,.refl _,nil_subset _,fun m hm => .inl hm⟩
  | cons n ns ih =>
    obtain ⟨s₁,h₁,hfirst⟩ := hf s n hs (hns n mem_cons_self)
    obtain ⟨s₂,h₂,hrest⟩ := ih hfirst.sound fun m hm => hP m s s₁ hfirst.inProgress (hns m (mem_cons_of_mem _ hm))
    refine ⟨s₂,by rw [foldlM_cons,h₁]; exact h₂,hrest.sound,hrest.inProgress.trans hfirst.inProgress,
      fun k hk => hrest.keeps (hfirst.keeps hk),?_,fun m hm => ?_⟩
    · exact cons_subset.mpr ⟨hrest.keeps (hfirst.meets mem_cons_self),hrest.meets⟩
    · rcases hrest.only m hm with hm | hm
      · exact (hfirst.only m hm).imp_right fun h => h.trans fun k hk => .root (by simp_all)
      · exact .inr (hm.trans fun k hk => .root (mem_cons_of_mem _ hk))

theorem explore_meets (hcalls : Applied calls) (bound : Nat) (s : Search) (n : Nat) (hs : s.Sound calls) (hn :
    n < bound ∧ ∀ p ∈ s.inProgress, n < p) : ∃ s', explore calls bound s n = .ok s' ∧ Search.Meets calls [n] s s' := by
  induction bound generalizing s n with
  | zero => omega
  | succ bound ih =>
    have hfree : n ∉ s.inProgress := fun h => absurd (hn.2 n h) (lt_irrefl n)
    rw [explore,if_neg (by simpa using hfree)]
    by_cases hfin : n ∈ s.finished
    · rw [if_pos (by simpa using hfin)]
      exact ⟨s,rfl,hs,rfl,.refl _,by simpa using hfin,fun m hm => .inl hm⟩
    rw [if_neg (by simpa using hfin)]
    have hin : (s.enter n (calls n).layer).Sound calls := by
      refine ⟨hs.row,?_,fun l => ?_⟩
      · have := hs.nodup
        simp only [enter]
        split <;> grind
      · have := hs.layers
        simp only [enter]
        grind
    obtain ⟨s',hrun,hmeets⟩ := meets_foldlM (P := fun n s => n < bound ∧ ∀ p ∈ s.inProgress, n < p)
      (fun n s s' h hn => h ▸ hn) ih (calls n).sources hin fun k hk => by
        have := hcalls.older n k hk
        simp only [enter,mem_append,mem_singleton]
        exact ⟨by omega,by rintro p (hp | rfl); exacts [this.trans (hn.2 p hp),this]⟩
    have hnew : n ∉ s'.finished := by
      intro h
      obtain ⟨k,hk,hle⟩ := ((hmeets.only n h).resolve_left hfin).le hcalls
      exact absurd (hcalls.older n k hk) (by omega)
    have hprogress : s'.inProgress.filter (· != n) = s.inProgress := by
      rw [hmeets.inProgress,enter,filter_append,filter_eq_self.mpr]
      · simp
      · intro p hp
        simpa using fun h : p = n => hfree (h ▸ hp)
    refine ⟨s'.leave n,by rw [hrun]; rfl,⟨hmeets.sound.row.snoc hnew hmeets.meets,hmeets.sound.nodup,fun l => ?_⟩,
      hprogress,fun m hm => mem_append_left _ (hmeets.keeps hm),by simp [leave],fun m hm => ?_⟩
    · have := hmeets.sound.layers l
      have hmem := hmeets.inProgress
      simp only [leave]
      simp only [enter] at hmem
      grind
    · rcases mem_append.mp hm with hm | hm
      · exact (hmeets.only m hm).imp_right fun h => h.trans fun k hk => .source (.root (by simp)) hk
      · exact .inr (.root hm)

/-! ## Depths -/

variable {e : List (Nat × Nat)} {k v : Nat} (depth : Nat) (ss : Nats)
theorem lookup_foldl_sink (d : Depths) : (ss.foldl (sink depth) d).calls.lookup n =
    if n ∈ ss then some (max (depth + 1) (depthOf d.calls n)) else d.calls.lookup n := by
  induction ss generalizing d with
  | nil => simp
  | cons s ss ih =>
    rw [foldl_cons,ih]
    simp only [sink,depthOf,lookup_put]
    grind

theorem foldl_sink_keeps (h : (d.calls.map (·.1)).Nodup) :
    ((ss.foldl (sink depth) d).calls.map (·.1)).Nodup ∧ (ss.foldl (sink depth) d).layers = d.layers :=
  foldlRecOn (motive := fun d' : Depths => (d'.calls.map (·.1)).Nodup ∧ d'.layers = d.layers) ss (sink depth) ⟨h,rfl⟩
    fun _ h _ _ => ⟨nodup_put h.1,h.2⟩

/-- Depths after some calls have got theirs. -/
structure Placed (calls : Calls) (done : Nats) (d : Depths) : Prop where
  nodup : (d.calls.map (·.1)).Nodup ∧ (d.layers.map (·.1)).Nodup
  known : ∀ m, (d.calls.lookup m).isSome ↔ m ∈ done ∨ ∃ n ∈ done, m ∈ (calls n).sources
  layers : ∀ l, (d.layers.lookup l).isSome ↔ ∃ n ∈ done, (calls n).layer = l
  deeper : ∀ n ∈ done, ∀ s ∈ (calls n).sources, depthOf d.calls n < depthOf d.calls s
  bound : ∀ n ∈ done, depthOf d.calls n ≤ depthOf d.layers (calls n).layer
  attained : ∀ n ∈ done, ∃ m ∈ done, (calls m).layer = (calls n).layer ∧
    depthOf d.calls m = depthOf d.layers (calls n).layer

theorem placed_place (h : Placed calls done d) (hn : n ∉ done) (hs : ∀ s ∈ (calls n).sources, s ∉ n :: done) :
    Placed calls (n :: done) (place calls d n) := by
  obtain ⟨depth,hdepth⟩ : ∃ depth, depth = max (depthOf d.calls n) (depthOf d.layers (calls n).layer) := ⟨_,rfl⟩
  have hplace : place calls d n = (calls n).sources.foldl (sink depth)
      ⟨d.calls.put n depth,d.layers.put (calls n).layer depth⟩ := by rw [hdepth]; rfl
  have hcalls m : (place calls d n).calls.lookup m = if m ∈ (calls n).sources
      then some (max (depth + 1) (depthOf d.calls m)) else if m = n then some depth else d.calls.lookup m := by
    rw [hplace,lookup_foldl_sink]
    simp only [depthOf,lookup_put]
    grind
  have hkeeps := foldl_sink_keeps depth (calls n).sources (d := ⟨d.calls.put n depth,
    d.layers.put (calls n).layer depth⟩) (nodup_put h.nodup.1)
  rw [← hplace] at hkeeps
  have hlayers l : (place calls d n).layers.lookup l =
      if l = (calls n).layer then some depth else d.layers.lookup l := by
    rw [hkeeps.2,lookup_put]
  refine ⟨⟨hkeeps.1,hkeeps.2 ▸ nodup_put h.nodup.2⟩,fun m => ?_,fun l => ?_,fun m hm s hs' => ?_,
    fun m hm => ?_,fun m hm => ?_⟩
  · have := h.known m
    grind
  · have := h.layers l
    grind
  · have := h.deeper m
    grind [depthOf]
  · have := h.bound m
    grind [depthOf]
  · have := h.attained m
    grind [depthOf]

theorem placed_foldl (hl : InRow calls l) (h : Placed calls done d) (hdone : ∀ n ∈ l, n ∉ done) :
    Placed calls (l ++ done) (l.reverse.foldl (place calls) d) := by
  induction hl generalizing done d with
  | nil => exact h
  | @snoc l n _ hnew hs ih =>
    rw [reverse_append,append_assoc]
    refine ih (placed_place h (hdone n (by simp)) fun s hs' => ?_) fun m hm => ?_
    · exact not_mem_cons_of_ne_of_not_mem (fun heq => hnew (heq ▸ hs hs')) (hdone s (by simp [hs hs']))
    · exact not_mem_cons_of_ne_of_not_mem (fun heq => hnew (heq ▸ hm)) (hdone m (by simp [hm]))

theorem placed_depths (hl : InRow calls l) : Placed calls l (depths calls l) := by
  have hnone : Placed calls [] {} := ⟨⟨.nil,.nil⟩,by simp,by simp,by simp,by simp,by simp⟩
  simpa [depths] using placed_foldl hl hnone (by simp)

/-! ## Groups of one depth -/

/-- Groups with falling depths, of all that has a depth. -/
structure Grouped (depth : Nat → Option Nat) (groups : List (Nat × Nats)) : Prop where
  falling : (groups.map (·.1)).Pairwise (· > ·)
  group : ∀ g ∈ groups, g.2.Nodup ∧ ∀ n, n ∈ g.2 ↔ depth n = some g.1
  all : ∀ n d, depth n = some d → d ∈ groups.map (·.1)

def At (groups : List (Nat × Nats)) (n d : Nat) : Prop := ∃ ns, (d,ns) ∈ groups ∧ n ∈ ns
theorem mem_flatMap_iff : n ∈ groups.flatMap (·.2) ↔ ∃ d, At groups n d := by simp [At]

section
variable {depth : Nat → Option Nat} (h : Grouped depth groups)
include h
theorem Grouped.at_iff {d : Nat} : At groups n d ↔ depth n = some d := by
  constructor
  · rintro ⟨ns,hns,hn⟩
    exact ((h.group _ hns).2 n).mp hn
  · intro hd
    obtain ⟨g,hg,rfl⟩ := mem_map.mp (h.all n d hd)
    exact ⟨g.2,hg,((h.group g hg).2 n).mpr hd⟩

theorem Grouped.pairwise : (groups.flatMap (·.2)).Pairwise
    fun a b => a ≠ b ∧ ∀ c d, At groups a c → At groups b d → d ≤ c := by
  simp only [h.at_iff]
  rw [pairwise_flatMap]
  constructor
  · intro g hg
    obtain ⟨hnodup,hdepth⟩ := h.group g hg
    exact hnodup.imp_of_mem fun ha hb hne => ⟨hne,by grind⟩
  · refine (pairwise_map.mp h.falling).imp_of_mem fun {g k} hg hk hlt a ha b hb => ?_
    rw [(h.group g hg).2] at ha
    rw [(h.group k hk).2] at hb
    grind

theorem Grouped.listed {xs : Nats} (hxs : xs.Nodup) (hmem : ∀ n d, depth n = some d → n ∈ xs) :
    Grouped depth (groups.map fun g => (g.1,xs.filter (depth · == some g.1))) := by
  refine ⟨by simpa [Function.comp_def] using h.falling,fun g hg => ?_,by simpa using h.all⟩
  obtain ⟨k,-,rfl⟩ := mem_map.mp hg
  refine ⟨hxs.filter _,fun n => ?_⟩
  simpa using hmem n k.1
end

theorem le_foldl_max (m : Nat) (e : List (Nat × Nat)) :
    m ≤ e.foldl (fun m e => max m e.2) m ∧ ∀ x ∈ e, x.2 ≤ e.foldl (fun m e => max m e.2) m := by
  induction e generalizing m with
  | nil => simp
  | cons y e ih =>
    obtain ⟨hstart,hall⟩ := ih (max m y.2)
    exact ⟨(le_max_left ..).trans hstart,forall_mem_cons.mpr ⟨(le_max_right ..).trans hstart,hall⟩⟩

theorem grouped_byDepth (h : (e.map (·.1)).Nodup) : Grouped (e.lookup ·) (byDepth e) := by
  have hperm := mergeSort_perm e fun a b => decide (a.1 ≤ b.1)
  have hmem (n d) : n ∈ ((e.mergeSort fun a b => a.1 ≤ b.1).filter (·.2 == d)).map (·.1) ↔ e.lookup n = some d := by
    rw [← mem_iff_lookup h]
    simp
  refine ⟨?_,fun g hg => ?_,fun n d hn => ?_⟩
  · rw [pairwise_map]
    exact .filter _ (pairwise_map.mpr (pairwise_reverse.mpr pairwise_lt_range))
  · obtain ⟨d,-,rfl⟩ := mem_map.mp (mem_filter.mp hg).1
    exact ⟨((hperm.map _).nodup_iff.mpr h).sublist (filter_sublist.map _),(hmem · d)⟩
  · refine mem_map.mpr ⟨(d,_),mem_filter.mpr ⟨mem_map.mpr ⟨d,?_,rfl⟩,?_⟩,rfl⟩
    · have := (le_foldl_max 0 e).2 _ ((mem_iff_lookup h).mpr hn)
      simpa [Nat.lt_succ_iff] using this
    · have := ne_nil_of_mem ((hmem n d).mpr hn)
      simpa using this

/-! ## Models -/

theorem connect_eq_ok_iff : connect calls l known before = .ok () ↔
    ∀ pre n post, l = pre ++ n :: post → ∀ t ∈ (calls n).inputs, t ∈ known ∨ ∃ m ∈ pre, t ∈ (calls m).outputs := by
  induction l generalizing known before with
  | nil => simp [connect]
  | cons n l ih =>
    rw [connect]
    split
    next t ht =>
      simp only [reduceCtorEq,false_iff]
      intro h
      have hnew := find?_some ht
      rcases h [] n l rfl t (mem_of_find?_eq_some ht) with hknown | ⟨m,hm,-⟩
      · simp [hknown] at hnew
      · cases hm
    next hnone =>
      rw [ih]
      refine ⟨fun h pre m post heq t ht => ?_,fun h pre m post heq t ht => ?_⟩
      · cases pre with
        | nil =>
          cases heq
          have := find?_eq_none.mp hnone t ht
          exact .inl (by simpa using this)
        | cons k pre =>
          cases heq
          have := h pre m post rfl t ht
          grind
      · grind

theorem connect_error (h : connect calls l known before = .error p) : ∃ t n b, p = .disconnected t n b := by
  induction l generalizing known before with
  | nil => cases h
  | cons n l ih =>
    rw [connect] at h
    split at h
    · cases h
      exact ⟨_,_,_,rfl⟩
    · exact ih h

theorem connect_groups (inputs : Nats) (hcalls : Applied calls) (hgroups :
    (groups.flatMap (·.2)).Pairwise fun a b => a ≠ b ∧ ∀ c d, At groups a c → At groups b d → d ≤ c) (hreached : ∀ n,
    (∃ d, At groups n d) ↔ Reached calls roots n) (hdeeper : ∀ n s c d, s ∈ (calls n).sources → At groups n c →
    At groups s d → c < d) : connect calls (groups.flatMap (·.2)) inputs [] = .ok () ↔ ∀ n, Reached calls roots n →
    (calls n).sources = [] → (calls n).outputs ⊆ inputs := by
  rw [connect_eq_ok_iff]
  constructor
  · intro h n hn hsources t ht
    obtain ⟨pre,post,horder⟩ := append_of_mem (mem_flatMap_iff.mpr ((hreached n).mpr hn))
    rcases h pre n post horder t (hcalls.given n hsources ▸ ht) with hgiven | ⟨m,hm,hout⟩
    · exact hgiven
    · rw [horder,pairwise_append] at hgroups
      exact absurd (hcalls.own m n t hout ht) (hgroups.2.2 m hm n mem_cons_self).1
  · intro h pre n post horder t ht
    obtain ⟨c,hc⟩ : ∃ d, At groups n d := mem_flatMap_iff.mp (horder ▸ by simp)
    have hn := (hreached n).mp ⟨c,hc⟩
    by_cases hsources : (calls n).sources = []
    · exact .inl (h n hn hsources (hcalls.given n hsources ▸ ht))
    obtain ⟨s,hs,hout⟩ := hcalls.taken n hsources t ht
    obtain ⟨d,hd⟩ := (hreached s).mpr (.source hn hs)
    have hlt := hdeeper n s c d hs hc hd
    have hmem : s ∈ pre ++ n :: post := horder ▸ mem_flatMap_iff.mpr ⟨d,hd⟩
    rw [horder,pairwise_append,pairwise_cons] at hgroups
    -- what is as deep as the call, or less deep, comes after it
    rcases mem_append.mp hmem with hmem | hmem
    · exact .inr ⟨s,hmem,hout⟩
    · rcases mem_cons.mp hmem with rfl | hmem
      · exact absurd (hcalls.older _ _ hs) (lt_irrefl _)
      · exact absurd ((hgroups.2.1.1 s hmem).2 c d hc hd) (by omega)

/-- How a model is laid out. -/
structure Layered (calls : Calls) (roots : Nats) (g : Graph) : Prop where
  nodup : (g.callsByDepth.flatMap (·.2)).Nodup
  reached : ∀ n, n ∈ g.callsByDepth.flatMap (·.2) ↔ Reached calls roots n
  deeper : ∀ n s c d, s ∈ (calls n).sources → At g.callsByDepth n c → At g.callsByDepth s d → c < d
  greatest : ∀ l d, At g.layersByDepth l d → IsGreatest {c | ∃ n, (calls n).layer = l ∧ At g.callsByDepth n c} d
  layers : ∀ l, (l ∈ g.layers ↔ ∃ n, Reached calls roots n ∧ (calls n).layer = l) ∧
    (l ∈ g.layers ↔ ∃ d, At g.layersByDepth l d)
  falling : g.layers.Pairwise fun l k => l ≠ k ∧ ∀ c d, At g.layersByDepth l c → At g.layersByDepth k d → d ≤ c

/-- A model is made exactly if all inputs that its outputs depend on are given. -/
theorem build_layered {bound : Nat} (hcalls : Applied calls) (hroots : ∀ r ∈ roots, r ≤ bound) :
    ((∃ t n before, build calls bound inputs roots = .error (.disconnected t n before)) ↔
      ∃ n, Reached calls roots n ∧ (calls n).sources = [] ∧ ∃ t ∈ (calls n).outputs, t ∉ inputs) ∧
    ((∀ n, Reached calls roots n → (calls n).sources = [] → (calls n).outputs ⊆ inputs) →
      ∃ g, build calls bound inputs roots = .ok g ∧ Layered calls roots g) := by
  obtain ⟨s, hsearch, hmeets⟩ := meets_foldlM (P := fun n s => n < bound + 1 ∧ ∀ p ∈ s.inProgress, n < p)
    (fun n s s' h hn => h ▸ hn) (explore_meets hcalls (bound + 1)) roots (s := {})
    ⟨.nil, List.nodup_nil, by simp⟩ fun r hr => ⟨by have := hroots r hr; omega, by simp⟩
  have hfinished (n : Nat) : n ∈ s.finished ↔ Reached calls roots n := by
    refine ⟨fun hn => (hmeets.only n hn).resolve_left (by simp), fun h => ?_⟩
    induction h with
    | root h => exact hmeets.meets h
    | source _ hs ih => exact hmeets.sound.row.closed ih hs
  obtain ⟨d, hd⟩ : ∃ d, d = depths calls s.finished := ⟨_, rfl⟩
  have hplaced : Placed calls s.finished d := hd ▸ placed_depths hmeets.sound.row
  have hlayers (l : Nat) : l ∈ s.layers ↔ ∃ n, Reached calls roots n ∧ (calls n).layer = l := by
    simpa [hmeets.inProgress, hfinished] using hmeets.sound.layers l
  have hgroups := grouped_byDepth hplaced.nodup.1
  obtain ⟨layerGroups, hlayerGroups, hgrouped⟩ : ∃ groups, groups = (byDepth d.layers).map (fun g =>
      (g.1, s.layers.filter (d.layers.lookup · == some g.1))) ∧ Grouped (d.layers.lookup ·) groups := by
    refine ⟨_, rfl, (grouped_byDepth hplaced.nodup.2).listed hmeets.sound.nodup fun l c h => ?_⟩
    rw [hlayers]
    simpa [hfinished] using (hplaced.layers l).mp (by simp [h])
  have hreached (n : Nat) : (∃ c, At (byDepth d.calls) n c) ↔ Reached calls roots n := by
    rw [← hfinished]
    simp only [hgroups.at_iff, ← Option.isSome_iff_exists, hplaced.known]
    exact ⟨fun h => h.elim id fun ⟨m, hm, hs⟩ => hmeets.sound.row.closed hm hs, .inl⟩
  have hdeeper (n s' c c' : Nat) (hs : s' ∈ (calls n).sources) (hc : At (byDepth d.calls) n c)
      (hc' : At (byDepth d.calls) s' c') : c < c' := by
    have := hplaced.deeper n ((hfinished n).mpr ((hreached n).mp ⟨c, hc⟩)) s' hs
    rw [hgroups.at_iff] at hc hc'
    simpa [depthOf, hc, hc'] using this
  have hconnect := connect_groups inputs hcalls hgroups.pairwise hreached hdeeper
  have hbuild : build calls bound inputs roots = (connect calls ((byDepth d.calls).flatMap (·.2)) inputs []).map
      fun _ => ⟨s.finished, byDepth d.calls, layerGroups, layerGroups.flatMap (·.2)⟩ := by
    unfold build
    rw [hsearch, hlayerGroups, hd]
    rfl
  have hlayer (l : Nat) : (∃ c, At layerGroups l c) ↔ ∃ n, Reached calls roots n ∧ (calls n).layer = l := by
    simp only [hgrouped.at_iff, ← Option.isSome_iff_exists, hplaced.layers, hfinished]
  constructor
  · cases hcon : connect calls ((byDepth d.calls).flatMap (·.2)) inputs [] with
    | ok u =>
      have := hconnect.mp hcon
      simp only [hbuild, hcon, Except.map, reduceCtorEq, exists_false, false_iff]
      rintro ⟨n, hn, hs, t, ht, hnot⟩
      exact hnot (this n hn hs ht)
    | error p =>
      obtain ⟨t, n, b, rfl⟩ := connect_error hcon
      have := mt hconnect.mpr (by rw [hcon]; simp)
      simp only [hbuild, hcon, Except.map]
      simpa [List.subset_def] using this
  · intro h
    rw [hbuild, hconnect.mpr h]
    refine ⟨_, rfl, hgroups.pairwise.imp And.left, fun n => mem_flatMap_iff.trans (hreached n), hdeeper,
      fun l c hc => ?_, fun l => ⟨mem_flatMap_iff.trans (hlayer l), mem_flatMap_iff⟩, hgrouped.pairwise⟩
    have hdepth (n c : Nat) (hn : At (byDepth d.calls) n c) : n ∈ s.finished ∧ depthOf d.calls n = c := by
      refine ⟨(hfinished n).mpr ((hreached n).mp ⟨c, hn⟩), ?_⟩
      rw [hgroups.at_iff] at hn
      simp [depthOf, hn]
    obtain ⟨n, hn, rfl⟩ := (hlayer l).mp ⟨c, hc⟩
    have hc' : depthOf d.layers (calls n).layer = c := by
      rw [hgrouped.at_iff] at hc
      simp [depthOf, hc]
    constructor
    · obtain ⟨m, hm, hsame, hattained⟩ := hplaced.attained n ((hfinished n).mpr hn)
      obtain ⟨c', hm'⟩ := (hreached m).mpr ((hfinished m).mp hm)
      exact ⟨m, hsame, by rwa [← hc', ← hattained, (hdepth m c' hm').2]⟩
    · rintro k ⟨m, hsame, hm⟩
      obtain ⟨hmem, rfl⟩ := hdepth m k hm
      exact hc' ▸ hsame ▸ hplaced.bound m hmem

/-- A layer is applied to the input and to what it gives, and another one to the input and the result. -/
def calledTwice : Calls
  | 0 => ⟨0,[],[0],[0]⟩
  | 1 => ⟨1,[0],[0],[1]⟩
  | 2 => ⟨1,[1],[1],[2]⟩
  | 3 => ⟨2,[0,2],[0,2],[3]⟩
  | _ => ⟨3,[],[],[]⟩

theorem build_layered_calledTwice : ∃ g, build calledTwice 3 [0] [3] = .ok g ∧ Layered calledTwice [3] g := by
  refine (build_layered ⟨?_, ?_, ?_, ?_⟩ (by simp)).2 fun n _ => ?_
  · rintro (_ | _ | _ | _ | n) <;> simp [calledTwice]
  · rintro (_ | _ | _ | _ | n) <;> simp [calledTwice]
  · rintro (_ | _ | _ | _ | n) <;> simp [calledTwice]
  · rintro (_ | _ | _ | _ | m) (_ | _ | _ | _ | n) t <;> simp +contextual [calledTwice]
  · rcases n with _ | _ | _ | _ | n <;> simp [calledTwice]
end TensorKit.Layers.Topology
