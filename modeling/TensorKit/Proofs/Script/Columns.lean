import TensorKit.Proofs.Script.Tidy
import TensorKit.Script.Run

/-! # Batches by columns

Elements have one structure if they differ in their leaves only. A batch of such elements is joined to one value of
their structure whose leaves are columns, and a stream of them gives one such value for each batch.
-/
namespace TensorKit.Script
open Data Pipeline
open List hiding next
variable {ι ρ : Type} {shape : Nested ι} {v : ι → Value} {c vs : List (ι → Value)}
/-- A batch of elements, with the columns of the batch as its leaves. -/
def columns (shape : Nested ι) (c : List (ι → Value)) : Value := ofNested (fun i => .list (c.map (· i))) shape

/-- Structures in which no record has a key twice. -/
inductive Keyed : Nested ι → Prop where
  | leaf (i : ι) : Keyed (.leaf i)
  | list {xs : List (Nested ι)} (h : ∀ x ∈ xs, Keyed x) : Keyed (.list xs)
  | record {fs : Named (Nested ι)} (hkeys : (fs.map (·.1)).Nodup) (h : ∀ p ∈ fs, Keyed p.2) : Keyed (.record fs)

section Zip
variable {α β : Type} (x : Script α) (h : Host)
@[simp] theorem bind_host (k : α → Script β) : (x >>= k) h = x h >>= (k · h) := rfl
@[simp] theorem map_host (k : α → β) : (k <$> x) h = k <$> x h := rfl
@[simp] theorem pure_host (a : α) : (pure a : Script α) h = pure a := rfl

variable {f : Handler} {h} {g : (ι → Value) → Value}
theorem run_zipItems {n : Nat} {xs : List (Nested ι)}
    (hg : ∀ v j, (g v) (n + j).repr = (xs[j]?.map (ofNested v)).getD .absent)
    (ih : ∀ x ∈ xs, zipAlong f (ofNested v x) (vs.map (ofNested · x)) h = pure (columns x (v :: vs))) :
    zipItems f n (xs.map (ofNested v)) (vs.map g) h = pure (xs.map (columns · (v :: vs))) := by
  induction xs generalizing n with
  | nil => simp [zipItems]
  | cons x xs hxs =>
    obtain ⟨hx,hrest⟩ := forall_mem_cons.mp ih
    have hfirst : (vs.map g).map (· n.repr) = vs.map (ofNested · x) := by simpa using fun v _ => by simpa using hg v 0
    have := hxs (n := n + 1) (fun v j => by simpa [add_right_comm,← add_assoc] using hg v (j + 1)) hrest
    simp [zipItems,hfirst,hx,this]

theorem run_zipFields {fs : Named (Nested ι)} (hg : ∀ v, ∀ p ∈ fs, (g v) p.1 = ofNested v p.2)
    (ih : ∀ p ∈ fs, zipAlong f (ofNested v p.2) (vs.map (ofNested · p.2)) h = pure (columns p.2 (v :: vs))) :
    zipFields f (fs.map fun p => (p.1,ofNested v p.2)) (vs.map g) h =
      pure (fs.map fun p => (p.1,columns p.2 (v :: vs))) := by
  induction fs with
  | nil => simp [zipFields]
  | cons p fs hfs =>
    obtain ⟨hp,hrest⟩ := forall_mem_cons.mp ih
    have hfirst : (vs.map g).map (· p.1) = vs.map (ofNested · p.2) := by simpa using fun v _ => hg v p (by simp)
    have := hfs (fun v q hq => hg v q (by simp [hq])) hrest
    simp [zipFields,hfirst,hp,this]

variable (hf : ∀ xs, f xs h = pure (zipToList xs))
include hf
theorem run_visitAll (xs : Values) (within : Reply) : visitAll f xs within h =
    if isIterable (xs 0) then within h else pure (.list xs) := by
  rw [visitAll,bind_host,hf,pure_bind,zipToList]
  split <;> rfl

theorem run_zipAlong (hshape : Keyed shape) (hv : ∀ i, isIterable (v i) = false) :
    zipAlong f (ofNested v shape) (vs.map (ofNested · shape)) h = pure (columns shape (v :: vs)) := by
  induction hshape with
  | leaf i =>
    have := hv i
    simp only [ofNested,columns]
    cases hi : v i <;> simp_all [zipAlong,run_visitAll hf,argAt,isIterable]
  | @list xs _ ih =>
    have := run_zipItems (n := 0) (g := (ofNested · (.list xs)))
      (fun v j => by simp [ofNested,Value.field,Nat.toNat?_repr]) ih
    simp_all [zipAlong,run_visitAll hf,argAt,isIterable,ofNested,columns]
  | @record fs hkeys _ ih =>
    have hfind (v : ι → Value) : ∀ p ∈ fs, (ofNested v (.record fs)) p.1 = ofNested v p.2 := by
      clear ih
      simp only [ofNested,Value.field,Value.fields]
      induction fs with
      | nil => simp
      | cons q fs hfs => grind
    have := run_zipFields (g := (ofNested · (.record fs))) hfind ih
    simp_all [zipAlong,run_visitAll hf,argAt,isIterable,ofNested,columns]
end Zip

/-! ## The host of a program -/

/-- Functions of streams and datasets, as a program calls them. -/
theorem callFunction_data {name : String} {run : Handler} (n : Nat) (held args : Values)
    (hname : name ∉ ["customGrad","saveTensors","counter","layer.method","layer.create","classes.deserialize"])
    (hnone : ((namedTable ++ coreTable ++ graphTable).lookup name).isNone) (hrun : dataTable.lookup name = some run) :
    callFunction (n + 1) (.native name held) args = run (held ++ args) ⟨callFunction n⟩ := by
  simp only [callFunction,callNative]
  simp only [lookup_append,Option.isNone_iff_eq_none,Option.or_eq_none_iff] at hnone
  split <;> simp_all [-lookup_eq_none_iff,callIn,functionTable,lookup_append]

variable (n : Nat)
theorem call_toList (xs : Values) :
    callFunction (n + 1) (.native "nested.toList" []) [.list xs] = pure (zipToList xs) := by
  rw [callFunction_data n [] [.list xs] (by decide) (by decide +kernel) (by simp [dataTable]; rfl)]
  rfl
theorem call_zipRows (join : Value) (rows : Values) : callFunction (n + 1) (.native "data.zipRows" [join])
    [.list rows] = zipDeep (fun xs => call join [.list xs]) rows ⟨callFunction n⟩ := by
  rw [callFunction_data n [join] [.list rows] (by decide) (by decide +kernel) (by simp [dataTable]; rfl)]
  rfl

theorem host_joinLists (h : Keyed shape) (hc : c ≠ []) (hleaf : ∀ v ∈ c, ∀ i, isIterable (v i) = false) :
    host.call (.native "data.zipRows" [.native "nested.toList" []]) [.list (c.map (ofNested · shape))] =
      pure (columns shape c) := by
  obtain ⟨v,vs,rfl⟩ := exists_cons_of_ne_nil hc
  have hlist : ∀ xs, call (.native "nested.toList" []) [.list xs] ⟨callFunction 199⟩ = pure (zipToList xs) :=
    call_toList 198
  have hzip := call_zipRows 199 (.native "nested.toList" []) ((v :: vs).map (ofNested · shape))
  exact hzip.trans (run_zipAlong hlist h (hleaf v mem_cons_self))

theorem reaches_columns {t : Tensor} (h : Keyed shape) (hv : v ∈ c) (ht : Reaches (ofNested v shape) t) :
    Reaches (columns shape c) t := by
  induction h with
  | leaf i =>
    simp only [columns,ofNested] at ht ⊢
    exact .list (mem_map_of_mem hv) ht
  | list _ ih =>
    simp only [columns,ofNested] at ih ht ⊢
    cases ht with
    | list hmem ht =>
      obtain ⟨x,hx,rfl⟩ := mem_map.mp hmem
      exact .list (mem_map_of_mem hx) (ih x hx ht)
  | record _ _ ih =>
    simp only [columns,ofNested] at ih ht ⊢
    cases ht with
    | record hmem ht =>
      obtain ⟨p,hp,h⟩ := mem_map.mp hmem
      cases h
      exact .record (mem_map_of_mem hp) (ih p hp ht)

theorem releaseElement_of_reaches {x y : Value} (h : ∀ t, Reaches x t → Reaches y t) :
    releaseElement x y = pure () := by
  have hkept : ∀ t ∈ x.tensors, (y.tensors.map (·.id)).contains t.id = true := by
    intro t ht
    simpa using ⟨t,mem_tensors_iff.mpr (h t (mem_tensors_iff.mp ht)),rfl⟩
  unfold releaseElement
  revert hkept
  generalize x.tensors = ts
  intro hkept
  induction ts with
  | nil => rfl
  | cons t ts ih =>
    obtain ⟨ht,hts⟩ := forall_mem_cons.mp hkept
    simp only [forIn_cons,ht,Bool.not_true,Bool.false_eq_true,if_false,pure_bind]
    exact ih hts

/-! ## Batches -/

/-- The batches of a list: all are full but the last, which is left out unless it is wanted. -/
def batches (b : Nat) (withLast : Bool) (xs : List ρ) : List (List ρ) :=
  if xs.length < b ∨ b = 0 then if withLast && !xs.isEmpty then [xs] else []
  else xs.take b :: batches b withLast (xs.drop b)
termination_by xs.length
decreasing_by simp; omega

variable {b : Nat} (withLast : Bool)
theorem flatten_batches (hb : 0 < b) (xs : List ρ) :
    (batches b withLast xs).flatten = if withLast then xs else xs.take (xs.length / b * b) := by
  fun_induction batches b withLast xs with
  | case1 xs h hlast => simp_all
  | case2 xs h hlast =>
    have := Nat.div_eq_of_lt (h.resolve_right hb.ne')
    cases withLast <;> simp_all
  | case3 xs h ih =>
    have hdiv : xs.length / b * b = b + (xs.drop b).length / b * b := by
      have : xs.length / b = (xs.length - b) / b + 1 := Nat.div_eq_sub_div hb (by omega)
      rw [length_drop,this,Nat.succ_mul,add_comm]
    rw [flatten_cons,ih]
    split
    · exact take_append_drop b xs
    · rw [hdiv,take_add]

theorem length_batches (hb : 0 < b) (xs : List ρ) : (∀ c ∈ batches b withLast xs, c ≠ [] ∧ c.length ≤ b) ∧
    ∀ c ∈ (batches b withLast xs).dropLast, c.length = b := by
  fun_induction batches b withLast xs with
  | case1 xs h hlast => simp_all; omega
  | case2 => simp
  | case3 xs h ih =>
    have hlength : (xs.take b).length = b := by simp; omega
    have hne : xs.take b ≠ [] := ne_nil_of_length_pos (by omega)
    cases hrest : batches b withLast (xs.drop b) <;> simp_all

/-! ## Streams -/

def front (val : ρ → Value) : List ρ → Read Value
  | [] => ⟨.null,true⟩
  | r :: _ => ⟨val r,false⟩

/-- In these states, reads give what is left one after the other and report the end from then on. -/
structure Gives (ops : Elements Script Value Value) (h : Host) (val : ρ → Value) (need : Nat)
    (S : World → Stream → List ρ → Prop) : Prop where
  step : ∀ {w p rest fuel}, S w p rest → need ≤ fuel →
    ∃ w' p', next ops fuel p h w = .ok (.ok (front val rest),p') w' ∧ S w' p' rest.tail

variable {withLast} {read : Nat → Script (Outcome Value)} {copy : Nat → Script Stream} {h : Host} {val : ρ → Value}
variable {S : World → Stream → List ρ → Prop} {w : World} {up p : Stream} {f : Value} {rest : List ρ}
variable {need fuel stepFuel : Nat}
theorem isShort_ofNat (n b : Nat) : isShort n (.ofNat b) = decide (n < b) := by simp [isShort,Count.ofNat,Count.lt]

variable (withLast) in
theorem next_batch (hS : Gives (elementsWith read copy) h val need S) (n : Nat) (held : List ρ)
    (hn : held.length + n = b) (hw : S w up rest) (hfuel : need + n < fuel) : ∃ w' up', S w' up' (rest.drop n) ∧
      next (elementsWith read copy) fuel (.batch none (.ofNat b) withLast (held.map val) up) h w =
        .ok (.ok (if rest.length < n ∧ ¬(withLast ∧ held ++ rest ≠ []) then ⟨.null,true⟩
          else ⟨.list ((held ++ rest.take n).map val),false⟩),.batch none (.ofNat b) withLast [] up') w' := by
  obtain _ | fuel := fuel
  · cases hfuel
  induction n generalizing held rest w up fuel with
  | zero =>
    refine ⟨w,up,hw,?_⟩
    simp [next,isShort_ofNat,← hn]
    rfl
  | succ n ih =>
    obtain ⟨w',up',hread,hw'⟩ := hS.step hw (by omega : need ≤ fuel)
    have hshort : held.length < b := by omega
    cases rest with
    | nil =>
      refine ⟨w',up',by simpa using hw',?_⟩
      by_cases hlast : withLast ∧ held ≠ []
      all_goals
        simp [next,isShort_ofNat,hshort,run_script_bind,hread,front,hlast]
        rfl
    | cons r rest =>
      obtain _ | fuel := fuel
      · omega
      obtain ⟨w'',up'',hw'',hrun⟩ := ih (held ++ [r]) (by simp; omega) hw' fuel (by omega)
      refine ⟨w'',up'',by simpa using hw'',?_⟩
      rw [next]
      simp [isShort_ofNat,hshort,run_script_bind,hread,front]
      simpa using hrun

theorem Gives.batch (hS : Gives (elementsWith read copy) h val need S) (hb : 0 < b) :
    Gives (elementsWith read copy) h (fun c => .list (c.map val)) (need + b + 1) fun w p cs => ∃ up rest,
      p = .batch none (.ofNat b) withLast [] up ∧ S w up rest ∧ cs = batches b withLast rest := by
  constructor
  rintro w _ _ fuel ⟨up,rest,rfl,hw,rfl⟩ hfuel
  obtain ⟨w',up',hw',hrun⟩ := next_batch withLast hS b [] (Nat.zero_add b) hw hfuel
  refine ⟨w',_,hrun.trans ?_,up',_,rfl,hw',?_⟩
  all_goals
    rw [batches]
    by_cases hlen : rest.length < b
  · cases rest <;> cases withLast <;> simp_all [front]
    omega
  · simp [hlen,hb.ne',front]
  · rw [drop_of_length_le hlen.le,batches]
    cases rest <;> cases withLast <;> simp_all
  · simp [hlen,hb.ne']

theorem run_attempt {α : Type} (x : Script α) : attempt x h w = match x h w with
    | .ok a w' => .ok (.ok a) w'
    | .error e w' => .ok (.error e) w' := by
  unfold attempt
  change EStateM.bind (EStateM.tryCatch (EStateM.bind (x h) _) _) _ w = _
  unfold EStateM.bind EStateM.tryCatch
  simp only
  cases x h w <;> rfl

theorem Gives.columns {S : World → Stream → List (List (ι → Value)) → Prop} (hshape : Keyed shape)
    (hf : ∀ c, c ≠ [] → (∀ v ∈ c, ∀ i, isIterable (v i) = false) →
      h.call f [.list (c.map (ofNested · shape))] = pure (columns shape c))
    (hS : Gives (elementsWith read copy) h (fun c => .list (c.map (ofNested · shape))) need S) :
    Gives (elementsWith read copy) h (Script.columns shape) (need + 1) fun w p cs => ∃ up, p = .map f up ∧ S w up cs ∧
      ∀ c ∈ cs, c ≠ [] ∧ ∀ v ∈ c, ∀ i, isIterable (v i) = false := by
  constructor
  rintro w _ cs fuel ⟨up,rfl,hw,hcs⟩ hfuel
  obtain _ | fuel := fuel
  · cases hfuel
  obtain ⟨w',up',hread,hw'⟩ := hS.step hw (Nat.le_of_succ_le_succ hfuel)
  refine ⟨w',_,?_,up',rfl,hw',fun c hc => hcs c (mem_of_mem_tail hc)⟩
  cases cs with
  | nil =>
    simp [next,run_script_bind,hread,front]
    rfl
  | cons c cs =>
    obtain ⟨hne,hleaf⟩ := hcs c mem_cons_self
    have htransform : (elementsWith read copy).transform f (.list (c.map (ofNested · shape))) h w' =
        .ok (.ok (Script.columns shape c)) w' := (run_attempt _).trans (by rw [call,hf c hne hleaf]; rfl)
    have hrelease : (elementsWith read copy).release (.list (c.map (ofNested · shape))) (Script.columns shape c) =
        pure () := by
      refine releaseElement_of_reaches fun t ht => ?_
      cases ht with
      | list hmem ht =>
        obtain ⟨v,hv,rfl⟩ := mem_map.mp hmem
        exact reaches_columns hshape hv ht
    simp [next,run_script_bind,hread,front,isAsync,htransform,hrelease]
    rfl

theorem drain_of_gives {ops : Elements Script Value Value} (hS : Gives ops h val need S) (hneed : need ≤ stepFuel)
    (acc : Values) (hw : S w p rest) (hfuel : rest.length < fuel) :
    ∃ w' p', drain ops stepFuel fuel acc p h w = .ok (.ok (acc.reverse ++ rest.map val),p') w' := by
  induction rest generalizing w p acc fuel with
  | nil =>
    obtain ⟨w',p',hread,-⟩ := hS.step hw hneed
    obtain _ | fuel := fuel
    · cases hfuel
    rw [drain,run_script_bind,hread]
    exact ⟨w',p',by simp [front]; rfl⟩
  | cons r rest ih =>
    obtain ⟨w',p',hread,hw'⟩ := hS.step hw hneed
    obtain _ | fuel := fuel
    · cases hfuel
    obtain ⟨w'',p'',hrun⟩ := ih (val r :: acc) hw' (Nat.lt_of_succ_lt_succ hfuel)
    rw [drain,run_script_bind,hread]
    exact ⟨w'',p'',by simpa [front] using hrun⟩

theorem gives_pending (g : Value) : Gives (elementsWith read copy) h val 2 fun _ p rest =>
    p = .spread none (.flatmap g) (rest.map val) (.items [] 0) := by
  constructor
  rintro w _ (_ | ⟨r,rest⟩) (_ | _ | fuel) rfl hfuel <;> first | exact ⟨w,_,rfl,rfl⟩ | omega

/-- Elements of one structure are joined batch by batch: the leaves of a batch are the columns of its elements, and
the batches together hold all elements in their order, but for a short last batch that is not wanted. -/
theorem drain_columnBatches {S : World → Stream → List (ι → Value) → Prop} {elements : List (ι → Value)}
    (hshape : Keyed shape) (hleaf : ∀ v ∈ elements, ∀ i, isIterable (v i) = false)
    (hS : Gives (elementsWith read copy) host (ofNested · shape) need S) (hw : S w up elements) (hb : 0 < b)
    (hstep : need + b + 2 ≤ stepFuel) (hfuel : (batches b withLast elements).length < fuel) :
    (∃ w' p', drain (elementsWith read copy) stepFuel fuel [] (columnBatches (.ofNat b) withLast .absent up) host w =
      .ok (.ok ((batches b withLast elements).map (columns shape)),p') w') ∧
    (batches b withLast elements).flatten =
      (if withLast then elements else elements.take (elements.length / b * b)) ∧
    (∀ c ∈ batches b withLast elements, c ≠ [] ∧ c.length ≤ b) ∧
    ∀ c ∈ (batches b withLast elements).dropLast, c.length = b := by
  have hflatten := flatten_batches withLast hb elements
  have hlengths := length_batches withLast hb elements
  have hmem : ∀ c ∈ batches b withLast elements, ∀ v ∈ c, v ∈ elements := by
    intro c hc v hv
    have := mem_flatten_of_mem hc hv
    rw [hflatten] at this
    split at this
    · exact this
    · exact mem_of_mem_take this
  refine ⟨?_,hflatten,hlengths⟩
  exact drain_of_gives ((hS.batch hb).columns hshape fun _ => host_joinLists hshape) hstep []
    ⟨_,rfl,⟨up,elements,rfl,hw,rfl⟩,fun c hc => ⟨(hlengths.1 c hc).1,fun v hv => hleaf v (hmem c hc v hv)⟩⟩ hfuel

/-- A structure of two leaves, and texts for them. -/
def pairShape : Nested Bool := .record [("x",.leaf true),("y",.list [.leaf false])]
def texts (s : String) (i : Bool) : Value := .str (if i then s else s ++ s)

/-- Three elements in pairs: the last one, alone, is left out. -/
theorem drain_columnBatches_pairs : ∃ w' p',
    drain (elementsWith (readStreamWithin streamDepth) (copyStream streamDepth)) 6 2 []
      (columnBatches (.ofNat 2) false .absent (.spread none (.flatmap .null)
        (["a","b","c"].map fun s => ofNested (texts s) pairShape) (.items [] 0))) host .start =
      .ok (.ok [columns pairShape [texts "a",texts "b"]],p') w' := by
  have hbatches : (batches 2 false (["a","b","c"].map texts)).map (columns pairShape) =
      [columns pairShape [texts "a",texts "b"]] := by simp [batches]
  have hshape : Keyed pairShape :=
    .record (by decide) (by simpa using ⟨.leaf true,.list (by simpa using .leaf false)⟩)
  have hleaf : ∀ v ∈ ["a","b","c"].map texts, ∀ i, isIterable (v i) = false := by simp [texts,isIterable]
  have hfuel : (batches 2 false (["a","b","c"].map texts)).length < 2 := by simp [batches]
  rw [← hbatches]
  exact (drain_columnBatches hshape hleaf (gives_pending .null) rfl two_pos (by decide) hfuel).1
end TensorKit.Script
