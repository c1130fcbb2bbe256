import TensorKit.Proofs.Ops.Adjoints
import TensorKit.Script.Core.Create

/-! # Rows one after the other

A place in a buffer and its coordinates tell each other, and nested lists hold the values of a buffer in its order.
-/
namespace TensorKit.Shape
open List
variable {s : Shape} {loc : Nats}

theorem take_strides (s : Shape) :
    s.strides.take (s.length - 1) = (range (s.length - 1)).map fun i => size (s.drop (i + 1)) := by
  have hall (s : Shape) : s.strides = (range s.length).map fun i => size (s.drop (i + 1)) := by
    induction s with
    | nil => rfl
    | cons d s ih => rw [strides,ih,length_cons,range_succ_eq_map,map_cons,map_map]; rfl
  rw [hall,← map_take,take_range,Nat.min_eq_left (Nat.sub_le ..)]

theorem divideOut_strides (d : Nat) (s : Shape) (i : Nat) :
    divideOut ((strides (d :: s)).take s.length) i = (coords (d :: s) i).map Nat.cast := by
  induction s generalizing d i with
  | nil => simp [divideOut,coords]
  | cons e s ih =>
    have hrest : (i : Int) - (i : Int).fdiv (size (e :: s)) * size (e :: s) = (i % size (e :: s) : Nat) := by
      rw [← Int.ofNat_fdiv,Int.natCast_mod,Int.emod_def,mul_comm]
      rfl
    rw [strides,length_cons,take_succ_cons,divideOut,hrest,ih,← Int.ofNat_fdiv]
    rfl

theorem indexToLoc_natCast (s : Shape) (i : Nat) : s.indexToLoc i = (coords s i).map Nat.cast := by
  unfold indexToLoc
  split
  next => rfl
  next => simp [coords]
  next hnil _ =>
    obtain ⟨d,s,rfl⟩ := exists_cons_of_ne_nil hnil
    exact divideOut_strides d s i

theorem foldl_strides (h : loc.length = s.length) (acc : Int) (c d : Nat) :
    (((c :: loc).map Nat.cast).dropLast.zip (strides (d :: s))).foldl (fun acc (l,st) => acc + st * l)
      (acc + ((c :: loc).map Nat.cast).getLastD 0) = acc + index (d :: s) (c :: loc) := by
  induction s generalizing acc c d loc with
  | nil =>
    obtain rfl := length_eq_zero_iff.mp h
    simp [index]
  | cons e s ih =>
    obtain ⟨b,loc,rfl⟩ := exists_cons_of_length_eq_add_one h
    have hlater := ih (Nat.succ.inj h) (acc + size (e :: s) * c) b e
    rw [index,Nat.cast_add,Nat.cast_mul,mul_comm (c : Int),← add_assoc,← hlater,add_right_comm]
    rfl

theorem locToIndex_natCast (h : loc.length = s.length) : s.locToIndex (loc.map Nat.cast) = index s loc := by
  rcases s with _ | ⟨d,s⟩
  · rfl
  obtain ⟨c,loc,rfl⟩ := exists_cons_of_length_eq_add_one h
  have hsum := foldl_strides (Nat.succ.inj h) 0 c d
  rw [zero_add,zero_add] at hsum
  rw [← hsum]
  cases s with
  | nil => obtain rfl := length_eq_zero_iff.mp (Nat.succ.inj h); rfl
  | cons e s => rfl

/-- Locations in an array of the given shape. -/
def places (s : Shape) : Set Ints := {loc | Forall₂ (fun (l : Int) (d : Nat) => 0 ≤ l ∧ l < d) loc s}

theorem mem_places {loc : Ints} : loc ∈ places s ↔ ∃ l : Nats, Forall₂ (· < ·) l s ∧ l.map Nat.cast = loc := by
  constructor
  · intro h
    induction h with
    | nil => exact ⟨[],.nil,rfl⟩
    | @cons c d loc s hc _ ih =>
      obtain ⟨l,hl,rfl⟩ := ih
      exact ⟨c.toNat :: l,.cons (by omega) hl,by rw [map_cons,Int.toNat_of_nonneg hc.1]⟩
  · rintro ⟨l,hl,rfl⟩
    exact forall₂_map_left_iff.mpr (hl.imp fun c d hc => ⟨by omega,by omega⟩)

theorem invOn_places (s : Shape) : Set.InvOn s.locToIndex s.indexToLoc (Set.Ico 0 s.size) (places s) := by
  constructor
  · rintro i ⟨hi,hlt⟩
    obtain ⟨i,rfl⟩ := Int.eq_ofNat_of_zero_le hi
    have hlt : i < s.size := Int.ofNat_lt.mp hlt
    rw [indexToLoc_natCast,locToIndex_natCast (coords_lt hlt).length_eq,index_coords hlt]
  · intro loc hloc
    obtain ⟨l,hl,rfl⟩ := mem_places.mp hloc
    rw [locToIndex_natCast hl.length_eq,indexToLoc_natCast,coords_index hl]

theorem mapsTo_indexToLoc (s : Shape) : Set.MapsTo s.indexToLoc (Set.Ico 0 s.size) (places s) := by
  rintro i ⟨hi,hlt⟩
  obtain ⟨i,rfl⟩ := Int.eq_ofNat_of_zero_le hi
  exact mem_places.mpr ⟨s.coords i,coords_lt (Int.ofNat_lt.mp hlt),(indexToLoc_natCast s i).symm⟩

theorem mapsTo_locToIndex (s : Shape) : Set.MapsTo s.locToIndex (places s) (Set.Ico 0 s.size) := by
  intro loc hloc
  obtain ⟨l,hl,rfl⟩ := mem_places.mp hloc
  rw [locToIndex_natCast hl.length_eq]
  exact ⟨Int.natCast_nonneg _,Int.ofNat_lt.mpr (index_lt hl)⟩
end TensorKit.Shape
namespace TensorKit.Script
open List
variable {s : Shape} {v : Value} {values : Array Value}

/-- A value that is no list and no array. -/
def Single (v : Value) : Prop := v.isList = false ∧ ∀ kind xs, v ≠ .typed kind xs

/-- Lists in lists, as many at every level as the shape says, and single values in the last ones. -/
def HasShape : Shape → Value → Prop
  | [], v => Single v
  | n :: s, v => ∃ vs, v = .list vs ∧ vs.length = n ∧ ∀ w ∈ vs, HasShape s w

theorem flatValues_of_single (h : Single v) (keep : Bool) : flatValues keep v = [v] := by
  cases v with
  | list xs => cases h.1
  | typed kind xs => exact absurd rfl (h.2 kind xs)
  | _ => simp [flatValues]

theorem nestWithin_cons (f : Nat → Value) (n : Nat) (s : Shape) (start : Nat) : nestWithin f (n :: s) start =
    .list ((range n).map fun i => nestWithin f s (start + i * s.size)) := by
  cases s with
  | nil => simp [nestWithin]
  | cons d s => rfl

theorem nestWithin_shaped {f : Nat → Value} {start : Nat} (h : ∀ i < s.size, Single (f (start + i))) (keep : Bool) :
    HasShape s (nestWithin f s start) ∧
      flatValues keep (nestWithin f s start) = (range s.size).map fun i => f (start + i) := by
  induction s generalizing start with
  | nil => exact ⟨h 0 Nat.one_pos,flatValues_of_single (h 0 Nat.one_pos) keep⟩
  | cons n s ih =>
    have hrow i (hi : i < n) : ∀ j < Shape.size s, Single (f (start + i * Shape.size s + j)) := by
      intro j hj
      rw [add_assoc]
      refine h _ ?_
      calc i * Shape.size s + j < (i + 1) * Shape.size s := by rw [Nat.succ_mul]; omega
        _ ≤ Shape.size (n :: s) := by rw [Shape.size_cons]; exact Nat.mul_le_mul_right _ hi
    rw [nestWithin_cons]
    constructor
    · refine ⟨_,rfl,by rw [length_map,length_range],fun w hw => ?_⟩
      obtain ⟨i,hi,rfl⟩ := mem_map.mp hw
      exact (ih (hrow i (mem_range.mp hi))).1
    · rw [flatValues,flatMap_map,Shape.size_cons,Kernel.range_mul,map_flatMap]
      refine flatMap_congr fun i hi => ?_
      rw [(ih (hrow i (mem_range.mp hi))).2,map_map]
      simp only [Function.comp_def,add_assoc]

theorem nested_shaped (hpos : ∀ d ∈ s, 0 < d) (hsize : values.size = s.size) (hsingle : ∀ v ∈ values, Single v) :
    ∃ v, nested s values = .ok v ∧ HasShape s v ∧ ∀ keep, flatValues keep v = values.toList := by
  have hat i (hi : i < s.size) : Single (values.getD (0 + i) .absent) := by
    rw [zero_add,Array.getD_eq_getD_getElem?,Array.getElem?_eq_getElem (hsize ▸ hi)]
    exact hsingle _ (Array.getElem_mem _)
  have hnest := nestWithin_shaped (f := (values.getD · .absent)) hat
  refine ⟨_,?_,(hnest false).1,fun keep => (hnest keep).2.trans ?_⟩
  · have hne : s.size ≠ 0 := by
      rw [Shape.size,← prod_eq_foldl]
      exact prod_ne_zero fun hzero => absurd (hpos 0 hzero) (lt_irrefl 0)
    cases s with
    | nil => rfl
    | cons d s => simp [nested,hne,hsize]
  · refine ext_getElem (by simp [hsize]) fun i hi _ => ?_
    simp at hi
    simp [hsize,hi]

/-- The places of a buffer and the locations in its shape correspond, by the products of the later sizes, and values
that are nested in the shape flatten to themselves. -/
theorem rowMajor (hpos : ∀ d ∈ s, 0 < d) : (Set.BijOn s.indexToLoc (Set.Ico 0 s.size) s.places ∧
    Set.BijOn s.locToIndex s.places (Set.Ico 0 s.size) ∧
    Set.InvOn s.locToIndex s.indexToLoc (Set.Ico 0 s.size) s.places) ∧
    s.strides.take (s.length - 1) = (range (s.length - 1)).map (fun i => Shape.size (s.drop (i + 1))) ∧
    ∀ values : Array Value, values.size = s.size → (∀ v ∈ values, Single v) →
      ∃ v, nested s values = .ok v ∧ HasShape s v ∧ ∀ keep, flatValues keep v = values.toList := by
  have hinv := Shape.invOn_places s
  have hloc := Shape.mapsTo_indexToLoc s
  have hindex := Shape.mapsTo_locToIndex s
  exact ⟨⟨hinv.bijOn hloc hindex,hinv.symm.bijOn hindex hloc,hinv⟩,Shape.take_strides s,
    fun values hsize hsingle => nested_shaped hpos hsize hsingle⟩

theorem rowMajor_two_by_three : Set.BijOn (Shape.indexToLoc [2,3]) (Set.Ico 0 6) (Shape.places [2,3]) ∧
    ∃ v, nested [2,3] #[1,2,3,4,5,6] = .ok v ∧ HasShape [2,3] v ∧ flatValues false v = [1,2,3,4,5,6] := by
  obtain ⟨⟨hbij,-⟩,-,hnested⟩ := rowMajor (s := [2,3]) (by decide)
  obtain ⟨v,hv,hshape,hflat⟩ := hnested #[1,2,3,4,5,6] rfl (by simp; refine ⟨?_,?_,?_,?_,?_,?_⟩ <;> exact ⟨rfl,nofun⟩)
  exact ⟨hbij,v,hv,hshape,hflat false⟩
end TensorKit.Script
