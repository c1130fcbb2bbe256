import TensorKit.Proofs.Weights.Loading

/-! # Levels in exact arithmetic

Every number of a range is at most half a step away from the level that stands for it, even where the ends of the range
have moved to make zero a level.

Levels are read in two ways. One rounds every number to a whole one, halves to the even neighbour; the other rounds where
whole numbers are wanted, halves up. They agree on some levels only.
-/
namespace TensorKit.Weights
open List
open WholeScalar (nearestUp nearestEven)
variable {round : ℚ → ℚ} {count : ℕ} {lo hi : ℚ} {α : Type} {g : Grid} (x : ℚ) (first : ℚ) (rest : List ℚ)

/-! ## Rounding -/

theorem nearestUp_rat : nearestUp x = if 1 / 2 ≤ Int.fract x then (⌊x⌋ + 1 : ℚ) else ⌊x⌋ := by
  change (if decide (1 / 2 ≤ Int.fract x) = true then (⌊x⌋ + 1 : ℚ) else ⌊x⌋) = _
  simp only [decide_eq_true_eq]

theorem not_below {x : ℚ} (h : 1 / 2 < Int.fract x) : ¬ (Int.fract x < 1 / 2 ∨ Int.fract x = 1 / 2 ∧ Even ⌊x⌋) := by
  rintro (hlow | hhalf)
  · exact h.not_gt hlow
  · exact h.ne' hhalf.1

theorem nearestEven_rat : nearestEven x =
    if Int.fract x < 1 / 2 ∨ Int.fract x = 1 / 2 ∧ Even ⌊x⌋ then (⌊x⌋ : ℚ) else ⌊x⌋ + 1 := by
  have hdef : nearestEven x = if decide (Int.fract x < 1 / 2) = true then (⌊x⌋ : ℚ)
      else if decide (1 / 2 < Int.fract x) = true then (⌈x⌉)
      else if (⌊(⌊x⌋ : ℚ)⌋ % 2 == 0) = true then (⌊x⌋) else ⌊x⌋ + 1 := rfl
  have heven : (⌊(⌊x⌋ : ℚ)⌋ % 2 == 0) = true ↔ Even ⌊x⌋ := by rw [Int.floor_intCast,beq_iff_eq,Int.even_iff]
  rw [hdef]
  simp only [decide_eq_true_eq,heven]
  rcases lt_trichotomy (Int.fract x) (1 / 2) with hlow | hhalf | hhigh
  · rw [if_pos hlow,if_pos (.inl hlow)]
  · simp [hhalf]
  · have hceil : ⌈x⌉ = ⌊x⌋ + 1 := by
      rw [Int.ceil_eq_floor_add_one_iff_notMem]
      rintro ⟨n,rfl⟩
      norm_num at hhigh
    rw [if_neg hhigh.not_gt,if_pos hhigh,if_neg (not_below hhigh),hceil]
    push_cast
    rfl

/-- Rounding gives a whole number that is at most a half away. -/
def Nearest (round : ℚ → ℚ) : Prop := ∀ x, ∃ n : ℤ, round x = n ∧ |n - x| ≤ 1 / 2

theorem nearest_nearestEven : Nearest nearestEven := by
  intro x
  have hfloor := Int.floor_add_fract x
  have hlow := Int.fract_nonneg x
  have hhigh := Int.fract_lt_one x
  rw [nearestEven_rat]
  split_ifs with h
  · refine ⟨⌊x⌋,rfl,abs_le.mpr ⟨?_,?_⟩⟩
    · rcases h with h | h
      · linarith
      · linarith
    · linarith
  · have hhalf : 1 / 2 ≤ Int.fract x := not_lt.mp fun hlt => h (.inl hlt)
    refine ⟨⌊x⌋ + 1,by push_cast; rfl,abs_le.mpr ⟨?_,?_⟩⟩
    · push_cast
      linarith
    · push_cast
      linarith

/-- The two ways of rounding differ at a half above an even number, and nowhere else. -/
theorem nearestUp_eq_nearestEven_iff : nearestUp x = nearestEven x ↔ (Int.fract x = 1 / 2 → Odd ⌊x⌋) := by
  rw [nearestUp_rat,nearestEven_rat]
  rcases lt_trichotomy (Int.fract x) (1 / 2) with hlow | hhalf | hhigh
  · rw [if_neg hlow.not_ge,if_pos (.inl hlow)]
    exact iff_of_true rfl (absurd · hlow.ne)
  · by_cases heven : Even ⌊x⌋
    · simp [hhalf]
    · simp [hhalf]
  · rw [if_pos hhigh.le,if_neg (not_below hhigh)]
    exact iff_of_true rfl fun h => absurd h hhigh.ne'

theorem eq_nearestEven_iff : x = nearestEven x ↔ ∃ n : ℤ, x = n := by
  constructor
  · intro h
    obtain ⟨n,hn,-⟩ := nearest_nearestEven x
    exact ⟨n,h.trans hn⟩
  · rintro ⟨n,rfl⟩
    rw [nearestEven_rat,if_pos (.inl (by norm_num)),Int.floor_intCast]

theorem Nearest.within (h : Nearest round) {x : ℚ} (hlow : 0 ≤ x) (hhigh : x ≤ count) :
    ∃ n, n ≤ count ∧ round x = n ∧ |(n : ℚ) - x| ≤ 1 / 2 := by
  obtain ⟨n,hn,hnear⟩ := h x
  obtain ⟨hbelow,habove⟩ := abs_le.mp hnear
  have hpos : 0 ≤ n := by
    rw [← Int.lt_add_one_iff,← Int.cast_lt (R := ℚ)]
    push_cast
    linarith
  have hmost : n ≤ count := by
    rw [← Int.lt_add_one_iff,← Int.cast_lt (R := ℚ)]
    push_cast
    linarith
  lift n to ℕ using hpos
  exact ⟨n,by exact_mod_cast hmost,by exact_mod_cast hn,by exact_mod_cast hnear⟩

theorem eq_of_near {m n : ℕ} (h : |(m : ℚ) - n| ≤ 1 / 2) : m = n := by
  rw [← Nat.cast_inj (R := ℤ),← sub_eq_zero,← Int.abs_lt_one_iff]
  exact_mod_cast h.trans_lt one_half_lt_one

/-! ## Levels of a range -/

theorem ofRange_rat (round : ℚ → ℚ) (count : ℕ) (lo hi : ℚ) : Levels.ofRange round count lo hi =
      let step := (hi - lo) / count
      if lo ≤ 0 ∧ 0 ≤ hi then ⟨step,-round ((0 - lo) / step) * step,count * step + -round ((0 - lo) / step) * step⟩
      else ⟨step,lo,hi⟩ := by
  have hholds : (Scalar.le lo Scalar.zero && Scalar.le Scalar.zero hi) = decide (lo ≤ 0 ∧ 0 ≤ hi) :=
    (Bool.decide_and ..).symm
  simp only [Levels.ofRange,hholds,decide_eq_true_eq]
  rfl

/-- Levels that cover a range: as many steps as there are, from an end that is at most half a step away. -/
structure Covers (s : Levels ℚ) (count : ℕ) (lo hi : ℚ) : Prop where
  step : 0 < s.step
  range : hi - lo = count * s.step
  most : s.most = count * s.step + s.least
  near : |s.least - lo| ≤ s.step / 2

theorem range_eq_steps (hcount : 0 < count) (h : lo < hi) :
    0 < (hi - lo) / count ∧ hi - lo = count * ((hi - lo) / count) := by
  have hcount' : (0 : ℚ) < count := by exact_mod_cast hcount
  exact ⟨div_pos (by linarith) hcount',by field_simp⟩

theorem covers_ofRange (hround : Nearest round) (hcount : 0 < count) (h : lo < hi) :
    Covers (.ofRange round count lo hi) count lo hi := by
  obtain ⟨hstep,hrange⟩ := range_eq_steps hcount h
  rw [ofRange_rat]
  generalize (hi - lo) / count = step at hstep hrange ⊢
  split_ifs
  · refine ⟨hstep,hrange,rfl,?_⟩
    obtain ⟨n,hn,hnear⟩ := hround ((0 - lo) / step)
    have hdiff : -round ((0 - lo) / step) * step - lo = -((n - (0 - lo) / step) * step) := by
      rw [hn]
      field_simp
      ring
    rw [hdiff,abs_neg,abs_mul,abs_of_pos hstep]
    linarith [mul_le_mul_of_nonneg_right hnear hstep.le]
  · refine ⟨hstep,hrange,?_,?_⟩
    · linarith
    · rw [sub_self]
      linarith

theorem lt_rat (y : ℚ) : (Scalar.lt x y = true) = (x < y) := decide_eq_true_eq
theorem clip_rat (lo hi x : ℚ) :
    clip lo hi x = if hi < (if x < lo then lo else x) then hi else if x < lo then lo else x := by
  simp only [clip,lt_rat]
theorem level_rat (round : ℚ → ℚ) (s : Levels ℚ) (x : ℚ) :
    s.level round x = round ((clip s.least s.most x - s.least) / s.step) := rfl

theorem Covers.level (hround : Nearest round) (h : Covers s count lo hi) {x : ℚ} (hlow : lo ≤ x)
    (hhigh : x ≤ hi) : ∃ n, n ≤ count ∧ s.level round x = n ∧ |(n : ℚ) * s.step + s.least - x| ≤ s.step / 2 := by
  have hstep := h.step
  obtain ⟨hbelow,habove⟩ := abs_le.mp h.near
  have hends : s.least ≤ s.most := by
    rw [h.most]
    have : 0 ≤ count * s.step := by positivity
    linarith
  -- the level of a number within the ends, and how far it is from there
  have hwithin : ∀ y, s.least ≤ y → y ≤ s.most → ∃ n, n ≤ count ∧ round ((y - s.least) / s.step) = n ∧
      |n - (y - s.least) / s.step| ≤ 1 / 2 := by
    intro y hy hy'
    refine hround.within (div_nonneg (by linarith) hstep.le) ((div_le_iff₀ hstep).mpr ?_)
    rw [h.most] at hy'
    linarith
  rw [level_rat,clip_rat]
  by_cases hx : x < s.least
  · -- a number below the least level is taken for it
    obtain ⟨n,hn,hlevel,hnear⟩ := hwithin s.least le_rfl hends
    rw [if_pos hx,if_neg hends.not_gt]
    have hzero : n = 0 := eq_of_near (by simpa using hnear)
    refine ⟨n,hn,hlevel,abs_le.mpr ?_⟩
    rw [hzero]
    constructor <;> linarith
  rw [if_neg hx]
  by_cases hx' : s.most < x
  · obtain ⟨n,hn,hlevel,hnear⟩ := hwithin s.most hends le_rfl
    rw [if_pos hx']
    have hall : (s.most - s.least) / s.step = count := by
      rw [h.most]
      field_simp
      ring
    have hcount : n = count := eq_of_near (by rwa [hall] at hnear)
    have hmost := h.most
    have hrange := h.range
    refine ⟨n,hn,hlevel,abs_le.mpr ?_⟩
    rw [hcount]
    constructor <;> linarith
  · obtain ⟨n,hn,hlevel,hnear⟩ := hwithin x (not_lt.mp hx) (not_lt.mp hx')
    rw [if_neg hx']
    refine ⟨n,hn,hlevel,?_⟩
    have hdiff : n * s.step + s.least - x = (n - (x - s.least) / s.step) * s.step := by
      field_simp
      ring
    rw [hdiff,abs_mul,abs_of_pos hstep]
    linarith [mul_le_mul_of_nonneg_right hnear hstep.le]

theorem exists_zero_level (hround : Nearest round) (hcount : 0 < count) (h : lo < hi) (hlo : lo ≤ 0) (hhi : 0 ≤ hi) :
    ∃ z, z ≤ count ∧ (z : ℚ) * (Levels.ofRange round count lo hi).step + (Levels.ofRange round count lo hi).least =
    0 := by
  obtain ⟨hstep,hrange⟩ := range_eq_steps hcount h
  rw [ofRange_rat]
  generalize (hi - lo) / count = step at hstep hrange ⊢
  have hlow : 0 ≤ (0 - lo) / step := div_nonneg (by linarith) hstep.le
  have hhigh : (0 - lo) / step ≤ count := (div_le_iff₀ hstep).mpr (by linarith)
  obtain ⟨z,hz,hround,-⟩ := hround.within hlow hhigh
  refine ⟨z,hz,?_⟩
  simp only [hlo,hhi,and_self,if_true,hround]
  ring

/-! ## Levels of an array -/

theorem foldl_pick [Std.Refl r] [IsTrans ℚ r]
    (hpick : ∀ a b, pick a b ∈ [a,b] ∧ r (pick a b) a ∧ r (pick a b) b) (first : ℚ) (rest : List ℚ) :
    rest.foldl pick first ∈ first :: rest ∧ ∀ x ∈ first :: rest, r (rest.foldl pick first) x := by
  induction rest generalizing first with
  | nil => exact ⟨mem_cons_self,fun x hx => mem_singleton.mp hx ▸ refl_of r first⟩
  | cons y rest ih =>
    obtain ⟨hmem,hahead⟩ := ih (pick first y)
    obtain ⟨hone,hfirst,hy⟩ := hpick first y
    have hpicked := hahead _ mem_cons_self
    refine ⟨by grind,forall_mem_cons.mpr ⟨trans_of r hpicked hfirst,forall_mem_cons.mpr
      ⟨trans_of r hpicked hy,fun x hx => hahead x (mem_cons_of_mem _ hx)⟩⟩⟩

theorem foldl_lesser_rat :
    rest.foldl lesser first ∈ first :: rest ∧ ∀ x ∈ first :: rest, rest.foldl lesser first ≤ x := by
  refine foldl_pick (fun a b => ?_) first rest
  have hself : Scalar.eq b b = true := beq_self_eq_true b
  simp only [lesser,hself,Bool.not_true,Bool.or_false,lt_rat]
  grind

theorem foldl_greater_rat :
    rest.foldl greater first ∈ first :: rest ∧ ∀ x ∈ first :: rest, x ≤ rest.foldl greater first := by
  refine foldl_pick (r := (· ≥ ·)) (fun a b => ?_) first rest
  have hself : Scalar.eq b b = true := beq_self_eq_true b
  simp only [greater,hself,Bool.not_true,Bool.or_false,lt_rat]
  grind

theorem quantize_rat (round : ℚ → ℚ) (count : ℕ) (first : ℚ) (rest : List ℚ) : quantize round count first rest =
      let lo := rest.foldl lesser first
      let hi := rest.foldl greater first
      if lo = hi then ((first :: rest).map fun _ => 0,1,lo)
      else
        let s := Levels.ofRange round count lo hi
        ((first :: rest).map (s.level round),s.step,s.least) := by
  have heq : ∀ x y : ℚ, (Scalar.eq x y = true) = (x = y) := fun x y => propext beq_iff_eq
  simp only [quantize,heq]
  rfl

theorem levelCount_pos (h : levelCount? target = some count) : 0 < count := by cases target <;> cases h <;> decide

/-- The levels of numbers that are not all the same: each is one of those that the type can count, and stands for
a number at most half a step away. Zero has a level of its own if the numbers are on both sides of it. -/
theorem quantize_accurate {target : Element} {count : ℕ} (htarget : levelCount? target = some count) {first : ℚ}
    {rest : List ℚ} (hrange : ∃ a ∈ first :: rest, ∃ b ∈ first :: rest, a < b) {qs : List ℚ} {scale min : ℚ}
    (h : quantize nearestEven count first rest = (qs, scale, min)) :
    0 < scale ∧
      List.Forall₂ (fun x q : ℚ => (∃ n : ℕ, n ≤ count ∧ q = n) ∧ |q * scale + min - x| ≤ scale / 2) (first :: rest) qs ∧
      ((∃ a ∈ first :: rest, a ≤ 0) → (∃ b ∈ first :: rest, 0 ≤ b) →
        ∃ z : ℕ, z ≤ count ∧ (z : ℚ) * scale + min = 0) := by
  have hcount := levelCount_pos htarget
  obtain ⟨-, hlo⟩ := foldl_lesser_rat first rest
  obtain ⟨-, hhi⟩ := foldl_greater_rat first rest
  have hne : rest.foldl lesser first < rest.foldl greater first := by
    obtain ⟨a, ha, b, hb, hab⟩ := hrange
    exact (hlo a ha).trans_lt (hab.trans_le (hhi b hb))
  simp only [quantize_rat, hne.ne, if_false, Prod.mk.injEq] at h
  obtain ⟨rfl, rfl, rfl⟩ := h
  have hcovers := covers_ofRange nearest_nearestEven hcount hne
  refine ⟨hcovers.step, ?_, ?_⟩
  · rw [List.forall₂_map_right_iff, List.forall₂_same]
    intro x hx
    obtain ⟨n, hn, hlevel, hnear⟩ := hcovers.level nearest_nearestEven (hlo x hx) (hhi x hx)
    rw [hlevel]
    exact ⟨⟨n, hn, rfl⟩, hnear⟩
  · rintro ⟨a, ha, hneg⟩ ⟨b, hb, hpos⟩
    exact exists_zero_level nearest_nearestEven hcount hne ((hlo a ha).trans hneg) (hpos.trans (hhi b hb))

/-- The range moves down by half a step so that zero is a level, and the greatest number is taken for its end. -/
theorem quantize_accurate_moved :
    quantize nearestEven 255 (-1 : ℚ) [1 / 3, 1] = ([0, 170, 255], 2 / 255, -256 / 255) ∧
      List.Forall₂ (fun x q : ℚ => (∃ n : ℕ, n ≤ 255 ∧ q = n) ∧ |q * (2 / 255) + -256 / 255 - x| ≤ 2 / 255 / 2)
        [-1, 1 / 3, 1] [0, 170, 255] ∧
      ∃ z : ℕ, z ≤ 255 ∧ (z : ℚ) * (2 / 255) + -256 / 255 = 0 := by
  have hlevels : quantize nearestEven 255 (-1 : ℚ) [1 / 3, 1] = ([0, 170, 255], 2 / 255, -256 / 255) := by
    decide +kernel
  have htarget : levelCount? .uint8 = some 255 := rfl
  obtain ⟨-, hall, hzero⟩ := quantize_accurate htarget ⟨-1, by simp, 1, by simp, by norm_num⟩ hlevels
  exact ⟨hlevels, hall, hzero ⟨-1, by simp, by norm_num⟩ ⟨1, by simp, by norm_num⟩⟩

/-! ## Reading levels -/

/-- Reads an array of levels, and gives the numbers for which they stand. -/
def loadLevels (a : Arithmetic α) (bs : Bytes) (offset : ℕ) (e : Element) (shape : Ints) (step least : α) :
    Except Refusal (List α × ℕ) :=
  (readElements bs offset false e shape).map fun r => (dequantize a step least ((levelsOf r.1).map a.ofNat),r.2)

variable (a : Arithmetic α) (hlevels : levelCount? g.element = some count) (hfilled : g.cells.length = g.size)
  (pre post : Bytes)
include hlevels hfilled
theorem readElements_levels : readElements (pre ++ g.toBytes ++ post)
    pre.length false g.element (g.shape.map .ofNat) = .ok (g,pre.length + g.toBytes.length) := by
  have hnumbers : isReadable g.element ∧ g.element ≠ .object := by
    cases hg : g.element <;> rw [hg] at hlevels <;> cases hlevels <;> decide
  have hread := readElements_numbers hnumbers.1 hnumbers.2 hfilled pre post
  rwa [readAs,decide_eq_false hnumbers.2,fileBytes_of_ne hnumbers.2,readGrid_of_ne hnumbers.2] at hread

theorem loadLevels_append (step least : α) :
    loadLevels a (pre ++ g.toBytes ++ post) pre.length g.element (g.shape.map .ofNat) step least =
    .ok ((levelsOf g).map fun v => a.settle step least (a.ofNat v),pre.length + g.toBytes.length) := by
  unfold loadLevels dequantize
  rw [readElements_levels hlevels hfilled,Except.map,map_map]
  rfl

theorem decodeOne_levels {spec : Spec α} (hspec : spec.quantization = some q) (hkept : q.dtype = g.element.name)
    (hshape : spec.shape = g.shape) (hdtype : spec.dtype = "float32" ∨ spec.dtype = "int32") (pre post : Bytes) :
    decodeOne a (pre ++ g.toBytes ++ post) pre.length spec = .ok (.numbers ((levelsOf g).map (a.restore (spec.dtype ==
    "int32") q)),pre.length + g.toBytes.length) := by
  have hwidth : quantizedWidth? g.element.name = some g.element.width := by
    cases hg : g.element <;> rw [hg] at hlevels <;> cases hlevels <;> decide +kernel
  have hlength : g.toBytes.length = spec.shape.size * g.element.width := by
    rw [length_toBytes,hfilled,hshape]
    rfl
  have hslice : slice (pre ++ g.toBytes ++ post) pre.length (spec.shape.size * g.element.width) = g.toBytes :=
    slice_eq rfl hlength.symm
  have heven : (spec.shape.size * g.element.width % g.element.width != 0) = false := by simp
  simp only [decodeOne,hspec,hkept,hwidth,hslice,hlength,heven,readWords_toBytes]
  rcases hdtype with h | h <;> rw [h] <;> rfl

omit hlevels hfilled

/-- Exact numbers, a half going to the greater neighbour or to the even one. -/
def halvesUp : Arithmetic ℚ := ⟨Nat.cast,fun v scale min => v * scale + min,nearestUp⟩

def halvesEven : Arithmetic ℚ := ⟨Nat.cast,fun v scale min => v * scale + min,nearestEven⟩
def Quantization.value (q : Quantization ℚ) (v : ℕ) : ℚ := v * q.scale + q.min

/-- One reader takes the nearest whole number everywhere, the even one at a half; the other does so for whole elements
only, and takes the greater one at a half. They agree on an array if it stands for whole numbers, and for
whole elements already if no half is above an even number. -/
theorem loadLevels_eq_decodeOne_iff (g : Grid) {count : ℕ} (hlevels : levelCount? g.element = some count)
    (hfilled : g.cells.length = g.size) (spec : Spec ℚ) {q : Quantization ℚ} (hspec : spec.quantization = some q)
    (hkept : q.dtype = g.element.name) (hshape : spec.shape = g.shape)
    (hdtype : spec.dtype = "float32" ∨ spec.dtype = "int32") (pre post : Bytes) :
    ∃ xs ys next,
      loadLevels halvesEven (pre ++ g.toBytes ++ post) pre.length g.element (g.shape.map Int.ofNat) q.scale q.min =
        .ok (xs, next) ∧
      decodeOne halvesUp (pre ++ g.toBytes ++ post) pre.length spec = .ok (.numbers ys, next) ∧
      (xs = ys ↔ ∀ v ∈ levelsOf g,
        if spec.dtype = "int32" then Int.fract (q.value v) = 1 / 2 → Odd ⌊q.value v⌋ else ∃ n : ℤ, q.value v = n) := by
  refine ⟨_, _, _, loadLevels_append halvesEven hlevels hfilled pre post q.scale q.min,
    decodeOne_levels halvesUp hlevels hfilled hspec hkept hshape hdtype pre post, ?_⟩
  rw [List.map_inj_left]
  refine forall₂_congr fun v _ => ?_
  rcases hdtype with h | h
  · rw [h, if_neg (by decide), ← eq_nearestEven_iff]
    exact eq_comm
  · rw [h, if_pos rfl, ← nearestUp_eq_nearestEven_iff]
    exact eq_comm

def halfSteps : Grid := ⟨.uint8,[2],([2,3] : Bytes)⟩
def inHalfSteps : Quantization ℚ := ⟨"uint8",1 / 2,0⟩

/-- Whole elements are the same: the half is above an odd number. -/
theorem loadLevels_eq_decodeOne_iff_halfSteps :
    ∃ xs next, loadLevels halvesEven (halfSteps.toBytes ++ [7]) 0 .uint8 [2] (1 / 2) 0 = .ok (xs, next) ∧
      decodeOne halvesUp (halfSteps.toBytes ++ [7]) 0 ⟨"w", [2], "int32", inHalfSteps⟩ = .ok (.numbers xs, next) := by
  obtain ⟨xs, ys, next, hload, hdecode, hsame⟩ :=
    loadLevels_eq_decodeOne_iff halfSteps rfl rfl ⟨"w", [2], "int32", inHalfSteps⟩ rfl rfl rfl (.inr rfl) [] [7]
  have hodd : ∀ v ∈ levelsOf halfSteps, Int.fract (inHalfSteps.value v) = 1 / 2 → Odd ⌊inHalfSteps.value v⌋ := by
    decide +kernel
  obtain rfl : xs = ys := hsame.mpr fun v hv => (if_pos rfl).mpr (hodd v hv)
  exact ⟨xs, next, hload, hdecode⟩

/-- Half a step above zero the readers differ, whatever the elements are. -/
theorem loadLevels_ne_decodeOne :
    (loadLevels halvesEven [1] 0 .uint8 [1] (1 / 2) 0).toOption = some ([0], 1) ∧
      (decodeOne halvesUp [1] 0 ⟨"w", [1], "float32", inHalfSteps⟩).toOption = some (.numbers [1 / 2], 1) ∧
      (decodeOne halvesUp [1] 0 ⟨"w", [1], "int32", inHalfSteps⟩).toOption = some (.numbers [1], 1) := by
  decide +kernel
end TensorKit.Weights
