import TensorKit.Kernel.Reduce
import TensorKit.Kernel.Fourier
import TensorKit.Proofs.Ops.Adjoints

/-! # Sums in pieces

Products of matrices add up blocks, and Fourier transforms halve rows whose length is a power of two. Over exact numbers
both give the sums by which they are defined.
-/
namespace TensorKit.Kernel
open List

/-! ## Products of matrices -/

section
variable (f : Nat → ℚ)
end

/-- An entry of a matrix of a stack, or of its transpose. -/
def entry (x : NDArray ℚ) (transposed : Bool) (m i j : Nat) : ℚ := if transposed then x.get [m,j,i] else x.get [m,i,j]

noncomputable instance : Scalar ℝ where
  zero := 0
  one := 1
  missing := 0
  lt a b := decide (a < b)
  le a b := decide (a ≤ b)
  eq a b := decide (a = b)
  ofInt n := n

def Complex.value (z : Complex ℝ) : ℂ := ⟨z.re,z.im⟩

variable (a b : Complex ℝ)
theorem value_injective : Function.Injective Complex.value := by
  rintro ⟨_,_⟩ ⟨_,_⟩ h
  simpa [Complex.value] using h

theorem value_add : (a.add b).value = a.value + b.value := rfl
theorem value_sub : (a.sub b).value = a.value - b.value := by simp [Complex.value,Complex.sub,Complex.ext_iff]
theorem value_mul : (a.mul b).value = a.value * b.value := by simp [Complex.value,Complex.mul,Complex.ext_iff]
theorem value_scaleDown (n : Nat) : (a.scaleDown n).value = a.value / n := by
  simp [Complex.value,Complex.scaleDown,Complex.ext_iff,Scalar.ofNat,Scalar.ofInt]

variable {ζ : ℂ} {n : Nat} {inverse : Bool} {xs ys : List (Complex ℝ)} {f : Nat → ℂ}

/-- The number whose powers a transform uses. -/
noncomputable abbrev turn (ζ : ℂ) (inverse : Bool) : ℂ := if inverse then ζ⁻¹ else ζ

/-- Numbers that are not rounded, with the powers of `ζ`, a root of unity of order `n`, as roots of the orders that
divide `n`. -/
noncomputable def Circle.powers (ζ : ℂ) (n : Nat) : Circle ℝ where
  store x := x
  root k m inverse := ⟨(turn ζ inverse ^ (n / m * k)).re,(turn ζ inverse ^ (n / m * k)).im⟩

theorem keep_powers (z : Complex ℝ) : (Circle.powers ζ n).keep z = z := rfl
theorem value_root (k m : Nat) : ((Circle.powers ζ n).root k m inverse).value = turn ζ inverse ^ (n / m * k) := rfl

/-- The list has the numbers that a function gives for its places. -/
def Lists (n : Nat) (f : Nat → ℂ) (xs : List (Complex ℝ)) : Prop := xs.length = n ∧ ∀ r hr, xs[r].value = f r

theorem Lists.ext (hx : Lists n f xs) (hy : Lists n f ys) : xs = ys :=
  ext_getElem (hx.1.trans hy.1.symm) fun r hr hr' => value_injective ((hx.2 r hr).trans (hy.2 r hr').symm)

/-! ## Halving -/

/-- The polynomial with the given coefficients. -/
def horner (xs : List (Complex ℝ)) (x : ℂ) : ℂ := xs.foldr (fun z acc => z.value + x * acc) 0

theorem horner_eq_sum (xs : List (Complex ℝ)) (x : ℂ) : horner xs x = ∑ c : Fin xs.length, xs[c].value * x ^ c.val := by
  induction xs with
  | nil => simp [horner]
  | cons a xs ih =>
    simp only [horner,foldr_cons] at ih ⊢
    rw [ih,Finset.mul_sum]
    simp [Fin.sum_univ_succ,pow_succ',mul_left_comm]

theorem horner_evenOdd (xs : List (Complex ℝ)) (x : ℂ) :
    horner xs x = horner (evenOdd xs).1 (x ^ 2) + x * horner (evenOdd xs).2 (x ^ 2) := by
  fun_induction evenOdd xs with
  | case1 => simp [horner]
  | case2 => simp [horner]
  | case3 a b rest es os h ih =>
    simp only [h,horner,foldr_cons] at ih ⊢
    rw [ih]
    ring

theorem length_evenOdd {β : Type} {xs : List β} (h : xs.length = 2 * m) :
    (evenOdd xs).1.length = m ∧ (evenOdd xs).2.length = m := by
  fun_induction evenOdd xs generalizing m with
  | case1 => simp_all
  | case2 => simp at h; omega
  | case3 a b rest es os hrest ih =>
    simp only [hrest,length_cons] at h ih ⊢
    have := ih (m := m - 1) (by omega)
    omega

theorem lists_fftHalving (hζ : IsPrimitiveRoot (turn ζ inverse) n) (hpos : 0 < n) (hn : n = s * 2 ^ d)
    (hxs : xs.length = 2 ^ d) :
    Lists (2 ^ d) (fun r => horner xs (turn ζ inverse ^ (s * r))) (fftHalving (.powers ζ n) inverse d xs) := by
  induction d generalizing s xs with
  | zero =>
    obtain ⟨z,rfl⟩ := length_eq_one_iff.mp hxs
    simp [fftHalving,horner,Lists]
  | succ d ih =>
    obtain ⟨he,ho⟩ := length_evenOdd (hxs.trans (pow_succ' 2 d))
    have hsplit : n = 2 * s * 2 ^ d := by rw [hn]; ring
    obtain ⟨hle,hes⟩ := ih hsplit he
    obtain ⟨hlo,hos⟩ := ih hsplit ho
    have hroot : n / xs.length = s := by rw [hn,hxs,Nat.mul_div_cancel _ (by positivity)]
    have hsq r : turn ζ inverse ^ (2 * s * r) = (turn ζ inverse ^ (s * r)) ^ 2 := by ring
    -- half a turn is a root of unity of order two
    have hhalf : turn ζ inverse ^ (s * 2 ^ d) = -1 := (hζ.pow hpos (by rw [hsplit]; ring)).eq_neg_one_of_two_right
    have hmany : ¬ xs.length ≤ 1 := by rw [hxs,not_le]; exact Nat.one_lt_two_pow (by omega)
    simp only [fftHalving,hmany,if_false]
    refine ⟨by simp [hle,hlo,pow_succ',two_mul],fun r hr => ?_⟩
    dsimp only at hes hos ⊢
    rw [horner_evenOdd xs,getElem_append]
    split
    next h =>
      simp only [getElem_map,getElem_zip,getElem_zipIdx,keep_powers,value_add,value_mul,value_root,hes,hos,hsq,hroot,
        Nat.zero_add]
    next h =>
      simp only [length_map,length_zip,length_zipIdx,hle,hlo,Nat.min_self] at h ⊢
      have hback : turn ζ inverse ^ (s * r) = -turn ζ inverse ^ (s * (r - 2 ^ d)) := by
        rw [← neg_one_mul,← hhalf,← pow_add,← mul_add,Nat.add_sub_cancel' (by omega)]
      simp only [getElem_map,getElem_zip,getElem_zipIdx,keep_powers,value_sub,value_mul,value_root,hes,hos,hsq,hroot,
        Nat.zero_add,hback,neg_sq,neg_mul,sub_eq_add_neg]

/-! ## Sums -/

theorem value_foldl (xs : List (Complex ℝ))
    (w : ℂ) {root : Nat → Complex ℝ} (hroot : ∀ c, (root c).value = w ^ c) (acc : Complex ℝ) (k : Nat) :
    ((xs.zipIdx k).foldl (fun acc (x,c) => acc.add (x.mul (root c))) acc).value = acc.value + w ^ k * horner xs w := by
  induction xs generalizing acc k with
  | nil => simp [horner]
  | cons x xs ih =>
    simp only [zipIdx_cons,foldl_cons,ih,value_add,value_mul,hroot,horner,foldr_cons]
    ring

/-- The value of the transform at a place. -/
noncomputable def transformed (ζ : ℂ) (inverse : Bool) (xs : List (Complex ℝ)) (r : Nat) : ℂ :=
  horner xs (turn ζ inverse ^ r) / if inverse then (xs.length : ℂ) else 1

theorem lists_fourierSum (hpos : 0 < xs.length) :
    Lists xs.length (transformed ζ inverse xs) (fourierSum (.powers ζ xs.length) inverse xs) := by
  refine ⟨by simp [fourierSum],fun r hr => ?_⟩
  have hroot c : ((Circle.powers ζ xs.length).root (r * c) xs.length inverse).value = (turn ζ inverse ^ r) ^ c := by
    rw [value_root,Nat.div_self hpos,one_mul,pow_mul]
  have hsum := value_foldl xs _ hroot ⟨Scalar.zero,Scalar.zero⟩ 0
  have hzero : (⟨Scalar.zero,Scalar.zero⟩ : Complex ℝ).value = 0 := rfl
  rw [hzero,zero_add,pow_zero,one_mul] at hsum
  simp only [fourierSum,getElem_map,getElem_range,keep_powers,transformed]
  cases inverse with
  | true => rw [if_pos rfl,value_scaleDown,hsum,if_pos rfl]
  | false => rw [if_neg Bool.false_ne_true,hsum,if_neg Bool.false_ne_true,div_one]

theorem lists_fourier (hζ : IsPrimitiveRoot (turn ζ inverse) xs.length) (hpos : 0 < xs.length) :
    Lists xs.length (transformed ζ inverse xs) (fourier (.powers ζ xs.length) inverse xs) := by
  unfold fourier
  dsimp only
  split
  next htwo =>
    have hlen : xs.length = 2 ^ xs.length.log2 := beq_iff_eq.mp htwo
    obtain ⟨hl,hall⟩ := lists_fftHalving hζ hpos ((one_mul _).trans hlen.symm).symm hlen
    simp only [one_mul,← hlen] at hl hall
    unfold transformed
    cases inverse with
    | true =>
      refine ⟨by simp [hl],fun r hr => ?_⟩
      simp only [if_true,getElem_map,keep_powers,value_scaleDown,hall]
    | false => exact ⟨hl,fun r hr => by simpa using hall r hr⟩
  next => exact lists_fourierSum hpos

theorem sum_powers (hζ : IsPrimitiveRoot ζ n) (hj : j < n) (hr : r < n) :
    ∑ c : Fin n, (ζ ^ c.val) ^ j * (ζ⁻¹ ^ r) ^ c.val = if j = r then (n : ℂ) else 0 := by
  have hne : ζ ^ r ≠ 0 := pow_ne_zero _ (hζ.ne_zero (by omega))
  have hterm c : (ζ ^ c) ^ j * (ζ⁻¹ ^ r) ^ c = (ζ ^ j / ζ ^ r) ^ c := by
    rw [div_eq_mul_inv,mul_pow,inv_pow,pow_right_comm]
  simp only [hterm]
  rw [Fin.sum_univ_eq_sum_range fun c => (ζ ^ j / ζ ^ r) ^ c]
  split
  next h => simp [h,div_self hne]
  next h =>
    have hone : ζ ^ j / ζ ^ r ≠ 1 := fun heq => h (hζ.pow_inj hj hr ((div_eq_one_iff_eq hne).mp heq))
    rw [geom_sum_eq hone,div_pow,pow_right_comm ζ j,pow_right_comm ζ r,hζ.pow_eq_one,one_pow,one_pow,div_one,sub_self,
      zero_div]

/-- Over exact numbers a transform is the discrete Fourier sum, whether it halves or sums, and the inverse transform of
the transform is the list itself. -/
theorem fourier_exact (xs : List (Complex ℝ)) (hζ : IsPrimitiveRoot ζ xs.length) (hpos : 0 < xs.length) :
    (fourier (.powers ζ xs.length) false xs).map Complex.value =
      (range xs.length).map (fun r => ∑ c : Fin xs.length, xs[c].value * ζ ^ (r * c.val)) ∧
    (isPowerOfTwo xs.length → fftHalving (.powers ζ xs.length) false xs.length.log2 xs =
      fourierSum (.powers ζ xs.length) false xs) ∧
    fourier (.powers ζ xs.length) true (fourier (.powers ζ xs.length) false xs) = xs := by
  have hsum := @lists_fourier ζ false xs hζ hpos
  refine ⟨ext_getElem (by simp [hsum.1]) fun r hr _ => ?_, fun htwo => ?_, ?_⟩
  · simp [hsum.2, transformed, horner_eq_sum, pow_mul]
  · simpa [fourier, htwo] using hsum.ext (lists_fourierSum hpos)
  · generalize fourier (.powers ζ xs.length) false xs = ys at hsum
    have hback := @lists_fourier ζ true ys (hsum.1 ▸ hζ.inv) (hsum.1 ▸ hpos)
    rw [hsum.1] at hback
    refine ext_getElem hback.1 fun r hr hx => value_injective ?_
    have hterm (c : Fin xs.length) : transformed ζ false xs c * (ζ⁻¹ ^ r) ^ c.val =
        ∑ j : Fin xs.length, xs[j].value * ((ζ ^ c.val) ^ j.val * (ζ⁻¹ ^ r) ^ c.val) := by
      simp [transformed, horner_eq_sum, Finset.sum_mul, mul_assoc]
    calc (fourier (.powers ζ xs.length) true ys)[r].value
        = (∑ c : Fin ys.length, ys[c].value * (ζ⁻¹ ^ r) ^ c.val) / xs.length := by
          simp [hback.2, transformed, horner_eq_sum, hsum.1]
      _ = (∑ c : Fin xs.length, transformed ζ false xs c * (ζ⁻¹ ^ r) ^ c.val) / xs.length := by
          simp only [Fin.getElem_fin, hsum.2]
          rw [Fin.sum_univ_eq_sum_range (fun c => transformed ζ false xs c * (ζ⁻¹ ^ r) ^ c), hsum.1, Finset.sum_range]
      _ = (∑ j : Fin xs.length, xs[j].value * if j.val = r then (xs.length : ℂ) else 0) / xs.length := by
          simp only [hterm]
          rw [Finset.sum_comm]
          simp only [← Finset.mul_sum, sum_powers hζ (Fin.isLt _) hx]
      _ = xs[r].value := by
          rw [Finset.sum_eq_single ⟨r, hx⟩ (by rintro j - hj; simp [Fin.val_ne_of_ne hj]) (by simp)]
          simp [hpos.ne']

theorem fourier_exact_four : ∃ ζ : ℂ, IsPrimitiveRoot ζ 4 ∧ fourier (.powers ζ 4) true (fourier (.powers ζ 4) false
    [⟨1, 2⟩, ⟨3, 0⟩, ⟨0, 5⟩, ⟨7, 1⟩]) = [⟨1, 2⟩, ⟨3, 0⟩, ⟨0, 5⟩, ⟨7, 1⟩] := by
  have hζ := Complex.isPrimitiveRoot_exp 4 (by decide)
  exact ⟨_, hζ, (fourier_exact [⟨1, 2⟩, ⟨3, 0⟩, ⟨0, 5⟩, ⟨7, 1⟩] hζ (by decide)).2.2⟩
end TensorKit.Kernel
