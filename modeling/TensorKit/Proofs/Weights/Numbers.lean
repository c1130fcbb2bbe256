import Mathlib
import TensorKit.Grid.Basic

/-! # Numbers by their bits

A double is its sign, its exponent and its digits. From this it follows that whole numbers of at most 53
digits, and all numbers of single precision, come back unchanged from being kept as doubles.
-/
namespace TensorKit.Number
open Float.Model
open Float.Model.UnpackedFloat (Sign ExtendedMantissa unpackMantissa unpackExponent packComponents
  unpackExponent_packComponents unpackMantissa_packComponents unpackSign_packComponents shiftToTargetExponent
  roundWithAccuracy)

/-! ## The fields of a double -/

variable (b : BitVec 64)
theorem toNat_unpackExponent : (@unpackExponent .binary64 b).toNat = b.toNat / 2 ^ 52 % 2 ^ 11 := by
  simp [unpackExponent,Nat.shiftRight_eq_div_pow]
theorem toNat_packComponents (s : Sign) (e : BitVec 11) (m : BitVec 52) :
    (packComponents .binary64 s e m).toNat = s.toBitVec.toNat * 2 ^ 63 + e.toNat * 2 ^ 52 + m.toNat := by
  simp only [packComponents,BitVec.toNat_append]
  rw [← Nat.shiftLeft_add_eq_or_of_lt (by omega),← Nat.shiftLeft_add_eq_or_of_lt (by omega)]
  omega

theorem bias_add : (Format.binary64.exponentBias : Int) + ((52 : Nat) : Int) = 1075 := by decide

variable {s : Sign} {m : Nat} {e : Int}
theorem pack_finite (he : e + 1075 < 2047) : UnpackedFloat.pack .binary64 (.finite s m e hm) =
    packComponents .binary64 s (if m.log2 = 52 then .ofNat 11 (e + 1075).toNat else 0#11) (.ofNat 52 m) := by
  have hE : e + Format.binary64.exponentBias + ((52 : Nat)) = e + 1075 := by rw [Int.add_assoc,bias_add]
  have hbits : (m.log2 + 1 = Format.binary64.mantissaBits) = (m.log2 = 52) := by simp [Format.mantissaBits]
  simp only [UnpackedFloat.pack,hE,hbits]
  rw [if_neg (by simp only [Nat.reducePow]; omega)]
  split <;> rfl

theorem toBits_ofBits {b : UInt64} (h : b.toNat / 2 ^ 52 % 2 ^ 11 = 2047 → b.toNat % 2 ^ 52 = 0) :
    (Float.ofBits b).toBits = b := by
  apply UInt64.toBitVec_inj.mp
  refine (@UnpackedFloat.pack_unpack .binary64 b.toBitVec (by decide)).trans (if_neg ?_)
  simp only [UnpackedFloat.isNaNBits,decide_eq_true_eq,not_and,not_not]
  intro he
  apply BitVec.eq_of_toNat_eq
  apply h
  have := congrArg BitVec.toNat he
  rw [toNat_unpackExponent] at this
  exact this

/-! ## Whole numbers -/

theorem shiftRight_exact (m k : Nat) : (⟨m * 2 ^ k,false,false⟩ : ExtendedMantissa) >>> k = ⟨m,false,false⟩ := by
  change Nat.repeat ExtendedMantissa.shiftRightOne k ⟨m * 2 ^ k,false,false⟩ = _
  induction k generalizing m with
  | zero => simp [Nat.repeat]
  | succ k ih =>
    have h := ih (2 * m)
    rw [Nat.repeat,show m * 2 ^ (k + 1) = 2 * m * 2 ^ k by ring,h]
    simp [ExtendedMantissa.shiftRightOne]

theorem log2_mul_pow (hm : m ≠ 0) (k : Nat) : (m * 2 ^ k).log2 = m.log2 + k := by
  induction k with
  | zero => simp
  | succ k ih => rw [pow_succ',mul_left_comm,Nat.log2_two_mul (by positivity),ih,Nat.add_assoc]

theorem shiftToTargetExponent_exact (k : Nat) (hm : m.log2 = 52) (he : -1074 ≤ e) :
    shiftToTargetExponent .binary64 (m * 2 ^ k) (e - k) .exact = (⟨m,false,false⟩,e) := by
  have hne : m ≠ 0 := by rintro rfl; simp at hm
  have htarget : Format.binary64.targetExponent (totalExponent (m * 2 ^ k) (e - k)) = e := by
    have hmin : Format.binary64.minExponent = -1074 := by decide
    simp only [Format.targetExponent,totalExponent,log2_mul_pow hne,Format.mantissaBits]
    omega
  have hshift : (e - (e - k)).toNat = k := by omega
  simp only [shiftToTargetExponent,UnpackedFloat.shiftToExponent,htarget,hshift,
    ExtendedMantissa.ofMantissaAndAccuracy,shiftRight_exact]
  simp

theorem roundWithAccuracy_exact (k : Nat) (hm : m.log2 = 52) (he : -1074 ≤ e) :
    roundWithAccuracy .binary64 s (m * 2 ^ k) (e - k) .exact =
      .finite s m e (by rcases Nat.eq_zero_or_pos m with rfl | h; simp at hm; exact h) := by
  have hne : m ≠ 0 := by rintro rfl; simp at hm
  have hzero := shiftToTargetExponent_exact 0 hm he
  simp only [Nat.pow_zero,Nat.mul_one,Nat.cast_zero,Int.sub_zero] at hzero
  simp only [roundWithAccuracy,shiftToTargetExponent_exact k hm he,
    ExtendedMantissa.roundedMantissa,ExtendedMantissa.accuracy,
    UnpackedFloat.Accuracy.roundToNearestEven,hzero]
  rw [dif_neg hne]

theorem unpack_pack_finite (hlog : m.log2 = 52) (hlow : -1074 ≤ e) (hhigh : e + 1075 < 2047) :
    UnpackedFloat.unpack .binary64 (UnpackedFloat.pack .binary64 (.finite s m e hm)) = .finite s m e hm := by
  have hbelow : 2 ^ 52 ≤ m := (Nat.le_log2 hm.ne').mp hlog.ge
  have habove : m < 2 ^ 53 := (Nat.log2_lt hm.ne').mp (by omega)
  have hE : (BitVec.ofNat 11 (e + 1075).toNat).toNat = (e + 1075).toNat := by
    rw [BitVec.toNat_ofNat,Nat.mod_eq_of_lt (by omega)]
  have hM : (1#1 ++ BitVec.ofNat 52 m).toNat = m := by
    rw [BitVec.toNat_append,← Nat.shiftLeft_add_eq_or_of_lt (BitVec.isLt _)]
    simp only [BitVec.toNat_ofNat]
    omega
  rw [pack_finite hhigh,if_pos hlog]
  simp only [UnpackedFloat.unpack,unpackExponent_packComponents,unpackMantissa_packComponents,unpackSign_packComponents,
    Sign.ofBitVec_toBitVec,bias_add]
  rw [if_neg,if_neg]
  · congr 1
    omega
  all_goals
    intro h
    have := congrArg BitVec.toNat h
    simp at this
    omega

/-- A whole number with its leading digit in the place of a double's leading digit. -/
def aligned (n : Nat) : Nat := n * 2 ^ (52 - n.log2)

theorem aligned_pos (hpos : 0 < n) : 0 < aligned n := Nat.mul_pos hpos (Nat.two_pow_pos _)

theorem log2_aligned (hpos : 0 < n) (hlt : n < 2 ^ 53) : (aligned n).log2 = 52 := by
  have hlog : n.log2 < 53 := (Nat.log2_lt hpos.ne').mpr hlt
  rw [aligned,log2_mul_pow hpos.ne']
  omega

/-- A whole number below `2 ^ 53` as a double has it. -/
abbrev wholeFloat (s : Sign) {n : Nat} (hpos : 0 < n) : UnpackedFloat :=
  .finite s (aligned n) (-((52 - n.log2 : Nat))) (aligned_pos hpos)

variable {n : Nat} (hpos : 0 < n) (hlt : n < 2 ^ 53)
include hlt
theorem ofInt_natCast : .ofInt .binary64 (n : Int) = wholeFloat .positive hpos := by
  have hlog : n.log2 < 53 := (Nat.log2_lt hpos.ne').mpr hlt
  have hcompare : compare (n : Int) 0 = .gt := by
    rw [Int.compare_eq_gt]
    omega
  have htarget : Format.binary64.targetExponent (totalExponent n 0) = -((52 - n.log2 : Nat)) := by
    have hmin : Format.binary64.minExponent = -1074 := by decide
    simp only [Format.targetExponent,totalExponent,Format.mantissaBits]
    omega
  have hround := @roundWithAccuracy_exact .positive _ (-((52 - n.log2 : Nat))) 0 (log2_aligned hpos hlt) (by omega)
  simp only [UnpackedFloat.ofInt,UnpackedFloat.normalize,hcompare,UnpackedFloat.round,Int.toNat_natCast,
    UnpackedFloat.decreaseExponent,htarget,Nat.shiftLeft_eq]
  simpa [aligned,wholeFloat] using hround

theorem unpack_pack_wholeFloat (s : Sign) : (pack (wholeFloat s hpos)).unpack = wholeFloat s hpos :=
  unpack_pack_finite (log2_aligned hpos hlt) (by omega) (by omega)

/-- It is not rounded. -/
theorem toModel_ofNat : (Float.ofNat n).toModel = pack (wholeFloat .positive hpos) := by
  have hword : n.toUInt64.toFloat.toModel = pack (wholeFloat .positive hpos) := by
    change pack (.ofInt .binary64 n.toUInt64.toNat) = _
    have hn : n.toUInt64.toNat = n := by
      simp only [UInt64.toNat_ofNat']
      omega
    rw [hn,ofInt_natCast hpos hlt]
  have hscientific : .ofNat n = n.toUInt64.toFloat * .ofBits 4607182418800017408 := by
    change Float.ofScientific n false 0 = _
    rw [Float.ofScientific,dif_pos ⟨hlt,by omega⟩]
    rfl
  rw [hscientific]
  change pack (.mul .binary64 n.toUInt64.toFloat.toModel.unpack (Float.ofBits 4607182418800017408).toModel.unpack) = _
  rw [hword,unpack_pack_wholeFloat hpos hlt]
  -- the product with one has its digits 52 places higher, all of them zeros
  congr 1
  exact roundWithAccuracy_exact 52 (log2_aligned hpos hlt) (by omega)

omit hlt

theorem wholePart_finite {k : Nat} (hlog : m.log2 = 52) (hk : k ≤ 52)
    (hx : x.toModel = pack (.finite s m (-(k : Int)) hm)) : wholePart x = s.apply (m / 2 ^ k : Nat) := by
  have hbelow : 2 ^ 52 ≤ m := (Nat.le_log2 hm.ne').mp hlog.ge
  have habove : m < 2 ^ 53 := (Nat.log2_lt hm.ne').mp (by omega)
  have hbits : x.toBits.toNat = s.toBitVec.toNat * 2 ^ 63 + (1075 - k) * 2 ^ 52 + (m - 2 ^ 52) := by
    change x.toModel.toBits.toBitVec.toNat = _
    rw [hx]
    change (UnpackedFloat.pack .binary64 (.finite s m (-k) hm)).toNat = _
    rw [pack_finite (by omega),if_pos hlog,toNat_packComponents,BitVec.toNat_ofNat,BitVec.toNat_ofNat]
    omega
  have hE : x.toBits.toNat / 2 ^ 52 % 2 ^ 11 = 1075 - k := by omega
  have hF : x.toBits.toNat % 2 ^ 52 = m - 2 ^ 52 := by omega
  have hS : x.toBits.toNat / 2 ^ 63 = s.toBitVec.toNat := by omega
  have hE0 : (1075 - k == 0) = false := by simp; omega
  simp only [wholePart,Decimal.Binary.ofFloat,Nat.pow_eq,hE,hF,hS,hE0,Bool.false_eq_true,if_false,Nat.sub_add_cancel hbelow]
  have hq : ((1075 - k : Nat) : Int) - 1075 = -k := by omega
  have hn : (if 0 ≤ -(k : Int) then m * 2 ^ (-(k : Int)).toNat else m / 2 ^ (- -(k : Int)).toNat) = m / 2 ^ k := by
    rcases Nat.eq_zero_or_pos k with rfl | hk0
    · simp
    · rw [if_neg (by omega),Int.neg_neg,Int.toNat_natCast]
  rw [hq,hn]
  cases s <;> rfl

include hlt
theorem wholePart_wholeFloat (hx : x.toModel = pack (wholeFloat s hpos)) : wholePart x = s.apply n := by
  rw [wholePart_finite (log2_aligned hpos hlt) (Nat.sub_le _ _) hx]
  exact congrArg (s.apply ∘ Nat.cast) (Nat.mul_div_cancel _ (Nat.two_pow_pos _))

omit hpos in
theorem wholePart_ofNat : wholePart (.ofNat n) = n := by
  rcases Nat.eq_zero_or_pos n with rfl | hpos
  · decide +kernel
  · exact wholePart_wholeFloat hpos hlt (toModel_ofNat hpos hlt)

include hpos
theorem wholePart_neg_ofNat : wholePart (Float.ofNat n).neg = -n := by
  refine wholePart_wholeFloat hpos hlt (s := .negative) ?_
  change pack (.neg (Float.ofNat n).toModel.unpack) = _
  rw [toModel_ofNat hpos hlt,unpack_pack_wholeFloat hpos hlt]
  rfl

omit hpos hlt

theorem wholePart_ofInt {n : Int} (h : n.natAbs < 2 ^ 53) : wholePart (.ofInt n) = n := by
  cases n with
  | ofNat n => exact wholePart_ofNat h
  | negSucc n => exact wholePart_neg_ofNat (Nat.succ_pos n) h
end TensorKit.Number

/-! ## Single precision -/

namespace TensorKit.Precision
open Number (toBits_ofBits)
open Decimal (roundHalfEven)
theorem roundHalfEven_mul (q : Nat) (hd : 0 < d) : roundHalfEven (q * d) d = q := by simp [roundHalfEven,hd]

theorem toNat_toBits_ofBits (hs : s ≤ 1) (he : e ≤ 2047) (hf : f < 2 ^ 52) (hn : e = 2047 → f = 0) :
    (Float.ofBits (s * 2 ^ 63 + (e * 2 ^ 52 + f)).toUInt64).toBits.toNat = s * 2 ^ 63 + (e * 2 ^ 52 + f) := by
  have hb : (s * 2 ^ 63 + (e * 2 ^ 52 + f)).toUInt64.toNat = s * 2 ^ 63 + (e * 2 ^ 52 + f) := by
    simp only [UInt64.toNat_ofNat']
    omega
  rw [toBits_ofBits,hb]
  omega

theorem single_ofFloat_ofBits (hs : s ≤ 1) (he : e < 2047) (he0 : 0 < e) (hf : f < 2 ^ 52) :
    single.ofFloat (.ofBits (s * 2 ^ 63 + (e * 2 ^ 52 + f)).toUInt64) = s * 2 ^ 31 + min (255 * 2 ^ 23)
    ((e - 897) * 2 ^ 23 + roundHalfEven (2 ^ 52 + f) (2 ^ (29 + (897 - e)))) := by
  have hbits := toNat_toBits_ofBits hs he.le hf (by omega)
  have hbias : bias single = 127 := rfl
  have hinf : infinity single = 255 * 2 ^ 23 := rfl
  have hS : (s * 2 ^ 63 + (e * 2 ^ 52 + f)) / 2 ^ 63 = s := by omega
  have hE : (s * 2 ^ 63 + (e * 2 ^ 52 + f)) / 2 ^ 52 % 2048 = e := by omega
  have hF : (s * 2 ^ 63 + (e * 2 ^ 52 + f)) % 2 ^ 52 = f := by omega
  have h1 : (e == 2047) = false := by simp; omega
  have h2 : (e == 0) = false := by simp; omega
  simp only [ofFloat,Nat.pow_eq,hbits,hS,hE,hF,h1,h2,hbias,Bool.false_eq_true,if_false]
  have h3 : 52 - single.digits + (1024 - (e + 127)) = 29 + (897 - e) := by
    simp only [single]
    omega
  have h4 : e + 127 - 1024 = e - 897 := by omega
  rw [h3,h4,hinf,show single.digits = 23 from rfl,show single.exponent + 23 = 31 from rfl,Nat.min_def]

theorem single_toFloat (he : e < 2 ^ 8) (hf : f < 2 ^ 23) : single.toFloat (s * 2 ^ 31 + e * 2 ^ 23 + f) = .ofBits
    (s * 2 ^ 63 + if e = 255 then 2047 * 2 ^ 52 + (if f = 0 then 0 else 2 ^ 51) else if e = 0 then if f = 0 then 0 else
    (f.log2 + 874) * 2 ^ 52 + (f - 2 ^ f.log2) * 2 ^ (52 - f.log2) else (e + 896) * 2 ^ 52 + f * 2 ^ 29).toUInt64 := by
  have hbias : bias single = 127 := rfl
  have hS : (s * 2 ^ 31 + e * 2 ^ 23 + f) / 2 ^ 31 = s := by omega
  have hE : (s * 2 ^ 31 + e * 2 ^ 23 + f) / 2 ^ 23 % 2 ^ 8 = e := by omega
  have hF : (s * 2 ^ 31 + e * 2 ^ 23 + f) % 2 ^ 23 = f := by omega
  have hlead : f.log2 + 1024 - 127 - 23 = f.log2 + 874 := by omega
  have hnormal : e + 1023 - 127 = e + 896 := by omega
  simp only [toFloat,show single.exponent = 8 from rfl,show single.digits = 23 from rfl,Nat.pow_eq,hS,hE,hF,hbias,hlead,hnormal,beq_iff_eq]
end TensorKit.Precision
namespace TensorKit.Single
open Number Precision
variable (w : UInt32)
theorem toNat_fields : w.toNat = w.toNat / 2 ^ 31 * 2 ^ 31 + w.toNat / 2 ^ 23 % 2 ^ 8 * 2 ^ 23 + w.toNat % 2 ^ 23 := by
  omega

theorem ofFloat_toFloat (h : w.toNat / 2 ^ 23 % 2 ^ 8 = 255 → w.toNat % 2 ^ 23 = 0) : ofFloat (toFloat w) = w := by
  have hw := w.toNat_lt
  suffices single.ofFloat (single.toFloat w.toNat) = w.toNat by
    rw [ofFloat,toFloat,this]
    simp
  rw [toNat_fields w]
  have hs : w.toNat / 2 ^ 31 ≤ 1 := by omega
  have he : w.toNat / 2 ^ 23 % 2 ^ 8 < 2 ^ 8 := Nat.mod_lt _ (by decide)
  have hf : w.toNat % 2 ^ 23 < 2 ^ 23 := Nat.mod_lt _ (by decide)
  generalize w.toNat / 2 ^ 31 = s at *
  generalize w.toNat / 2 ^ 23 % 2 ^ 8 = e at *
  generalize w.toNat % 2 ^ 23 = f at *
  rw [single_toFloat he hf]
  split
  next he =>
    rw [h he,he]
    interval_cases s <;> decide +kernel
  next hi =>
    split
    next he0 =>
      split
      next hf0 =>
        subst he0 hf0
        interval_cases s <;> decide +kernel
      next hf0 =>
        have hlog : f.log2 < 23 := (Nat.log2_lt hf0).mpr hf
        have hpos := Nat.pos_of_ne_zero hf0
        obtain ⟨hlow,hhigh⟩ := (Nat.log2_eq_iff (aligned_pos hpos).ne').mp (log2_aligned hpos (by omega))
        have hdigits : (f - 2 ^ f.log2) * 2 ^ (52 - f.log2) = aligned f - 2 ^ 52 := by
          rw [Nat.sub_mul,← Nat.pow_add,show f.log2 + (52 - f.log2) = 52 by omega]
          rfl
        rw [hdigits,single_ofFloat_ofBits hs (by omega) (by omega) (by omega),Nat.add_sub_cancel' hlow,
          show 29 + (897 - (f.log2 + 874)) = 52 - f.log2 by omega,aligned,
          roundHalfEven_mul _ (Nat.two_pow_pos _)]
        omega
    next he0 =>
      rw [single_ofFloat_ofBits hs (by omega) (by omega) (by omega),
        show 29 + (897 - (e + 896)) = 29 by omega,
        show 2 ^ 52 + f * 2 ^ 29 = (2 ^ 23 + f) * 2 ^ 29 by ring,roundHalfEven_mul _ (Nat.two_pow_pos _)]
      omega

theorem toFloat_ofFloat_toFloat : toFloat (ofFloat (toFloat w)) = toFloat w := by
  by_cases h : w.toNat / 2 ^ 23 % 2 ^ 8 = 255 → w.toNat % 2 ^ 23 = 0
  · rw [ofFloat_toFloat w h]
  · obtain ⟨he,hf⟩ := Classical.not_imp.mp h
    have hw := w.toNat_lt
    have hx : toFloat w = .ofBits (w.toNat / 2 ^ 31 * 2 ^ 63 + (2047 * 2 ^ 52 + 2 ^ 51)).toUInt64 := by
      rw [toFloat,toNat_fields w,single_toFloat (by omega) (by omega),if_pos he,if_neg hf,← toNat_fields]
    rw [hx]
    have hs : w.toNat / 2 ^ 31 ≤ 1 := by omega
    generalize w.toNat / 2 ^ 31 = s at hs
    interval_cases s <;> rfl
end TensorKit.Single
