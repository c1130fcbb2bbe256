import Mathlib.Data.Rat.Floor
import TensorKit.Kernel.Window

/-! # The axes of a window

Outputs and padding of an axis follow from its own sizes when the padding is not a number. Numbers count the outputs of
every axis by the filter and the stride of the first. In a volume the padding of an axis may be negative.
-/
namespace TensorKit.Window
open List
variable {axes : List Axis} {slots : List Slot} {pad : Pad} {mode : Rounding}

theorem ceilDiv_eq (m : ℤ) (hn : 0 < n) : ceilDiv m n = ⌈(m / n : ℚ)⌉ := by
  lift n to ℕ using hn.le
  rw [ceilDiv,Int.fdiv_eq_ediv_of_nonneg _ hn.le,← Rat.floor_intCast_div_natCast,Int.cast_neg,neg_div,Int.floor_neg,
    neg_neg]
  rfl

/-- The padding is the least with which all windows lie inside. -/
def Axis.Snug (a : Axis) : Prop := 0 ≤ a.before ∧ 0 ≤ a.after ∧
  IsLeast {p | 0 ≤ p ∧ (a.out - 1) * a.stride + a.effective ≤ a.input + p} (a.before + a.after)

theorem Slot.snug_same_iff (clampPad : Bool) (s : Slot) : (s.same clampPad).Snug ↔
    clampPad = true ∨ s.input ≤ (ceilDiv s.input s.stride - 1) * s.stride + s.effective := by
  simp only [Axis.Snug,same,toAxis,IsLeast,lowerBounds]
  cases clampPad <;> simp <;> grind

/-- Padding by a number: the outputs are counted by the field and the stride of the first axis. -/
def Axis.Counted (axes : List Axis) (amount : ℤ) (pads : Float) (mode : Rounding) (a : Axis) : Prop :=
  a.before = amount ∧ a.after = amount ∧ ∃ first ∈ axes.head?, ∃ what,
    placesNumber what a.input first.effective first.stride pads mode = .ok a.out

/-- How the outputs and the padding of an axis come about. -/
def Axis.Follows (pad : Pad) (mode : Rounding) (axes : List Axis) (a : Axis) : Prop := match pad with
  | .same => a.out = ⌈(a.input / a.stride : ℚ)⌉ ∧
      (a.Snug ↔ axes.length = 2 ∨ a.input ≤ (a.out - 1) * a.stride + a.effective)
  | .valid => a.out = ⌈((a.input - a.effective + 1 : ℤ) / a.stride : ℚ)⌉ ∧ a.before = 0 ∧ a.after = 0
  | .number p => a.Counted axes p (.ofInt (2 * p)) mode
  | .fraction x => a.Counted axes (Number.wholePart (x.floor + 1)) (2 * x) mode
  | .unknown _ => False

theorem forall₂_of_mapM {α β : Type} {f : α → Tried β} {xs : List α} {ys : List β} (h : xs.mapM f = .ok ys) :
    Forall₂ (fun y x => f x = .ok y) ys xs := by
  induction xs generalizing ys with
  | nil =>
    cases h
    exact .nil
  | cons x xs ih =>
    rw [mapM_cons] at h
    cases hx : f x with
    | error e => rw [hx] at h; cases h
    | ok y =>
      cases hxs : xs.mapM f with
      | error e => rw [hx,hxs] at h; cases h
      | ok ys =>
        rw [hx,hxs] at h
        cases h
        exact .cons hx (ih hxs)

variable (hrank : slots.length = 2 ∨ slots.length = 3)
include hrank
theorem numberAxes_counted (h : numberAxes amount pads slots mode = .ok axes) :
    Forall₂ (fun a s => s.toAxis a.before a.after a.out = a ∧ a.Counted axes amount pads mode) axes slots := by
  have hone {s : Slot} {a : Axis} {found : Tried ℤ} (h : (do return s.toAxis amount amount (← found)) =
      .ok a) : a = s.toAxis amount amount a.out ∧ found = .ok a.out := by
    cases found with
    | error e => cases h
    | ok n =>
      cases h
      exact ⟨rfl,rfl⟩
  have hall : Forall₂ (fun a s => a = s.toAxis amount amount a.out ∧ ∃ what, placesNumber what s.input _ _ pads mode =
      .ok a.out) axes ((slots.zip (axisNames slots.length)).map Prod.fst) :=
    forall₂_map_right_iff.mpr ((forall₂_of_mapM h).imp fun a x hx => ⟨(hone hx).1,x.2,(hone hx).2⟩)
  rw [map_fst_zip (by rcases hrank with h | h <;> simp [h,axisNames])] at hall
  cases slots with
  | nil => simp at hrank
  | cons s rest =>
    obtain ⟨first,axes,⟨hfirst,-⟩,-,rfl⟩ := forall₂_cons_right_iff.mp hall
    refine hall.imp fun a s ⟨ha,hout⟩ => ?_
    rw [ha,hfirst]
    exact ⟨rfl,rfl,rfl,_,rfl,hout⟩

/-- The axes of a window with positive strides, for every kind of padding. -/
theorem axesOf_follows {t : String} (h : axesOf pad slots mode = .ok (axes, t)) (hstride : ∀ s ∈ slots, 0 < s.stride) :
    Forall₂ (fun a s => s.toAxis a.before a.after a.out = a ∧ a.Follows pad mode axes) axes slots := by
  unfold axesOf at h
  cases pad with
  | same =>
    cases h
    refine forall₂_map_left_iff.mpr (forall₂_same.mpr fun s hs => ⟨rfl, ceilDiv_eq _ (hstride s hs), ?_⟩)
    rw [s.snug_same_iff]
    simp [Slot.same, Slot.toAxis]
  | valid =>
    cases h
    exact forall₂_map_left_iff.mpr (forall₂_same.mpr fun s hs => ⟨rfl, ceilDiv_eq _ (hstride s hs), rfl, rfl⟩)
  | unknown t => cases h
  | number _ | fraction _ =>
    dsimp only at h
    generalize hcounted : numberAxes .. = counted at h
    cases counted with
    | error e => cases h
    | ok axes =>
      cases h
      exact numberAxes_counted hrank hcounted
omit hrank

def steppedSlots : List Slot := [⟨5,3,2,1⟩,⟨2,1,3,1⟩]

theorem axesOf_follows_stepped : ∃ axes t, axesOf .same steppedSlots .none = .ok (axes, t) ∧
    Forall₂ (fun a s => s.toAxis a.before a.after a.out = a ∧ a.Follows .same .none axes) axes steppedSlots :=
  ⟨_, _, rfl, axesOf_follows (.inl rfl) rfl (by decide)⟩

theorem axesOf_volume : ∃ axes t, axesOf .same [⟨2, 1, 2, 1⟩, ⟨1, 1, 1, 1⟩, ⟨1, 1, 1, 1⟩] .none = .ok (axes, t) ∧
    axes.map (·.before) = [-1, 0, 0] :=
  ⟨_, _, rfl, rfl⟩
end TensorKit.Window
