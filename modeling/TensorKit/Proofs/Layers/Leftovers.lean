import TensorKit.Script.Layers.Parts
import Mathlib.Data.List.Basic

/-! # What is left behind

Classes that were handed in stay in force if building fails.
-/
namespace TensorKit.Script
open Layers
/-- Making an object: building a known class, or calling a function that was handed in. -/
inductive Making (build : String → Value → Reply) : Reply → Prop where
  | known (title : String) (settings : Value) : Making build (build title settings)
  | custom (f : Value) (args : Values) : Making build (call f args)

/-- An action leaves the classes in force as they were, unless making an object fails in it. Then they are left as they
are there, where the given ones are in force too. -/
def PutsBack (given : Fields) (build : String → Value → Reply) (x : Reply) : Prop :=
  ∀ h w, match x h w with
    | .ok _ w' => w'.customClasses = w.customClasses
    | .error e w' => w' = w ∨ ∃ made, Making build made ∧
        made h { w with customClasses := Registry.overlay w.customClasses given } = .error e w'

section
variable {given : Fields} {build : String → Value → Reply} {x : Reply} (v : Value)
theorem putsBack_pure : PutsBack given build (pure v) := fun _ _ => rfl
theorem putsBack_throw (f : Fault) : PutsBack given build (throw f) := fun _ _ => .inl rfl

theorem putsBack_building (hx : Making build x) : PutsBack given build (classesInForce.building given x) := by
  intro h w
  have hrun : classesInForce.building given x h w = EStateM.bind (x h)
      (fun v w' => .ok v { w' with customClasses := w.customClasses })
      { w with customClasses := Registry.overlay w.customClasses given } := rfl
  cases hmade : x h { w with customClasses := Registry.overlay w.customClasses given } with
  | ok v w' => simp only [hrun,EStateM.bind,hmade]
  | error e w' =>
    simp only [hrun,EStateM.bind,hmade]
    exact .inr ⟨x,hx,hmade⟩

theorem putsBack_get {k : Fields → Reply} (hk : ∀ r, PutsBack given build (k r)) :
    PutsBack given build (classesInForce.get >>= k) := fun h w => hk w.customClasses h w

theorem putsBack_memberOf (name : String) {k : Value → Reply} (hk : PutsBack given build (k (v name))) :
    PutsBack given build (memberOf v name >>= k) := by
  unfold memberOf
  cases v.isNil with
  | true => exact putsBack_throw _
  | false => exact hk
end

/-- After an object was read from its configuration the classes in force are those from before, and so they are after a
failure that does not come from making it. -/
theorem deserializeWith_restores (family : String) (known : Named String) (build : String → Value → Reply)
    (identifier customs : Value) :
    PutsBack customs.fields build (deserializeWith family known build identifier customs) := by
  unfold deserializeWith
  refine putsBack_get fun r => ?_
  dsimp only
  split
  · split
    · exact putsBack_pure _
    · exact putsBack_throw _
  · refine putsBack_memberOf _ _ ?_
    split
    · exact putsBack_throw _
    split
    · exact putsBack_throw _
    · refine putsBack_building ?_
      split
      · exact .known _ _
      · exact .custom _ _
    · exact putsBack_throw _
end TensorKit.Script
