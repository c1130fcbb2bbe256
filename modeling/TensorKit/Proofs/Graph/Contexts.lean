import TensorKit.Graph.Execute

/-! # Names of contexts in step

A context keeps its own name and the names of those around it. Entering and leaving a frame, the next iteration of a
frame and a return to frames of before change these names together with the frames.
-/
namespace TensorKit.Graph.Context
open List
/-- A change of a context that has had some frames before. What is refused changes nothing, and there is no next
iteration outside of all frames. -/
inductive Step (seen : List Frames) (c : Context) : Context → Prop where
  | enter (name : String) : Step seen c (c.enterFrame name)
  | exit : Step seen c (c.exitFrame.toOption.getD c)
  | next (h : 1 < c.frames.length) : Step seen c (c.nextIteration.toOption.getD c)
  | goTo {frames : Frames} (h : frames ∈ seen) : Step seen c (c.goTo frames)

/-- Contexts from the start on, with all frames on the way. -/
inductive Visited : Context → List Frames → Prop where
  | start : Visited start [start.frames]
  | step {c c' : Context} {seen : List Frames} (h : Visited c seen) (hc : Step seen c c') :
    Visited c' (c'.frames :: seen)

/-- The names are those of the frames. -/
structure InStep (c : Context) : Prop where
  frames_ne : c.frames ≠ []
  ids_eq : c.ids = idsOf c.frames

variable {c c' : Context} {seen : List Frames}
theorem idsOf_append {frames : Frames} (h : frames ≠ []) (f : FrameInfo) :
    idsOf (frames ++ [f]) = idOf (frames ++ [f]) :: idsOf frames := by
  obtain ⟨n,hn⟩ : ∃ n, frames.length = n + 1 := Nat.exists_eq_succ_of_ne_zero (by simpa using h)
  have hall : (frames ++ [f]).take (n + 2) = frames ++ [f] := take_of_length_le (by simp [hn])
  have hinner : ∀ i ∈ range n, idOf ((frames ++ [f]).take (n + 2 - (i + 1))) = idOf (frames.take (n + 1 - i)) := by
    intro i _
    rw [show n + 2 - (i + 1) = n + 1 - i by omega,take_append_of_le_length (by omega)]
  simp [idsOf,hn,hall,range_succ_eq_map,← map_congr_left hinner]

theorem InStep.inner (hc : InStep c) (h : 1 < c.frames.length) :
    c.frames.dropLast ≠ [] ∧ c.ids.drop 1 = idsOf c.frames.dropLast := by
  have hne : c.frames.dropLast ≠ [] := ne_nil_of_length_pos (by simp; omega)
  have hids := idsOf_append hne (c.frames.getLast hc.frames_ne)
  rw [dropLast_concat_getLast,← hc.ids_eq] at hids
  exact ⟨hne,by simp [hids]⟩

theorem InStep.step (hc : InStep c) (hseen : ∀ fs ∈ seen, fs ≠ []) (h : Step seen c c') : InStep c' := by
  cases h with
  | enter name => exact ⟨by simp [enterFrame],by simp [enterFrame,idsOf_append hc.frames_ne,hc.ids_eq]⟩
  | exit =>
    rw [exitFrame]
    split
    next h => exact ⟨(hc.inner h).1,(hc.inner h).2⟩
    next => exact hc
  | next h =>
    obtain ⟨hne,hids⟩ := hc.inner h
    rw [nextIteration,getLast?_eq_some_getLast hc.frames_ne]
    simp only [Except.toOption,Option.getD_some]
    exact ⟨by simp,by rw [idsOf_append hne,hids]⟩
  | goTo h =>
    rw [goTo]
    split
    · exact hc
    · exact ⟨hseen _ h,rfl⟩

theorem Visited.inStep (h : Visited c seen) : InStep c ∧ ∀ fs ∈ seen, fs ≠ [] := by
  induction h with
  | start => exact ⟨⟨by simp [Context.start],rfl⟩,by simp [Context.start]⟩
  | step _ hc ih =>
    have hnext := ih.1.step ih.2 hc
    exact ⟨hnext,forall_mem_cons.mpr ⟨hnext.frames_ne,ih.2⟩⟩

/-- Whatever a context goes through, its names are those that its frames give, the innermost first. -/
theorem ids_eq_idsOf (h : Visited c seen) : c.ids = idsOf c.frames ∧ c.ids.getLast? = some "" := by
  rw [h.inStep.1.ids_eq]
  exact ⟨rfl, by simp [idsOf]⟩

/-- Out of a frame within the second iteration of another, and back into it. -/
theorem ids_eq_idsOf_nested : ∃ c seen, Visited c seen ∧ c.ids = ["/a-1/b-0", "/a-1", ""] ∧ c.ids = idsOf c.frames := by
  have hiterated := (Visited.start.step (.enter "a")).step (.next (by decide))
  have hinner := hiterated.step (.enter "b")
  have hback := (hinner.step .exit).step (.goTo (.tail _ (.head _)))
  exact ⟨_, _, hback, by decide +kernel, (ids_eq_idsOf hback).1⟩
end TensorKit.Graph.Context
