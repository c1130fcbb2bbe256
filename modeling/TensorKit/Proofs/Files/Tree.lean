import Mathlib
import TensorKit.Files.Desk

/-! # Files in a folder

A file in a folder stands at a path that ends in its name, whatever the spelling of the folder is. So files
with different names do not touch each other, and what was written can be read until it is written again.
-/
namespace TensorKit.Files
open List
variable {name : String} {bs : Bytes} (path : Chars) (folder : String)

/-! ## Paths -/

/-- A name that is one part of a path. -/
structure Plain (name : String) : Prop where
  slash : '/' ∉ name.toList
  empty : name ≠ ""
  dot : name ≠ "."
  dots : name ≠ ".."

theorem segments_slash (name : Chars) :
    segments (.ofList (path ++ '/' :: name)) = segments (.ofList path) ++ segments (.ofList name) := by
  simp only [segments,String.toList_ofList,splitOn,← map_append]
  rw [splitOnP_append_cons path name (by simp)]
theorem Plain.segments (h : Plain name) : segments name = [name] := by
  simp [Files.segments,splitOn_eq_singleton h.slash]

theorem Plain.isAbsolute (h : Plain name) : isAbsolute name = false := by
  cases hc : name.toList with
  | nil => simp [Files.isAbsolute,hc]
  | cons c cs =>
    have hslash := h.slash
    rw [hc] at hslash
    have hne : c ≠ '/' := fun heq => hslash (heq ▸ mem_cons_self)
    simpa [Files.isAbsolute,hc] using hne

theorem Plain.step (h : Plain name) (parts : Strings) : step parts name = name :: parts := by
  simp [Files.step,h.empty,h.dot,h.dots]

theorem join_cases : (∀ name, Plain name → join folder name = name) ∨ ∃ path,
    ∀ name, Plain name → join folder name = .ofList (path ++ '/' :: name.toList) := by
  by_cases hempty : folder = ""
  · refine .inl fun name h => ?_
    simp [join,hempty]
  · by_cases hlast : folder.toList.getLast? = some '/'
    · obtain ⟨path,hpath⟩ := getLast?_eq_some_iff.mp hlast
      refine .inr ⟨path,fun name h => ?_⟩
      apply String.toList_inj.mp
      simp [join,h.isAbsolute,hpath]
    · refine .inr ⟨folder.toList,fun name h => ?_⟩
      apply String.toList_inj.mp
      simp [join,h.isAbsolute,hlast,hempty]

theorem parts_slash (h : Plain name) (path : Chars) :
    parts (.ofList (path ++ '/' :: name.toList)) = parts (.ofList path) ++ [name] := by
  rw [parts,segments_slash,String.ofList_toList,h.segments,foldl_append,foldl_cons,
    foldl_nil,h.step,reverse_cons,parts]
theorem isAbsolute_slash (name : Chars) :
    isAbsolute (.ofList (path ++ '/' :: name)) = isAbsolute (.ofList (path ++ ['/'])) := by
  cases path <;> simp [isAbsolute]

theorem normal_join : ∃ lead, ∀ name, Plain name → normal (join folder name) = lead ++ name := by
  rcases join_cases folder with hjoin | ⟨path,hjoin⟩
  · refine ⟨"",fun name h => ?_⟩
    rw [hjoin name h]
    simp [normal,h.isAbsolute,parts,h.segments,h.step]
  · by_cases hparts : parts (.ofList path) = []
    · refine ⟨if isAbsolute (.ofList (path ++ ['/'])) then "/" else "",fun name h => ?_⟩
      rw [hjoin name h,normal,isAbsolute_slash,parts_slash h,hparts]
      simp
    · refine ⟨(if isAbsolute (.ofList (path ++ ['/'])) then "/" else "") ++
        ("/".intercalate (parts (.ofList path)) ++ "/"),fun name h => ?_⟩
      rw [hjoin name h,normal,isAbsolute_slash,parts_slash h,String.intercalate_append_of_ne_nil hparts (by simp)]
      simp [String.append_assoc]

theorem join_ne_empty (h : Plain name) : (join folder name).isEmpty = false := by
  rw [Bool.eq_false_iff,ne_eq,String.isEmpty_iff]
  intro hempty
  rcases join_cases folder with hjoin | ⟨path,hjoin⟩
  · exact h.empty (hjoin name h ▸ hempty)
  · have hlist := congrArg String.toList ((hjoin name h).symm.trans hempty)
    simp at hlist

/-! ## Entries -/

namespace Tree
variable {t t' : Tree} {p q : String} {n : Node}
theorem find?_of_not_root (h : isRoot p = false) : t.find? p = (t.entries.find? (·.1 == p)).map (·.2) := by
  simp [find?,h]

theorem find?_replaced_self {entries : Named Node} (h : entries.any (·.1 == p)) :
    ((entries.map fun (r,m) => if r == p then (r,n) else (r,m)).find? (·.1 == p)).map (·.2) = some n := by
  induction entries with
  | nil => simp at h
  | cons entry rest ih =>
    obtain ⟨r,m⟩ := entry
    by_cases hr : r = p
    · simp [hr]
    · have hrest : rest.any (·.1 == p) := by simpa [hr] using h
      simpa [hr] using ih hrest

theorem find?_replaced_of_ne (entries : Named Node) (h : q ≠ p) : ((entries.map fun (r,m) =>
    if r == p then (r,n) else (r,m)).find? (·.1 == q)).map (·.2) = (entries.find? (·.1 == q)).map (·.2) := by
  induction entries with
  | nil => rfl
  | cons entry rest ih =>
    obtain ⟨r,m⟩ := entry
    by_cases hr : r = p
    · have hrq : (p == q) = false := by simpa using h.symm
      simpa [hr,hrq] using ih
    · by_cases hrq : r = q
      · simp [hrq,h]
      · have hb : (r == q) = false := by simpa using hrq
        simpa [hr,hb] using ih

theorem find?_set (hp : isRoot p = false) : (t.set p n).find? q = if q = p then some n else t.find? q := by
  by_cases hq : isRoot q
  · have hne : q ≠ p := by rintro rfl; rw [hq] at hp; cases hp
    simp [find?,hq,hne]
  · rw [Bool.not_eq_true] at hq
    rw [find?_of_not_root hq,find?_of_not_root hq,set]
    by_cases hany : t.entries.any (·.1 == p)
    · rw [if_pos hany]
      split
      next heq => rw [heq]; exact find?_replaced_self hany
      next hne => exact find?_replaced_of_ne _ hne
    · rw [if_neg hany,find?_append]
      split
      next heq =>
        have hnone : t.entries.find? (·.1 == p) = none := by
          rw [find?_eq_none]
          intro entry hentry hfound
          exact hany (any_eq_true.mpr ⟨entry,hentry,hfound⟩)
        rw [heq,hnone]
        simp
      next hne =>
        have hb : (p == q) = false := by simpa using (hne ·.symm)
        simp [hb]

theorem write_eq_ok {path : String} (h : t.write path c = .ok t') :
    isRoot (normal path) = false ∧ t' = t.set (normal path) (.file c) := by
  unfold write at h
  have hroot : isRoot (normal path) = false := by
    by_contra hroot
    rw [Bool.not_eq_false] at hroot
    simp only [find?] at h
    split at h <;> cases h
  refine ⟨hroot,?_⟩
  dsimp only at h
  split at h
  next => cases h
  next =>
    split at h
    next => cases h
    next => cases h; rfl
    next =>
      split at h
      next => cases h
      next => cases h; rfl
end Tree

/-! ## Files of a folder -/

/-- A file of a folder holds these bytes. -/
def Holds (t : Tree) (folder name : String) (bs : Bytes) : Prop := t.read (join folder name) = .ok (.bytes bs)

variable {folder}
theorem holds_iff (h : Plain name) :
    Holds t folder name bs ↔ t.find? (normal (join folder name)) = some (.file (.bytes bs)) := by
  rw [Holds,Tree.read,Tree.node?,join_ne_empty folder h]
  simp only [Bool.false_eq_true,if_false]
  constructor
  · intro hread
    split at hread
    next c hc => cases hread; exact hc
    next => cases hread
    next => cases hread
  · intro hfind
    rw [hfind]

theorem holds_of_write (hname : Plain name) (h : t.write (join folder name) (.bytes bs) = .ok t') : Holds t'
    folder name bs ∧ ∀ other cs, Plain other → other ≠ name → Holds t folder other cs → Holds t' folder other cs := by
  obtain ⟨hroot,rfl⟩ := Tree.write_eq_ok h
  refine ⟨(holds_iff hname).mpr ?_,fun other cs hother hne hold => (holds_iff hother).mpr ?_⟩
  · rw [Tree.find?_set hroot,if_pos rfl]
  · obtain ⟨lead,hlead⟩ := normal_join folder
    have hpath : normal (join folder other) ≠ normal (join folder name) := by
      rw [hlead _ hother,hlead _ hname]
      exact fun heq => hne (String.append_right_inj lead |>.mp heq)
    rw [Tree.find?_set hroot,if_neg hpath]
    exact (holds_iff hother).mp hold
end TensorKit.Files
