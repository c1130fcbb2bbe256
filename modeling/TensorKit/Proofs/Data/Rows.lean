import Mathlib
import TensorKit.Data.Pipeline

/-! # Rows that are read back

A field is written bare, or between quotes. The reader goes through the characters of a field to a state in which a
delimiter, or the end, closes the field with its text. So a row of fields is read back as it was written.
-/
namespace TensorKit.Data
open List
/-- A field of a row, and whether it is written between quotes. -/
structure Written where
  text : String
  quoted : Bool

namespace Written
def line (w : Written) : String := if w.quoted then "\"" ++ w.text ++ "\"" else w.text

/-- No quote is in a field, and the delimiter only between quotes. -/
def Fits (d : Char) (w : Written) : Prop := '"' ∉ w.text.toList ∧ (w.quoted = false → d ∉ w.text.toList)
end Written

variable {f : RowFormat} {d : Char} {w : Written} {fields : Strings} {acc cs : List Char}
/-- What closes the field begun at a delimiter, and at the end of a row. -/
structure RowReader.Holds (f : RowFormat) (d : Char) (r : RowReader) (fields : Strings) : Prop where
  atDelimiter : r.step f d = ⟨.outside,fields,[]⟩
  atEnd : r.finish = fields

namespace RowReader
theorem foldl_field (h : ∀ c ∈ cs, f.delimits c = false) :
    cs.foldl (step f) ⟨.field,fields,acc⟩ = ⟨.field,fields,cs.reverse ++ acc⟩ := by
  induction cs generalizing acc with
  | nil => rfl
  | cons c cs ih =>
    obtain ⟨hc,hcs⟩ := List.forall_mem_cons.mp h
    simp [step,hc,ih hcs]

theorem foldl_quoted (h : '"' ∉ cs) : cs.foldl (step f) ⟨.quoted,fields,acc⟩ = ⟨.quoted,fields,cs.reverse ++ acc⟩ := by
  induction cs generalizing acc with
  | nil => rfl
  | cons c cs ih =>
    obtain ⟨hc,hcs⟩ := not_or.mp (mem_cons.not.mp h)
    simp [step,Ne.symm hc,ih hcs]

variable (hf : f.collapses = false) (hd : ∀ c, f.delimits c = true ↔ c = d) (hq : d ≠ '"')
include hf hd hq
theorem holds_written (hw : w.Fits d) :
    (w.line.toList.foldl (step f) ⟨.outside,fields,[]⟩).Holds f d (fields ++ [w.text]) := by
  obtain ⟨text,quoted⟩ := w
  obtain ⟨hquote,hbare⟩ := hw
  have hdd := (hd d).mpr rfl
  cases quoted with
  | true =>
    have hread : text.toList.foldl (step f) ⟨.quoted,fields,[]⟩ = _ := foldl_quoted hquote
    simp [Written.line,step, hread]
    constructor <;> simp [step,finish,put,hdd]
  | false =>
    cases hcs : text.toList with
    | nil =>
      obtain rfl := String.toList_eq_nil_iff.mp hcs
      constructor <;> simp [Written.line,step,finish,put,hdd,hf,hq]
    | cons c cs =>
      have hdelim : ∀ a ∈ c :: cs, f.delimits a = false := fun a ha => Bool.eq_false_iff.mpr fun h =>
        hbare rfl (hcs ▸ (hd a).mp h ▸ ha)
      obtain ⟨hfirst,hrest⟩ := List.forall_mem_cons.mp hdelim
      have hc : c ≠ '"' := fun h => hquote (by simp [hcs,h])
      have htext : text = String.ofList (c :: cs) := by rw [← hcs,String.ofList_toList]
      have hread : cs.foldl (step f) ⟨.field,fields,[c]⟩ = _ := foldl_field hrest
      simp [Written.line,hcs,step,hfirst,hc,hread]
      constructor <;> simp [step,finish,put,hdd,htext]

theorem finish_row (fields : Strings) (ws : List Written) (hne : ws ≠ []) (hw : ∀ w ∈ ws, w.Fits d) :
    (([d].intercalate (ws.map (·.line.toList))).foldl (step f) ⟨.outside,fields,[]⟩).finish =
      fields ++ ws.map (·.text) := by
  induction ws generalizing fields with
  | nil => exact absurd rfl hne
  | cons w ws ih =>
    obtain ⟨hfirst,hrest⟩ := forall_mem_cons.mp hw
    have hholds : (_ : RowReader).Holds f d (fields ++ [w.text]) := holds_written hf hd hq hfirst
    cases ws with
    | nil => simpa using hholds.atEnd
    | cons w' ws =>
      have hread := ih (fields ++ [w.text]) (by simp) hrest
      simp only [map_cons] at hread
      simp [hholds.atDelimiter,hread]
end RowReader

/-- Fields of a row are read back, whichever of them are written between quotes. -/
theorem parseRow_written (ws : List Written) (hd : Text.unitsOf d = 1) (hq : d ≠ '"') (hne : ws ≠ [])
    (hw : ∀ w ∈ ws, w.Fits d) :
    parseRow ⟨.singleton d,false⟩ (.intercalate (.singleton d) (ws.map (·.line))) = ws.map (·.text) ∧
    parseRowOf ⟨.singleton d,false⟩ ws.length (.intercalate (.singleton d) (ws.map (·.line))) =
      .ok (ws.map (·.text)) := by
  have hdelimits : ∀ c, RowFormat.delimits ⟨.singleton d,false⟩ c = true ↔ c = d := by
    intro c
    have hsmall : d.val < 0x10000 := by
      unfold Text.unitsOf at hd
      split at hd
      · cases hd
      next h => exact not_le.mp h
    simp only [RowFormat.delimits,Bool.and_eq_true,beq_iff_eq,decide_eq_true_eq]
    constructor
    · rintro ⟨h,-⟩
      simpa using congrArg String.toList h.symm
    · rintro rfl
      exact ⟨rfl,hsmall⟩
  have hrow : parseRow ⟨.singleton d,false⟩ (.intercalate (.singleton d) (ws.map (·.line))) = ws.map (·.text) := by
    have hread := RowReader.finish_row rfl hdelimits hq [] ws hne hw
    simpa [parseRow,String.toList_intercalate,Function.comp_def] using hread
  exact ⟨hrow,by simp [parseRowOf,hrow]⟩

/-- An empty field, one with a delimiter, and an empty one between quotes. -/
theorem parseRow_written_quoted : parseRow ⟨",",false⟩ ",\"a,b\",\"\"" = ["","a,b",""] :=
  (parseRow_written (d := ',') [⟨"",false⟩,⟨"a,b",true⟩,⟨"",true⟩] rfl (by decide) (by simp) (by simp [Written.Fits])).1
end TensorKit.Data
