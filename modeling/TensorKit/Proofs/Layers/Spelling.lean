import Mathlib
import TensorKit.Layers.Names

/-! # Configurations spelled both ways

Words joined by capitals are split before each capital, and put together again they are what they were. So a
configuration whose keys and texts are such words comes back from its spelling with underscores, with all names in it.
-/
namespace TensorKit.Layers.Casing
open List
variable {a c : Char} {cs : Chars} {s : String} {pending : Bool}
/-- An underscore before each capital. -/
def marked : Chars → Chars
  | [] => []
  | c :: cs => if c.isUpper then '_' :: c :: marked cs else c :: marked cs

/-- Letters that may follow a character: no two capitals stand side by side. -/
def isJoined : Char → Chars → Bool
  | _, [] => true
  | a, c :: cs => c.isAlpha && !(a.isUpper && c.isUpper) && isJoined c cs

/-- Words of letters joined by capitals, the first one small. -/
def isCamel (s : String) : Bool := match s.toList with
  | [] => false
  | a :: cs => a.isLower && isJoined a cs

/-- The second scan marks the capitals that the first one has left. -/
theorem splitCapitals_splitWords (inWord free : Bool) (ha : a.isAlpha) (h : isJoined a cs) :
    splitCapitals (a :: splitWords inWord free cs) = a :: marked cs := by
  induction cs generalizing a inWord free with
  | nil => rfl
  | cons c cs ih =>
    simp only [isJoined,Bool.and_eq_true] at h
    obtain ⟨⟨hc,hone⟩,hjoined⟩ := h
    have hplain (inWord free : Bool) : splitCapitals (a :: c :: splitWords inWord free cs) = a :: marked (c :: cs) := by
      rw [splitCapitals,ih inWord free hc hjoined,marked]
      cases hu : c.isUpper with
      | false => simp
      | true =>
        have hlower : a.isLower := by simp_all [Char.isAlpha]
        simp [hlower]
    rw [splitWords]
    split
    · exact hplain true false
    split
    next hmark =>
      simp only [Bool.and_eq_true] at hmark
      simp [splitCapitals,marked,hmark,ih true false hc hjoined]
    next => exact hplain false _

theorem isAlpha_of_isJoined (h : isJoined a cs) : ∀ c ∈ cs, c.isAlpha := by
  induction cs generalizing a with
  | nil => simp
  | cons c cs ih =>
    simp only [isJoined,Bool.and_eq_true] at h
    simpa [h.1.1] using ih h.2

/-- Each underscore stands before the letter that becomes a capital. -/
theorem joinWords_marked (h : ∀ c ∈ cs, c.isAlpha) : joinWords false ((marked cs).map Char.toLower) = cs := by
  induction cs with
  | nil => rfl
  | cons c cs ih =>
    obtain ⟨hc,hcs⟩ := forall_mem_cons.mp h
    have hlower : c.toLower.isLower := by rw [Char.isLower_toLower_eq_isAlpha,hc]
    have hne : c.toLower ≠ '_' := fun he => by simp [he] at hlower
    cases hu : c.isUpper with
    | false =>
      have hsame := Char.toLower_eq_of_not_isUpper (Bool.eq_false_iff.mp hu)
      rw [hsame] at hne
      simp [marked,hu,joinWords,ih hcs,hsame,hne]
    | true =>
      have hword : isWordChar c.toLower := by simp [isWordChar,Char.isAlphanum,Char.isAlpha,hlower]
      have hupper : c.toLower.toUpper = c := by
        rw [Char.toUpper_toLower_eq_toUpper,Char.toUpper_eq_of_not_isLower (by simpa using Char.not_isLower_of_isUpper hu)]
      simp [marked,hu,joinWords,ih hcs,hne,hword,hupper]

theorem toCamel_of_not_mem (h : '_' ∉ s.toList) : toCamel s = s := by
  have hsame : ∀ cs, '_' ∉ cs → joinWords false cs = cs := by
    intro cs hcs
    induction cs with
    | nil => rfl
    | cons c cs ih =>
      obtain ⟨hc,hcs⟩ := not_or.mp (mem_cons.not.mp hcs)
      simp [joinWords,Ne.symm hc,ih hcs]
  simp [toCamel,hsame _ h]

theorem exists_of_isCamel (h : isCamel s) : ∃ a cs, s.toList = a :: cs ∧ a.isLower ∧ isJoined a cs := by
  unfold isCamel at h
  split at h
  · cases h
  next a cs hs => exact ⟨a,cs,hs,Bool.and_eq_true_iff.mp h⟩

theorem isAlpha_of_isCamel (h : isCamel s) : ∀ c ∈ s.toList, c.isAlpha := by
  obtain ⟨a,cs,hs,ha,hjoined⟩ := exists_of_isCamel h
  simpa [hs,Char.isAlpha,ha] using isAlpha_of_isJoined hjoined

theorem toCamel_of_isCamel (h : isCamel s) : toCamel s = s :=
  toCamel_of_not_mem fun hmem => absurd (isAlpha_of_isCamel h '_' hmem) (by decide)

theorem toCamel_toSnake_word (h : isCamel s) : toCamel (toSnake s) = s := by
  obtain ⟨a,cs,hs,ha,hjoined⟩ := exists_of_isCamel h
  have hupper := Char.not_isUpper_of_isLower ha
  have hsame := Char.toLower_eq_of_not_isUpper hupper
  have hhead : a ≠ '_' := fun he => by simp [he] at ha
  have hsplit : splitCapitals (splitWords false false (a :: cs)) = marked (a :: cs) := by
    simp [splitWords,splitCapitals_splitWords false (!isLineEnd a) (by simp [Char.isAlpha,ha]) hjoined,marked,hupper]
  have hsnake : toSnake s = String.ofList ((marked (a :: cs)).map Char.toLower) := by
    simp only [toSnake,hs,hsplit]
    simp [marked,hupper,hsame,hhead]
  have hback := joinWords_marked (isAlpha_of_isCamel h)
  rw [hs] at hback
  rw [hsnake,toCamel]
  split
  next hshort =>
    obtain rfl : cs = [] := by
      cases cs with
      | nil => rfl
      | cons c cs => simp [marked,hupper] at hshort; split at hshort <;> simp at hshort
    simp [← String.toList_inj,hs,marked,hupper,hsame]
  next => simp [hback,← String.toList_inj,hs]
end TensorKit.Layers.Casing

namespace TensorKit.Layers.Spelling
open List Casing
variable {key k s : String} {isFirst : Bool} {xs : List Json} {out fs : Named Json} (st : Style) (x v : Json)
mutual
/-- Keys and texts are words joined by capitals, except for names: texts under the key for names, texts without
underscores under the key for classes, and the texts that begin the entries of lists of calls. -/
def Conforms (key : String) : Json → Prop
  | .str s => isCamel s
  | .arr xs => ItemsConform key true xs
  | .obj fs => (fs.map (·.1)).Nodup ∧ FieldsConform fs
  | _ => True
def ItemsConform (key : String) (isFirst : Bool) : List Json → Prop
  | [] => True
  | x :: rest => (isFirst && namesFirst key && isText x ∨ Conforms key x) ∧ ItemsConform key false rest
def FieldsConform : Named Json → Prop
  | [] => True
  | (k,v) :: rest => isCamel k ∧ (isText v ∧ (k = "name" ∨ k = "className" ∧ '_' ∉ v.strD.toList) ∨ Conforms k v) ∧
    FieldsConform rest
end

/-! ## One entry -/

theorem isText_respell : isText (respell st key x) = isText x := by cases x <;> simp [respell,isText,Json.str?]

def respellField (p : String × Json) : String × Json :=
  (st.spell p.1,if isText p.2 && st.kept.contains p.1 then p.2 else respell st (st.known p.1) p.2)

theorem respellFields_eq (h : (out.map (·.1) ++ fs.map (st.spell ·.1)).Nodup) :
    respellFields st out fs = out ++ fs.map (respellField st) := by
  induction fs generalizing out with
  | nil => simp [respellFields]
  | cons p rest ih =>
    obtain ⟨k,v⟩ := p
    have hnew : st.spell k ∉ out.map (·.1) := (disjoint_of_nodup_append h · mem_cons_self)
    rw [respellFields,put_of_not_mem hnew,ih (by simpa using h)]
    simp [respellField]

/-! ## There and back -/

theorem spell_spell (h : isCamel s) : camel.spell (snake.spell s) = s := by
  simp only [camel,snake,toCamel_toSnake_word h]

theorem spell_eq_name_iff (hk : isCamel k) : snake.spell k = "name" ↔ k = "name" := by
  constructor
  · intro h
    rw [← spell_spell hk,h]
    exact toCamel_of_not_mem (s := "name") (by decide)
  · rintro rfl
    decide

theorem respellField_back (hk : isCamel k) (h : isText v ∧ (k = "name" ∨ k = "className" ∧ '_' ∉ v.strD.toList) ∨
    Conforms k v ∧ respell camel k (respell snake k v) = v) :
    respellField camel (respellField snake (k,v)) = (k,v) := by
  have hknown : camel.known (snake.spell k) = k ∧ snake.known k = k := ⟨spell_spell hk,rfl⟩
  have hnames : snake.kept = ["name","className"] := rfl
  have hkept : camel.kept.contains (snake.spell k) = decide (k = "name") := by simp [camel,spell_eq_name_iff hk]
  simp only [respellField,spell_spell hk,hknown,hkept,hnames]
  cases htext : isText v with
  | false =>
    have hback := (h.resolve_left (by simp [htext])).2
    simp [htext,isText_respell,hback]
  | true =>
    obtain ⟨s,rfl⟩ : ∃ s, v = .str s := by cases v <;> simp_all [isText,Json.str?]
    by_cases hname : k = "name"
    · simp [htext,hname]
    by_cases hclass : k = "className"
    · have hs : Casing.toCamel s = s := by
        rcases h with ⟨-,h⟩ | ⟨h,-⟩
        · exact toCamel_of_not_mem (h.resolve_left hname).2
        · exact toCamel_of_isCamel h
      simp [hclass,respell,camel,hs]
    · have hback := (h.resolve_left (by simp [hname,hclass])).2
      simp [hname,hclass,hback]

/-- Fields keep apart in the new spelling, and come back in their order. -/
theorem respellFields_back {st st' : Style} (hkeys : (fs.map (·.1)).Nodup)
    (hback : ∀ p ∈ fs, respellField st' (respellField st p) = p) :
    respellFields st' [] (respellFields st [] fs) = fs := by
  have hspelled : (fs.map (st.spell ·.1)).map st'.spell = fs.map (·.1) := by
    rw [map_map]
    exact map_congr_left fun p hp => congrArg Prod.fst (hback p hp)
  have hapart : (fs.map (st.spell ·.1)).Nodup := .of_map st'.spell (hspelled ▸ hkeys)
  rw [respellFields_eq st (by simpa using hapart),nil_append,respellFields_eq st',map_map]
  · exact (map_congr_left hback).trans (map_id fs)
  · rw [map_map] at hspelled ⊢
    exact hspelled ▸ hkeys

mutual
theorem respell_back (key : String) : (x : Json) → Conforms key x → respell camel key (respell snake key x) = x
  | .null, _ | .bool _, _ | .int _, _ | .num _, _ => by simp [respell]
  | .str s, h => by rw [respell,respell,spell_spell h]
  | .arr xs, h => by rw [respell,respell,respellItems_back key true xs h]
  | .obj fs, h => by rw [respell,respell,respellFields_back h.1 (respellField_back_all fs h.2)]
theorem respellItems_back (key : String) (isFirst : Bool) : (xs : List Json) → ItemsConform key isFirst xs →
    respellItems camel key isFirst (respellItems snake key isFirst xs) = xs
  | [], _ => by simp [respellItems]
  | x :: rest, h => by
    rw [respellItems,respellItems,respellItems_back key false rest h.2]
    split
    next => simp
    next hname => simp [isText_respell,hname,respell_back key x (h.1.resolve_left hname)]
theorem respellField_back_all : (fs : Named Json) → FieldsConform fs →
    ∀ p ∈ fs, respellField camel (respellField snake p) = p
  | [], _ => by simp
  | (k,v) :: rest, h => forall_mem_cons.mpr
    ⟨respellField_back v h.1 (h.2.1.imp_right fun hv => ⟨hv,respell_back k v hv⟩),respellField_back_all rest h.2.2⟩
end

/-- A configuration comes back from its spelling with underscores. -/
theorem toCamel_toSnake (key : String) (config : Json) (h : Conforms key config) :
    toCamel key (toSnake key config) = config := respell_back key config h

def callConfig : Json :=
  .obj [("className", .str "Übung"), ("name", .str "my_Layer"), ("config", .obj [("useBias", .bool true),
    ("dataFormat", .str "channelsLast")]), ("inboundNodes", .arr [.arr [.arr [.str "a_B", .int 0, .str "xY"]]])]
theorem conforms_callConfig : Conforms "" callConfig := by
  simp [Conforms,ItemsConform,FieldsConform,callConfig]
  decide
theorem toCamel_toSnake_callConfig : toCamel "" (toSnake "" callConfig) = callConfig :=
  toCamel_toSnake "" callConfig conforms_callConfig
end TensorKit.Layers.Spelling
