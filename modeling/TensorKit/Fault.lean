import TensorKit.Named

/-! # Refusals

A cause carries a message only where the rule that was broken has one of its own.
-/
namespace TensorKit
inductive Cause where
  | badValue | badType | missingKey | badIndex | noFile | isFolder | notFolder | fileExists | badJson
  | badText | badMessage | unsupported | general | assumption
  /-- The program ends; the message is its exit code. -/
  | exit
  | noOperation
  | noAttribute
  | divisionByZero
  | overflow
  | runtime
  | system
deriving DecidableEq

structure Refusal where
  cause : Cause
  message : Option String := none
deriving DecidableEq

abbrev Checked := Except Refusal

namespace Refusal
def because (cause : Cause) (message : String) : Refusal := ⟨cause,some message⟩
def badValue (message : String) : Refusal := ⟨.badValue,some message⟩
def plain (cause : Cause) : Refusal := ⟨cause,none⟩
abbrev badType : Refusal := .plain .badType
abbrev missingKey : Refusal := .plain .missingKey
end Refusal

/-! # Faults

What goes wrong has a kind and a message. A fault raised by a user's function may carry any text.
-/

inductive FaultKind where
  | failure | badValue | badType | outOfRange | runtime | unsupported | missingAttribute | assertion
  /-- The running time of the machinery itself ended. -/
  | exhausted
deriving DecidableEq

structure Fault where
  kind : FaultKind
  message : String

abbrev Tried := Except Fault

namespace Fault
variable (message : String)
def failure : Fault := ⟨.failure,message⟩
def badValue : Fault := ⟨.badValue,message⟩
def badType : Fault := ⟨.badType,message⟩
def runtime : Fault := ⟨.runtime,message⟩
def unsupported : Fault := ⟨.unsupported,message⟩
def noAttribute : Fault := ⟨.missingAttribute,message⟩
def unreadable (owner member : String) : Fault := .badType s!"Cannot read properties of {owner} (reading '{member}')"
def badDims (dims : String) : String :=
  "Tensor must have a shape comprised of positive integers but got shape [" ++ dims ++ "]."
def noMember : String → Fault := unreadable "undefined"
end Fault

def fail {m : Type → Type} [MonadExceptOf Fault m] {α : Type} (message : String) : m α :=
  throwThe Fault (.failure message)
end TensorKit
