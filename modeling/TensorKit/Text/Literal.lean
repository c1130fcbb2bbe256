import TensorKit.Json.Basic

/-! # Values as literals -/
namespace TensorKit.Text
def hexWidth (width n : Nat) : String := Decimal.padLeft width '0' (.ofList (Nat.toDigits 16 n))

/-- Characters that are shown by their number: controls, separators but the blank, and what is not assigned
to any character at the ends of planes. -/
def isHidden (n : Nat) : Bool :=
  n < 32 || (127 ≤ n && n ≤ 160) || n == 173 || (0x2000 ≤ n && n ≤ 0x200f) || (0x2028 ≤ n && n ≤ 0x202f) ||
    (0x205f ≤ n && n ≤ 0x206f) || n == 0x3000 || n == 0xfeff || (0xe000 ≤ n && n ≤ 0xf8ff) ||
    n == 0xfffe || n == 0xffff || 0xe0000 ≤ n

def literalChar (quote : Char) (c : Char) : String :=
  if c == quote || c == '\\' then .ofList ['\\',c]
  else if c == '\n' then "\\n"
  else if c == '\r' then "\\r"
  else if c == '\t' then "\\t"
  else
    let n := c.toNat
    if !isHidden n then .singleton c
    else if n < 256 then "\\x" ++ hexWidth 2 n
    else if n < 65536 then "\\u" ++ hexWidth 4 n
    else "\\U" ++ hexWidth 8 n

def literalText (s : String) : String :=
  let quote := if s.contains '\'' && !s.contains '"' then '"' else '\''
  let q := .singleton quote
  q ++ s.foldl (fun acc c => acc ++ literalChar quote c) "" ++ q

def literal : Json → String
  | .null => "None"
  | .bool b => if b then "True" else "False"
  | .int n => toString n
  | .num x => Decimal.Style.pointed.text x
  | .str s => literalText s
  | .arr xs => "[" ++ ", ".intercalate (xs.map literal) ++ "]"
  | .obj fs => "\x7b" ++ ", ".intercalate (fs.map fun f => literalText f.1 ++ ": " ++ literal f.2) ++ "\x7d"
decreasing_by all_goals grind [→ List.sizeOf_lt_of_mem]

def shown : Json → String
  | .str s => s
  | j => literal j
end TensorKit.Text
