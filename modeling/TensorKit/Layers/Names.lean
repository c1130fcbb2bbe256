import TensorKit.Json.Basic

/-! # Names of tensors

A name is made unique by a number behind it. Names that were handed out count as asked for.
-/

/-! ## Spelling of identifiers

Compound words have capitals inside, or underscores.
-/
namespace TensorKit.Layers.Casing
variable (c : Char) (s : String)
def isLineEnd : Bool := ['\n','\r','\u2028','\u2029'].contains c
def isSmall : Bool := c.isLower || c.isDigit

/-- Underscores before the capitals that begin a word. A word takes its small characters along, and the character before
it must be free: neither taken nor the end of a line. -/
def splitWords (inWord free : Bool) : Chars → Chars
  | [] => []
  | c :: cs =>
    if inWord && isSmall c then c :: splitWords true false cs
    else if free && c.isUpper && cs.head?.any isSmall then '_' :: c :: splitWords true false cs
    else c :: splitWords false (!isLineEnd c) cs
def splitCapitals : Chars → Chars
  | a :: b :: rest =>
    if a.isLower && b.isUpper then a :: '_' :: splitCapitals (b :: rest)
    else a :: splitCapitals (b :: rest)
  | cs => cs
def toSnake : String :=
  let out := (splitCapitals (splitWords false false s.toList)).map .toLower
  .ofList (if out.head? == some '_' then "private".toList ++ out else out)
def isWordChar : Bool := c.isAlphanum || c == '_'

/-- Words with capitals in the place of underscores. Before anything that is no word the last underscore stays. -/
def joinWords (pending : Bool) : Chars → Chars
  | [] => []
  | c :: cs =>
    if c == '_' then joinWords true cs
    else
      let rest := joinWords false cs
      if !pending then c :: rest else if isWordChar c then c.toUpper :: rest else '_' :: c :: rest
def toCamel : String := if s.length ≤ 1 then s else .ofList (joinWords false s.toList)
end TensorKit.Layers.Casing
namespace TensorKit.Layers
def isNameStart (c : Char) : Bool := c.isAlphanum
def isNameChar (c : Char) : Bool := c.isAlphanum || c == '-' || c == '.' || c == '_' || c == '/'
def isValidName (s : String) : Bool := match s.toList with
  | [] => false
  | c :: cs => isNameStart c && cs.all isNameChar

/-- Names handed out so far and the scopes that are open, the innermost last. -/
structure Names where
  scopes : Strings := []
  requests : Named Nat := []
  series : Named Nat := []
deriving Inhabited

namespace Names
variable (names : Names) (name : String)
def opened (scope : String) : Names := { names with scopes := names.scopes ++ [scope] }
def closed : Names := { names with scopes := names.scopes.dropLast }
def within : String := .join (names.scopes.map (· ++ "/")) ++ name
def numbered (n : Nat) : String := name ++ "_" ++ toString n
def unique : String × Names :=
  let count := (names.requests.lookup name).getD 0
  let requests := names.requests.put name (count + 1)
  if count > 0 then
    let fresh := numbered name count
    (fresh,{ names with requests := requests.put fresh 1 })
  else (name,{ names with requests })
def next (stem : String) : String × Names :=
  let n := (names.series.lookup stem).getD 0 + 1
  (stem ++ toString n,{ names with series := names.series.put stem n })
end Names

/-! # Classes by name

The classes handed in with a call come first, then those in force from calls around it, then the known ones.
-/

/-- Classes by name; the first entry of a name counts. -/
abbrev Registry (α : Type) := Named α

namespace Registry
variable {α : Type}
def overlay (r more : Registry α) : Registry α := more.foldl (fun r (k,a) => r.put k a) r
def resolve (given inForce known : Registry α) (name : String) : Option α := match given.lookup name with
  | some a => some a
  | none => (inForce.lookup name).or (known.lookup name)

/-- The entry for the class of a configuration. One that is only in force is looked for under a word that stands for
all names. -/
def resolveClass [Inhabited α] (given inForce known : Registry α) (name : String) : Option α :=
  if (given.lookup name).isNone && (inForce.lookup name).isSome then inForce.lookup "className"
  else some ((resolve given inForce known name).getD default)
end Registry

/-- Where the classes in force are kept. -/
structure InForce (m : Type → Type) (α : Type) where
  get : m (Registry α)
  set : Registry α → m Unit

def InForce.building {m : Type → Type} [Monad m] {α β : Type} (f : InForce m α) (given : Registry α)
    (build : m β) : m β := do
  let before ← f.get
  f.set (before.overlay given)
  let r ← build
  f.set before
  return r
end TensorKit.Layers

/-! # Spelling of configurations

Keys and texts are respelled, but not the names that users give: texts under a key for names, and the texts that begin
the entries of lists of calls.
-/
namespace TensorKit.Layers.Spelling
def isText (x : Json) : Bool := x.str?.isSome
def namesFirst (key : String) : Bool := ["inboundNodes","outputLayers","inputLayers"].contains key

/-- The new spelling of a text, the keys whose texts stay, and a key as the library has it. -/
structure Style where
  spell : String → String
  kept : Strings
  known : String → String

variable (st : Style)
mutual
def respell (key : String) : Json → Json
  | .str s => st.spell s
  | .arr xs => .arr (respellItems key true xs)
  | .obj fs => .obj (respellFields [] fs)
  | j => j
def respellItems (key : String) (isFirst : Bool) : List Json → List Json
  | [] => []
  | x :: rest => (if isFirst && namesFirst key && isText x then x else respell key x) :: respellItems key false rest
def respellFields (out : Named Json) : Named Json → Named Json
  | [] => out
  | (k,v) :: rest => respellFields (out.put (st.spell k)
    (if isText v && st.kept.contains k then v else respell (st.known k) v)) rest
end

def camel : Style := ⟨Casing.toCamel,["name"],Casing.toCamel⟩
def snake : Style := ⟨Casing.toSnake,["name","className"],id⟩
def toCamel : String → Json → Json := respell camel
def toSnake : String → Json → Json := respell snake
end TensorKit.Layers.Spelling
