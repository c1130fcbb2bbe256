import TensorKit.Grid.Basic
import TensorKit.Json.Parser

/-! # Paths

Empty parts and single dots mean nothing, two dots take the part before them away.
-/
namespace TensorKit.Files
variable (path : String)
def isAbsolute : Bool := path.toList.head? == some '/'
def segments : Strings := (path.toList.splitOn '/').map .ofList
def step (parts : Strings) (part : String) : Strings :=
  if part == "" || part == "." then parts
  else if part == ".." then
    match parts with
    | [] => [".."]
    | p :: ps => if p == ".." then ".." :: p :: ps else ps
  else part :: parts
def parts : Strings := ((segments path).foldl step []).reverse
def normal : String := (if isAbsolute path then "/" else "") ++ "/".intercalate (parts path)
def join (base path : String) : String :=
  if isAbsolute path then path
  else if base.isEmpty || base.toList.getLast? == some '/' then base ++ path
  else base ++ "/" ++ path
def baseName : String := (segments path).getLastD ""
def folderOf : String := match (segments path).dropLast with
  | [] => ""
  | [""] => "/"
  | ps => "/".intercalate ps
def parent : String := (if isAbsolute path then "/" else "") ++ "/".intercalate (parts path).dropLast
end TensorKit.Files

/-! # Archives

A hierarchy of named groups and arrays in one file. A slash in a name leads into a group within the group.
-/
namespace TensorKit
inductive Archive where
  | data (g : Grid)
  | group (attrs : Named Json) (items : List (String × Archive))

namespace Archive
instance : Inhabited Archive := ⟨.group [] []⟩
def before (a b : String) : Bool :=
  let rec go : Bytes → Bytes → Bool
    | [], [] => false
    | [], _ => true
    | _, [] => false
    | x :: xs, y :: ys => if x < y then true else if y < x then false else go xs ys
  go a.toUTF8.toList b.toUTF8.toList
def place (items : Named Archive) (name : String) (a : Archive) : Named Archive := match items with
  | [] => [(name,a)]
  | (n,b) :: rest =>
    if n == name then (name,a) :: rest
    else if before name n then (name,a) :: (n,b) :: rest
    else (n,b) :: place rest name a
def attrs : Archive → Named Json
  | .data _ => []
  | .group as _ => as
def items : Archive → Named Archive
  | .data _ => []
  | .group _ is => is

variable (a : Archive) (name : String)
def attr? : Option Json := (a.attrs.find? (·.1 == name)).map (·.2)
def member? : Option Archive := (a.items.find? (·.1 == name)).map (·.2)
def find? (a : Archive) (way : Strings) : Option Archive := match way with
  | [] => some a
  | name :: rest => (a.member? name).bind (·.find? rest)
def insert (a : Archive) (way : Strings) (x : Archive) : Archive := match way with
  | [] => x
  | name :: rest =>
    let inner := (a.member? name).getD (.group [] [])
    .group a.attrs (place a.items name (inner.insert rest x))
def wayOf : Strings := (name.splitOn "/").filter (· != "")
def at? : Option Archive := a.find? (wayOf name)
def make (attrs : Named Json) (members : Named Archive) : Archive :=
  members.foldl (fun a (name,x) => a.insert (wayOf name) x) (.group attrs [])
end Archive
end TensorKit

/-! # Files and folders

Paths in their one spelling. The folders on the way to an entry are entries themselves.
-/
namespace TensorKit.Files
inductive Content where
  | bytes (bs : Bytes)
  | archive (a : Archive) (size : Nat)

inductive Node where
  | folder
  | file (content : Content)

structure Tree where
  entries : Named Node := []

namespace Tree
variable (t : Tree) (path : String)
def isRoot : Bool := path == "" || path == "/" || path == "$TMP" || path == "$SCRATCH"
def find? (t : Tree) (path : String) : Option Node :=
  if isRoot path then some .folder else (t.entries.find? (·.1 == path)).map (·.2)
def node? : Option Node := if path.isEmpty then none else t.find? (normal path)
def isThere : Bool := (t.node? path).isSome
def isFolder : Bool := match t.node? path with
  | some .folder => true
  | _ => false
def isFile : Bool := match t.node? path with
  | some (.file _) => true
  | _ => false
def set (n : Node) : Tree :=
  if t.entries.any (·.1 == path) then ⟨t.entries.map fun (p,m) => if p == path then (p,n) else (p,m)⟩
  else ⟨t.entries ++ [(path,n)]⟩
def above : Strings :=
  let ps := parts path
  let lead := if isAbsolute path then "/" else ""
  (List.range (ps.length - 1)).map fun i => lead ++ "/".intercalate (ps.take (i + 1))
def plant (n : Node) : Tree :=
  let path := normal path
  let t := (above path).foldl (fun t p => if (t.find? p).isSome then t else t.set p .folder) t
  match n with
  | .folder => if (t.find? path).isSome then t else t.set path .folder
  | n => t.set path n
def obstacle? : Option Cause :=
  (above path).findSome? fun p =>
    match t.find? p with
    | some .folder => none
    | some (.file _) => some .notFolder
    | none => some .noFile
def read : Checked Content := match t.node? path with
  | some (.file c) => .ok c
  | some .folder => .error (.plain .isFolder)
  | none => .error (.plain ((t.obstacle? (normal path)).getD .noFile))

def write (c : Content) : Checked Tree :=
  let p := normal path
  if path.isEmpty then .error (.plain .noFile)
  else match t.find? p with
  | some .folder => .error (.plain .isFolder)
  | some (.file _) => .ok (t.set p (.file c))
  | none =>
    match t.obstacle? p with
    | some cause => .error (.plain cause)
    | none => .ok (t.set p (.file c))

def makeFolders : Checked Tree :=
  let p := normal path
  if path.isEmpty then .error (.plain .noFile)
  else if (t.find? p).isSome then .error (.plain .fileExists)
  else if (above p).any (fun q => match t.find? q with | some (.file _) => true | _ => false) then
    .error (.plain .notFolder)
  else .ok (t.plant p .folder)
def isBelow (folder path : String) : Bool := path.startsWith (folder ++ "/")
def removeAll : Tree :=
  let p := normal path
  ⟨t.entries.filter fun (q,_) => q != p && !isBelow p q⟩
def removeFile : Tree :=
  let p := normal path
  ⟨t.entries.filter fun (q,_) => q != p⟩
def names : Strings :=
  let p := normal path
  t.entries.filterMap fun (q,_) => if parent q == p then some (baseName q) else none
def files : Named Content :=
  t.entries.filterMap fun (p,n) => match n with
    | .file c => some (p,c)
    | .folder => none
def addedTo (t before : Tree) : Named Content := t.files.filter fun (p,_) => !(before.files.any (·.1 == p))
end Tree

/-! # The desk

Files written and lines printed before a refusal stay.
-/

structure Desk where
  tree : Tree := {}
  printed : String := ""

abbrev Work := EStateM Refusal Desk

namespace Work
def refuse {α : Type} (cause : Cause) (message : String) : Work α := throw (.because cause message)
def ofExcept {α : Type} : Checked α → Work α
  | .ok a => pure a
  | .error e => throw e
instance : MonadLift Checked Work := ⟨ofExcept⟩
def put (text : String) : Work Unit := modify fun d => { d with printed := d.printed ++ text }
def say (line : String) : Work Unit := put (line ++ "\n")
def tree : Work Tree := return (← get).tree
def setTree (t : Tree) : Work Unit := modify fun d => { d with tree := t }
variable (path : String)
def write (c : Content) : Work Unit := do setTree (← ofExcept ((← tree).write path c))
def writeBytes (bs : Bytes) : Work Unit := write path (.bytes bs)
def writeJson (j : Json) : Work Unit := writeBytes path j.fileBytes
def read : Work Content := do ofExcept ((← tree).read path)
def signature : Bytes := [0x89,0x48,0x44,0x46,0x0d,0x0a,0x1a,0x0a]
def readBytes : Work Bytes := do
  match ← read path with
  | .bytes bs => return bs
  | .archive _ _ => return signature
def makeFolders : Work Unit := do setTree (← ofExcept ((← tree).makeFolders path))
def isThere : Work Bool := return (← tree).isThere path
def isFolder : Work Bool := return (← tree).isFolder path
def isFile : Work Bool := return (← tree).isFile path
def ensureFolder : Work Unit := do if !(← isFolder path) then makeFolders path
end Work
end TensorKit.Files
