import TensorKit.Convert.Command

/-! # The converter as a program

Reads the model that the command line names, converts it, and writes the files of the result.
-/
namespace TensorKit.Program
open Studio (Setting)
variable (path : String) (tree : Files.Tree)
def fileAt? : IO (Option Files.Content) := do
  try
    return some (.bytes (← IO.FS.readBinFile path).toList)
  catch _ => return none
def fetch (path : String) : IO Files.Tree := do
  let some content ← fileAt? path | return tree
  return tree.plant path (.file content)
def groupsIn (path : String) : List Json := match (Convert.readJson path).run { tree } with
  | .ok model _ => (model "weightsManifest").elems
  | .error _ _ => []
variable (groups : List Json)
def shardPaths : Strings :=
  (groups.flatMap fun g => (g "paths").elems).filterMap fun p => p.str?.map (Files.join (Files.folderOf path))
def layersOf : Named Strings :=
  let names := (groups.flatMap fun g => (g "weights").elems).filterMap (·.getStr? "name")
  (names.map Files.folderOf).eraseDups.map fun layer => (layer,names.filter (Files.folderOf · == layer))

variable (args : Strings)
def prepare : IO (Files.Tree × Setting) := do
  match Convert.Options.parse args with
  | .error _ => return ({},{})
  | .ok options =>
    let source := options.source.getD ""
    let tree ← fetch (← fetch {} source) (options.target.getD "")
    let groups := groupsIn tree source
    let tree ← (shardPaths source groups).foldlM fetch tree
    return (tree,{ layers := some (layersOf groups) })

def keep (content : Files.Content) : IO Unit := do
  match content with
  | .archive _ _ => return ()
  | .bytes bs =>
    let folder := Files.folderOf path
    if !folder.isEmpty then IO.FS.createDirAll folder
    IO.FS.writeBinFile path ⟨bs.toArray⟩
def exitCode (r : Refusal) : UInt32 := match r.cause with
  | .exit => ((r.message.getD "").toNat?.getD 1).toUInt32
  | _ => 1

def run : IO UInt32 := do
  let (tree,setting) ← prepare args
  match (Convert.convertWords args setting).run { tree } with
  | .ok _ s =>
    .print s.printed
    for (path,content) in s.tree.addedTo tree do keep path content
    return 0
  | .error e s =>
    .print s.printed
    .eprintln (e.message.getD "")
    return exitCode e
end TensorKit.Program

def main (args : List String) : IO UInt32 := TensorKit.Program.run args
