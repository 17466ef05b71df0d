import Mathdown.CommandLine

namespace Mathdown.CommandLine

def entryAt (place : FileTree.Place) : IO.FS.DirEntry where
  root := FileTree.route place.dropLast
  fileName := place.getLast?.getD ""

/-- Reads what stands at a place into a tree. A file that cannot be read is left out. -/
def readPlace (tree : FileTree) (place : FileTree.Place) : IO FileTree := do
  let path := (entryAt place).path
  if place.isEmpty then return tree
  if ← path.isDir then return tree.put place .directory
  match ← (IO.FS.readBinFile path).toBaseIO with
  | .ok bytes => return tree.put place (.file bytes)
  | .error _ => return tree

def readWay (tree : FileTree) (place : FileTree.Place) : IO FileTree :=
  (List.range (place.length + 1)).foldlM (fun tree n => readPlace tree (place.take n)) tree

partial def readBelow (tree : FileTree) (place : FileTree.Place) : IO FileTree := do
  let tree ← readPlace tree place
  if !tree.isDirectory place then return tree
  let entries ← (entryAt place).path.readDir
  entries.foldlM (fun tree entry => readBelow tree (place ++ [entry.fileName])) tree

def readEnvironment : IO Variables.Environment := do
  let bytes ← IO.FS.readBinFile "/proc/self/environ"
  let entries := (String.fromUTF8? bytes).getD "" |>.splitOn "\x00"
  return entries.filterMap fun entry =>
    match entry.splitOn "=" with
    | name :: value => if name.isEmpty then none else some (name, "=".intercalate value)
    | [] => none

partial def readStream (stream : IO.FS.Stream) (before : ByteArray) : IO ByteArray := do
  let bytes ← stream.read 65536
  if bytes.isEmpty then return before else readStream stream (before ++ bytes)

def readTree (r : Request) (s : Surroundings) : IO FileTree := do
  let above := (List.range (s.current.length + 1)).map fun n =>
    s.current.take n ++ [Config.fileName]
  let named := [r.input, r.output, r.config].filterMap id |>.flatMap (s.tree.stops s.current)
  let tree ← (above ++ named).foldlM readWay s.tree
  match Config.load s.environment tree s.current r.config (r.overrides s.environment) with
  | .ok { cacheEnabled := true, cacheDir := some path, .. } =>
    let place := tree.locate s.current path
    readBelow (← readWay tree place) place
  | _ => return tree

def readSurroundings (args : List String) : IO Surroundings := do
  let environment ← readEnvironment
  let current := (FileTree.parts (← IO.currentDir).toString).filter (!·.isEmpty)
  let s : Surroundings := { environment, current, tree := ← readWay {} current }
  match readOrder args with
  | .ok (.render request) =>
    let tree ← readTree request s
    let input ← if request.input.isSome then pure .empty
      else readStream (← IO.getStdin) .empty
    return { s with tree, input }
  | _ => return s

def writeBack (before after : FileTree) : IO Unit := do
  for (place, _) in before.entries do
    if before.isFile place && !after.isFile place then IO.FS.removeFile (entryAt place).path
  for (place, _) in before.entries.mergeSort (fun a b => b.1.length ≤ a.1.length) do
    if before.isDirectory place && !after.isDirectory place then IO.FS.removeDir (entryAt place).path
  for (place, node) in after.entries.mergeSort (fun a b => a.1.length ≤ b.1.length) do
    match node, before.find? place with
    | .directory, some .directory => pure ()
    | .directory, _ => IO.FS.createDir (entryAt place).path
    | .file bytes, some (.file kept) =>
      if bytes != kept then IO.FS.writeBinFile (entryAt place).path bytes
    | .file bytes, _ => IO.FS.writeBinFile (entryAt place).path bytes

end Mathdown.CommandLine

def main (args : List String) : IO UInt32 := do
  let s ← Mathdown.CommandLine.readSurroundings args
  let outcome := Mathdown.CommandLine.run args s
  Mathdown.CommandLine.writeBack s.tree outcome.tree
  IO.print outcome.output
  IO.eprint outcome.errors
  return outcome.code.toUInt32
