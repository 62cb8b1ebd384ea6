import TitleDock.Command.Program
import TitleDock.Event.Layout

/-! The command line program. It takes a picture of the part of the file tree that a run can touch,
runs, and then makes the same changes to the files themselves. No network is attached: requests find
nobody listening, and only the simulated device answers. -/

namespace TitleDock.Main

def nodeAt (path : String) : IO (Option Files.Node) := do
  try
    let content ← IO.FS.readBinFile path
    return some (.file content.toList)
  catch
    | .noFileOrDirectory .. => return none
    | .inappropriateType .. => return some .folder
    | _ => return none

def addWay (t : Files.Tree) (place : Files.Place) : IO Files.Tree := do
  let mut tree := t
  for n in List.range place.length do
    let here := place.take (n + 1)
    if (tree.get? here).isNone && tree.isFolder (here.take n) then
      if let some node ← nodeAt (Files.ofSteps true here) then
        tree := tree.put here node
  return tree

def namedPaths (line : CommandLine) : List String :=
  line.options.config.toList ++ match line.command with
    | .fetch _ _ _ _ output => [output]
    | _ => []

def placeOf (working : Files.Place) (path : String) : Files.Place :=
  if Files.isAbsolute path then Files.names path else working ++ Files.names path

/-- The files around the working folder that matter to the command line, and the folder for
payloads. -/
def picture (arguments : List String) (envVars : List (String × String)) : IO Files.Tree := do
  let working := Files.names (toString (← IO.currentDir))
  let mut tree ← addWay (.empty working) working
  for folder in Settings.outward working do
    tree ← addWay tree (folder ++ [Settings.defaultFile])
  if let .ok line := CommandLine.parse arguments then
    for path in namedPaths line do
      tree ← addWay tree (placeOf working path)
    if let .ok s := Settings.load tree line.options.config envVars none then
      tree ← addWay tree (placeOf working s.transfer.tempDir)
  return tree

def apply (before after : Files.Tree) : IO Unit := do
  for (place, node) in after.entries.reverse do
    if before.get? place != some node then
      match node with
      | .folder => IO.FS.createDirAll (Files.ofSteps true place)
      | .file content =>
        let path := Files.ofSteps true place
        if let some folder := Files.parent? path then IO.FS.createDirAll folder
        IO.FS.writeBinFile path (ByteArray.mk content.toArray)

def environment : IO (List (String × String)) := do
  let bytes ← try
      let content ← IO.FS.readBinFile "/proc/self/environ"
      pure content.toList
    catch _ => pure []
  let entries := Text.splitOn (Char.ofNat 0) ((Utf8.decode? bytes).getD [])
  return entries.filterMap fun entry =>
    match entry.dropWhile (· ≠ '=') with
    | _ :: value => some (String.ofList (entry.takeWhile (· ≠ '=')), String.ofList value)
    | [] => none

def execute (arguments : List String) : IO UInt32 := do
  let envVars ← environment
  let files ← picture arguments envVars
  let watching := match CommandLine.parse arguments with
    | .ok { command := .discover .., .. } => true
    | _ => false
  let input ← if watching then (← IO.getStdin).readToEnd else pure ""
  let result := Program.run
    { arguments, envVars, files, disk := fun _ => .willing, input, now := ← IO.monoMsNow
      clock := Watch.timeOfDay, canBind := fun _ => false } .silent
  IO.print result.out
  for r in result.records do
    IO.eprintln (r.line result.jsonLogs)
  IO.eprint result.ending.complaint
  apply files result.files
  return (result.ending.exitCode?.getD 1).toUInt32

end TitleDock.Main

def main (arguments : List String) : IO UInt32 := TitleDock.Main.execute arguments
