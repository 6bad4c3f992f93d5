import CrudScaffold.CommandLine.Run
import Std.Time.Zoned

/-!
# The program

The files that a run may look at are read before it, the run is computed, and the files that it changed are
written.
-/

namespace CrudScaffold.Program

/-! ### Time -/

private def localTime : IO Std.Time.PlainDateTime := do
  match ← Std.Time.PlainDateTime.now.toBaseIO with
  | .ok time => return time
  | .error _ => return .ofWallTime (.ofTimestamp (← Std.Time.Timestamp.now) .zero)

private def currentMoment : IO Moment := do
  let time ← localTime
  let date : Date := ⟨time.year.toNat, time.month.val.toNat, time.day.val.toNat⟩
  return ⟨date, time.hour.val.toNat, time.minute.val.toNat, time.second.val.toNat, time.nanosecond.val.toNat / 1000⟩

/-! ### Reading files -/

private def locationText (l : Location) : String :=
  "/" ++ "/".intercalate l

private def readNode (l : Location) : IO (Option Node) := do
  match ← (IO.FS.readBinFile (locationText l)).toBaseIO with
  | .ok content => return some (.file content)
  | .error _ =>
    match ← (IO.FS.realPath (locationText l)).toBaseIO with
    | .ok _ => return some .directory
    | .error _ => return none

/-- The locations that a path leads through. -/
private def locations (t : FileTree) (p : Path) : List Location :=
  let step (passed : List Location) (name : String) : List Location :=
    let directory := passed.headD (t.start p.anchor)
    (if name = ".." then directory.dropLast else directory ++ [name]) :: passed
  (p.components.foldl step []).reverse

/-- The tree with what is found on the way to a path. -/
private def explore (t : FileTree) (p : Path) : IO FileTree :=
  (locations t p).foldlM (fun t l => do
    if (t.node? l).isSome then return t
    match ← readNode l with
    | some n => return t.put l n
    | none => return t) t

/-- The paths that a run may write to. -/
private def targets (i : CommandLine.Invocation) (w : Workspace) : List Path :=
  match ((Settings.load i.settingsPath none).run.run w).1 with
  | .error _ => []
  | .ok settings =>
    match (Command.mk settings .standard reservedWords).request i.arguments with
    | .error _ => []
    | .ok r => ArtifactKind.all.map fun k => k.outputPath w.clock.next.stamp r

private def currentTree : IO FileTree := do
  let components := (Path.ofText (← IO.currentDir).toString).components
  return ⟨components, []⟩

/-- A workspace with the files that a run of these words may look at. -/
private def workspaceFor (words : List String) : IO Workspace := do
  let w : Workspace := ⟨← currentTree, ⟨← currentMoment, []⟩, ⟨0.0, []⟩, []⟩
  match CommandLine.Invocation.ofTexts words with
  | .error _ => return w
  | .ok i =>
    let w := { w with tree := ← explore w.tree (i.settingsPath.getD (Path.ofText Settings.fileName)) }
    return { w with tree := ← (targets i w).foldlM explore w.tree }

/-! ### Writing files -/

private def writeNode (l : Location) : Node → IO Unit
  | .directory => IO.FS.createDir (locationText l)
  | .file content => do
    let temporary := locationText (l.dropLast ++ [Storage.temporaryName (l.getLast?.getD "") 0])
    IO.FS.writeBinFile temporary content
    IO.FS.rename temporary (locationText l)

/-- Writes what is new in the second tree. -/
private def writeChanges (before after : FileTree) : IO Unit :=
  (after.nodes.filter fun e => before.nodes.get? e.1 ≠ some e.2).forM fun e => writeNode e.1 e.2

/-- Hours, minutes and seconds. -/
private def clockText (m : Moment) : String :=
  Text.padded 2 m.hour ++ ":" ++ Text.padded 2 m.minute ++ ":" ++ Text.padded 2 m.second

/-- The program: runs the words of a command line, and returns the status that the process ends with. -/
def run (words : List String) : IO UInt32 := do
  let w ← workspaceFor words
  let (outcome, after) := CommandLine.run words w
  let written ← (writeChanges w.tree after.tree).toBaseIO
  IO.print (Output.standard outcome.output)
  IO.eprint (Output.errors (some (clockText w.clock.next)) outcome.level outcome.output)
  match written, outcome.ending with
  | .error e, _ =>
    IO.eprintln (toString e)
    return Problem.generationStatus.toNat.toUInt32
  | .ok (), .error _ =>
    IO.eprintln "The settings or the arguments cannot be read."
    return Problem.configurationStatus.toNat.toUInt32
  | .ok (), .ok status => return status.toNat.toUInt32

end CrudScaffold.Program

def main (words : List String) : IO UInt32 :=
  CrudScaffold.Program.run words
