import Std.Time.DateTime.Timestamp
import Toolpath.CommandLine.Program
/-!
# The command line

The program with real arguments and files. There is no network here, so requests are refused.

## Main definitions

* `Toolpath.Shell.readTree` — the files that a run can read.
* `main` — the arguments taken, the files read, and the outcome written.
-/

namespace Toolpath.Shell

open CommandLine Files

/-- The names of the files that the arguments give. -/
def argumentFiles (texts : List (List Char)) : List (List Char) :=
  match Request.ofArguments texts with
  | .ok (.run a) => a.source :: a.config.join.toList
  | _ => []

/-- The names of the files that the settings give: the place of the source, and the log file. -/
def settingsFiles (t : Tree) (texts : List (List Char)) : List (List Char) :=
  match Request.ofArguments texts with
  | .ok (.run a) =>
    match Config.load t a.config.join with
    | .ok settings =>
      let place := (Loader.ofSettings settings.loader false).resolve a.source
      place.toOption.toList ++ (settings.log.file.map String.toList).toList
    | .error _ => []
  | _ => []

/-- A file or a folder with its name, if it is there. Reading a folder fails with code 21. -/
def readNode (name : List Char) : IO (List (List Char × Node)) := do
  try
    let data ← IO.FS.readBinFile (String.ofList (FilePath.ofText name).text)
    return [(name, .file data.toList)]
  catch
    | .inappropriateType _ 21 _ => return [(name, .folder)]
    | _ => return []

/-- The files of the given names. -/
def readTree (here : Way) (names : List (List Char)) : IO Tree := do
  let nodes ← names.mapM readNode
  return .ofFiles here nodes.flatten

/-- A file written, with the folders on the way to it. -/
def writeFile (path : FilePath) (data : List UInt8) : IO Unit := do
  IO.FS.createDirAll (String.ofList path.parent.text)
  IO.FS.writeBinFile (String.ofList path.text) ⟨data.toArray⟩

end Toolpath.Shell

open Toolpath Toolpath.Shell in
/-- The program with real arguments and files. It is run a second time to report the time that
the first one took. -/
def main (arguments : List String) : IO UInt32 := do
  let texts := arguments.map String.toList
  let folder ← IO.currentDir
  let here := (Files.FilePath.ofText folder.toString.toList).names
  let first ← readTree here (argumentFiles texts)
  let tree ← readTree here (argumentFiles texts ++ settingsFiles first texts)
  let now ← Std.Time.Timestamp.now
  let moment := Log.Moment.ofMicros (now.toNanosecondsSinceUnixEpoch.val / 1000)
  let surroundings : CommandLine.Surroundings :=
    { tree, network := {}, clock := {}, terminal := false, moment, process := 0 }
  let start ← IO.monoNanosNow
  IO.print (String.ofList (CommandLine.run surroundings texts).output)
  let stop ← IO.monoNanosNow
  let seconds := Float.ofNat (stop - start) / 1000000000.0
  let clock := Clock.ofReadings [0.0, seconds]
  let outcome := CommandLine.run { surroundings with clock } texts
  IO.eprint (String.ofList outcome.messages)
  for (path, data) in Files.Tree.changedFiles tree outcome.tree do
    writeFile path data
  match outcome.exit with
  | .ok code => return code.toUInt32
  | .error crash =>
    IO.eprintln crash.message
    return 1
