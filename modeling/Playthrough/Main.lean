import Playthrough.Launcher.Launch

/-!
Contract: the command line of the launcher.

Owns: reading the settings file of the data folder, writing what the launcher stores, and printing
what it says. The command that serves is printed on the error stream, for whoever runs it.
-/

namespace Playthrough.Launcher

/-- How the launcher is used. -/
def usage : String :=
  "usage: playthrough [-h] [--data-dir FOLDER] [--pacing fast|medium|native]\n"
    ++ "                   [--language en|it|ka|fa] [--port PORT] [--no-reload]"

/-- A path as it is written. -/
def writtenPath (path : Path) : String := "/" ++ "/".intercalate path

/-- The tree with one file in it, if the file is there. -/
def readTree (path : Path) : IO Folder := do
  match ← (IO.FS.readBinFile (writtenPath path)).toBaseIO with
  | .error _ => return []
  | .ok bytes =>
      match Folder.install [] path (.octets bytes.toList) with
      | .ok files => return files
      | .error _ => return []

/-- Writes the text file at a path of a tree, after making the folders of a data folder. -/
def writeTree (files : Folder) (path : Path) : IO Unit := do
  match files.contentAt? path with
  | some (.text value) =>
      IO.FS.createDirAll (writtenPath (path.dropLast ++ [Storage.scenesName]))
      IO.FS.writeFile (writtenPath path) value
  | _ => return ()

/-- Says one line, or shows the command of the server. -/
def perform : Act → IO Unit
  | .say line => IO.println line
  | .start command dataFolder => do
      let setting :=
        match dataFolder with
        | some path => ["DATA_DIR=" ++ writtenPath path]
        | none => []
      IO.eprintln (" ".intercalate (setting ++ command))
  | .wait => return ()
  | .stop => return ()

/-- The surroundings of the command line. It is run in the folder of the program. -/
def currentSurroundings : IO Surroundings := do
  let here := resolve [] (← IO.currentDir).toString
  return {
    current := here
    home := here
    dataFolder := ← IO.getEnv "DATA_DIR"
    host := ← IO.getEnv "HOST"
    port := ← IO.getEnv "BACKEND_PORT" }

/-- Launches by arguments. -/
def runCommandLine (arguments : List String) : IO UInt32 := do
  let surroundings ← currentSurroundings
  match read arguments with
  | .help =>
      IO.println usage
      return 0
  | .rejected =>
      IO.eprintln usage
      return 2
  | .options options =>
      let place := storedData surroundings options ++ [Storage.settingsName]
      match launch surroundings arguments none (← readTree place) with
      | .error _ =>
          IO.eprintln "The stored settings cannot be used."
          return 1
      | .ok launched =>
          writeTree launched.files place
          launched.acts.forM perform
          return UInt32.ofNat (launched.status.getD 0)

end Playthrough.Launcher

/-- Launches by the arguments of the command line. -/
def main (arguments : List String) : IO UInt32 :=
  Playthrough.Launcher.runCommandLine arguments
