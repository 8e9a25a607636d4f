import Playthrough.Launcher.Arguments
import Playthrough.Storage
import Playthrough.Text.Percent

/-!
Contract: starting the server with what the arguments ask for.

Owns: what the launcher stores, what it does and in which order, and which data folder its server
uses.

The launcher stores the given preferences, starts one server and waits for its end. When the
launcher is told to stop, it stops the server first. Arguments that are rejected, and the question
for help, have no effect at all.
-/

namespace Playthrough.Launcher

/-- Where a launcher runs. -/
structure Surroundings where
  /-- The folder that paths start from which do not start at the root. -/
  current : Path
  /-- The folder of the program, which holds the data folder unless another one was chosen. -/
  home : Path
  /-- The data folder that servers use unless they are given another one. -/
  dataFolder : Option String
  host : Option String
  port : Option String
deriving Repr

/-- A signal that stops a launcher. -/
inductive StopSignal where
  | interrupt
  | terminate
deriving DecidableEq, Repr

/-- The number of a signal. -/
def StopSignal.number : StopSignal → Nat
  | .interrupt => 2
  | .terminate => 15

/-- The signals that a launcher takes while its server runs. -/
def StopSignal.all : List StopSignal := [.interrupt, .terminate]

/-- What a launcher does, in order. -/
inductive Act where
  | say (line : String)
  /-- Starts the server, in the folder of the program. A folder replaces the one that the
  surroundings name. -/
  | start (command : List String) (dataFolder : Option Path)
  | wait
  | stop
deriving DecidableEq, Repr

/-- How a launcher ended. -/
structure Launch where
  acts : List Act
  /-- Whether stop signals were taken. -/
  guarded : Bool
  /-- The exit status, none when the launcher just ended. -/
  status : Option Nat
  files : Folder

/-! ## Places -/

/-- One more segment of a path. -/
def descend (path : Path) (segment : String) : Path :=
  if segment.isEmpty ∨ segment = "." then path
  else if segment = ".." then path.dropLast
  else path ++ [segment]

/-- Where a path that is written starts. -/
def startOf (current : Path) (written : String) : Path :=
  if written.startsWith "/" then [] else current

/-- The pieces of a path that is written, between its slashes. -/
def piecesOf (written : String) : List String :=
  (Text.Percent.split '/' written.toList).map String.ofList

/-- The place of a path as it is written. -/
def resolve (current : Path) (written : String) : Path :=
  (piecesOf written).foldl descend (startOf current written)

/-- The data folder in the folder of the program. -/
def Surroundings.standardData (surroundings : Surroundings) : Path :=
  surroundings.home ++ ["data"]

/-- The data folder that the launcher stores into. -/
def storedData (surroundings : Surroundings) (options : Options) : Path :=
  match options.dataFolder with
  | some written => resolve surroundings.current written
  | none => surroundings.standardData

/-- The data folder that is given to the server. -/
def givenData (surroundings : Surroundings) (options : Options) : Option Path :=
  options.dataFolder.map (resolve surroundings.current)

/-- The data folder that the server uses. It runs in the folder of the program. -/
def servedData (surroundings : Surroundings) (options : Options) : Path :=
  match givenData surroundings options with
  | some path => path
  | none =>
      match surroundings.dataFolder with
      | some written => resolve surroundings.home written
      | none => surroundings.standardData

/-! ## Launching -/

/-- The host that servers listen on unless the surroundings name one. -/
def standardHost : String := "0.0.0.0"

/-- The port that servers listen on unless one was chosen. -/
def standardPort : String := "13013"

/-- The port of the server. -/
def portOf (surroundings : Surroundings) (options : Options) : String :=
  options.port.getD (surroundings.port.getD standardPort)

/-- The command of the server. -/
def command (surroundings : Surroundings) (options : Options) : List String :=
  ["uv", "run", "uvicorn", "backend.app:app", "--host", surroundings.host.getD standardHost,
      "--port", portOf surroundings options]
    ++ if options.reload then ["--reload"] else []

/-- The fields of the given preferences. -/
def preferenceFields (options : Options) : Json.Fields :=
  (options.pacing.map fun pacing => (Settings.pacingField, Json.text pacing.name)).toList
    ++ (options.language.map fun language =>
      (Settings.languageField, Json.text language.name)).toList

/-- The pieces of a path that is written that lead somewhere. -/
def segmentsOf (written : String) : List String :=
  (piecesOf written).filter fun segment => !segment.isEmpty && segment != "."

/-- Makes the folders on a way, also those that the way leaves again. `fresh` tells whether something was made
on the way so far: a file that stands on a way of old folders is found before anything is made. -/
def makeWay (files : Folder) (place : Path) (fresh : Bool) : List String → Except Storage.Fault Folder
  | [] => .ok files
  | segment :: rest =>
      let next := descend place segment
      if Repository.longestFileName < segment.utf8ByteSize then .error .nameTooLong
      else
        match files.makeFolder next with
        | .error problem => .error (.files (if fresh || rest.isEmpty then problem else .fileOnTheWay))
        | .ok made => makeWay made next (fresh || (files.folderAt? next).isNone) rest

/-- Makes the way to the data folder that the launcher stores into. -/
def prepareWay (surroundings : Surroundings) (options : Options) (files : Folder) :
    Except Storage.Fault Folder :=
  match options.dataFolder with
  | some written => makeWay files (startOf surroundings.current written) false (segmentsOf written)
  | none => .ok files

/-- The storage that the launcher opens. -/
def openStorage (surroundings : Surroundings) (options : Options) (files : Folder) :
    Except Storage.Fault Storage := do
  let ready ← prepareWay surroundings options files
  match (Storage.closed ready).openAt (storedData surroundings options) .builtin with
  | (.error fault, _) => .error fault
  | (.ok (), storage) => .ok storage

/-- Stores the given preferences, if there are any. -/
def storePreferences (surroundings : Surroundings) (options : Options) (files : Folder) :
    Except Storage.Fault Folder :=
  if (preferenceFields options).isEmpty then .ok files
  else do
    let storage ← openStorage surroundings options files
    match storage.change (preferenceFields options) with
    | (.error fault, _) => .error fault
    | (.ok _, storage) => .ok storage.files

/-- What is said when the server starts. -/
def servingLine (port : String) : String :=
  "Serving AWARE on http://localhost:" ++ port ++ "/api ..."

/-- What is said when the server is stopped. -/
def stoppingLine : String := "\nStopping AWARE..."

/-- What is done for options. -/
def actsFor (surroundings : Surroundings) (options : Options) (signal : Option StopSignal) :
    List Act :=
  [ .say (servingLine (portOf surroundings options)),
    .start (command surroundings options) (givenData surroundings options),
    .wait ]
    ++ if signal.isSome then [.say stoppingLine, .stop, .wait] else []

/-- Launches by arguments. A signal, if there is one, arrives while the server runs. A storage that
cannot be used ends the launcher before it does anything. -/
def launch (surroundings : Surroundings) (arguments : List String) (signal : Option StopSignal)
    (files : Folder) : Except Storage.Fault Launch :=
  match read arguments with
  | .rejected => .ok { acts := [], guarded := false, status := some 2, files := files }
  | .help => .ok { acts := [], guarded := false, status := some 0, files := files }
  | .options options =>
      match storePreferences surroundings options files with
      | .error fault => .error fault
      | .ok stored =>
          .ok
            { acts := actsFor surroundings options signal
              guarded := true
              status := signal.map fun _ => 0
              files := stored }

/-- Without given preferences no file is touched. -/
theorem storePreferences_of_none (surroundings : Surroundings) {options : Options}
    (noPacing : options.pacing = none) (noLanguage : options.language = none) (files : Folder) :
    storePreferences surroundings options files = .ok files := by
  simp [storePreferences, preferenceFields, noPacing, noLanguage]

end Playthrough.Launcher
