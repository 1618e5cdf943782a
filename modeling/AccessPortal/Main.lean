import AccessPortal.Console.Run
import Std.Time

/-!
# The console as a program

The outer layer: it answers the operations of a command from the files of a directory, the clock and
the log. It opens no connections, so that the auth service is out of reach and every request to it
ends as one that did not come back.
-/

namespace AccessPortal
namespace Console

/-- The variables that decide about a run. -/
def variableNames : List String :=
  ["GRC_API_URL", "GRC_STORAGE_DIR", "GRC_LOG_LEVEL", "GRC_LOG_DIR", "GRC_TIMEOUT_SECS",
   "GRC_PASSWORD", "RUST_LOG"]

/-- The assignments of the environment file nearest to a directory, the last of its words first. -/
def readAssignments : List String → IO (List Assignment)
  | [] => return []
  | word :: around => do
    let file := "/".intercalate (EnvironmentFile.name :: word :: around).reverse
    try return EnvironmentFile.read (← IO.FS.readBinFile file)
    catch _ => readAssignments around

/-- The variables that a run may ask for, with those of its environment file. -/
def readEnvironment : IO (String → Option String) := do
  let assignments ← readAssignments ((← IO.currentDir).toString.splitOn "/").reverse
  let names := assignments.flatMap fun assignment =>
    assignment.name :: assignment.value.filterMap fun
      | .reference name => some (ValuePiece.variableOf name)
      | .literal _ => none
  let found ← (variableNames ++ names).mapM fun name => return (← IO.getEnv name).map (name, ·)
  return EnvironmentFile.perform assignments (Table.find? · (found.filterMap id))

/-- The transport over which nothing comes back. -/
def noTransport : Http.Transport Unit :=
  fun _ state => (none, state)

def currentTime : IO Int := do
  return (← Std.Time.Timestamp.now).toMillisecondsSinceUnixEpoch.val

/-! ## Files -/

/-- What the operating system says about a file or a directory. -/
def faultOf : IO.Error → SystemFault
  | .noFileOrDirectory .. => .missing
  | .permissionDenied .. => .denied
  | .alreadyExists .. => .taken
  | .inappropriateType .. => .notDirectory
  | .invalidArgument .. => .nameTooLong
  | e => .other (toString e)

/-- What a file holds. What is there and cannot be read is shown as a directory. -/
def readEntry (path : String) : IO (Option DirectoryEntry) := do
  try return some (.file (← IO.FS.readBinFile path))
  catch
    | .noFileOrDirectory .. => return none
    | _ => return some (.directory [])

/-- The part of a directory that belongs to a key. -/
def readKey (path key : String) : IO Directory := do
  let entry ← readEntry (path ++ "/" ++ key)
  return { entries := (entry.map (key, ·)).toList, room := Path.room path }

/-- Does to the files what was done to the part of the directory that belongs to a key. -/
def writeKey (path key : String) (after : Directory) : IO Unit := do
  let file := path ++ "/" ++ key
  match after.find? key with
  | some (.file bytes) =>
    IO.FS.writeBinFile (DirectoryStore.temporaryName file) bytes
    IO.FS.rename (DirectoryStore.temporaryName file) file
  | some (.directory _) => pure ()
  | none => IO.FS.removeFile file

/-- Carries out a change of a key on the files, if it goes well there as it does here. -/
def changeKey (path key : String)
    (change : Directory → Except StorageError Unit × Directory) :
    IO (Except StorageError Unit) := do
  let before ← readKey path key
  match change before with
  | (.error e, _) => return .error e
  | (.ok (), after) =>
    if (before.find? key).isNone && (after.find? key).isNone then return .ok ()
    try
      writeKey path key after
      return .ok ()
    catch e => return .error (.write key (faultOf e))

/-! ## Logs -/

/-- Where the log of a run goes, and what of it. -/
structure LogTarget where
  filter : Log.Filter
  /-- The directory of the log files; without one, the log is printed. -/
  directory : Option String

def LogTarget.write (target : LogTarget) (records : List Log.Record) : IO Unit := do
  let time := ((Calendar.ofMilliseconds? (← currentTime)).map (·.text)).getD ""
  let text := printLines
    ((records.filter target.filter.enables).map fun record => time ++ " " ++ record.line)
  let append (directory : String) : IO Unit := do
    let file := directory ++ "/grc-client." ++ (time.take 10).toString
    (← IO.FS.Handle.mk file .append).putStr text
  if !text.isEmpty then
    match target.directory with
    | some directory => try append directory catch _ => IO.print text
    | none => IO.print text

/-! ## The run -/

/-- Answers an operation from the storage directory at a path. -/
def serve (path : String) (client : Http.Client) (log : LogTarget) {β : Type} :
    Operation β → IO β
  | .get key => return DirectoryStore.get key (← readKey path key)
  | .set key value => do
    let result ← changeKey path key (DirectoryStore.set key value)
    log.write (DirectoryStore.setRecords key value result)
    return result
  | .remove key => do
    let before ← readKey path key
    let result ← changeKey path key (DirectoryStore.remove key)
    log.write (DirectoryStore.removeRecords key before result)
    return result
  | .login credentials => return (client.login noTransport credentials ()).1
  | .logout token => return (client.logout noTransport token ()).1
  | .currentUser token => return (client.currentUser noTransport token ()).1
  | .now => return Int64.ofInt (← currentTime)
  | .log record => log.write [record]

/-- Creates a directory, if it is not there. -/
def ensureDirectory (path : String) : IO Unit := do
  try IO.FS.createDir path
  catch e => if !(← ((← IO.currentDir) / path).isDir) then throw e

/-- Creates the first directory; if one on the way to it is missing, the others before. -/
def ensureAlong : List String → IO Unit
  | [] => pure ()
  | path :: ancestors => do
    try ensureDirectory path
    catch
      | .noFileOrDirectory .. => do
        ensureAlong ancestors
        ensureDirectory path
      | e => throw e

/-- Creates a storage directory, if it is not there, or says why this cannot be done. -/
def openStorage (path : String) : IO (Except SystemFault Unit) := do
  try
    ensureAlong (path :: (Path.ancestors (Path.words [] path)).map ("/".intercalate ·))
    return .ok ()
  catch e => return .error (faultOf e)

def perform (words : List String) : IO Report := do
  let environment ← readEnvironment
  match Invocation.read environment words with
  | .error refusal => return .ofRefusal refusal
  | .ok invocation =>
    let settings := invocation.settings
    match invocation.task with
    | .finished report => return report
    | .onStore program =>
      match ← openStorage settings.storageDir with
      | .error fault => return .ofFailure (.ofOpening settings.storageDir (.io fault))
      | .ok () =>
        let filter := Log.Filter.choose (environment "RUST_LOG") settings.logLevel
        program.interpret
          (serve settings.storageDir ⟨settings.baseUrl⟩ { filter, directory := settings.logDir })

end Console
end AccessPortal

def main (words : List String) : IO UInt32 := do
  let report ← AccessPortal.Console.perform words
  IO.print report.output
  IO.eprint report.errors
  return report.exitCode
