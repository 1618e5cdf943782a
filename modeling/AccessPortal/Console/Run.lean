import AccessPortal.Console.Grammar
import AccessPortal.Console.Task
import AccessPortal.Environment.File
import AccessPortal.Http.Client
import AccessPortal.Log.Filter
import AccessPortal.Storage.InDirectory
import AccessPortal.Storage.Path

/-!
# Runs of the console

A run takes the environment, a command line and the world around it: directories, in one of which it
is, a network that reaches the auth service, and the time. An environment file may add variables. A
run leaves a report, the lines that it logged, and the world after it.
-/

namespace AccessPortal
namespace Console

/-- What surrounds a run, over the state of the network. -/
structure World (σ : Type) where
  /-- The directory that holds all others. -/
  root : Directory
  /-- The place from which paths are followed. -/
  here : Place
  network : σ
  now : Int64

/-- What a program of a run works on. -/
structure Surroundings (σ : Type) where
  directory : Directory
  network : σ
  now : Int64
  log : List Log.Record := []

variable {α σ : Type}

namespace Surroundings

def report (records : List Log.Record) (here : Surroundings σ) : Surroundings σ :=
  { here with log := here.log ++ records }

/-- Goes on with an answer that the network gave. -/
def afterAnswer (here : Surroundings σ) : α × σ → α × Surroundings σ
  | (answer, network) => (answer, { here with network })

/-- Answers the operations of a program, from the directory and by way of the network. -/
def handle (client : Http.Client) (transport : Http.Transport σ) : Handler (Surroundings σ) :=
  fun operation here =>
    match operation with
    | .get key => (DirectoryStore.get key here.directory, here)
    | .set key value =>
      let (result, directory) := DirectoryStore.set key value here.directory
      (result, { here with directory }.report (DirectoryStore.setRecords key value result))
    | .remove key =>
      let (result, directory) := DirectoryStore.remove key here.directory
      (result,
        { here with directory }.report (DirectoryStore.removeRecords key here.directory result))
    | .login credentials => here.afterAnswer (client.login transport credentials here.network)
    | .logout token => here.afterAnswer (client.logout transport token here.network)
    | .currentUser token => here.afterAnswer (client.currentUser transport token here.network)
    | .now => (here.now, here)
    | .log record => ((), here.report [record])

end Surroundings

def Failure.ofOpening (path : String) (error : StorageError) : Failure :=
  ⟨"opening storage at " ++ path, error.message :: error.causes⟩

structure Ended (σ : Type) where
  report : Report
  log : List String := []
  world : World σ

/-- Runs a program over the storage directory that the settings name. -/
def runProgram (settings : Settings) (filter : Log.Filter) (transport : Http.Transport σ)
    (program : Program Report) (world : World σ) : Ended σ :=
  match world.root.openAt world.here settings.storageDir with
  | (.error fault, root) =>
    { report := .ofFailure (.ofOpening settings.storageDir (.io fault))
      world := { world with root } }
  | (.ok place, root) =>
    let directory := { root.directoryAt place with room := Path.room settings.storageDir }
    let (report, after) := program.run (Surroundings.handle ⟨settings.baseUrl⟩ transport)
      { directory, network := world.network, now := world.now }
    { report
      log := (after.log.filter filter.enables).map (·.line)
      world :=
        { world with
          root := root.putAt (.directory after.directory.entries) place
          network := after.network } }

/-- The report on a command line that is not carried out. -/
def Report.ofRefusal : Refusal → Report
  | .usage => { exitCode := 2, errors := "error: the command line is not understood\n" }
  | .help => { output := "usage: grc-console [OPTIONS] <COMMAND>\n" }

def run (value? : String → Option String) (transport : Http.Transport σ) (words : List String)
    (world : World σ) : Ended σ :=
  let value? := EnvironmentFile.extend world.here world.root value?
  match Invocation.read value? words with
  | .error refusal => { report := .ofRefusal refusal, world }
  | .ok invocation =>
    match invocation.task with
    | .finished report => { report, world }
    | .onStore program =>
      runProgram invocation.settings
        (Log.Filter.choose (value? "RUST_LOG") invocation.settings.logLevel) transport program world

/-- Runs command lines one after the other, each in the world that the one before it left. -/
def runAll (value? : String → Option String) (transport : Http.Transport σ) :
    List (List String) → World σ → List (Ended σ)
  | [], _ => []
  | words :: rest, world =>
    let ended := run value? transport words world
    ended :: runAll value? transport rest ended.world

end Console
end AccessPortal
