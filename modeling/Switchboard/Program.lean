import Switchboard.CommandLine.Help
import Switchboard.Config.File
import Switchboard.Ping.Pinger
import Switchboard.Server.Listener
import Switchboard.Server.Responder

/-!
# The program

What a command line comes to on a host. Reading it and the settings leaves a task: to print
something, to serve or to ping. Performing the task gives an exit code and what is printed. Log
records are not part of it.
-/

namespace Switchboard

/-- What running the program comes to. -/
structure Result where
  code : UInt32
  /-- What is printed. -/
  output : String
  /-- What is printed about an error. -/
  errors : String
  deriving DecidableEq, Repr

/-- What a command line leaves to be done. -/
inductive Task
  | finish (r : Result)
  | serve (config : NetworkConfig) (workers : Nat)
  | ping (server : String) (port : UInt16) (pinger : Pinger)

namespace Program

open CommandLine (Request Invocation Command padLeft padRight unlines)

/-- The program ends without an error. -/
def succeed (output : String) : Result :=
  ⟨0, output, ""⟩

/-- The program ends with an error, after it has printed something. -/
def fail (output message : String) : Result :=
  ⟨1, output, unlines ["Error: " ++ message]⟩

/-- The program ends because the command line is wrong. -/
def misused : Result :=
  ⟨2, "", ""⟩

/-- The program ends because the settings ask for the impossible. -/
def crashed : Result :=
  ⟨101, "", ""⟩

/-- The most workers that a router can have. -/
def workerLimit : Nat :=
  UInt64.size / 8 - 1

/-! ## Commands -/

/-- A line of the list of messages. -/
def messageLine (id tag format attached : String) : String :=
  padLeft 5 id ++ "  " ++ padRight 20 tag ++ " " ++ padRight 8 format ++ " " ++ attached

/-- Who gets the messages of a type. -/
def attachedText {P : Type} (e : Entry P) : String :=
  let words := [(e.handler.isSome, "handler"), (e.router.isSome, "router"),
    (e.rawHandler.isSome, "raw")]
  ", ".intercalate ((words.filter Prod.fst).map Prod.snd)

/-- The messages that a server knows. -/
def messageLines (c : Config) : List String :=
  messageLine "ID" "TAG" "FORMAT" "ATTACHED"
    :: (serverProcessor c.protocol.byteOrder false).registry.entries.map fun e =>
      messageLine (toString e.id) e.tag e.schema.format.name (attachedText e)

/-- Prints settings. -/
def showConfig (c : Config) : Result :=
  match c.text? with
  | some text => succeed (unlines [text])
  | none => fail "" "out-of-range value for u64 type"

/-- Prints sample settings or writes them to a file. The directory of the file has to exist. -/
def generate (files : FileTree) : Option String → Result × FileTree
  | none => (showConfig Config.sample, files)
  | some path =>
    match files.write (FilePath.ofString path) (Utf8.ofString (Config.sample.text?.getD "")) with
    | .ok files => (succeed (unlines ["Configuration written to: " ++ path]), files)
    | .error e => (fail "" e.message, files)

/-- The task of serving, on a port that may take the place of the one in the settings. -/
def serveTask (c : Config) (port : Option UInt16) : Task :=
  let network := c.networkConfig
  .serve { network with port := port.getD network.port } c.router.workers.toNat

/-- The task of pinging. -/
def pingTask (clock : Nat → UInt64) (c : Config) (server : String) (port : UInt16) (count : UInt32)
    (notice : Option String) : Task :=
  .ping server port (Pinger.new c.networkConfig ⟨count, notice, c.general.name⟩ clock)

/-- What a command leaves to be done. -/
def commandTask (files : FileTree) (clock : Nat → UInt64) (c : Config) :
    Command → Task × FileTree
  | .serve port => (serveTask c port, files)
  | .ping server port count notice => (pingTask clock c server port count notice, files)
  | .messages => (.finish (succeed (unlines (messageLines c))), files)
  | .config true output =>
    let (r, files) := generate files output
    (.finish r, files)
  | .config false _ => (.finish (showConfig c), files)

/-! ## Reading the command line -/

/-- The settings for an invocation. Settings from the usual places that cannot be loaded are
ignored. -/
def settings (h : Host) (i : Invocation) : Except ConfigError Config :=
  match i.config with
  | some path => Config.load h path
  | none => .ok ((Config.loadDefault h).toOption.getD (Config.default h.name))

/-- What an invocation leaves to be done. -/
def invocationTask (h : Host) (clock : Nat → UInt64) (i : Invocation) : Task × FileTree :=
  match settings h i with
  | .error e => (.finish (fail "" e.message), h.files)
  | .ok c =>
    match c.general.openLog h.files with
    | (.error _, files) => (.finish (fail "" "Cannot open log file"), files)
    | (.ok _, files) => commandTask files clock c i.command

/-- What a command line leaves to be done, and the files afterwards. -/
def task (h : Host) (clock : Nat → UInt64) (arguments : List String) : Task × FileTree :=
  match CommandLine.read arguments with
  | .run i => invocationTask h clock i
  | .help t => (.finish (succeed t.text), h.files)
  | .version => (.finish (succeed CommandLine.versionText), h.files)
  | .wrong => (.finish misused, h.files)

/-- The paths that a command line makes the program look at. -/
def paths (h : Host) (arguments : List String) : List String :=
  match CommandLine.read arguments with
  | .run i =>
    let output := match i.command with
      | .config true (some path) => [path]
      | _ => []
    let log := ((settings h i).toOption.bind (·.general.logFile)).toList
    (i.config.map ([·])).getD (Config.defaultPaths h) ++ output ++ log
  | _ => []

/-! ## Performing tasks -/

/-- Serves until the program is interrupted. -/
def serve (h : Host) (config : NetworkConfig) (workers : Nat) : Result :=
  if workerLimit < workers then crashed
  else
    match h.listenWith config with
    | .ok () => succeed ""
    | .error e => fail "" e.message

/-- The address of a server: an address with a port, or a host on a port given apart. -/
def address (h : Host) (server : String) (port : UInt16) : Option SocketAddress :=
  match SocketAddress.ofText? server with
  | some a => some a
  | none => (h.resolve server port).toOption

/-- What a pinger that has stopped comes to. -/
def pinged (p : Pinger) : Result :=
  match p.stage with
  | .over (some e) => fail (unlines p.printed) e.message
  | _ => succeed (unlines p.printed)

/-- Pings a server. -/
def ping (h : Host) (server : String) (port : UInt16) (p : Pinger) : Result :=
  match address h server port with
  | none => fail "" ("Cannot resolve " ++ server)
  | some a =>
    match h.connect a with
    | .error e => fail "" (ConnectionError.io (.os e)).message
    | .ok inbound => pinged (p.finish inbound)

/-- Performs a task. -/
def perform (h : Host) : Task → Result
  | .finish r => r
  | .serve config workers => serve h config workers
  | .ping server port p => ping h server port p

/-- Runs the program: what it comes to, and the files afterwards. -/
def run (h : Host) (clock : Nat → UInt64) (arguments : List String) : Result × FileTree :=
  let (t, files) := task h clock arguments
  (perform { h with files := files } t, files)

end Program

end Switchboard
