import Switchboard.CommandLine.Option
import Switchboard.Network.Config

/-!
# Commands

The commands of the program and what their options mean. Options that every command has can also
stand in front of it; given twice, the later place wins.
-/

namespace Switchboard.CommandLine

/-- The name of a command. -/
inductive CommandName
  | serve
  | ping
  | messages
  | config
  deriving DecidableEq, Repr

namespace CommandName

def all : List CommandName :=
  [.serve, .ping, .messages, .config]

def text : CommandName → String
  | .serve => "serve"
  | .ping => "ping"
  | .messages => "messages"
  | .config => "config"

def about : CommandName → String
  | .serve => "Run the message server"
  | .ping => "Ping a server and report round-trip times"
  | .messages => "List the registered messages"
  | .config => "Show current configuration"

def ofText? (s : String) : Option CommandName :=
  all.find? fun c => c.text = s

end CommandName

/-! ## Values -/

/-- A whole number below a bound; a plus sign and leading zeros are allowed. -/
def number? (bound : Nat) (s : String) : Option Nat :=
  let digits := match s.toList with
    | '+' :: rest => rest
    | cs => cs
  if digits.isEmpty || !digits.all Char.isDigit then none
  else
    let n := digits.foldl (fun n c => 10 * n + (c.toNat - 48)) 0
    if n < bound then some n else none

def isNumber (bound : Nat) (s : String) : Bool :=
  (number? bound s).isSome

def isPath (s : String) : Bool :=
  s ≠ ""

/-! ## Options -/

/-- The server that is pinged unless another one is given. -/
def defaultServer : String :=
  "127.0.0.1"

/-- The number of pings unless another one is given. -/
def defaultCount : UInt32 :=
  4

/-- The options that every command has. -/
def commonOptions : List OptionSpec :=
  [.valued .config (some 'c') "config" "CONFIG" "Path to configuration file" isPath,
    .flag .verbose (some 'v') "verbose" "Enable verbose output"]

def helpOption : OptionSpec :=
  .flag .help (some 'h') "help" "Print help"

def versionOption : OptionSpec :=
  .flag .version (some 'V') "version" "Print version"

/-- The options of a command alone. -/
def CommandName.ownOptions : CommandName → List OptionSpec
  | .serve =>
    [.valued .port (some 'p') "port" "PORT"
      "Port to listen on (overrides the configuration)" (isNumber UInt16.size)]
  | .ping =>
    [.valued .server (some 's') "server" "SERVER"
        ("Server host name or IP address (an ip:port pair overrides --port) [default: "
          ++ defaultServer ++ "]") fun _ => true,
      .valued .port (some 'p') "port" "PORT" s!"Server port [default: {defaultPort}]"
        (isNumber UInt16.size),
      .valued .count (some 'n') "count" "COUNT" s!"Number of pings to send [default: {defaultCount}]"
        (isNumber UInt32.size),
      .valued .notice none "notice" "NOTICE" "Send a notice before pinging" fun _ => true]
  | .messages => []
  | .config =>
    [.flag .generate none "generate" "Generate sample configuration",
      .valued .output (some 'o') "output" "OUTPUT" "Output path for generated config" isPath]

/-- The options in front of a command. -/
def topOptions : List OptionSpec :=
  commonOptions ++ [helpOption, versionOption]

/-- The options behind a command. -/
def CommandName.options (c : CommandName) : List OptionSpec :=
  commonOptions ++ c.ownOptions ++ [helpOption]

/-! ## Invocations -/

/-- A command with what its options say. -/
inductive Command
  /-- The port takes the place of the one in the settings. -/
  | serve (port : Option UInt16)
  | ping (server : String) (port : UInt16) (count : UInt32) (notice : Option String)
  | messages
  | config (generate : Bool) (output : Option String)
  deriving DecidableEq, Repr

/-- The command that options give. -/
def CommandName.command (c : CommandName) (given : Given) : Command :=
  let port : Option UInt16 := ((given.lookup .port).bind (number? UInt16.size)).map UInt16.ofNat
  match c with
  | .serve => .serve port
  | .ping =>
    .ping ((given.lookup .server).getD defaultServer) (port.getD defaultPort)
      ((((given.lookup .count).bind (number? UInt32.size)).map UInt32.ofNat).getD defaultCount)
      (given.lookup .notice)
  | .messages => .messages
  | .config => .config (given.lookup .generate).isSome (given.lookup .output)

/-- What a command line asks for. -/
structure Invocation where
  /-- The file with the settings. -/
  config : Option String
  /-- Whether to log more than usual. -/
  verbose : Bool
  command : Command
  deriving DecidableEq, Repr

/-- What can be helped with. -/
inductive Topic
  | program
  | command (c : CommandName)
  /-- The command that prints help. -/
  | help
  deriving DecidableEq, Repr

/-- What a command line says. -/
inductive Request
  | run (i : Invocation)
  | help (t : Topic)
  | version
  /-- The command line is wrong. -/
  | wrong
  deriving DecidableEq, Repr

/-- The name of the command that prints help. -/
def helpCommand : String :=
  "help"

/-- What the arguments of the command that prints help say. -/
def readTopic : List String → Request
  | [] => .help .program
  | [s] =>
    if s = helpCommand then .help .help
    else match CommandName.ofText? s with
      | some c => .help (.command c)
      | none => .wrong
  | _ => .wrong

/-- What the arguments behind a command say. -/
def readCommand (c : CommandName) (before : Given) (arguments : List String) : Request :=
  match readOptions c.options [] none arguments with
  | .finished given =>
    let common := given ++ before
    .run ⟨common.lookup .config, (common.lookup .verbose).isSome, c.command given⟩
  | .stopped .help => .help (.command c)
  | _ => .wrong

/-- What a command line says. -/
def read (arguments : List String) : Request :=
  match readOptions topOptions [] none arguments with
  | .word given w rest =>
    if w = helpCommand then readTopic rest
    else match CommandName.ofText? w with
      | some c => readCommand c given rest
      | none => .wrong
  | .stopped .help => .help .program
  | .stopped .version => .version
  | _ => .wrong

end Switchboard.CommandLine
