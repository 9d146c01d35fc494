import Std.Async.Signal
import Std.Async.TCP
import Std.Async.Timer
import Switchboard.Program
import Switchboard.Server.Served

/-!
# The executable

Looks at the files that a command line is about, lets the program decide, writes back the files
that it changed, and performs the task that is left with real sockets. Everything it decides is
decided by the library.
-/

open Std.Async
open Switchboard

namespace Switchboard.Executable

/-! ## Files -/

/-- The text of a path to a place. -/
def pathText (place : Place) : String :=
  match place with
  | "/" :: names => "/" ++ "/".intercalate names
  | names => "/".intercalate names

/-- What is at a place of the host. What is neither a file nor missing counts as a directory. -/
def look (place : Place) : IO (Option FileEntry) := do
  try
    return some (.file (← IO.FS.readBinFile (pathText place)).toList)
  catch
    | .noFileOrDirectory .. => return none
    | _ => return some .directory

/-- The files and directories that paths lead to and through. -/
def snapshot (paths : List String) : IO FileTree := do
  let mut tree := FileTree.empty
  for path in paths do
    let p := FilePath.ofString path
    let start : Place := if p.absolute then .outermost else .working
    for n in [0:p.names.length] do
      let place := start ++ p.names.take (n + 1)
      if let some entry ← look place then
        tree := tree.set place entry
  return tree

/-- Writes the files and makes the directories that are new or changed. -/
def store (before after : FileTree) : IO Unit := do
  for (place, entry) in after.entries.reverse do
    if before.get? place ≠ some entry then
      match entry with
      | .directory => IO.FS.createDirAll (pathText place)
      | .file content => IO.FS.writeBinFile (pathText place) content.toByteArray

/-- The name of the host. -/
def hostName : IO String := do
  try
    return (← IO.FS.readFile "/proc/sys/kernel/hostname").trimAscii.toString
  catch _ => return "unknown"

/-- The directory for settings of the user. -/
def userDirectory : IO (Option String) := do
  match ← IO.getEnv "XDG_CONFIG_HOME", ← IO.getEnv "HOME" with
  | some dir, home =>
    return if dir.startsWith "/" then some dir else home.map (· ++ "/.config")
  | none, home => return home.map (· ++ "/.config")

/-! ## Sockets -/

/-- An address as the operating system takes it. -/
def netAddress (a : SocketAddress) : Std.Net.SocketAddress :=
  match a.ip with
  | .v4 b₀ b₁ b₂ b₃ => .v4 ⟨.ofParts b₀ b₁ b₂ b₃, a.port⟩
  | .v6 groups _ => .v6 ⟨⟨groups⟩, a.port⟩

/-- The time in microseconds. -/
def now : IO UInt64 := do
  return UInt64.ofNat ((← IO.monoNanosNow) / 1000)

/-- Reads what has arrived; nothing if the peer has closed its side. -/
def readPiece (socket : TCP.Socket.Client) : Async (Option Bytes) := do
  return (← socket.recv? (UInt64.ofNat readLimit)).map fun bs => bs.toList

/-- Adds a piece that was read to what has arrived. -/
def received (s : Inbound) : Option Bytes → Inbound
  | some piece => s.arrive piece
  | none => s.close

/-- Milliseconds to wait for an answer to a ping. -/
def answerTimeout : Std.Time.Millisecond.Offset :=
  5000

/-- Milliseconds between two pings. -/
def pause : Std.Time.Millisecond.Offset :=
  1000

/-- Pings until the pinger stops. -/
partial def pinging (socket : TCP.Socket.Client) (p : Pinger) : Async Pinger := do
  let time ← now
  let p := { p with clock := fun _ => time }
  match p.stage, p.step? with
  | .over _, _ => return p
  | _, some q =>
    let news := q.written.drop p.written.length
    unless news.isEmpty do socket.send news.toByteArray
    for line in q.printed.drop p.printed.length do IO.println line
    match p.stage, q.stage with
    | .pong _, .ping seq => if seq < q.request.count.toNat then sleep pause
    | _, _ => pure ()
    pinging socket q
  | _, none =>
    let arrived ← Selectable.one #[
      .case (socket.recvSelector (UInt64.ofNat readLimit)) fun bs =>
        return some (bs.map fun bs => bs.toList),
      .case (← Selector.sleep answerTimeout) fun _ => return none]
    match arrived with
    | some piece => pinging socket { p with inbound := received p.inbound piece }
    | none => return p.stop (some (.connection .timeout))

/-- Pings a server. What the pinger prints is printed while it runs. -/
def ping (h : Host) (server : String) (port : UInt16) (p : Pinger) : IO Result := do
  match Program.address h server port with
  | none => return Program.fail "" ("Cannot resolve " ++ server)
  | some a =>
    try
      let socket ← TCP.Socket.Client.mk
      let p ← (do
        socket.connect (netAddress a)
        socket.noDelay
        pinging socket p : Async Pinger).block
      return { Program.pinged p with output := "" }
    catch e => return Program.fail "" s!"IO error: {e}"

/-- Receives and writes as far as what has arrived allows. -/
partial def settleServed (s : Served Unit) : Served Unit :=
  match s.move? (.write .complete) with
  | some s => settleServed s
  | none =>
    match s.move? .receive with
    | none => s
    | some t =>
      if t.connection.stats = s.connection.stats ∧ t.ended = s.ended then t else settleServed t

/-- Prints the notices that were routed. -/
def announce (peer : Std.Net.SocketAddress) (submissions : List (Submission Unit)) : IO Unit := do
  for s in submissions do
    if let some notice := s.message.as? Builtin.notice then
      IO.println s!"Notice from {peer.ipAddr}: {notice.1}"

/-- Serves a connection until it is over. -/
partial def serving (socket : TCP.Socket.Client) (peer : Std.Net.SocketAddress)
    (s : Served Unit) : Async Unit := do
  let t := settleServed s
  let news := t.written.drop s.written.length
  unless news.isEmpty do socket.send news.toByteArray
  announce peer (t.submissions.drop s.submissions.length)
  if t.ended.isSome then socket.shutdown
  else serving socket peer { t with inbound := received t.inbound (← readPiece socket) }

/-- Accepts connections until the program is interrupted. -/
partial def accepting (server : TCP.Socket.Server) (config : NetworkConfig)
    (interrupt : Signal.Waiter) : Async Unit := do
  let client ← Selectable.one #[
    .case server.acceptSelector fun client => return some client,
    .case interrupt.selector fun _ => return none]
  match client with
  | none => return
  | some client =>
    let peer ← client.getPeerName
    background (serving client peer (Served.new config true ()))
    accepting server config interrupt

/-- The number of connections that may wait to be accepted. -/
def backlog : UInt32 :=
  1024

/-- Serves until the program is interrupted. -/
def serve (h : Host) (config : NetworkConfig) (workers : Nat) : IO Result := do
  match h.resolve config.bindAddress config.port with
  | .error e => return Program.fail "" (ServerError.bindFailed config.listenText e).message
  | .ok a =>
    if Program.workerLimit < workers then return Program.crashed
    try
      let server ← TCP.Socket.Server.mk
      server.bind (netAddress a)
      server.listen backlog
      let interrupt ← Signal.Waiter.mk .sigint false
      (accepting server config interrupt).block
      return Program.succeed ""
    catch e =>
      return Program.fail "" s!"Bind failed: Failed to bind to {config.listenText}: {e}"

/-! ## The program -/

/-- Performs a task. -/
def perform (h : Host) : Switchboard.Task → IO Result
  | .finish r => return r
  | .serve config workers => serve h config workers
  | .ping server port p => ping h server port p

/-- Runs the program with the arguments of its command line. -/
def run (arguments : List String) : IO UInt32 := do
  let name ← hostName
  let user ← userDirectory
  let known ← snapshot (Program.paths (Host.offline name FileTree.empty user) arguments)
  let files ← snapshot (Program.paths (Host.offline name known user) arguments)
  let host := Host.offline name files user
  let (task, after) := Program.task host (fun _ => 0) arguments
  store files after
  let result ← perform { host with files := after } task
  IO.print result.output
  IO.eprint result.errors
  return result.code

end Switchboard.Executable

def main (arguments : List String) : IO UInt32 :=
  Executable.run arguments
