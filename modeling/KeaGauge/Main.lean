import KeaGauge.Carbon.Writer
import KeaGauge.CommandLine
import KeaGauge.Net.Http
import KeaGauge.Poll.Pass
import Std.Async.DNS
import Std.Async.Signal
import Std.Async.TCP
import Std.Async.Timer
import Std.Sync.Semaphore
/-!
# The command

Reads settings, connects to agents and to carbon, writes notices to standard
output, and exits as the plan of the command line says. Connections are not
encrypted, so a target that asks for encryption cannot be reached.
-/

namespace KeaGauge.Program

open Std.Async (Async)
open Std.Async.TCP.Socket (Client)
open Std.Net (SocketAddress IPAddr)

/-- The fault that the system reports for a file. -/
def readFault (e : IO.Error) : Settings.ReadFault :=
  match e with
  | .noFileOrDirectory _ _ _ => .notFound
  | .inappropriateType _ code _ => if code = 21 then .isDirectory else .notDirectory
  | .invalidArgument _ 36 _ => .tooLong
  | e => .other (toString e)

/-- Whether the way to a file is open. -/
def isReachable (path : String) : IO Bool := do
  try
    discard (IO.FS.realPath path)
    return true
  catch _ => return false

/-- Reads the file at a path. -/
def readFile (path : String) : IO (Except Settings.ReadFault (List UInt8)) := do
  try
    return .ok (← IO.FS.readBinFile path).toList
  catch e =>
    match readFault e with
    | .other cause => return .error (if ← isReachable path then .other cause else .barred cause)
    | fault => return .error fault

/-- Reads the files at paths. -/
def readFiles (paths : List String) : IO Settings.Files := do
  let contents ← paths.mapM fun path => do return (path, ← readFile path)
  return fun path => (contents.lookup path).getD (.error .notFound)

/-- The directory for configuration files. -/
def configDirectory : IO (Option String) := do
  match ← IO.getEnv "XDG_CONFIG_HOME" with
  | some path => if path.startsWith "/" then return some path else return (← home)
  | none => home
where
  /-- The directory in the user's own. -/
  home : IO (Option String) := do return (← IO.getEnv "HOME").map (· ++ "/.config")

/-- The socket address of an address and a port. -/
def socketAddress (port : UInt16) : IPAddr → SocketAddress
  | .v4 a => .v4 ⟨a, port⟩
  | .v6 a => .v6 ⟨a, port⟩

/-- Connects to a port of the first of some addresses where that is
possible. -/
def connectFirst (port : UInt16) : List IPAddr → Async Client
  | [] => throw (.userError "no address found")
  | a :: rest => do
    try
      let client ← Client.mk
      client.connect (socketAddress port a)
      return client
    catch e => if rest.isEmpty then throw e else connectFirst port rest

/-- Connects to a port of a host. -/
def connect (host : Net.Host) (port : UInt16) : Async Client := do
  connectFirst port (← Std.Async.DNS.getAddrInfo host.text (toString port)).toList

/-- Receives the body of an answer, or what comes of it until the connection
is closed. -/
partial def receiveBody (client : Client) (extent : Net.Http.Extent) (got : ByteArray) :
    Async ByteArray := do
  if extent.isWhole got then return got
  match ← client.recv? 65536 with
  | some more => receiveBody client extent (got ++ more)
  | none => return got

/-- Receives an answer. An interim answer is skipped. -/
partial def receive (client : Client) (got : ByteArray) : Async (Option Net.Http.Answer) := do
  match Net.Http.Head.ofBytes? got.toList with
  | some (head, rest) =>
    if head.isInterim then receive client ⟨rest.toArray⟩
    else return head.answer? (← receiveBody client head.extent ⟨rest.toArray⟩).toList
  | none =>
    match ← client.recv? 65536 with
    | some more => receive client (got ++ more)
    | none => return none

/-- What an action gives, or none when it takes more than so many seconds. -/
def within {α : Type} (seconds : UInt64) (action : Async α) : IO (Option α) := do
  let late : Async (Option α) := do
    Std.Async.sleep (.ofNat (1000 * seconds.toNat))
    return none
  (Async.race (some <$> action) late).block

/-- Posts a command to the agent of a target. -/
def ask (t : Settings.Target) (command : Kea.Command) : IO Reply := do
  match t.location? with
  | none => return none
  | some url =>
    if url.isEncrypted then return none
    let exchange : Async (Option Net.Http.Answer) := do
      let client ← connect url.host (UInt16.ofNat url.port)
      client.send (Net.Http.post url command.body).toUTF8
      receive client .empty
    try
      return (← within t.timeout exchange).join.map (·.text)
    catch _ => return none

/-- Writes a batch to carbon. -/
def deliver (w : Carbon.Writer) (batch : List Metric) : IO (Except SinkError Unit) := do
  let payload := w.payload batch
  if payload.isEmpty then return .ok ()
  let write : Async Unit := do
    let client ← connect (.ofText w.host) w.port
    client.send payload.toUTF8
    client.shutdown
  try
    match ← within w.timeout write with
    | some () => return .ok ()
    | none => return .error (.timedOut w.endpoint)
  catch e => return .error (.io (toString e))

/-- Asks commands in their order, while at most so many are unanswered. Waits
for the replies in the same order, up to the first failure. -/
partial def askEach (ask : Kea.Command → IO Reply) (q : Inquiry)
    (waiting : List (Task (Except IO.Error Reply))) : IO (List Reply) := do
  match q.commands with
  | command :: rest =>
    if waiting.length < max 1 q.limit then
      let task ← IO.asTask (ask command)
      return ← askEach ask { q with commands := rest } (waiting ++ [task])
  | [] => pure ()
  match waiting with
  | [] => return []
  | task :: rest =>
    let reply ← IO.ofExcept task.get
    if q.isFailure reply then return [reply]
    return reply :: (← askEach ask q rest)

/-- Reports a notice. -/
def report (notice : PassNotice) : IO Unit :=
  IO.println (notice.level.name ++ " " ++ notice.message)

/-- Holds a dialogue with an agent and a sink of the outside world. -/
def hold {α : Type} (ask : Kea.Command → IO Reply)
    (deliver : List Metric → IO (Except SinkError Unit)) : Dialogue α → IO α
  | .done result => return result
  | .ask command next => do hold ask deliver (next (← ask command))
  | .askEach inquiry next => do hold ask deliver (next (← askEach ask inquiry []))
  | .deliver batch next => do hold ask deliver (next (← deliver batch))
  | .note notice next => do
    report (.cycle notice)
    hold ask deliver next
  | .pass _ next => hold ask deliver next

/-- The cycle with one target. -/
def visit (s : Settings) (t : Settings.Target) : IO Outcome := do
  let writer := (Carbon.Writer.ofSettings s.carbon).forTarget t
  let outcome ← hold (ask t) (deliver writer) (Collector.ofTarget t s.collecting).cycle
  (PassNotice.ofOutcome t.label outcome).forM report
  return outcome

/-- Carries out an action while holding a permit. -/
def permitted {α : Type} (semaphore : Std.Semaphore) (action : IO α) : IO α := do
  discard (IO.wait (← semaphore.acquire).result?)
  try action finally semaphore.release

/-- A pass over the targets, as many of them at once as there are permits. -/
def pass (s : Settings) (permits : Permits) : IO (List Outcome) := do
  let semaphore ← Std.Semaphore.new permits.count
  let tasks ← s.targets.mapM fun t => IO.asTask (permitted semaphore (visit s t)) .dedicated
  tasks.mapM fun task => IO.ofExcept task.get

/-- Waits so many milliseconds, or until the task is cancelled. -/
partial def rest (duration : Nat) : IO Unit := do
  if ← IO.checkCanceled then return
  IO.sleep (min duration 100).toUInt32
  if 100 < duration then rest (duration - 100)

/-- Makes pass after pass, until the task is cancelled. -/
partial def poll (s : Settings) (permits : Permits) (ticker : Ticker) : IO Unit := do
  if ← IO.checkCanceled then return
  let started ← IO.monoMsNow
  (PassNotice.ofOutcomes (← pass s permits)).forM report
  let period := 1000 * ticker.seconds
  let elapsed := (← IO.monoMsNow) - started
  rest (period - elapsed % period)
  poll s permits ticker

/-- Makes a single pass. -/
def passOnce (s : Settings) : ExceptT Panic IO CommandLine.Finish := do
  let permits ← s.polling.permits
  return .ofOutcomes (← pass s permits)

/-- Makes pass after pass, until the command is interrupted. -/
def pollUntilInterrupted (s : Settings) : ExceptT Panic IO CommandLine.Finish := do
  (PassNotice.opening s.targets).forM fun notice => (report notice : IO Unit)
  let ticker ← s.polling.ticker
  let permits ← s.polling.permits
  let interrupt ← (← Std.Async.Signal.Waiter.mk .sigint false).wait
  let polling ← IO.asTask (poll s permits ticker) .dedicated
  discard (IO.waitAny [Task.map (fun _ => ()) interrupt, Task.map (fun _ => ()) polling])
  IO.cancel polling
  report .stopping
  return .success

/-- Carries out a plan. -/
def carryOut (plan : CommandLine.Plan) : IO CommandLine.Finish := do
  match plan with
  | .finish f => return f
  | .passes s once =>
    let launched := if once then passOnce s else pollUntilInterrupted s
    return .ofLaunch (← launched.run)

end KeaGauge.Program

/-- The command. -/
def main (args : List String) : IO UInt32 := do
  let environment ← IO.getEnv "KEASTAT_CONFIG"
  let default := (← KeaGauge.Program.configDirectory).map KeaGauge.Settings.defaultPath
  let paths := (KeaGauge.CommandLine.configPath? args).toList ++ environment.toList ++ default.toList
  let files ← KeaGauge.Program.readFiles paths
  let finish ← KeaGauge.Program.carryOut (KeaGauge.CommandLine.plan files environment default args)
  IO.print finish.output
  IO.eprint finish.errorText
  return finish.code.toUInt32
