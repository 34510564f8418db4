import Std.Async.DNS
import Std.Async.Select
import Std.Async.Signal
import Std.Async.TCP
import VectorSearch.Api.Wire
import VectorSearch.Command.Run
import VectorSearch.Http.Script

/-! The program: reads and writes files, streams and sockets for the commands.

Commands run against a script of responses. When one asks for a response that is not in the
script, the request is sent, and the command runs again with the script that is longer by
what came back.
-/

namespace VectorSearch.Program

open Std.Async Std.Net

partial def receiveAll (socket : TCP.Socket.Client) (received : ByteArray) : IO ByteArray := do
  match ← (socket.recv? 65536).block with
  | some octets => receiveAll socket (received ++ octets)
  | none => return received

/-- What arrives on a connection until it is a whole message. -/
partial def receiveFrame (socket : TCP.Socket.Client) (received : ByteArray) :
    IO (Option Http.Frame) := do
  match Http.Frame.ofOctets? received.toList with
  | some frame => if frame.isWhole then return some frame
  | none => pure ()
  match ← (socket.recv? 65536).block with
  | some octets => receiveFrame socket (received ++ octets)
  | none => return Http.Frame.ofOctets? received.toList

def sendFrame (socket : TCP.Socket.Client) (frame : Http.Frame) : IO Unit := do
  (socket.send ⟨frame.octets.toArray⟩).block

def withPort (port : Nat) : IPAddr → SocketAddress
  | .v4 address => .v4 ⟨address, port.toUInt16⟩
  | .v6 address => .v6 ⟨address, port.toUInt16⟩

/-- Sends a request to the first address that its host has. -/
def ask (request : Http.Request) : IO (Option Http.Response) := do
  let (host, port) := Http.authority request.url
  let addresses ← (DNS.getAddrInfo host (toString port)).block
  match addresses[0]? with
  | none => return none
  | some address => do
      let socket ← TCP.Socket.Client.mk
      (socket.connect (withPort port address)).block
      sendFrame socket request.frame
      let received ← receiveAll socket .empty
      return (Http.Frame.ofOctets? received.toList).bind Http.Response.ofFrame?

/-- The response to a request, if there is a way to one. -/
def exchange (request : Http.Request) : IO (Option Http.Response) := do
  if request.url.scheme = "http".toList then
    try ask request catch _ => return none
  else return none

abbrev World := VectorSearch.World (Deployment Http.Script)

def World.withScript (world : World) (script : Http.Script) : World :=
  { world with state := { world.state with network := script } }

/-- Runs a computation with the answers so far, and again with one more if it asked for it. -/
partial def converse (act : StateM World α) (world : World) (answers : List (Option Http.Response)) :
    IO (α × World) := do
  let (result, after) := act.run (world.withScript (.ofAnswers answers))
  match after.state.network.unanswered with
  | none => return (result, after)
  | some request => converse act world (answers ++ [← exchange request])

/-- A failure in the words of the operating system, whose number for it may come negated. -/
def osText (code : UInt32) : String :=
  let number := min code.toNat (UInt32.size - code.toNat)
  let words := match number with
    | 2 => "No such file or directory"
    | 13 => "Permission denied"
    | 20 => "Not a directory"
    | 21 => "Is a directory"
    | 36 => "File name too long"
    | _ => "Input/output error"
  words ++ " (os error " ++ toString number ++ ")"

def failureText : IO.Error → String
  | .noFileOrDirectory _ code _ => osText code
  | .permissionDenied _ code _ => osText code
  | .inappropriateType _ code _ => osText code
  | .invalidArgument _ code _ => osText code
  | error => toString error

def readText (path : String) : IO (Except String String) := do
  try
    let octets ← IO.FS.readBinFile path
    match Text.decode? octets.toList with
    | some text => return .ok (String.ofList text)
    | none => return .error "stream did not contain valid UTF-8"
  catch error => return .error (failureText error)

/-- The variables that a text refers to, as far as they are set. -/
partial def variablesFor (text : String) (found : List (String × String)) :
    IO (List (String × String)) := do
  match Settings.expand (found.lookup ·) text with
  | .ok _ => return found
  | .error name =>
      match ← IO.getEnv name with
      | some value => variablesFor text ((name, value) :: found)
      | none => return found

/-- The files that an invocation names. -/
def paths (invocation : Invocation) : List String :=
  invocation.settings.toList ++
    match invocation.command with
    | .add file => [file]
    | _ => []

/-- What the computer holds that an invocation may look at. -/
def computerFor (invocation : Invocation) : IO Computer := do
  let files ← (paths invocation).mapM fun path => do return (path, ← readText path)
  let environment ← match invocation.settings.bind (files.lookup ·) with
    | some (.ok text) => variablesFor text []
    | _ => pure []
  return {
    lookup := (environment.lookup ·)
    readText := fun path => (files.lookup path).getD (.error "No such file or directory (os error 2)") }

def socketAddress (settings : ServerSettings) : SocketAddress :=
  match settings.host with
  | .v4 octets =>
      .v4 ⟨⟨Vector.ofFn fun i => ((octets[i.val]?).getD 0).toUInt8⟩, settings.port.toUInt16⟩
  | .v6 groups =>
      .v6 ⟨⟨Vector.ofFn fun i => ((groups[i.val]?).getD 0).toUInt16⟩, settings.port.toUInt16⟩

/-- Answers the one request that a connection carries. -/
def answer (service : Api.Service (Deployment Http.Script)) (socket : TCP.Socket.Client)
    (world : World) : IO World := do
  match (← receiveFrame socket .empty).bind Api.Request.ofFrame? with
  | none => return world
  | some request => do
      let (response, world) ← converse (service.respond request) world []
      sendFrame socket response.frame
      socket.shutdown.block
      return world

/-- Answers one connection after the other until the program is told to end. -/
partial def serve (service : Api.Service (Deployment Http.Script)) (server : TCP.Socket.Server)
    (endings : List Signal.Waiter) (world : World) : IO Unit := do
  let arrival : Selectable (Option TCP.Socket.Client) :=
    .case server.acceptSelector fun socket => return some socket
  let ends := endings.map fun waiter =>
    (Selectable.case waiter.selector fun _ => return none : Selectable (Option TCP.Socket.Client))
  match ← (Selectable.one (arrival :: ends).toArray).block with
  | none => return
  | some socket => do
      let world ← try answer service socket world catch _ => pure world
      serve service server endings world

/-- Listens at an address; the exit code tells whether that was possible. -/
def listen (settings : ServerSettings) (service : Api.Service (Deployment Http.Script))
    (world : World) : IO UInt32 := do
  let server ← TCP.Socket.Server.mk
  let bound ← try
      server.bind (socketAddress settings)
      server.listen 128
      pure true
    catch _ => pure false
  if bound then
    let endings ← [Signal.sigint, Signal.sigterm].mapM (Signal.Waiter.mk · false)
    serve service server endings world
    return 0
  else return 1

/-- A place to start drawing that differs from run to run. -/
def freshSeed : IO UInt64 := do
  let octets ← IO.getRandomBytes 8
  return octets.foldl (fun seed octet => seed * 256 + octet.toUInt64) 0

def runInvocation (invocation : Invocation) : IO UInt32 := do
  let computer ← computerFor invocation
  let start : World := .start (.start (.ofAnswers [])) ⟨(← freshSeed).toNat⟩
  let (outcome, world) ← converse (invocation.run computer Http.Script.network) start []
  match outcome with
  | .done lines => lines.forM IO.println
  | .failed complaints => complaints.forM IO.eprintln
  | .listen settings service => return ← listen settings service world
  return outcome.exitCode.toUInt32

end VectorSearch.Program

open VectorSearch in
def main (words : List String) : IO UInt32 := do
  match Invocation.ofWords words with
  | .ok invocation => Program.runInvocation invocation
  | .error ending => do
      match ending with
      | .version => IO.println versionLine
      | .help command => (Command.helpLines command).forM IO.println
      | .usage => IO.eprintln Command.grammar.usage
      return ending.exitCode.toUInt32
