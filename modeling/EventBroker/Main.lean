import EventBroker.Http.Wire
import EventBroker.Net.Address
import EventBroker.Program
import Std.Async

/-!
The program as it runs. It reads its command line and its settings file, and then keeps
a broker at its address until it is interrupted, or follows a stream and prints its
events. Sockets, the clock and chance are handled here and nowhere else.
-/
namespace EventBroker.Main

open Std.Async Http

abbrev Socket := TCP.Socket.Client

def usage : String :=
  "\n".intercalate
    ["Usage: event-broker [--config <file>] <command>",
      "  serve [--address <address>] [--path <path>] [--auto-stream] [--no-replay]",
      "        [--event-ttl-ms <n>] [--base64] [--stream <name>]...",
      "  listen <stream> [--url <url>] [--last-event-id <id>] [--reconnect] [--base64]"]

def defaultPlace : IO (Option String) := do
  let home := (← IO.getEnv "HOME").map (· ++ "/.config")
  return ((← IO.getEnv "XDG_CONFIG_HOME").or home).map (· ++ "/event-broker/config.toml")

def readSettings : Option String → IO FileContent
  | none => return .absent
  | some path => do
    match ← (IO.FS.readBinFile path).toBaseIO with
    | .ok bytes => return .content bytes.data.toList
    | .error (.noFileOrDirectory ..) => return .absent
    | .error _ => return .unreadable

def addresses (host : String) (port : Nat) : Async (List Std.Net.SocketAddress) := do
  let found ← DNS.getAddrInfo host (toString port)
  return found.toList.map fun
    | .v4 addr => .v4 ⟨addr, port.toUInt16⟩
    | .v6 addr => .v6 ⟨addr, port.toUInt16⟩

def firstOf {α β : Type} (attempt : α → Async β) : List α → Async β
  | [] => throw (IO.userError "no address")
  | [a] => attempt a
  | a :: rest => do
    try attempt a
    catch _ => firstOf attempt rest

def withoutBrackets (host : String) : String :=
  String.ofList (host.toList.filter fun c => c != '[' && c != ']')

def send (socket : Socket) (s : Bytes) : Async Unit := socket.send ⟨s.toArray⟩

def receive? (socket : Socket) : Async (Option Bytes) := do
  return (← socket.recv? 65536).map (·.data.toList)

/-- Reads up to the blank line after a head. -/
partial def readHead (socket : Socket) (got : Bytes) : Async (Option (List Bytes × Bytes)) := do
  match Wire.splitHead? got with
  | some head => return some head
  | none =>
    match ← receive? socket with
    | none => return none
    | some more => readHead socket (got ++ more)

/-- Connects to the host of a URL. Only plain connections can be made. -/
def connect (url : Url) : Async Socket := do
  unless url.scheme == "http" do throw (IO.userError "unsupported scheme")
  let port := url.port.getD 80
  firstOf (fun address => do
    let socket ← TCP.Socket.Client.mk
    socket.connect address
    return socket) (← addresses (withoutBrackets (url.host.getD "")) port)

def printLine (line : String) : IO Unit := do
  IO.println line
  (← IO.getStdout).flush

/-- Reads the body of a response and prints its events as they come. -/
partial def readBody (socket : Socket) (place : Wire.Place) (d : Frame.Decoder) (c : Client)
    (got : Bytes) : Async (Client × Outcome) := do
  let (place, body) := place.feed got
  match d.decode body with
  | (_, .error fault) => return (c, .failed (.protocol fault))
  | (d, .ok events) =>
    let (c, delivered) := events.foldl Client.handle (c, [])
    for e in delivered.reverse do printLine e.line
    if place == .done then return (c, .ended)
    let more ← try pure (Except.ok (← receive? socket))
      catch _ => pure (.error ())
    match more with
    | .ok (some more) => readBody socket place d c more
    | .ok none => return (c, if place.isEnd then .ended else .failed .transport)
    | .error _ => return (c, .failed .transport)

def exchange (c : Client) (topic : String) : Async (Client × Outcome) := do
  let socket ← connect c.url
  let host := c.url.host.getD "" ++ Url.writePort c.url.port
  send socket ((c.request (some topic)).write host)
  match ← readHead socket [] with
  | none => return (c, .failed .transport)
  | some (lines, rest) =>
    match Reply.readHead? lines with
    | none => return (c, .failed .transport)
    | some (status, headers) =>
      let response : Response := { status }
      if !response.isSuccess then return (c, .failed (.status status))
      let place : Wire.Place :=
        if response.isBodiless then .done else .ofFraming (.ofHeaders headers)
      readBody socket place c.decoder c rest

def subscribe (c : Client) (topic : String) : Async (Client × Outcome) := do
  try exchange c topic
  catch _ => return (c, .failed .transport)

def sleepMillis (n : Nat) : Async Unit := Std.Async.sleep ⟨(n : Int)⟩

/-- Follows a stream, again and again if it is asked to. -/
partial def follow (c : Client) (o : ListenOptions) (attempt : Nat) : Async Outcome := do
  let before := c.lastEventId
  let (c, outcome) ← subscribe c o.stream
  if !o.reconnect then return outcome
  let draw := 0.75 + (Float.ofNat (← (IO.rand 0 1000000 : IO Nat))) / 2000000
  match c.nextAttempt before attempt draw with
  | (_, none) => return outcome
  | (_, some (.error cause)) => return .failed (.delay cause)
  | (attempt, some (.ok delay)) => do
    sleepMillis delay.ceilMillis
    follow c o attempt

def untilInterrupted {α : Type} (task : AsyncTask α) : IO (Option α) := do
  let signal ← (← Signal.Waiter.mk .sigint false).wait
  let ended : Task (Except IO.Error (Option α)) := Task.map (·.map some) task
  let interrupted : Task (Except IO.Error (Option α)) := Task.map (·.map fun _ => none) signal
  IO.ofExcept (← IO.waitAny [ended, interrupted])

/-- A broker at work; its clock counts from `startedAt`. -/
structure Host where
  broker : IO.Ref Server
  routes : Routes
  startedAt : Nat

namespace Host

def change {α : Type} (h : Host) (f : Server → Server × α) : Async α := do
  let now ← IO.monoNanosNow
  h.broker.modifyGet fun s =>
    let (s, a) := f { s with now := now - h.startedAt }
    (a, s)

/-- Writes what a connection has to say until it ends or its peer goes. -/
partial def writeFrames (h : Host) (socket : Socket) (number : Nat) (gone : AsyncTask Unit) :
    Async Unit := do
  match ← h.change (·.poll number) with
  | .frame bytes =>
    send socket (Wire.writePiece bytes)
    writeFrames h socket number gone
  | .pending =>
    if ← IO.hasFinished gone then h.change fun s => (s.disconnect number, ())
    else
      sleepMillis 5
      writeFrames h socket number gone
  | .ended => send socket Wire.lastPiece

/-- Reads what a peer sends until it goes. -/
partial def untilGone (socket : Socket) : Async Unit := do
  let more ← try receive? socket
    catch _ => pure none
  unless more.isNone do untilGone socket

/-- Reads the body of a request; one that is too large is not read to its end. -/
partial def readBody (socket : Socket) (place : Wire.Place) (body got : Bytes) : Async Bytes := do
  let (place, more) := place.feed got
  let body := body ++ more
  if place == .done || maxBodySize < body.length then return body
  match ← receive? socket with
  | none => return body
  | some got => readBody socket place body got

def answer (h : Host) (socket : Socket) : Async Unit := do
  let some (lines, rest) ← readHead socket [] | return
  let some request := Request.readHead? lines | send socket (Reply.empty 400).write
  let place : Wire.Place := match Wire.Framing.ofHeaders request.headers with
    | .untilClosed => .done
    | framing => .ofFraming framing
  let request := { request with body := ← readBody socket place [] rest }
  match ← h.change (·.handle h.routes request) with
  | .broken _ => return
  | .whole reply =>
    let headers := reply.headers.set "connection" (Bytes.ofString "close")
    send socket { reply with headers }.write
  | .opened reply number =>
    try
      send socket reply.writeOpen
      writeFrames h socket number (← async (untilGone socket))
    catch _ => h.change fun s => (s.disconnect number, ())

def serveSocket (h : Host) (socket : Socket) : Async Unit := do
  try
    h.answer socket
    socket.shutdown
  catch _ => pure ()

partial def acceptAll (h : Host) (listener : TCP.Socket.Server) : Async Unit := do
  let socket ← listener.accept
  background (h.serveSocket socket)
  acceptAll h listener

def drain (h : Host) : Nat → Async Unit
  | 0 => return
  | tries + 1 => do
    if (← h.broker.get).connections.isEmpty then return
    sleepMillis 5
    drain h tries

end Host

def bind (address : String) : Async TCP.Socket.Server := do
  let (host, port) := Net.splitPort address
  let some port := (String.ofList port).toNat? | throw (IO.userError "no port")
  unless port < Net.portLimit do throw (IO.userError "no port")
  firstOf (fun address => do
    let listener ← TCP.Socket.Server.mk
    listener.bind address
    listener.listen 1024
    return listener) (← addresses (withoutBrackets (String.ofList host)) port)

def serve (o : ServeOptions) (config : ServerConfig) : IO (Option Failure) := do
  match Program.serve o config fun _ => true with
  | .error failure => return some failure
  | .ok (server, routes) =>
    match ← (Async.block (bind server.config.address)).toBaseIO with
    | .error _ => return some .start
    | .ok listener =>
      let host : Host := { broker := ← IO.mkRef server, routes, startedAt := ← IO.monoNanosNow }
      discard <| untilInterrupted (← (host.acceptAll listener).asTask)
      Async.block do
        host.change fun s => (s.stop, ())
        host.drain (server.config.shutdownTimeout.toMillis / 5)
      return none

def listen (o : ListenOptions) (config : ClientConfig) : IO (Option Failure) := do
  match Program.client o config with
  | .error failure => return some failure
  | .ok client =>
    match ← untilInterrupted (← (follow client o 0).asTask) with
    | none => return none
    | some outcome => return Program.outcomeFailure o.stream outcome

def report (place : String) : Option Failure → IO UInt32
  | none => return 0
  | some failure => do
    if let some text := failure.report? place then IO.eprintln text
    if let some cause := failure.cause? then IO.eprintln s!"\nCaused by:\n    {cause}"
    return UInt32.ofNat failure.exitCode

def run (args : List String) : IO UInt32 := do
  match CommandLine.read args with
  | .error fault =>
    let code := Program.usageExitCode fault
    if code == 0 then IO.println usage else IO.eprintln usage
    return UInt32.ofNat code
  | .ok line =>
    let place := line.configFile.or (← defaultPlace)
    let shown := place.getD ""
    match Settings.load line.configFile.isSome (← readSettings place) with
    | .error cause => report shown (some (.settings cause))
    | .ok settings =>
      match line.command with
      | .serve o => report shown (← serve o settings.server)
      | .listen o => report shown (← listen o settings.client)

end EventBroker.Main

def main (args : List String) : IO UInt32 := EventBroker.Main.run args
