import EventBroker.Client.Loops
import EventBroker.CommandLine
import EventBroker.Server.Endpoint
import EventBroker.Settings

/-!
Whole runs of the program: what it prints, how it ends, and what it reports when it
fails. A run starts from settings that have been read; one that listens is given the
peer that it will find, and one that serves is told which addresses can be bound.
-/
namespace EventBroker

open Http

inductive Failure
  | settings (cause : SettingsFault)
  | serverConfig (cause : ConfigFault)
  | clientConfig (cause : ConfigFault)
  | route (cause : RouteFault)
  | start
  | stream (name : String) (cause : ClientFault)
  deriving Repr, DecidableEq

namespace Failure

/-- Whether the program breaks off without a report, as it does on values that nothing checks
beforehand. -/
def isAbrupt : Failure → Bool
  | .route _ => true
  | .stream _ (.delay _) => true
  | _ => false

def report? (f : Failure) (configPath : String) : Option String :=
  if f.isAbrupt then none
  else
    match f with
    | .settings cause => some ("Error: " ++ cause.message configPath)
    | .serverConfig _ => some "Error: Invalid server configuration"
    | .clientConfig _ => some "Error: Invalid client configuration"
    | .route _ => none
    | .start => some "Error: Failed to start server"
    | .stream name _ => some ("Error: Stream " ++ name ++ " failed")

/-- The text of what lies behind the failure, where it is one of the broker's own faults. -/
def cause? (f : Failure) : Option String :=
  if f.isAbrupt then none
  else
    match f with
    | .settings _ => none
    | .serverConfig cause => some ("invalid configuration: " ++ cause.message)
    | .clientConfig cause => some ("invalid configuration: " ++ cause.message)
    | .route _ => none
    | .start => some "io error"
    | .stream _ cause => some cause.message

def exitCode (f : Failure) : Nat := if f.isAbrupt then 101 else 1

end Failure

/-- How a run of the program comes out. One that is `serving` goes on until it is stopped. -/
structure Run where
  printed : List String := []
  failure : Option Failure := none
  client : Option Client := none
  serving : Bool := false

def Run.exitCode? (r : Run) : Option Nat :=
  if r.serving then none else some ((r.failure.map (·.exitCode)).getD 0)

namespace Program

/-- The exit code of a command line that cannot be read; asking for help is no failure. -/
def usageExitCode : UsageFault → Nat
  | .help => 0
  | .version => 0
  | _ => 2

def outcomeFailure (stream : String) : Outcome → Option Failure
  | .failed cause => some (.stream stream cause)
  | _ => none

def client (o : ListenOptions) (config : ClientConfig) : Except Failure Client :=
  match Client.new (o.apply config) with
  | .error cause => .error (.clientConfig cause)
  | .ok client =>
    let client := { client with hooked := false }
    match o.lastEventId with
    | none => .ok client
    | some id => .ok (client.setLastEventId (Bytes.ofString id))

def listen (o : ListenOptions) (config : ClientConfig) (peer : Peer) (draw : Nat → Float) : Run :=
  match client o config with
  | .error failure => { failure := some failure }
  | .ok client =>
    let client := { client with peer }
    if o.reconnect then
      let r := client.subscribeWithReconnect o.stream draw
      { printed := r.events.map (·.line), failure := outcomeFailure o.stream r.outcome
        client := some r.client }
    else
      let (client, events, outcome) := client.subscribe o.stream
      { printed := events.map (·.line), failure := outcomeFailure o.stream outcome
        client := some client }

def serve (o : ServeOptions) (config : ServerConfig) (canBind : String → Bool) :
    Except Failure (Server × Routes) :=
  let config := o.apply config
  match Server.new config with
  | .error cause => .error (.serverConfig cause)
  | .ok server =>
    let server := { server with hooked := false }
    let server := o.streams.foldl (fun s name => (s.createStream name).1) server
    match Routes.ofConfig config true with
    | .error cause => .error (.route cause)
    | .ok routes =>
      match server.start (canBind config.address) with
      | (_, .error _) => .error .start
      | (server, .ok _) => .ok (server, routes)

/-- A whole run, given what is at the place of the settings file, the peer that a client will find,
and which addresses can be bound. -/
def run (line : CommandLine) (file : FileContent) (peer : Peer) (draw : Nat → Float)
    (canBind : String → Bool) : Run :=
  match Settings.load line.configFile.isSome file with
  | .error cause => { failure := some (.settings cause) }
  | .ok settings =>
    match line.command with
    | .listen o => listen o settings.client peer draw
    | .serve o =>
      match serve o settings.server canBind with
      | .error failure => { failure := some failure }
      | .ok _ => { serving := true }

end Program

end EventBroker
