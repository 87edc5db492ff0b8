import EventBroker.Http.Form
import EventBroker.Http.Message
import EventBroker.Http.Route
import EventBroker.Server

/-!
The broker's routes: the stream endpoint on the configured path, and beside it, where
it is offered, an endpoint that publishes the body of a request.
-/
namespace EventBroker

open Http

inductive Endpoint
  | stream
  | publish
  deriving Repr, DecidableEq

structure Routes where
  stream : Pattern
  streamPath : String
  publishing : Bool
  deriving Repr, DecidableEq

def publishPath : String := "/publish"

def maxBodySize : Nat := 2097152

namespace Routes

def ofConfig (c : ServerConfig) (publishing : Bool) : Except RouteFault Routes :=
  (Pattern.read c.path).map fun stream => { stream, streamPath := c.path, publishing }

/-- The endpoints behind a path. The fixed path of the publish endpoint goes before any
pattern that would match it too, and with a slash behind it it leads nowhere. -/
def endpoints (r : Routes) (path : String) : List Endpoint :=
  if r.publishing && path == publishPath then
    if r.streamPath == publishPath then [.stream, .publish] else [.publish]
  else if r.publishing && path == publishPath ++ "/" && r.stream.capturesIn publishPath then []
  else if r.stream.matchesPath path then [.stream]
  else []

end Routes

def Endpoint.methods : Endpoint → List String
  | .stream => ["GET", "HEAD"]
  | .publish => ["POST"]

def badQuery (fault : Form.Fault) : Reply :=
  .plain 400 ("Failed to deserialize query string: " ++ fault.message)

/-- The headers of a stream, the configured ones in place of any under the same name. -/
def ServerConfig.streamHeaders (c : ServerConfig) : Headers :=
  let fixed : Headers :=
    [⟨"content-type", Bytes.ofString "text/event-stream"⟩,
      ⟨"cache-control", Bytes.ofString "no-cache"⟩,
      ⟨"connection", Bytes.ofString "keep-alive"⟩, ⟨"x-accel-buffering", Bytes.ofString "no"⟩]
  c.headers.foldl (fun hs (name, value) => hs.set name.toLower (Bytes.ofString value)) fixed

/-- What a request leads to: a whole reply, one that the connection of a number goes on with,
or none, where no queue can be made for the connection. -/
inductive Served
  | whole (reply : Reply)
  | opened (reply : Reply) (number : Nat)
  | broken (cause : SubscribeFault)
  deriving Repr, DecidableEq

namespace Server

def serveStream (s : Server) (r : Request) : Server × Served :=
  match Form.readFields ["stream"] r.query with
  | .error fault => (s, .whole (badQuery fault))
  | .ok fields =>
    let name := (fields.lookup "stream").getD ""
    if name.isEmpty then (s, .whole (.plain 400 "missing stream parameter"))
    else
      match s.attach name ((r.headers.get? "last-event-id").getD []) with
      | (s, .ok number) => (s, .opened { status := 200, headers := s.config.streamHeaders } number)
      | (s, .error .streamNotFound) => (s, .whole (.plain 404 "stream not found"))
      | (s, .error cause) => (s, .broken cause)

def servePublish (s : Server) (r : Request) : Server × Reply :=
  match Form.readFields ["stream", "id", "event"] r.query with
  | .error fault => (s, badQuery fault)
  | .ok fields =>
    match fields.lookup "stream" with
    | none => (s, badQuery (.missing "stream"))
    | some name =>
      if maxBodySize < r.body.length then
        (s, .plain 413 "Failed to buffer the request body: length limit exceeded")
      else
        let text (field : String) : Bytes := Bytes.ofString ((fields.lookup field).getD "")
        match s.publish name { data := r.body, id := text "id", name := text "event" } with
        | (s, true) => (s, .empty 202)
        | (s, false) => (s, .empty 404)

/-- Answers a request. The reply to a `HEAD` request has no body, and a connection made for
it is dropped at once. -/
def handle (s : Server) (routes : Routes) (r : Request) : Server × Served :=
  let endpoints := routes.endpoints r.path
  match endpoints.find? (·.methods.contains r.method) with
  | some .publish =>
    let (s, reply) := s.servePublish r
    (s, .whole reply)
  | some .stream =>
    match r.method == "HEAD", s.serveStream r with
    | true, (s, .whole reply) => (s, .whole reply.withoutBody)
    | true, (s, .opened reply number) => (s.disconnect number, .whole reply)
    | _, result => result
  | none =>
    if endpoints.isEmpty then (s, .whole (.empty 404))
    else (s, .whole (.notAllowed (",".intercalate (endpoints.flatMap (·.methods)))))

end Server

end EventBroker
