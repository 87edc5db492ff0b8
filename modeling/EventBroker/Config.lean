import EventBroker.Backoff
import EventBroker.Http.Header
import EventBroker.Text.Blank
import EventBroker.Text.Decimal
import EventBroker.Value

/-!
The settings of a server and of a client, their defaults, how they are read from
structured values, and the rules that they have to keep. Where several rules are
broken the first one in the order of `check` is reported.
-/
namespace EventBroker

inductive ConfigFault
  | emptyAddress
  | relativePath (path : String)
  | noQueue
  | noKeepAlive
  | headerName (name : String)
  | headerValue (name : String)
  | noBuffer
  | backoff (cause : Backoff.Fault)
  | url (text cause : String)
  deriving Repr, DecidableEq

def ConfigFault.message : ConfigFault → String
  | .emptyAddress => "address must not be empty"
  | .relativePath path => "path must start with '/': " ++ path
  | .noQueue => "queue_capacity must be > 0"
  | .noKeepAlive => "keepalive_interval must be > 0"
  | .headerName name => "invalid header name: " ++ name
  | .headerValue name => "invalid value for header " ++ name
  | .noBuffer => "max_buffer_size must be > 0"
  | .backoff cause => cause.message
  | .url text cause => "invalid url " ++ text ++ ": " ++ cause

def checkHeaders (headers : List (String × String)) : Except ConfigFault Unit :=
  headers.forM fun (name, value) =>
    if !Http.isName (Bytes.ofString name) then .error (.headerName name)
    else if !Http.isValue (Bytes.ofString value) then .error (.headerValue name)
    else .ok ()

def halfWordLimit : Nat := 4294967296

def readMillis (v : Value) : Except Value.Fault Duration :=
  (v.toNatural .word64 Decimal.wordLimit).map .ofMillis

def readSize (v : Value) : Except Value.Fault Nat := v.toNatural .size Decimal.wordLimit

structure ServerConfig where
  address : String := "127.0.0.1:8800"
  path : String := "/events"
  autoStream : Bool := false
  autoReplay : Bool := true
  eventTtl : Option Duration := none
  replayCapacity : Option Nat := none
  queueCapacity : Nat := 1024
  keepAliveInterval : Duration := .ofMillis 15000
  shutdownTimeout : Duration := .ofMillis 5000
  base64 : Bool := false
  /-- In the order of their names, which are told apart by case here. -/
  headers : List (String × String) := []
  deriving Repr, DecidableEq

namespace ServerConfig

def check (c : ServerConfig) : Except ConfigFault Unit :=
  if Text.isAllBlank c.address then .error .emptyAddress
  else if c.path.toList.head? ≠ some '/' then .error (.relativePath c.path)
  else if c.queueCapacity = 0 then .error .noQueue
  else if c.keepAliveInterval.isZero then .error .noKeepAlive
  else checkHeaders c.headers

/-- Sets the field of a key; unknown keys have no effect. -/
def set (c : ServerConfig) (key : String) (v : Value) : Except Value.Fault ServerConfig :=
  match key with
  | "address" => v.toText.map ({ c with address := · })
  | "path" => v.toText.map ({ c with path := · })
  | "auto_stream" => v.toBool.map ({ c with autoStream := · })
  | "auto_replay" => v.toBool.map ({ c with autoReplay := · })
  | "event_ttl_ms" => (v.toOptional readMillis).map ({ c with eventTtl := · })
  | "replay_capacity" =>
    (v.toOptional readSize).map ({ c with replayCapacity := · })
  | "queue_capacity" => (readSize v).map ({ c with queueCapacity := · })
  | "keepalive_interval_ms" => (readMillis v).map ({ c with keepAliveInterval := · })
  | "shutdown_timeout_ms" => (readMillis v).map ({ c with shutdownTimeout := · })
  | "encode_base64" => v.toBool.map ({ c with base64 := · })
  | "headers" => v.toTexts.map ({ c with headers := · })
  | _ => .ok c

def fieldOrder : List String :=
  ["address", "path", "auto_stream", "auto_replay", "event_ttl_ms", "replay_capacity",
    "queue_capacity", "keepalive_interval_ms", "shutdown_timeout_ms", "encode_base64", "headers"]

def ofValue (surplus : Value.Surplus) (v : Value) : Except Value.Fault ServerConfig :=
  v.toRecord surplus "ServerConfig" fieldOrder set {}

end ServerConfig

namespace Backoff

def set (p : Backoff) (key : String) (v : Value) : Except Value.Fault Backoff :=
  match key with
  | "max_attempts" => (v.toNatural .word32 halfWordLimit).map ({ p with maxAttempts := · })
  | "initial_delay_ms" => (readMillis v).map ({ p with initialDelay := · })
  | "max_delay_ms" => (readMillis v).map ({ p with maxDelay := · })
  | "multiplier" => v.toDouble.map ({ p with multiplier := · })
  | "jitter" => v.toBool.map ({ p with jitter := · })
  | _ => .ok p

def fieldOrder : List String :=
  ["max_attempts", "initial_delay_ms", "max_delay_ms", "multiplier", "jitter"]

def ofValue (surplus : Value.Surplus) (v : Value) : Except Value.Fault Backoff :=
  v.toRecord surplus "RetryConfig" fieldOrder set {}

end Backoff

structure ClientConfig where
  url : String := "http://127.0.0.1:8800/events"
  headers : List (String × String) := []
  base64 : Bool := false
  maxBufferSize : Nat := 1048576
  backoff : Backoff := {}
  deriving Repr, DecidableEq

namespace ClientConfig

def check (c : ClientConfig) : Except ConfigFault Unit :=
  if c.maxBufferSize = 0 then .error .noBuffer
  else
    match c.backoff.check with
    | .error cause => .error (.backoff cause)
    | .ok _ => checkHeaders c.headers

def set (surplus : Value.Surplus) (c : ClientConfig) (key : String) (v : Value) :
    Except Value.Fault ClientConfig :=
  match key with
  | "url" => v.toText.map ({ c with url := · })
  | "headers" => v.toTexts.map ({ c with headers := · })
  | "encode_base64" => v.toBool.map ({ c with base64 := · })
  | "max_buffer_size" => (readSize v).map ({ c with maxBufferSize := · })
  | "retry" => (Backoff.ofValue surplus v).map ({ c with backoff := · })
  | _ => .ok c

def fieldOrder : List String := ["url", "headers", "encode_base64", "max_buffer_size", "retry"]

def ofValue (surplus : Value.Surplus) (v : Value) : Except Value.Fault ClientConfig :=
  v.toRecord surplus "ClientConfig" fieldOrder (set surplus) {}

end ClientConfig

end EventBroker
