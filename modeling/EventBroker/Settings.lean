import EventBroker.Config
import EventBroker.Text.Utf8
import EventBroker.Toml

/-!
The settings file of the program, with a table for the server and one for the client.
-/
namespace EventBroker

structure Settings where
  server : ServerConfig := {}
  client : ClientConfig := {}

inductive SettingsFault
  | unreadable
  | malformed
  deriving Repr, DecidableEq

def SettingsFault.message (f : SettingsFault) (path : String) : String :=
  match f with
  | .unreadable => "Failed to read " ++ path
  | .malformed => "Failed to parse " ++ path

inductive FileContent
  | absent
  | unreadable
  | content (bytes : Bytes)
  deriving Repr, DecidableEq

namespace Settings

/-- Lists in a settings file may have more items than their record has fields. -/
def set (s : Settings) (key : String) (v : Value) : Except Value.Fault Settings :=
  match key with
  | "server" => (ServerConfig.ofValue .ignored v).map ({ s with server := · })
  | "client" => (ClientConfig.ofValue .ignored v).map ({ s with client := · })
  | _ => .ok s

def ofValue (v : Value) : Except Value.Fault Settings :=
  v.toRecord .ignored "Settings" ["server", "client"] set {}

def ofText (text : String) : Except SettingsFault Settings :=
  match Toml.parse text with
  | none => .error .malformed
  | some v =>
    match ofValue v with
    | .error _ => .error .malformed
    | .ok settings => .ok settings

/-- Loads a file. One that is named has to exist; the file at the default place need not. -/
def load (named : Bool) : FileContent → Except SettingsFault Settings
  | .absent => if named then .error .unreadable else .ok {}
  | .unreadable => .error .unreadable
  | .content bytes =>
    match Utf8.decode? bytes with
    | none => .error .unreadable
    | some text => ofText text

end Settings

end EventBroker
