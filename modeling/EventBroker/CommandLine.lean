import EventBroker.Settings
import EventBroker.Text.Decimal

/-!
The command line: its grammar, and the two commands with their options. Words are
read from left to right. An option that takes its value from the next word is settled
only when another option or word comes, so a fault in a later word can be found
before one in its value.
-/
namespace EventBroker

/-- Why the words of a command line make no command; asking for help counts among it. -/
inductive UsageFault
  | help
  | version
  | nothingGiven
  | missingCommand
  | unknownCommand
  | unknownArgument
  | missingValue
  | unwantedValue
  | malformedValue
  | repeated
  | missingArgument
  deriving Repr, DecidableEq

inductive OptionKind
  | help
  | version
  | flag
  | path
  | text
  | texts
  | natural
  deriving Repr, DecidableEq

structure OptionSpec where
  long : String
  short : Option Char := none
  kind : OptionKind
  deriving Repr, DecidableEq

structure CommandSpec where
  options : List OptionSpec
  arguments : Nat := 0
  commands : List String := []
  deriving Repr, DecidableEq

namespace OptionSpec

def takesValue (o : OptionSpec) : Bool :=
  match o.kind with
  | .help => false
  | .version => false
  | .flag => false
  | _ => true

def checkValue (o : OptionSpec) (value : String) : Except UsageFault Unit :=
  match o.kind with
  | .path => if value.isEmpty then .error .missingValue else .ok ()
  | .natural =>
    if (Decimal.word (Bytes.ofString value)).isSome then .ok () else .error .malformedValue
  | _ => .ok ()

end OptionSpec

/-- What has been read of a command: its options with their values, its arguments, and the
option last named with the value that it has so far. -/
structure Reading where
  options : List (String × String) := []
  arguments : List String := []
  pending : Option (OptionSpec × Option String) := none
  deriving Repr, DecidableEq

namespace Reading

def has (r : Reading) (name : String) : Bool := r.options.any (·.1 == name)

def option? (r : Reading) (name : String) : Option String := r.options.lookup name

/-- Records an option with its value. Only one that collects values may come again. -/
def record (r : Reading) (o : OptionSpec) (value : String) : Except UsageFault Reading :=
  if o.kind ≠ .texts && r.has o.long then .error .repeated
  else (o.checkValue value).map fun _ => { r with options := r.options ++ [(o.long, value)] }

def settle (r : Reading) : Except UsageFault Reading :=
  match r.pending with
  | none => .ok r
  | some (_, none) => .error .missingValue
  | some (o, some value) => { r with pending := none }.record o value

def awaitsValue (r : Reading) : Bool :=
  match r.pending with
  | some (_, none) => true
  | _ => false

def apply (r : Reading) (o : OptionSpec) : Except UsageFault Reading := do
  let r ← r.settle
  match o.kind with
  | .help => throw .help
  | .version => throw .version
  | _ => r.record o ""

def attach (r : Reading) (o : OptionSpec) (value : String) : Except UsageFault Reading := do
  (← r.settle).record o value

def await (r : Reading) (o : OptionSpec) : Except UsageFault Reading := do
  return { ← r.settle with pending := some (o, none) }

def long (spec : CommandSpec) (r : Reading) (word : List Char) : Except UsageFault Reading :=
  let name := String.ofList (word.takeWhile (· != '='))
  let value := match word.dropWhile (· != '=') with
    | [] => none
    | _ :: value => some (String.ofList value)
  match spec.options.find? (·.long == name), value with
  | none, _ => .error .unknownArgument
  | some o, some value => if o.takesValue then r.attach o value else .error .unwantedValue
  | some o, none => if o.takesValue then r.await o else r.apply o

/-- Reads the letters after one hyphen; what follows a letter that takes a value is its value. -/
def shorts (spec : CommandSpec) (r : Reading) : List Char → Except UsageFault Reading
  | [] => .ok r
  | c :: rest =>
    match spec.options.find? (·.short == some c) with
    | none => .error .unknownArgument
    | some o =>
      if o.takesValue then
        match rest with
        | [] => r.await o
        | '=' :: value => r.attach o (String.ofList value)
        | value => r.attach o (String.ofList value)
      else do shorts spec (← r.apply o) rest

/-- Reads a word that is no option. `escaped` says that two hyphens came before it. -/
def argument (spec : CommandSpec) (escaped : Bool) (r : Reading) (word : String) :
    Except UsageFault Reading :=
  if r.arguments.length < spec.arguments then
    r.settle.map fun r => { r with arguments := r.arguments ++ [word] }
  else if escaped && spec.commands.contains word then .error .unknownArgument
  else if spec.commands.isEmpty then .error .unknownArgument
  else .error .unknownCommand

abbrev Rest := Option (String × List String)

def words (spec : CommandSpec) (escaped : Bool) (r : Reading) :
    List String → Except UsageFault (Reading × Rest)
  | [] => .ok (r, none)
  | word :: rest =>
    if escaped then do words spec true (← r.argument spec true word) rest
    else if !r.awaitsValue && spec.commands.contains word then .ok (r, some (word, rest))
    else
      match word.toList with
      | ['-', '-'] => words spec true r rest
      | '-' :: '-' :: name => do words spec false (← r.long spec name) rest
      | '-' :: c :: letters => do words spec false (← r.shorts spec (c :: letters)) rest
      | _ =>
        match r.pending with
        | some (o, none) => words spec false { r with pending := some (o, some word) } rest
        | _ => do words spec false (← r.argument spec false word) rest

end Reading

structure ServeOptions where
  address : Option String := none
  path : Option String := none
  autoStream : Bool := false
  noReplay : Bool := false
  eventTtl : Option Duration := none
  base64 : Bool := false
  streams : List String := []
  deriving Repr, DecidableEq

structure ListenOptions where
  stream : String
  url : Option String := none
  lastEventId : Option String := none
  reconnect : Bool := false
  base64 : Bool := false
  deriving Repr, DecidableEq

inductive Command
  | serve (options : ServeOptions)
  | listen (options : ListenOptions)
  deriving Repr, DecidableEq

structure CommandLine where
  configFile : Option String
  command : Command
  deriving Repr, DecidableEq

def ServeOptions.apply (o : ServeOptions) (c : ServerConfig) : ServerConfig :=
  { c with
    address := o.address.getD c.address
    path := o.path.getD c.path
    autoStream := o.autoStream || c.autoStream
    autoReplay := !o.noReplay && c.autoReplay
    eventTtl := o.eventTtl.or c.eventTtl
    base64 := o.base64 || c.base64 }

def ListenOptions.apply (o : ListenOptions) (c : ClientConfig) : ClientConfig :=
  { c with url := o.url.getD c.url, base64 := o.base64 || c.base64 }

namespace CommandLine

def helpOption : OptionSpec := { long := "help", short := some 'h', kind := .help }
def versionOption : OptionSpec := { long := "version", short := some 'V', kind := .version }
def configOption : OptionSpec := { long := "config", short := some 'c', kind := .path }

def program : CommandSpec :=
  { options := [configOption, helpOption, versionOption], commands := ["serve", "listen", "help"] }

def serve : CommandSpec :=
  { options := [configOption, helpOption,
      { long := "address", kind := .text }, { long := "path", kind := .text },
      { long := "auto-stream", kind := .flag }, { long := "no-replay", kind := .flag },
      { long := "event-ttl-ms", kind := .natural }, { long := "base64", kind := .flag },
      { long := "stream", kind := .texts }] }

def listen : CommandSpec :=
  { options := [configOption, helpOption,
      { long := "url", kind := .text }, { long := "last-event-id", kind := .text },
      { long := "reconnect", kind := .flag }, { long := "base64", kind := .flag }]
    arguments := 1 }

def serveOptions (r : Reading) : ServeOptions :=
  { address := r.option? "address"
    path := r.option? "path"
    autoStream := r.has "auto-stream"
    noReplay := r.has "no-replay"
    eventTtl := do
      return .ofMillis (← Decimal.word (Bytes.ofString (← r.option? "event-ttl-ms")))
    base64 := r.has "base64"
    streams := (r.options.filter (·.1 == "stream")).map (·.2) }

def listenOptions (r : Reading) (stream : String) : ListenOptions :=
  { stream
    url := r.option? "url"
    lastEventId := r.option? "last-event-id"
    reconnect := r.has "reconnect"
    base64 := r.has "base64" }

def readCommand (spec : CommandSpec) (args : List String) : Except UsageFault Reading := do
  (← Reading.words spec false {} args).1.settle

/-- Asking for the help of a command has to name one, or nothing. -/
def readHelp : List String → UsageFault
  | [] => .help
  | [name] => if program.commands.contains name then .help else .unknownCommand
  | _ => .unknownCommand

def withoutCommand (r : Reading) : Except UsageFault CommandLine := do
  let r ← r.settle
  throw (if r.options.isEmpty then .nothingGiven else .missingCommand)

/-- Reads the words after the program's name. A settings file named after the command goes
before one named ahead of it. -/
def read (args : List String) : Except UsageFault CommandLine := do
  match ← Reading.words program false {} args with
  | (r, none) => withoutCommand r
  | (r, some ("serve", rest)) =>
    let s ← readCommand serve rest
    let r ← r.settle
    return { configFile := (s.option? "config").or (r.option? "config")
             command := .serve (serveOptions s) }
  | (r, some ("listen", rest)) =>
    let s ← readCommand listen rest
    match s.arguments with
    | [] => throw .missingArgument
    | stream :: _ =>
      let r ← r.settle
      return { configFile := (s.option? "config").or (r.option? "config")
               command := .listen (listenOptions s stream) }
  | (_, some (_, rest)) => throw (readHelp rest)

end CommandLine

end EventBroker
