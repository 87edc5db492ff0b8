import EventBroker.Net.Ip
import EventBroker.Text.Decimal

/-!
Addresses to listen on: a host and a port, joined by a colon. A process that is cut off
from all networks has no addresses of its own. It can still listen on every address of
version four, since nothing tells which of them belong to others; of version six it can
use the unspecified address, and those that stand for addresses of version four.
-/
namespace EventBroker.Net

def portLimit : Nat := 65536

def isOpenGroups (groups : List Nat) : Bool :=
  groups.all (· == 0) || groups.take 6 == [0, 0, 0, 0, 0, 65535]

def scopeLimit : Nat := 4294967296

/-- What may follow an address of version six: nothing, or a scope after a percent sign. -/
def isScope : List Char → Bool
  | [] => true
  | _ :: digits => !digits.isEmpty && (number? 10 digits).any (· < scopeLimit)

def isOpen6 (text : List Char) : Bool :=
  (read6? (text.takeWhile (· != '%'))).any isOpenGroups && isScope (text.dropWhile (· != '%'))

/-- Whether a host can be listened on. Without a network only the name of the machine itself is
known. -/
def isOpenHost (host : List Char) : Bool :=
  match host with
  | '[' :: rest => rest.getLast? == some ']' && isOpen6 rest.dropLast
  | _ => (String.ofList host).toLower == "localhost" || (read4? host).isSome || isOpen6 host

def splitPort (address : String) : List Char × List Char :=
  let reversed := address.toList.reverse
  ((reversed.dropWhile (· != ':')).drop 1 |>.reverse, (reversed.takeWhile (· != ':')).reverse)

def isPort (text : List Char) : Bool :=
  match Decimal.word (Bytes.ofString (String.ofList text)) with
  | some n => n < portLimit
  | none => false

def canListen (address : String) : Bool :=
  let (host, port) := splitPort address
  isPort port && isOpenHost host

end EventBroker.Net
