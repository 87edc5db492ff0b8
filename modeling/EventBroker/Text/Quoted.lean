import EventBroker.Text.Hex
import EventBroker.Text.Hidden

/-!
Text in double quotes for messages. Quotes and backslashes are escaped, the usual
control characters have short escapes, and other characters that show nothing are
written by their code point.
-/
namespace EventBroker.Quoted

def escape (c : Char) : String :=
  if c = '"' then "\\\""
  else if c = '\\' then "\\\\"
  else if c = '\n' then "\\n"
  else if c = '\r' then "\\r"
  else if c = '\t' then "\\t"
  else if c.toNat = 0 then "\\0"
  else if Text.isHidden c then "\\u\x7b" ++ Hex.numeral c.toNat ++ "\x7d"
  else c.toString

def encode (s : String) : String := "\"" ++ String.join (s.toList.map escape) ++ "\""

end EventBroker.Quoted
