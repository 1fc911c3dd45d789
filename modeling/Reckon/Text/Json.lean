/-!
# JSON strings

* `jsonString`: a text as a JSON string on one line. Quotes, backslashes and control characters
  are escaped, everything else stands for itself.
-/

namespace Reckon.Text

/-- The two lower-case hexadecimal digits of a number below 256. -/
def hexByte (n : Nat) : List Char := [Nat.digitChar (n / 16), Nat.digitChar (n % 16)]

def jsonChar (c : Char) : List Char :=
  if c = '"' then ['\\', '"']
  else if c = '\\' then ['\\', '\\']
  else if c = '\x08' then ['\\', 'b']
  else if c = '\x0c' then ['\\', 'f']
  else if c = '\n' then ['\\', 'n']
  else if c = '\r' then ['\\', 'r']
  else if c = '\t' then ['\\', 't']
  else if c.toNat < 32 then ['\\', 'u', '0', '0'] ++ hexByte c.toNat
  else [c]

def jsonString (text : String) : String :=
  String.ofList (['"'] ++ text.toList.flatMap jsonChar ++ ['"'])

/-- An object whose members are strings, without blanks and in the given order. -/
def jsonObject (members : List (String × String)) : String :=
  let member (m : String × String) := jsonString m.1 ++ ":" ++ jsonString m.2
  "\x7b" ++ String.intercalate "," (members.map member) ++ "\x7d"

end Reckon.Text
