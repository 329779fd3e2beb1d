/-
JSON values as text, in the most compact form.

No blank is written. Inside a string only the quote, the backslash and the
controls below the blank are escaped, five of these by a letter and the
others by four hexadecimal digits.
-/
import EventAnalytics.Decimal.Shortest
import EventAnalytics.Json.Value

namespace EventAnalytics.Json

/-- A hexadecimal digit in lower case. -/
def hexDigit (n : Nat) : Char :=
  if n < 10 then Char.ofNat (48 + n) else Char.ofNat (87 + n)

/-- A character as it stands inside a string. -/
def escapedChar (c : Char) : List Char :=
  if c = '"' then ['\\', '"']
  else if c = '\\' then ['\\', '\\']
  else if c = '\n' then ['\\', 'n']
  else if c = '\r' then ['\\', 'r']
  else if c = '\t' then ['\\', 't']
  else if c = '\x08' then ['\\', 'b']
  else if c = '\x0c' then ['\\', 'f']
  else if c.toNat < 32 then
    ['\\', 'u', '0', '0', hexDigit (c.toNat / 16), hexDigit (c.toNat % 16)]
  else [c]

def stringChars (s : String) : List Char :=
  '"' :: s.toList.flatMap escapedChar ++ ['"']

mutual

def chars : Json → List Char
  | .null => ['n', 'u', 'l', 'l']
  | .bool true => ['t', 'r', 'u', 'e']
  | .bool false => ['f', 'a', 'l', 's', 'e']
  | .integer n => Text.intNumeral n
  | .double d => d.text
  | .string s => stringChars s
  | .array [] => ['[', ']']
  | .array (v :: vs) => '[' :: chars v ++ moreItems vs ++ [']']
  | .object [] => ['\x7b', '\x7d']
  | .object ((k, v) :: fs) =>
    '\x7b' :: stringChars k ++ ':' :: chars v ++ moreFields fs ++ ['\x7d']

/-- The items after the first one. -/
def moreItems : List Json → List Char
  | [] => []
  | v :: vs => ',' :: chars v ++ moreItems vs

/-- The fields after the first one. -/
def moreFields : List (String × Json) → List Char
  | [] => []
  | (k, v) :: fs => ',' :: stringChars k ++ ':' :: chars v ++ moreFields fs

end

def text (v : Json) : String := String.ofList v.chars

end EventAnalytics.Json
