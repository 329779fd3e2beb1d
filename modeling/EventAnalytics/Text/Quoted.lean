/-
Text in double quotes, as messages show it.

The quoted form keeps every character that can be seen on its own. A
quote and a backslash get a backslash in front, the line breaks, the tab
and the null character have short forms, and each remaining hidden
character is written by its code point in lower-case hexadecimal digits
between braces. A list of texts is written between brackets, parts apart
by a comma and a space.
-/
import EventAnalytics.Text.Hidden

namespace EventAnalytics.Text

/-- The hexadecimal digits of a number, without leading zeros. -/
def hexDigits (n : Nat) : List Char :=
  Nat.toDigits 16 n

/-- A character as it stands between the quotes. -/
def quotedChar (c : Char) : List Char :=
  if c = '"' then ['\\', '"']
  else if c = '\\' then ['\\', '\\']
  else if c = '\n' then ['\\', 'n']
  else if c = '\r' then ['\\', 'r']
  else if c = '\t' then ['\\', 't']
  else if c = '\x00' then ['\\', '0']
  else if isHidden c then ['\\', 'u', '\x7b'] ++ hexDigits c.toNat ++ ['\x7d']
  else [c]

def quoted (s : String) : String :=
  String.ofList ('"' :: s.toList.flatMap quotedChar ++ ['"'])

/-- A list of texts, each quoted, between brackets. -/
def quotedList (items : List String) : String :=
  "[" ++ String.intercalate ", " (items.map quoted) ++ "]"

end EventAnalytics.Text
