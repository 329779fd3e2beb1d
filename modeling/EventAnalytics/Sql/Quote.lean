/-
Quoting in SQL text.

A string literal stands between single quotes and an identifier between
double quotes; inside either, its own quote is written twice and every
other character once, the backslash included. A pattern of `LIKE` with the
escape character `\` is escaped before that: a backslash, a percent sign
and an underscore get a backslash in front.
-/

namespace EventAnalytics.Sql

/-- The characters with one of them written twice. -/
def doubled (q : Char) (cs : List Char) : List Char :=
  cs.flatMap fun c => if c = q then [c, c] else [c]

/-- A text as it stands inside a string literal. -/
def escaped (s : String) : String :=
  String.ofList (doubled '\'' s.toList)

/-- A text as a string literal. -/
def literal (s : String) : String :=
  "'" ++ escaped s ++ "'"

/-- A name as a quoted identifier. -/
def identifier (s : String) : String :=
  "\"" ++ String.ofList (doubled '"' s.toList) ++ "\""

/-- The characters a pattern gives a meaning to. -/
def isPatternChar (c : Char) : Bool :=
  c == '\\' || c == '%' || c == '_'

/-- A text as a pattern that matches it and nothing else. -/
def patternChars (cs : List Char) : List Char :=
  cs.flatMap fun c => if isPatternChar c then ['\\', c] else [c]

/-- A text as a pattern inside a string literal. -/
def escapedPattern (s : String) : String :=
  escaped (String.ofList (patternChars s.toList))

end EventAnalytics.Sql
