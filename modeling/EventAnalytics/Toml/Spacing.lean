/-
What may stand between the parts of a settings document: blanks, comments
and line breaks.

A blank is a space or a tab. A comment runs from `#` over everything but
control characters, so it ends before its line does. A line breaks at a
line feed, with or without a carriage return before it; a carriage return
on its own is no part of any document.
-/

namespace EventAnalytics.Toml

/-- Whether a character is a blank. -/
def isSpace (c : Char) : Bool := c == ' ' || c == '\t'

/-- Whether a character is a control character other than the tab. -/
def isControl (c : Char) : Bool :=
  (c.toNat < 32 && c != '\t') || c.toNat == 127

/-- The text after the blanks at its front. -/
def skipSpace (cs : List Char) : List Char := cs.dropWhile isSpace

/-- The text after the comment at its front, if there is one. -/
def skipComment : List Char → List Char
  | '#' :: r => r.dropWhile fun c => !isControl c
  | cs => cs

/-- The text after the line break at its front. -/
def breakLine? : List Char → Option (List Char)
  | '\n' :: r => some r
  | '\r' :: '\n' :: r => some r
  | _ => none

/-- The text after the end of a line, before which only blanks and a
comment may stand. The end of the document ends its last line. -/
def endLine? (cs : List Char) : Option (List Char) :=
  match skipComment (skipSpace cs) with
  | [] => some []
  | r => breakLine? r

/-- The text after the blanks, comments and line breaks at its front. -/
def skipGaps (cs : List Char) : List Char :=
  match cs with
  | ' ' :: r | '\t' :: r | '\n' :: r | '\r' :: '\n' :: r => skipGaps r
  | '#' :: r => skipGaps (r.dropWhile fun c => !isControl c)
  | _ => cs
termination_by cs.length
decreasing_by
  all_goals simp only [List.length_cons]
  all_goals try omega
  exact Nat.lt_succ_of_le (List.dropWhile_sublist _).length_le

-- ================================================ nothing is invented

theorem skipSpace_length (cs : List Char) : (skipSpace cs).length ≤ cs.length :=
  (List.dropWhile_sublist _).length_le

theorem breakLine?_length {cs r : List Char} (h : breakLine? cs = some r) :
    r.length < cs.length := by
  unfold breakLine? at h
  split at h
  · cases h; exact Nat.lt_succ_self _
  · cases h; exact Nat.lt_succ_of_lt (Nat.lt_succ_self _)
  · cases h

end EventAnalytics.Toml
