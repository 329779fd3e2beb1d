/-
Quoted texts of a settings document.

There are four forms. A text in double quotes knows escapes, one in single
quotes does not; either may be on one line, or stand between tripled
quotes and span several. A text of several lines drops a line break right
after its opening, writes every line break as a line feed, and may hold up
to two quotes in a row, also right before its closing. Where escapes are
known, a backslash at the end of a line joins it with what comes next,
blanks and further line breaks left out.

No form admits control characters other than the tab.
-/
import EventAnalytics.Text.Numeral
import EventAnalytics.Toml.Spacing

namespace EventAnalytics.Toml

/-- The character whose code point some hexadecimal digits write, if that
is one that can stand in a text. -/
def codePoint? (digits : List Char) : Option Char := do
  let ds ← digits.mapM Text.hexValue?
  let n := ds.foldl (fun v d => v * 16 + d) 0
  if n < 0xD800 ∨ (0xE000 ≤ n ∧ n < 0x110000) then some (Char.ofNat n) else none

/-- The character that a letter after a backslash stands for. -/
def escaped? : Char → Option Char
  | 'b' => some '\x08'
  | 't' => some '\t'
  | 'n' => some '\n'
  | 'f' => some '\x0c'
  | 'r' => some '\r'
  | '"' => some '"'
  | '\\' => some '\\'
  | _ => none

/-- The character that the text after a backslash starts with, and what
follows its escape. -/
def readEscape : List Char → Option (Char × List Char)
  | 'u' :: r =>
    if r.length < 4 then none
    else (codePoint? (r.take 4)).map fun c => (c, r.drop 4)
  | 'U' :: r =>
    if r.length < 8 then none
    else (codePoint? (r.take 8)).map fun c => (c, r.drop 8)
  | e :: r => (escaped? e).map fun c => (c, r)
  | [] => none

theorem readEscape_length {cs : List Char} {p : Char × List Char}
    (h : readEscape cs = some p) : p.2.length < cs.length := by
  unfold readEscape at h
  split at h
  · split at h
    · simp at h
    · obtain ⟨c, _, rfl⟩ := Option.map_eq_some_iff.1 h
      simp only [List.length_drop, List.length_cons]
      omega
  · split at h
    · simp at h
    · obtain ⟨c, _, rfl⟩ := Option.map_eq_some_iff.1 h
      simp only [List.length_drop, List.length_cons]
      omega
  · obtain ⟨c, _, rfl⟩ := Option.map_eq_some_iff.1 h
    simp
  · simp at h

/-- The text after the blanks and line breaks at its front. -/
def skipLines : List Char → List Char
  | ' ' :: r | '\t' :: r | '\n' :: r | '\r' :: '\n' :: r => skipLines r
  | cs => cs

theorem skipLines_length (cs : List Char) : (skipLines cs).length ≤ cs.length := by
  fun_induction skipLines cs <;> simp_all <;> omega

/-- The text that a joined line goes on with, when what follows a backslash
is the end of its line. -/
def joinLine? (cs : List Char) : Option (List Char) :=
  (breakLine? (skipSpace cs)).map skipLines

theorem joinLine?_length {cs r : List Char} (h : joinLine? cs = some r) :
    r.length < cs.length := by
  obtain ⟨s, hs, rfl⟩ := Option.map_eq_some_iff.1 h
  have h1 := skipLines_length s
  have h2 := breakLine?_length hs
  have h3 := skipSpace_length cs
  omega

/-- A double-quoted text on one line, after its opening quote. -/
def readBasic (acc cs : List Char) : Option (String × List Char) :=
  match cs with
  | [] => none
  | '"' :: r => some (String.ofList acc.reverse, r)
  | '\\' :: r =>
    match _h : readEscape r with
    | some p => readBasic (p.1 :: acc) p.2
    | none => none
  | c :: r => if isControl c then none else readBasic (c :: acc) r
termination_by cs.length
decreasing_by
  · have := readEscape_length (by assumption)
    simp
    omega
  · simp

/-- A double-quoted text of several lines, after its opening. -/
def readBasicLines (acc cs : List Char) : Option (String × List Char) :=
  match cs with
  | [] => none
  | '"' :: '"' :: '"' :: '"' :: '"' :: r =>
    some (String.ofList ('"' :: '"' :: acc).reverse, r)
  | '"' :: '"' :: '"' :: '"' :: r => some (String.ofList ('"' :: acc).reverse, r)
  | '"' :: '"' :: '"' :: r => some (String.ofList acc.reverse, r)
  | '\n' :: r | '\r' :: '\n' :: r => readBasicLines ('\n' :: acc) r
  | '\\' :: r =>
    match _h : joinLine? r with
    | some r' => readBasicLines acc r'
    | none =>
      match _h : readEscape r with
      | some p => readBasicLines (p.1 :: acc) p.2
      | none => none
  | c :: r => if isControl c then none else readBasicLines (c :: acc) r
termination_by cs.length
decreasing_by
  · simp only [List.length_cons]
    omega
  · simp only [List.length_cons]
    omega
  · have := joinLine?_length (by assumption)
    simp
    omega
  · have := readEscape_length (by assumption)
    simp
    omega
  · simp

/-- A single-quoted text on one line, after its opening quote. -/
def readLiteral (acc : List Char) : List Char → Option (String × List Char)
  | [] => none
  | '\'' :: r => some (String.ofList acc.reverse, r)
  | c :: r => if isControl c then none else readLiteral (c :: acc) r

/-- A single-quoted text of several lines, after its opening. -/
def readLiteralLines (acc : List Char) : List Char → Option (String × List Char)
  | [] => none
  | '\'' :: '\'' :: '\'' :: '\'' :: '\'' :: r =>
    some (String.ofList ('\'' :: '\'' :: acc).reverse, r)
  | '\'' :: '\'' :: '\'' :: '\'' :: r => some (String.ofList ('\'' :: acc).reverse, r)
  | '\'' :: '\'' :: '\'' :: r => some (String.ofList acc.reverse, r)
  | '\n' :: r | '\r' :: '\n' :: r => readLiteralLines ('\n' :: acc) r
  | c :: r => if isControl c then none else readLiteralLines (c :: acc) r

/-- The text after a line break at its front, if there is one. -/
def dropBreak (cs : List Char) : List Char := (breakLine? cs).getD cs

/-- A quoted text on one line, the only form that a key may have. -/
def readOneLine : List Char → Option (String × List Char)
  | '"' :: r => readBasic [] r
  | '\'' :: r => readLiteral [] r
  | _ => none

/-- A quoted text of any form. -/
def readQuoted : List Char → Option (String × List Char)
  | '"' :: '"' :: '"' :: r => readBasicLines [] (dropBreak r)
  | '\'' :: '\'' :: '\'' :: r => readLiteralLines [] (dropBreak r)
  | cs => readOneLine cs

end EventAnalytics.Toml
