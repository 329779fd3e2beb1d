/-
The tokens of a JSON text.

A text is cut into marks, literals, numbers and strings, and the blanks
between them are dropped. A number is kept as it was written. A string is
read down to its characters; it comes out as nothing at all when it holds
half of a surrogate pair, since such a string is a token of the grammar
but names no text.

Each token takes at least one character, which is why cutting ends.
-/
import EventAnalytics.Text.Numeral

namespace EventAnalytics.Json

open Text (isDigit digitsValue hexValue?)

structure Numeral where
  negative : Bool
  whole : List Char
  fraction : Option (List Char)
  exponent : Option Int
  deriving DecidableEq, Repr

inductive Token where
  | openBracket
  | closeBracket
  | openBrace
  | closeBrace
  | colon
  | comma
  | null
  | bool (value : Bool)
  | number (value : Numeral)
  | string (value : Option String)
  deriving DecidableEq, Repr

-- =========================================================== strings

/-- A part of a string: a character, or an escaped unit of 16 bits. -/
inductive Piece where
  | char (c : Char)
  | unit (n : Nat)
  deriving DecidableEq, Repr

/-- The unit that four hexadecimal digits write. -/
def hexUnit? (a b c d : Char) : Option Nat := do
  let a ← hexValue? a
  let b ← hexValue? b
  let c ← hexValue? c
  let d ← hexValue? d
  return ((a * 16 + b) * 16 + c) * 16 + d

/-- The character that a letter after a backslash stands for. -/
def escapeChar? : Char → Option Char
  | '"' => some '"'
  | '\\' => some '\\'
  | '/' => some '/'
  | 'b' => some '\x08'
  | 'f' => some '\x0c'
  | 'n' => some '\n'
  | 'r' => some '\r'
  | 't' => some '\t'
  | _ => none

/-- The pieces of a string up to its closing quote, put in front of those
read so far in reverse, and the text after the quote. -/
def readPieces (acc : List Piece) : List Char → Option (List Piece × List Char)
  | [] => none
  | '"' :: r => some (acc.reverse, r)
  | '\\' :: 'u' :: a :: b :: c :: d :: r =>
    match hexUnit? a b c d with
    | some n => readPieces (.unit n :: acc) r
    | none => none
  | '\\' :: e :: r =>
    match escapeChar? e with
    | some c => readPieces (.char c :: acc) r
    | none => none
  | c :: r =>
    if c = '\\' ∨ c.toNat < 32 then none else readPieces (.char c :: acc) r

/-- The characters that pieces stand for, put in front of those found so
far in reverse: two surrogate halves in a row make one character, and a
half on its own makes none. -/
def joinPieces (acc : List Char) : List Piece → Option (List Char)
  | [] => some acc.reverse
  | .char c :: r => joinPieces (c :: acc) r
  | .unit n :: r =>
    if 0xD800 ≤ n ∧ n < 0xDC00 then
      match r with
      | .unit m :: r' =>
        if 0xDC00 ≤ m ∧ m < 0xE000 then
          joinPieces (Char.ofNat (0x10000 + (n - 0xD800) * 1024 + (m - 0xDC00)) :: acc) r'
        else none
      | _ => none
    else if 0xDC00 ≤ n ∧ n < 0xE000 then none
    else joinPieces (Char.ofNat n :: acc) r

-- =========================================================== numbers

/-- A run of digits at the front, if there is one. -/
def readDigits (cs : List Char) : Option (List Char × List Char) :=
  match cs.takeWhile isDigit with
  | [] => none
  | ds => some (ds, cs.dropWhile isDigit)

/-- The whole part of a number: a lone zero or no leading zero. -/
def readWhole (cs : List Char) : Option (List Char × List Char) :=
  match cs with
  | '0' :: r =>
    match r.head? with
    | some c => if isDigit c then none else some (['0'], r)
    | none => some (['0'], r)
  | _ => readDigits cs

def readFraction (cs : List Char) : Option (Option (List Char) × List Char) :=
  match cs with
  | '.' :: r => (readDigits r).map fun p => (some p.1, p.2)
  | _ => some (none, cs)

/-- The digits of an exponent after its optional sign. -/
def readSigned (cs : List Char) : Option (Int × List Char) :=
  match cs with
  | '+' :: r => (readDigits r).map fun p => ((digitsValue p.1 : Int), p.2)
  | '-' :: r => (readDigits r).map fun p => (-(digitsValue p.1 : Int), p.2)
  | _ => (readDigits cs).map fun p => ((digitsValue p.1 : Int), p.2)

def readExponent (cs : List Char) : Option (Option Int × List Char) :=
  match cs with
  | 'e' :: r => (readSigned r).map fun p => (some p.1, p.2)
  | 'E' :: r => (readSigned r).map fun p => (some p.1, p.2)
  | _ => some (none, cs)

def readUnsigned (negative : Bool) (cs : List Char) : Option (Numeral × List Char) :=
  match readWhole cs with
  | none => none
  | some (whole, r) =>
    match readFraction r with
    | none => none
    | some (fraction, r) =>
      (readExponent r).map fun p => (⟨negative, whole, fraction, p.1⟩, p.2)

def readNumber (cs : List Char) : Option (Numeral × List Char) :=
  match cs with
  | '-' :: r => readUnsigned true r
  | _ => readUnsigned false cs

-- ============================================================ tokens

/-- Whether a character may stand between tokens. -/
def isSpace (c : Char) : Bool :=
  c == ' ' || c == '\n' || c == '\r' || c == '\t'

/-- The token at the front of a text that starts with no blank. -/
def readToken : List Char → Option (Token × List Char)
  | '[' :: r => some (.openBracket, r)
  | ']' :: r => some (.closeBracket, r)
  | '\x7b' :: r => some (.openBrace, r)
  | '\x7d' :: r => some (.closeBrace, r)
  | ':' :: r => some (.colon, r)
  | ',' :: r => some (.comma, r)
  | 'n' :: 'u' :: 'l' :: 'l' :: r => some (.null, r)
  | 't' :: 'r' :: 'u' :: 'e' :: r => some (.bool true, r)
  | 'f' :: 'a' :: 'l' :: 's' :: 'e' :: r => some (.bool false, r)
  | '"' :: r => (readPieces [] r).map fun p =>
      (.string ((joinPieces [] p.1).map String.ofList), p.2)
  | cs => (readNumber cs).map fun p => (.number p.1, p.2)

-- ========================================= every token takes something

theorem readPieces_length {acc : List Piece} {cs : List Char} {p : List Piece × List Char}
    (h : readPieces acc cs = some p) : p.2.length < cs.length := by
  fun_induction readPieces acc cs <;> simp_all <;> first | omega | (subst h; simp)

theorem length_dropWhile_le (p : Char → Bool) (cs : List Char) :
    (cs.dropWhile p).length ≤ cs.length := by
  induction cs with
  | nil => simp
  | cons c r ih =>
    by_cases h : p c = true
    · simp [h]; omega
    · simp [h]

/-- Digits take at least one character. -/
theorem readDigits_length {cs : List Char} {p : List Char × List Char}
    (h : readDigits cs = some p) : p.2.length < cs.length := by
  unfold readDigits at h
  cases cs with
  | nil => simp at h
  | cons c r =>
    by_cases hc : isDigit c = true
    · simp [hc] at h
      have := length_dropWhile_le isDigit r
      rw [← h]
      simp
      omega
    · simp [hc] at h

/-- So does the whole part of a number. -/
theorem readWhole_length {cs : List Char} {p : List Char × List Char}
    (h : readWhole cs = some p) : p.2.length < cs.length := by
  unfold readWhole at h
  split at h
  · split at h
    · split at h
      · simp at h
      · simp at h; simp [← h]
    · simp at h; simp [← h]
  · exact readDigits_length h

/-- A fraction may take none. -/
theorem readFraction_length {cs : List Char} {p : Option (List Char) × List Char}
    (h : readFraction cs = some p) : p.2.length ≤ cs.length := by
  unfold readFraction at h
  split at h
  · obtain ⟨q, hq, rfl⟩ := Option.map_eq_some_iff.1 h
    have := readDigits_length hq
    simp
    omega
  · simp at h; simp [← h]

theorem readSigned_length {cs : List Char} {p : Int × List Char}
    (h : readSigned cs = some p) : p.2.length ≤ cs.length := by
  unfold readSigned at h
  split at h
  all_goals
    obtain ⟨q, hq, rfl⟩ := Option.map_eq_some_iff.1 h
    have := readDigits_length hq
    simp
    omega

/-- An exponent may take none. -/
theorem readExponent_length {cs : List Char} {p : Option Int × List Char}
    (h : readExponent cs = some p) : p.2.length ≤ cs.length := by
  unfold readExponent at h
  split at h
  · obtain ⟨q, hq, rfl⟩ := Option.map_eq_some_iff.1 h
    have := readSigned_length hq
    simp
    omega
  · obtain ⟨q, hq, rfl⟩ := Option.map_eq_some_iff.1 h
    have := readSigned_length hq
    simp
    omega
  · simp at h; simp [← h]

/-- A number without its sign takes at least one character. -/
theorem readUnsigned_length {neg : Bool} {cs : List Char} {p : Numeral × List Char}
    (h : readUnsigned neg cs = some p) : p.2.length < cs.length := by
  unfold readUnsigned at h
  split at h
  · simp at h
  · next w r hw =>
    split at h
    · simp at h
    · next f r' hf =>
      obtain ⟨q, hq, rfl⟩ := Option.map_eq_some_iff.1 h
      have h1 := readWhole_length hw
      have h2 := readFraction_length hf
      have h3 := readExponent_length hq
      simp at h1 h2 h3 ⊢
      omega

/-- So does a number with it. -/
theorem readNumber_length {cs : List Char} {p : Numeral × List Char}
    (h : readNumber cs = some p) : p.2.length < cs.length := by
  unfold readNumber at h
  split at h
  · have := readUnsigned_length h
    simp
    omega
  · exact readUnsigned_length h

/-- Every token takes at least one character, so that reading tokens comes to
an end. -/
theorem readToken_length {cs : List Char} {p : Token × List Char}
    (h : readToken cs = some p) : p.2.length < cs.length := by
  unfold readToken at h
  split at h
  case h_10 r =>
    obtain ⟨q, hq, rfl⟩ := Option.map_eq_some_iff.1 h
    have := readPieces_length hq
    simp
    omega
  case h_11 =>
    obtain ⟨q, hq, rfl⟩ := Option.map_eq_some_iff.1 h
    exact readNumber_length hq
  all_goals
    simp at h
    subst h
    simp
    try omega

/-- The tokens of a text, put in front of those cut so far in reverse. -/
def cut (acc : List Token) (cs : List Char) : Option (List Token) :=
  match cs with
  | [] => some acc.reverse
  | c :: r =>
    if isSpace c then cut acc r
    else
      match _h : readToken (c :: r) with
      | none => none
      | some p => cut (p.1 :: acc) p.2
termination_by cs.length
decreasing_by
  · simp
  · exact readToken_length (by assumption)

/-- The tokens of a text, if it is made of tokens and blanks. -/
def tokens (s : String) : Option (List Token) :=
  cut [] s.toList

end EventAnalytics.Json
