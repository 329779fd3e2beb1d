/-
Reading instants from text.

Two readers share their parts. The strict one takes the interchange form
of the internet standard: four-digit year, two digits elsewhere, a
separator `T`, `t` or blank, an optional fraction of any length of which
nine digits count, and an offset in hours and minutes. The loose one also
takes blanks between the parts, short numbers, a signed year of any
length, an offset without its colon and the word UTC.

A reader names its first fault: the text ended too early, a character does
not belong, a number is out of range, something follows the end, or the
offset leads out of the calendar. "Too early" is judged by the length of
the rest in bytes, so a character outside ASCII can stand in for as many
missing digits as its encoding has bytes.
-/
import EventAnalytics.Text.Blank
import EventAnalytics.Text.Numeral
import EventAnalytics.Time.Instant

namespace EventAnalytics.Time

open Text (isDigit digitsValue trimLeft)

/-- What is wrong with a written time. -/
inductive ReadFault where
  | tooShort
  | invalid
  | outOfRange
  | impossible
  | trailing
  deriving DecidableEq, Repr

def ReadFault.message : ReadFault → String
  | .tooShort => "premature end of input"
  | .invalid => "input contains invalid characters"
  | .outOfRange => "input is out of range"
  | .impossible => "no possible date and time matching input"
  | .trailing => "trailing input"

/-- The outcome of reading. A reader of one part gives its value together
with the rest of the text. -/
abbrev Read := Except ReadFault

/-- The length of a text in bytes. -/
def byteLength (cs : List Char) : Nat :=
  (String.ofList cs).utf8ByteSize

/-- A number of at least `least` digits, taken from the digits at the front
of the first `most` characters. -/
def readNumber (least : Nat) (most : Option Nat) (cs : List Char) : Read (Nat × List Char) :=
  let window := match most with
    | some m => cs.take m
    | none => cs
  let digits := window.takeWhile isDigit
  if byteLength cs < least then .error .tooShort
  else if digits.length < least then .error .invalid
  else .ok (digitsValue digits, cs.drop digits.length)

/-- A number of exactly two digits. -/
def readTwo (cs : List Char) : Read (Nat × List Char) := readNumber 2 (some 2) cs

def readChar (c : Char) : List Char → Read (List Char)
  | [] => .error .tooShort
  | d :: r => if d = c then .ok r else .error .invalid

/-- One character between a date and a time. -/
def readSeparator : List Char → Read (List Char)
  | [] => .error .tooShort
  | c :: r => if c = 'T' ∨ c = 't' ∨ c = ' ' then .ok r else .error .invalid

/-- Refuses a number outside the given bounds. -/
def within (lo hi n : Nat) : Read Unit :=
  if lo ≤ n ∧ n ≤ hi then .ok () else .error .outOfRange

/-- The nanoseconds of an optional fraction; digits past the ninth are
passed over. -/
def readFraction : List Char → Read (Nat × List Char)
  | '.' :: r => do
    let (v, rest) ← readNumber 1 (some 9) r
    let used := r.length - rest.length
    return (v * Nat.pow 10 (9 - used), rest.dropWhile isDigit)
  | cs => .ok (0, cs)

/-- Two digits of an offset, if the rest is long enough to hold them. -/
def offsetDigits (cs : List Char) : Read (Nat × List Char) :=
  if byteLength cs < 2 then .error .tooShort
  else
    match cs with
    | a :: b :: r =>
      if isDigit a && isDigit b then .ok (digitsValue [a, b], r) else .error .invalid
    | _ => .error .invalid

/-- The sign of an offset: true when it lies west. -/
def readSign : List Char → Read (Bool × List Char)
  | [] => .error .tooShort
  | '+' :: r => .ok (false, r)
  | '-' :: r => .ok (true, r)
  | '\u2212' :: r => .ok (true, r)
  | _ => .error .invalid

/-- An offset in seconds, its hours and minutes parted by whatever
`betweenParts` passes over. -/
def readOffset (betweenParts : List Char → Read (List Char))
    (cs : List Char) : Read (Int × List Char) :=
  match cs with
  | 'Z' :: r => .ok (0, r)
  | 'z' :: r => .ok (0, r)
  | _ => do
    let (west, r) ← readSign cs
    let (hours, r) ← offsetDigits r
    let r ← betweenParts r
    let (minutes, r) ← offsetDigits r
    if 60 ≤ minutes then throw ReadFault.outOfRange
    let seconds : Int := hours * 3600 + minutes * 60
    return (if west then -seconds else seconds, r)

/-- A time as its parts were written. -/
structure Parts where
  year : Int
  month : Nat
  day : Nat
  hour : Nat
  minute : Nat
  second : Nat
  nanos : Nat
  offset : Int
  deriving DecidableEq, Repr

/-- The number of a date of the calendar. -/
def dayNumber? (year : Int) (month day : Nat) : Option Int :=
  let d : Date := ⟨year, month, day⟩
  if d.exists? && -262143 ≤ year && year ≤ 262142 then some d.number else none

/-- The instant that the parts name. -/
def Parts.instant (p : Parts) : Read Instant :=
  match dayNumber? p.year p.month p.day with
  | none => .error .outOfRange
  | some n =>
    if p.offset ≤ -86400 ∨ 86400 ≤ p.offset then .error .outOfRange
    else
      let leap := p.second = 60
      let second := if leap then 59 else p.second
      let nanos := if leap then nanosPerSecond + p.nanos else p.nanos
      let clock : Nat := p.hour * 3600 + p.minute * 60 + second
      match Instant.of? (n * 86400 + clock - p.offset) nanos with
      | some t => .ok t
      | none => .error .impossible

-- ======================================================= strict reader

/-- Date, time and offset of the strict form, with the rest. -/
def readStrictParts (cs : List Char) : Read (Parts × List Char) := do
  let (year, r) ← readNumber 4 (some 4) cs
  let r ← readChar '-' r
  let (month, r) ← readTwo r
  within 1 12 month
  let r ← readChar '-' r
  let (day, r) ← readTwo r
  within 1 31 day
  let r ← readSeparator r
  let (hour, r) ← readTwo r
  within 0 23 hour
  let r ← readChar ':' r
  let (minute, r) ← readTwo r
  within 0 59 minute
  let r ← readChar ':' r
  let (second, r) ← readTwo r
  within 0 60 second
  let (nanos, r) ← readFraction r
  let (offset, r) ← readOffset (readChar ':') r
  if offset.natAbs > 86340 then throw ReadFault.outOfRange
  return (⟨year, month, day, hour, minute, second, nanos, offset⟩, r)

/-- The instant written in the strict form. -/
def readStrict (s : String) : Read Instant := do
  let (p, r) ← readStrictParts s.toList
  if r ≠ [] then throw ReadFault.trailing
  p.instant

-- ======================================================== loose reader

/-- A year with an optional sign, after blanks; without a sign it has at
most four digits. -/
def readYear (cs : List Char) : Read (Int × List Char) :=
  match trimLeft cs with
  | '-' :: r => (readNumber 1 none r).map fun p => (-(p.1 : Int), p.2)
  | '+' :: r => (readNumber 1 none r).map fun p => ((p.1 : Int), p.2)
  | r => (readNumber 1 (some 4) r).map fun p => ((p.1 : Int), p.2)

/-- One or two digits, after blanks. -/
def readShort (cs : List Char) : Read (Nat × List Char) :=
  readNumber 1 (some 2) (trimLeft cs)

/-- Colons and blanks, any number of them. -/
def passColons (cs : List Char) : Read (List Char) :=
  .ok (cs.dropWhile fun c => c == ':' || Text.isBlank c)

/-- An offset, or the word UTC in any ASCII case. -/
def readLooseOffset (cs : List Char) : Read (Int × List Char) :=
  if (cs.take 3).map Text.lowerChar = ['u', 't', 'c'] then .ok (0, cs.drop 3)
  else readOffset passColons cs

/-- Date, time and offset of the loose form, with the rest. -/
def readLooseParts (cs : List Char) : Read (Parts × List Char) := do
  let (year, r) ← readYear cs
  let r ← readChar '-' (trimLeft r)
  let (month, r) ← readShort r
  within 1 12 month
  let r ← readChar '-' (trimLeft r)
  let (day, r) ← readShort r
  within 1 31 day
  let r ← readSeparator r
  let (hour, r) ← readShort r
  within 0 23 hour
  let r ← readChar ':' (trimLeft r)
  let (minute, r) ← readShort r
  within 0 59 minute
  let r ← readChar ':' (trimLeft r)
  let (second, r) ← readShort r
  within 0 60 second
  let (nanos, r) ← readFraction r
  let (offset, r) ← readLooseOffset (trimLeft r)
  return (⟨year, month, day, hour, minute, second, nanos, offset⟩, r)

/-- The instant written in the loose form; blanks may follow it. -/
def readLoose (s : String) : Read Instant := do
  let (p, r) ← readLooseParts s.toList
  if trimLeft r ≠ [] then throw ReadFault.trailing
  p.instant

-- =============================================================== dates

/-- The number of the day written as year, month and day. Blanks may stand
before each number, and the year may be signed. -/
def readDay (s : String) : Read Int := do
  let (year, r) ← readYear s.toList
  let r ← readChar '-' r
  let (month, r) ← readShort r
  within 1 12 month
  let r ← readChar '-' r
  let (day, r) ← readShort r
  within 1 31 day
  if r ≠ [] then throw ReadFault.trailing
  match dayNumber? year month day with
  | some n => return n
  | none => throw ReadFault.outOfRange

end EventAnalytics.Time
