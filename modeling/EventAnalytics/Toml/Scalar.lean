/-
Numbers, dates and truth values of a settings document.

A whole number is decimal, with an optional sign and no leading zero, or
hexadecimal, octal or binary behind `0x`, `0o` or `0b`; it must fit 64
bits. Single underscores may stand between digits. A float has a fraction
or an exponent, or is one of the words `inf` and `nan`; one too large for
double precision is refused, unless it is negative. A date must stand in
the calendar, and times run to 23:59:60.

A scalar is read as far as it goes; what follows is for others to judge.
-/
import EventAnalytics.Time.Date
import EventAnalytics.Toml.Quoted
import EventAnalytics.Toml.Value

namespace EventAnalytics.Toml

open Text (isDigit digitsValue)

-- ============================================================= digits

/-- The digits that continue a number, in a base given by its test of a
digit, put behind those read so far in reverse. An underscore needs a
digit after it. -/
def readMore (isDigit : Char → Bool) (acc : List Char) :
    List Char → Option (List Char × List Char)
  | '_' :: c :: r => if isDigit c then readMore isDigit (c :: acc) r else none
  | ['_'] => none
  | c :: r =>
    if isDigit c then readMore isDigit (c :: acc) r else some (acc.reverse, c :: r)
  | [] => some (acc.reverse, [])

def readRun (isDigit : Char → Bool) : List Char → Option (List Char × List Char)
  | c :: r => if isDigit c then readMore isDigit [c] r else none
  | [] => none

/-- The digits of a decimal number: a lone zero, or no leading zero. -/
def readWhole : List Char → Option (List Char × List Char)
  | '0' :: r => some (['0'], r)
  | cs => readRun isDigit cs

/-- Whether a number is negative, and the text after its sign. -/
def readSign : List Char → Bool × List Char
  | '-' :: r => (true, r)
  | '+' :: r => (false, r)
  | cs => (false, cs)

-- ============================================================ numbers

/-- A fraction with its point, if there is one. -/
def readFraction : List Char → Option (Option (List Char) × List Char)
  | '.' :: r => (readRun isDigit r).map fun p => (some p.1, p.2)
  | cs => some (none, cs)

/-- An exponent with its letter, if there is one. -/
def readExponent : List Char → Option (Option Int × List Char)
  | 'e' :: r | 'E' :: r =>
    let (negative, r) := readSign r
    (readRun isDigit r).map fun p =>
      let n : Int := digitsValue p.1
      (some (if negative then -n else n), p.2)
  | cs => some (none, cs)

/-- The least number that is too large for double precision: halfway from
the largest double to the power of two above it. -/
def doubleBound : Nat := Nat.pow 2 1024 - Nat.pow 2 970

/-- Whether a significand times a power of ten reaches the bound. Powers
that settle the question by themselves are not computed. -/
def reachesBound (significand : Nat) (e : Int) : Bool :=
  let digits : Int := (Text.numeral significand).length
  if significand = 0 ∨ digits + e < 300 then false
  else if 320 < digits + e then true
  else doubleBound * Nat.pow 10 (-e).toNat ≤ significand * Nat.pow 10 e.toNat

/-- Whether a whole number fits 64 bits with a sign. -/
def fits (negative : Bool) (n : Nat) : Bool :=
  if negative then n ≤ 0x8000000000000000 else n < 0x8000000000000000

/-- The text after a decimal number, if the number is in its limits. -/
def skipDecimal? (cs : List Char) : Option (List Char) := do
  let (negative, r) := readSign cs
  let (whole, r) ← readWhole r
  let (fraction, r) ← readFraction r
  let (exponent, r) ← readExponent r
  if fraction.isNone && exponent.isNone then
    if fits negative (digitsValue whole) then some r else none
  else
    let places := fraction.getD []
    let e := exponent.getD 0 - places.length
    if !negative && reachesBound (digitsValue (whole ++ places)) e then none else some r

/-- The text after a number in another base, if the number fits. -/
def skipBase? (base : Nat) (cs : List Char) : Option (List Char) := do
  let isDigit (c : Char) := match Text.hexValue? c with
    | some v => decide (v < base)
    | none => false
  let (ds, r) ← readRun isDigit cs
  let n := ds.foldl (fun v c => v * base + (Text.hexValue? c).getD 0) 0
  if fits false n then some r else none

def skipNumber? (cs : List Char) : Option (List Char) :=
  match cs with
  | '0' :: 'x' :: r => skipBase? 16 r
  | '0' :: 'o' :: r => skipBase? 8 r
  | '0' :: 'b' :: r => skipBase? 2 r
  | _ =>
    match (readSign cs).2 with
    | 'i' :: 'n' :: 'f' :: r => some r
    | 'n' :: 'a' :: 'n' :: r => some r
    | _ => skipDecimal? cs

-- ============================================================== dates

/-- A number of two digits, up to a bound. -/
def readPair (most : Nat) : List Char → Option (Nat × List Char)
  | a :: b :: r =>
    let n := digitsValue [a, b]
    if isDigit a && isDigit b && n ≤ most then some (n, r) else none
  | _ => none

/-- The text after a given character at its front. -/
def skipChar? (c : Char) : List Char → Option (List Char)
  | d :: r => if d = c then some r else none
  | [] => none

/-- The text after a date of the calendar. -/
def skipDate? (cs : List Char) : Option (List Char) := do
  let (century, r) ← readPair 99 cs
  let (year, r) ← readPair 99 r
  let r ← skipChar? '-' r
  let (month, r) ← readPair 12 r
  let r ← skipChar? '-' r
  let (day, r) ← readPair 31 r
  if (Time.Date.mk (century * 100 + year) month day).exists? then some r else none

/-- The text after a fraction of a second, if there is one. -/
def skipSubsecond (cs : List Char) : List Char :=
  match cs with
  | '.' :: c :: r => if isDigit c then r.dropWhile isDigit else cs
  | _ => cs

/-- The text after a time of day. -/
def skipTime? (cs : List Char) : Option (List Char) := do
  let (_, r) ← readPair 23 cs
  let r ← skipChar? ':' r
  let (_, r) ← readPair 59 r
  let r ← skipChar? ':' r
  let (_, r) ← readPair 60 r
  return skipSubsecond r

/-- The text after an offset from universal time, if there is one. -/
def skipOffset? (cs : List Char) : Option (List Char) :=
  match cs with
  | 'Z' :: r | 'z' :: r => some r
  | '+' :: r | '-' :: r => do
    let (_, r) ← readPair 23 r
    let r ← skipChar? ':' r
    let (_, r) ← readPair 59 r
    return r
  | _ => some cs

/-- The text after what may follow a date: a time of day, and then an
offset. -/
def skipClock? (cs : List Char) : Option (List Char) :=
  match cs with
  | 'T' :: r | 't' :: r | ' ' :: r =>
    match skipTime? r with
    | some r => skipOffset? r
    | none => some cs
  | _ => some cs

/-- Whether a text starts as a date does, by four digits and a hyphen. -/
def startsDate : List Char → Bool
  | a :: b :: c :: d :: '-' :: _ => [a, b, c, d].all isDigit
  | _ => false

/-- Whether a text starts as a time of day does, by two digits and a colon. -/
def startsTime : List Char → Bool
  | a :: b :: ':' :: _ => [a, b].all isDigit
  | _ => false

/-- The text after a date, a time of day or both. -/
def skipMoment? (cs : List Char) : Option (List Char) :=
  if startsDate cs then (skipDate? cs).bind skipClock? else skipTime? cs

-- ============================================================ scalars

def writtenBefore (rest cs : List Char) : String :=
  String.ofList (cs.take (cs.length - rest.length))

/-- A scalar: a quoted text, a truth value, a date or a number. -/
def readScalar (cs : List Char) : Option (Toml × List Char) :=
  match cs with
  | '"' :: _ | '\'' :: _ => (readQuoted cs).map fun p => (.text p.1, p.2)
  | 't' :: 'r' :: 'u' :: 'e' :: r => some (.bool true, r)
  | 'f' :: 'a' :: 'l' :: 's' :: 'e' :: r => some (.bool false, r)
  | _ =>
    if startsDate cs || startsTime cs then
      (skipMoment? cs).map fun r => (.moment (writtenBefore r cs), r)
    else
      (skipNumber? cs).map fun r => (.number (writtenBefore r cs), r)

end EventAnalytics.Toml
