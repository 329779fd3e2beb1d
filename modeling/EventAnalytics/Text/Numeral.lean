/-
Decimal numerals: printing whole numbers, with or without padding, and
reading a run of digits back.

A numeral is a list of ASCII digits, the most significant first. Printing
gives the shortest one (a lone zero for zero); reading folds the digits
from the left and so accepts leading zeros. The two fit together: reading
undoes printing, and padding with zeros does not change what is read.
-/

namespace EventAnalytics.Text

/-- The digit of a number below ten. -/
def digitChar (n : Nat) : Char :=
  Char.ofNat (48 + n % 10)

/-- The value of a digit; other characters have no use here. -/
def digitValue (c : Char) : Nat :=
  c.toNat - 48

/-- Whether a character is one of the ten ASCII digits. -/
def isDigit (c : Char) : Bool :=
  48 ≤ c.toNat && c.toNat ≤ 57

/-- The value of a hexadecimal digit. -/
def hexValue? (c : Char) : Option Nat :=
  let n := c.toNat
  if 48 ≤ n ∧ n ≤ 57 then some (n - 48)
  else if 65 ≤ n ∧ n ≤ 70 then some (n - 55)
  else if 97 ≤ n ∧ n ≤ 102 then some (n - 87)
  else none

/-- Whether a character is an ASCII letter. -/
def isLetter (c : Char) : Bool :=
  (65 ≤ c.toNat && c.toNat ≤ 90) || (97 ≤ c.toNat && c.toNat ≤ 122)

/-- An ASCII capital as its small letter; all else unchanged. -/
def lowerChar (c : Char) : Char :=
  if 65 ≤ c.toNat && c.toNat ≤ 90 then Char.ofNat (c.toNat + 32) else c

/-- A text with its ASCII capitals made small. -/
def lowered (s : String) : String :=
  String.ofList (s.toList.map lowerChar)

/-- The shortest numeral of a number. -/
def numeral (n : Nat) : List Char :=
  if n < 10 then [digitChar n] else numeral (n / 10) ++ [digitChar n]
termination_by n

/-- The numeral of an integer, with a minus sign when it is negative. -/
def intNumeral (n : Int) : List Char :=
  if n < 0 then '-' :: numeral n.natAbs else numeral n.natAbs

/-- A numeral filled up with zeros in front to at least `width` digits. -/
def padded (width n : Nat) : List Char :=
  List.replicate (width - (numeral n).length) '0' ++ numeral n

/-- The number that a run of digits stands for. -/
def digitsValue (cs : List Char) : Nat :=
  cs.foldl (fun v c => 10 * v + digitValue c) 0

/-- The number written by a text of one or more digits. -/
def readNumeral (cs : List Char) : Option Nat :=
  if cs ≠ [] ∧ cs.all isDigit then some (digitsValue cs) else none

-- ================================================ reading and printing

theorem isDigit_iff {c : Char} : isDigit c = true ↔ 48 ≤ c.toNat ∧ c.toNat ≤ 57 := by
  simp [isDigit]

theorem toNat_digitChar (n : Nat) : (digitChar n).toNat = 48 + n % 10 := by
  have h : n % 10 < 10 := Nat.mod_lt _ (by decide)
  unfold digitChar
  generalize n % 10 = k at h
  have : ∀ k : Fin 10, (Char.ofNat (48 + k.val)).toNat = 48 + k.val := by decide
  exact this ⟨k, h⟩

theorem isDigit_digitChar (n : Nat) : isDigit (digitChar n) = true := by
  rw [isDigit_iff, toNat_digitChar]
  have : n % 10 < 10 := Nat.mod_lt _ (by decide)
  omega

theorem digitValue_digitChar (n : Nat) : digitValue (digitChar n) = n % 10 := by
  unfold digitValue
  rw [toNat_digitChar]
  omega

theorem digitsValue_append (a b : List Char) :
    digitsValue (a ++ b) = b.foldl (fun v c => 10 * v + digitValue c) (digitsValue a) := by
  simp [digitsValue, List.foldl_append]

/-- Printing gives digits only. -/
theorem all_isDigit_numeral (n : Nat) : (numeral n).all isDigit = true := by
  fun_induction numeral n with
  | case1 n h => simp [isDigit_digitChar]
  | case2 n h ih => simp [List.all_append, ih, isDigit_digitChar]

theorem numeral_ne_nil (n : Nat) : numeral n ≠ [] := by
  unfold numeral
  split <;> simp

/-- Reading undoes printing. -/
theorem digitsValue_numeral (n : Nat) : digitsValue (numeral n) = n := by
  fun_induction numeral n with
  | case1 n h => simp [digitsValue, digitValue_digitChar]; omega
  | case2 n h ih =>
    rw [digitsValue_append, ih]
    simp [digitValue_digitChar]
    omega

theorem digitsValue_zeros (k : Nat) (cs : List Char) :
    digitsValue (List.replicate k '0' ++ cs) = digitsValue cs := by
  induction k with
  | zero => simp
  | succ k ih => simpa [List.replicate_succ, digitsValue, digitValue] using ih

/-- Padding does not change what is read. -/
theorem digitsValue_padded (w n : Nat) : digitsValue (padded w n) = n := by
  rw [padded, digitsValue_zeros, digitsValue_numeral]

end EventAnalytics.Text
