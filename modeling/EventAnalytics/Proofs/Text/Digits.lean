/-
Digits in front of something else.

A reader of numbers takes digits as long as there are any, so what it gets
from a printed number depends on what comes next. `startsPlain` says that
what comes next is no digit; with it, a run of digits is taken whole and
nothing more. The rest is about the numerals themselves: how long they
get, that only zero is printed with a zero in front, and that a positive
number is read from its numeral, zeros in front apart, and from nothing
else (`readNumeral_eq_some_iff`).
-/
import EventAnalytics.Text.Numeral
import Mathlib.Algebra.Group.Nat.Defs
import Mathlib.Data.List.Induction

namespace EventAnalytics.Text

-- ====================================================== runs of digits

/-- Whether a text does not start with a digit. -/
def startsPlain (cs : List Char) : Bool :=
  match cs with
  | [] => true
  | c :: _ => !isDigit c

theorem takeWhile_plain {cs : List Char} (h : startsPlain cs = true) :
    cs.takeWhile isDigit = [] ∧ cs.dropWhile isDigit = cs := by
  cases cs with
  | nil => exact ⟨rfl, rfl⟩
  | cons c r =>
    have hc : isDigit c = false := by simpa [startsPlain] using h
    simp [hc]

/-- A run of digits is taken up to what comes next. -/
theorem takeWhile_digits {ds cs : List Char} (hds : ds.all isDigit = true)
    (hcs : startsPlain cs = true) : (ds ++ cs).takeWhile isDigit = ds := by
  rw [List.takeWhile_append_of_pos (List.all_eq_true.1 hds), (takeWhile_plain hcs).1,
    List.append_nil]

theorem dropWhile_digits {ds cs : List Char} (hds : ds.all isDigit = true)
    (hcs : startsPlain cs = true) : (ds ++ cs).dropWhile isDigit = cs := by
  rw [List.dropWhile_append_of_pos (List.all_eq_true.1 hds), (takeWhile_plain hcs).2]

-- ============================================================ numerals

/-- A number below a power of ten has no more digits than that. -/
theorem length_numeral_le {n w : Nat} (hw : 0 < w) (h : n < 10 ^ w) : (numeral n).length ≤ w := by
  induction w generalizing n with
  | zero => omega
  | succ w ih =>
    unfold numeral
    split
    · simp
    · next hten =>
      have hpow : 10 ^ (w + 1) = 10 * 10 ^ w := by rw [Nat.pow_succ, Nat.mul_comm]
      have hpos : 0 < w := by
        rcases Nat.eq_zero_or_pos w with rfl | hpos
        · omega
        · exact hpos
      have hrest := ih hpos (n := n / 10) (by omega)
      rw [List.length_append, List.length_singleton]
      omega

/-- A padded numeral has the width that was asked for, when it fits. -/
theorem length_padded {n w : Nat} (hw : 0 < w) (h : n < 10 ^ w) : (padded w n).length = w := by
  have hle := length_numeral_le hw h
  rw [padded, List.length_append, List.length_replicate]
  omega

/-- The number that has `k` digits lies between two powers of ten. -/
theorem numeral_bounds (n : Nat) :
    n < 10 ^ (numeral n).length ∧ (n ≠ 0 → 10 ^ ((numeral n).length - 1) ≤ n) := by
  fun_induction numeral n with
  | case1 n h =>
    simp only [List.length_singleton]
    omega
  | case2 n h ih =>
    have hpos : 0 < (numeral (n / 10)).length :=
      List.length_pos_iff.2 (numeral_ne_nil (n / 10))
    rw [List.length_append, List.length_singleton, Nat.pow_succ, Nat.add_sub_cancel]
    refine ⟨by omega, fun _ => ?_⟩
    have hlow := ih.2 (by omega)
    have hpow : 10 ^ (numeral (n / 10)).length = 10 ^ ((numeral (n / 10)).length - 1) * 10 := by
      rw [← Nat.pow_succ]
      congr 1
      omega
    omega

/-- Only zero is printed with a zero in front. -/
theorem head?_numeral {n : Nat} (h : n ≠ 0) : (numeral n).head? ≠ some '0' := by
  fun_induction numeral n with
  | case1 n hlt =>
    intro hc
    have hdigit : (digitChar n).toNat = ('0' : Char).toNat := by
      rw [List.head?_cons, Option.some.injEq] at hc
      rw [hc]
    rw [toNat_digitChar] at hdigit
    have : ('0' : Char).toNat = 48 := rfl
    omega
  | case2 n hlt ih =>
    have hfront := ih (by omega)
    cases hn : numeral (n / 10) with
    | nil => exact absurd hn (numeral_ne_nil (n / 10))
    | cons c r =>
      rw [hn] at hfront
      exact hfront

theorem all_isDigit_zeros (k : Nat) : (List.replicate k '0').all isDigit = true := by
  rw [List.all_eq_true]
  intro c hc
  rw [List.eq_of_mem_replicate hc]
  decide

/-- Padding adds digits only. -/
theorem all_isDigit_padded (w n : Nat) : (padded w n).all isDigit = true := by
  rw [padded, List.all_append, all_isDigit_numeral, all_isDigit_zeros]
  rfl

/-- The length of a numeral, from the powers of ten around the number. -/
theorem length_numeral_eq {n k : Nat} (hlow : 10 ^ k ≤ n) (hhigh : n < 10 ^ (k + 1)) :
    (numeral n).length = k + 1 := by
  have hle := length_numeral_le (Nat.succ_pos k) hhigh
  obtain ⟨hlt, -⟩ := numeral_bounds n
  have := (Nat.pow_lt_pow_iff_right (by decide)).1 (Nat.lt_of_le_of_lt hlow hlt)
  omega

theorem digitChar_digitValue {c : Char} (h : isDigit c = true) : digitChar (digitValue c) = c := by
  rw [isDigit_iff] at h
  apply Char.toNat_inj.1
  rw [toNat_digitChar]
  unfold digitValue
  omega

/-- Digits that do not begin with a zero are the numeral of their value. -/
theorem numeral_digitsValue {ds : List Char} (hne : ds ≠ []) (hds : ds.all isDigit = true)
    (hhead : ds.head? ≠ some '0') : 0 < digitsValue ds ∧ numeral (digitsValue ds) = ds := by
  -- from the back, as numerals are written
  induction ds using List.reverseRecOn with
  | nil => exact absurd rfl hne
  | append_singleton front c ih =>
    rw [List.all_append, Bool.and_eq_true] at hds
    obtain ⟨hfront, hc⟩ := hds
    have hc : isDigit c = true := by simpa using hc
    have hself := digitChar_digitValue hc
    have hlt : digitValue c < 10 := by
      rw [isDigit_iff] at hc
      unfold digitValue
      omega
    have hvalue : digitsValue (front ++ [c]) = 10 * digitsValue front + digitValue c :=
      digitsValue_append front [c]
    by_cases hempty : front = []
    · subst hempty
      have hsingle : digitsValue ([] ++ [c]) = digitValue c := by
        rw [hvalue]
        exact Nat.zero_add _
      rw [hsingle]
      have hzero : digitValue c ≠ 0 := by
        intro hzero
        rw [hzero] at hself
        exact hhead (congrArg some hself.symm)
      refine ⟨Nat.pos_of_ne_zero hzero, ?_⟩
      unfold numeral
      rw [if_pos hlt, hself]
      rfl
    -- what stands in front does not begin with a zero either
    · obtain ⟨hpos, hnumeral⟩ := ih hempty hfront fun hzero => by
        rw [List.head?_append, hzero] at hhead
        exact hhead rfl
      rw [hvalue]
      refine ⟨by omega, ?_⟩
      have hrest : (10 * digitsValue front + digitValue c) / 10 = digitsValue front := by omega
      have hlast : digitChar (10 * digitsValue front + digitValue c) = c := by
        refine Eq.trans (Char.toNat_inj.1 ?_) hself
        rw [toNat_digitChar, toNat_digitChar]
        omega
      unfold numeral
      rw [if_neg (by omega), hrest, hlast, hnumeral]

/-- A positive number is read from its numeral with any number of zeros in
front, and from nothing else. -/
theorem readNumeral_eq_some_iff {ds : List Char} {n : Nat} (hn : 0 < n) :
    readNumeral ds = some n ↔ ∃ zeros, ds = List.replicate zeros '0' ++ numeral n := by
  constructor
  · intro h
    unfold readNumeral at h
    split at h
    · next hds =>
      obtain ⟨hne, hds⟩ := hds
      cases h
      -- zeros in front are taken off one by one
      induction ds with
      | nil => exact absurd rfl hne
      | cons c ds ih =>
        by_cases hc : c = '0'
        · subst hc
          have hvalue : digitsValue ('0' :: ds) = digitsValue ds := digitsValue_zeros 1 ds
          rw [hvalue] at hn ⊢
          have hrest : ds ≠ [] := by
            rintro rfl
            exact Nat.lt_irrefl 0 hn
          rw [List.all_cons, Bool.and_eq_true] at hds
          obtain ⟨zeros, hzeros⟩ := ih hrest hds.2 hn
          exact ⟨zeros + 1, congrArg ('0' :: ·) hzeros⟩
        · have hhead : (c :: ds).head? ≠ some '0' := fun h => hc (Option.some.inj h)
          exact ⟨0, (numeral_digitsValue hne hds hhead).2.symm⟩
    · cases h
  · rintro ⟨zeros, rfl⟩
    unfold readNumeral
    rw [if_pos, digitsValue_zeros, digitsValue_numeral]
    refine ⟨List.append_ne_nil_of_right_ne_nil _ (numeral_ne_nil n), ?_⟩
    rw [List.all_append, all_isDigit_zeros, all_isDigit_numeral]
    rfl

/-- What stands before a run of digits counts as many powers of ten. -/
theorem digitsValue_append_pow (a b : List Char) :
    digitsValue (a ++ b) = digitsValue a * 10 ^ b.length + digitsValue b := by
  induction b using List.reverseRecOn with
  | nil =>
    rw [List.append_nil, List.length_nil, Nat.pow_zero, Nat.mul_one]
    exact (Nat.add_zero _).symm
  | append_singleton b c ih =>
    have hlast : ∀ cs : List Char, digitsValue (cs ++ [c]) = 10 * digitsValue cs + digitValue c :=
      fun cs => digitsValue_append cs [c]
    rw [← List.append_assoc, hlast, hlast, ih, List.length_append, List.length_singleton,
      Nat.pow_succ, Nat.mul_add, Nat.mul_left_comm, Nat.mul_comm 10, Nat.add_assoc]

/-- Digits stand for less than the next power of ten. -/
theorem digitsValue_lt {ds : List Char} (h : ds.all isDigit = true) :
    digitsValue ds < 10 ^ ds.length := by
  induction ds using List.reverseRecOn with
  | nil => exact Nat.one_pos
  | append_singleton ds c ih =>
    rw [List.all_append, Bool.and_eq_true] at h
    have hfront := ih h.1
    have hc : isDigit c = true := by simpa using h.2
    rw [isDigit_iff] at hc
    have hvalue : digitsValue (ds ++ [c]) = 10 * digitsValue ds + digitValue c :=
      digitsValue_append ds [c]
    rw [hvalue, List.length_append, List.length_singleton, Nat.pow_succ]
    unfold digitValue
    omega

/-- As many digits that stand for the same number are the same digits. -/
theorem digitsValue_inj {a b : List Char} (ha : a.all isDigit = true) (hb : b.all isDigit = true)
    (hlength : a.length = b.length) (h : digitsValue a = digitsValue b) : a = b := by
  induction a generalizing b with
  | nil => exact (List.length_eq_zero_iff.1 hlength.symm).symm
  | cons c a ih =>
    cases b with
    | nil => cases hlength
    | cons d b =>
      rw [List.all_cons, Bool.and_eq_true] at ha hb
      have hlength : a.length = b.length := Nat.succ.inj hlength
      have hsingle : ∀ (e : Char) (r : List Char),
          digitsValue (e :: r) = digitValue e * 10 ^ r.length + digitsValue r := by
        intro e r
        have hone : digitsValue [e] = digitValue e := Nat.zero_add _
        rw [← List.singleton_append, digitsValue_append_pow, hone]
      have hpos : 0 < 10 ^ b.length := Nat.pow_pos (by decide)
      have hlow := digitsValue_lt ha.2
      have hlow' := digitsValue_lt hb.2
      rw [hsingle, hsingle, hlength] at h
      rw [hlength] at hlow
      -- the first digits are the quotients by the same power of ten
      have hvalue : digitValue c = digitValue d := by
        have hdiv := congrArg (· / 10 ^ b.length) h
        simpa only [Nat.mul_comm _ (10 ^ b.length), Nat.mul_add_div hpos, Nat.div_eq_of_lt hlow,
          Nat.div_eq_of_lt hlow', Nat.add_zero] using hdiv
      have hchar : c = d := by
        rw [← digitChar_digitValue ha.1, hvalue, digitChar_digitValue hb.1]
      rw [hvalue] at h
      rw [hchar, ih ha.2 hb.2 hlength (Nat.add_left_cancel h)]

/-- Digits are the padded numeral of what they stand for. -/
theorem padded_digitsValue {ds : List Char} (hne : ds ≠ []) (hds : ds.all isDigit = true) :
    padded ds.length (digitsValue ds) = ds :=
  digitsValue_inj (all_isDigit_padded _ _) hds
    (length_padded (List.length_pos_iff.2 hne) (digitsValue_lt hds)) (digitsValue_padded _ _)

/-- Zeros behind a run of digits are powers of ten. -/
theorem digitsValue_append_zeros (cs : List Char) (k : Nat) :
    digitsValue (cs ++ List.replicate k '0') = digitsValue cs * 10 ^ k := by
  have hzeros : digitsValue (List.replicate k '0') = 0 := by
    have hnone := digitsValue_zeros k []
    rwa [List.append_nil] at hnone
  rw [digitsValue_append_pow, List.length_replicate, hzeros, Nat.add_zero]

/-- What is no digit does not stand in a padded numeral. -/
theorem not_mem_padded {c : Char} (hc : isDigit c = false) (w n : Nat) : c ∉ padded w n := by
  intro hm
  have hd := List.all_eq_true.1 (all_isDigit_padded w n) c hm
  rw [hc] at hd
  cases hd

end EventAnalytics.Text
