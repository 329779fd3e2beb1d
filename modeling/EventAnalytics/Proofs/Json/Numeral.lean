/-
Numerals in writing.

A numeral is spelled by an optional minus sign, its whole part, its
fraction and its exponent, of which the whole part has no zero that it does
not need and the exponent may have a sign and zeros in front. `IsSpelled`
says which texts these are. A reader takes such a text whole, provided that
what comes next cannot belong to a number, and takes nothing else
(`readNumber_of_isSpelled`, `isSpelled_of_readNumber`).

`Numeral.chars` is the spelling that the program uses for all of its
numbers: a sign only when it is negative, and the exponent with its sign.
-/
import EventAnalytics.Json.Token
import EventAnalytics.Proofs.Text.Digits

namespace EventAnalytics.Json

open Text (digitsValue isDigit startsPlain)

-- =========================================================== spellings

/-- Whether a text is a run of digits. -/
def IsDigits (ds : List Char) : Prop := ds ≠ [] ∧ ds.all isDigit = true

def Numeral.fractionChars (n : Numeral) : List Char :=
  match n.fraction with
  | none => []
  | some ds => '.' :: ds

/-- How an exponent is spelled, if there is one. -/
inductive SpellsExponent : Option Int → List Char → Prop where
  | none : SpellsExponent none []
  | bare {mark : Char} {ds : List Char} (hmark : mark ∈ ['e', 'E']) (hds : IsDigits ds) :
    SpellsExponent (some (digitsValue ds)) (mark :: ds)
  | plus {mark : Char} {ds : List Char} (hmark : mark ∈ ['e', 'E']) (hds : IsDigits ds) :
    SpellsExponent (some (digitsValue ds)) (mark :: '+' :: ds)
  | minus {mark : Char} {ds : List Char} (hmark : mark ∈ ['e', 'E']) (hds : IsDigits ds) :
    SpellsExponent (some (-(digitsValue ds : Int))) (mark :: '-' :: ds)

/-- Whether the parts are runs of digits, the whole part without a zero
that it does not need. -/
def Numeral.isWellFormed (n : Numeral) : Bool :=
  (n.whole == ['0'] || (!n.whole.isEmpty && n.whole.head? != some '0'))
    && n.whole.all isDigit
    && n.fraction.all fun ds => !ds.isEmpty && ds.all isDigit

/-- The texts that spell a numeral. -/
def Numeral.IsSpelled (n : Numeral) (cs : List Char) : Prop :=
  n.isWellFormed = true ∧ ∃ exponent, SpellsExponent n.exponent exponent
    ∧ cs = (if n.negative then ['-'] else []) ++ (n.whole ++ (n.fractionChars ++ exponent))

/-- A numeral that is well formed starts with a digit. -/
theorem Numeral.exists_whole (n : Numeral) (h : n.isWellFormed = true) :
    ∃ d ds, n.whole = d :: ds ∧ isDigit d = true := by
  simp only [Numeral.isWellFormed, Bool.and_eq_true] at h
  obtain ⟨⟨hform, hdigits⟩, -⟩ := h
  cases hwhole : n.whole with
  | nil =>
    rw [hwhole] at hform
    cases hform
  | cons d ds =>
    rw [hwhole, List.all_cons, Bool.and_eq_true] at hdigits
    exact ⟨d, ds, rfl, hdigits.1⟩

/-- A number starts with a digit or with a minus sign. -/
theorem Numeral.IsSpelled.exists_cons {n : Numeral} {cs : List Char} (h : n.IsSpelled cs) :
    ∃ c r, cs = c :: r ∧ (isDigit c || c == '-') = true := by
  obtain ⟨hform, exponent, -, rfl⟩ := h
  obtain ⟨d, ds, hwhole, hd⟩ := n.exists_whole hform
  rw [hwhole]
  cases n.negative with
  | true => exact ⟨'-', _, rfl, rfl⟩
  | false => exact ⟨d, _, rfl, by rw [hd]; rfl⟩

-- ================================================ reading what is spelled

/-- Whether a text starts with nothing that a number could go on with. -/
def endsNumber (cs : List Char) : Bool :=
  match cs with
  | [] => true
  | c :: _ => !isDigit c && c != '.' && c != 'e' && c != 'E'

/-- What ends a number does not go on with its digits. -/
theorem startsPlain_of_endsNumber {cs : List Char} (h : endsNumber cs = true) :
    startsPlain cs = true := by
  cases cs with
  | nil => rfl
  | cons c r =>
    simp only [endsNumber, Bool.and_eq_true] at h
    exact h.1.1.1

/-- Digits are read up to where none goes on with them. -/
theorem readDigits_append {ds cs : List Char} (hds : IsDigits ds) (hcs : startsPlain cs = true) :
    readDigits (ds ++ cs) = some (ds, cs) := by
  unfold readDigits
  rw [Text.takeWhile_digits hds.2 hcs, Text.dropWhile_digits hds.2 hcs]
  cases ds with
  | nil => exact absurd rfl hds.1
  | cons d r => rfl

/-- The whole part is taken up to what comes next. -/
theorem readWhole_append {n : Numeral} (h : n.isWellFormed = true) {cs : List Char}
    (hcs : startsPlain cs = true) : readWhole (n.whole ++ cs) = some (n.whole, cs) := by
  simp only [Numeral.isWellFormed, Bool.and_eq_true, Bool.or_eq_true, beq_iff_eq, bne_iff_ne] at h
  obtain ⟨⟨hzero | ⟨hne, hfront⟩, hdigits⟩, -⟩ := h
  · rw [hzero]
    unfold readWhole
    simp only [List.cons_append, List.nil_append]
    cases cs with
    | nil => rfl
    | cons c r =>
      have hc : isDigit c = false := by simpa [startsPlain] using hcs
      simp [hc]
  · cases hw : n.whole with
    | nil => simp [hw] at hne
    | cons d r =>
      rw [hw] at hfront hdigits
      have hd : d ≠ '0' := by simpa using hfront
      have hread := readDigits_append ⟨List.cons_ne_nil d r, hdigits⟩ hcs
      unfold readWhole
      simp only [List.cons_append]
      split
      · next heq =>
        rw [List.cons.injEq] at heq
        exact absurd heq.1 hd
      · exact hread

/-- A fraction is read as far as it goes, and no further than that. -/
theorem readFraction_append {n : Numeral} (h : n.isWellFormed = true) {cs : List Char}
    (hcs : startsPlain cs = true) (hdot : cs.head? ≠ some '.') :
    readFraction (n.fractionChars ++ cs) = some (n.fraction, cs) := by
  simp only [Numeral.isWellFormed, Bool.and_eq_true] at h
  unfold Numeral.fractionChars
  cases hf : n.fraction with
  | none =>
    unfold readFraction
    simp only [List.nil_append]
    split
    · simp at hdot
    · rfl
  | some ds =>
    have hds := h.2
    rw [hf, Option.all_some, Bool.and_eq_true] at hds
    have hread := readDigits_append ⟨by simpa using hds.1, hds.2⟩ hcs
    show (readDigits (ds ++ cs)).map _ = _
    rw [hread]
    rfl

/-- The digits of an exponent, after its mark, are taken with their sign. -/
theorem readExponent_mark {mark : Char} (hmark : mark ∈ ['e', 'E']) (cs : List Char) :
    readExponent (mark :: cs) = (readSigned cs).map fun p => (some p.1, p.2) := by
  simp only [List.mem_cons, List.not_mem_nil, or_false] at hmark
  rcases hmark with rfl | rfl <;> rfl

/-- Digits without a sign are those of a number that is not negative. -/
theorem readSigned_of_plain {cs : List Char} (hplus : cs.head? ≠ some '+')
    (hminus : cs.head? ≠ some '-') :
    readSigned cs = (readDigits cs).map fun p => ((digitsValue p.1 : Int), p.2) := by
  unfold readSigned
  split
  · exact absurd rfl hplus
  · exact absurd rfl hminus
  · rfl

/-- The first of some digits, whatever follows them, is no sign. -/
theorem IsDigits.head?_append {ds : List Char} (h : IsDigits ds) (cs : List Char) {c : Char}
    (hc : isDigit c = false) : (ds ++ cs).head? ≠ some c := by
  obtain ⟨hne, hds⟩ := h
  cases ds with
  | nil => exact absurd rfl hne
  | cons d r =>
    rw [List.all_cons, Bool.and_eq_true] at hds
    intro heq
    cases heq
    cases hds.1.symm.trans hc

/-- An exponent is read whatever way it is spelled. -/
theorem readExponent_of_spells {e : Option Int} {exponent cs : List Char}
    (h : SpellsExponent e exponent) (hcs : endsNumber cs = true) :
    readExponent (exponent ++ cs) = some (e, cs) := by
  have hplain := startsPlain_of_endsNumber hcs
  cases h with
  | none =>
    unfold readExponent
    simp only [List.nil_append]
    split
    · simp [endsNumber] at hcs
    · simp [endsNumber] at hcs
    · rfl
  | bare hmark hds =>
    rw [List.cons_append, readExponent_mark hmark,
      readSigned_of_plain (hds.head?_append cs rfl) (hds.head?_append cs rfl),
      readDigits_append hds hplain]
    rfl
  | @plus mark ds hmark hds =>
    rw [List.cons_append, readExponent_mark hmark]
    show ((readDigits (ds ++ cs)).map _).map _ = _
    rw [readDigits_append hds hplain]
    rfl
  | @minus mark ds hmark hds =>
    rw [List.cons_append, readExponent_mark hmark]
    show ((readDigits (ds ++ cs)).map _).map _ = _
    rw [readDigits_append hds hplain]
    rfl

/-- What comes after the whole part of a numeral is no digit. -/
theorem startsPlain_rest (n : Numeral) {e : Option Int} {exponent cs : List Char}
    (h : SpellsExponent e exponent) (hcs : endsNumber cs = true) :
    startsPlain (exponent ++ cs) = true ∧ (exponent ++ cs).head? ≠ some '.'
      ∧ startsPlain (n.fractionChars ++ (exponent ++ cs)) = true := by
  have hmarked : ∀ {mark : Char} {r : List Char}, mark ∈ ['e', 'E'] →
      startsPlain (mark :: r) = true ∧ (mark :: r).head? ≠ some '.' := by
    intro mark r hmark
    simp only [List.mem_cons, List.not_mem_nil, or_false] at hmark
    rcases hmark with rfl | rfl <;> exact ⟨rfl, by simp⟩
  have hexponent : startsPlain (exponent ++ cs) = true ∧ (exponent ++ cs).head? ≠ some '.' := by
    cases h with
    | none =>
      refine ⟨startsPlain_of_endsNumber hcs, ?_⟩
      cases cs with
      | nil => simp
      | cons c r =>
        simp only [endsNumber, Bool.and_eq_true, bne_iff_ne] at hcs
        simpa using hcs.1.1.2
    | bare hmark => exact hmarked hmark
    | plus hmark => exact hmarked hmark
    | minus hmark => exact hmarked hmark
  refine ⟨hexponent.1, hexponent.2, ?_⟩
  unfold Numeral.fractionChars
  cases n.fraction with
  | none => exact hexponent.1
  | some ds => rfl

/-- A spelled numeral is read up to what comes next. -/
theorem readNumber_of_isSpelled {n : Numeral} {number : List Char} (h : n.IsSpelled number)
    {cs : List Char} (hcs : endsNumber cs = true) : readNumber (number ++ cs) = some (n, cs) := by
  obtain ⟨hform, exponent, hexponent, rfl⟩ := h
  obtain ⟨hmarked, hdot, hrest⟩ := startsPlain_rest n hexponent hcs
  have hunsigned : readUnsigned n.negative (n.whole ++ (n.fractionChars ++ (exponent ++ cs)))
      = some (n, cs) := by
    unfold readUnsigned
    rw [readWhole_append hform hrest]
    simp only
    rw [readFraction_append hform hmarked hdot]
    simp only
    rw [readExponent_of_spells hexponent hcs]
    rfl
  simp only [List.append_assoc]
  cases hneg : n.negative with
  | true =>
    rw [hneg] at hunsigned
    exact hunsigned
  | false =>
    rw [hneg] at hunsigned
    unfold readNumber
    simp only [Bool.false_eq_true, if_false, List.nil_append]
    split
    · next r heq =>
      obtain ⟨d, ds, hwhole, hd⟩ := n.exists_whole hform
      rw [hwhole, List.cons_append, List.cons.injEq] at heq
      rw [heq.1] at hd
      cases hd
    · exact hunsigned

-- ================================================ what was read is spelled

/-- What is read as digits are digits, and stood in front. -/
theorem digits_of_readDigits {cs ds r : List Char} (h : readDigits cs = some (ds, r)) :
    cs = ds ++ r ∧ IsDigits ds := by
  unfold readDigits at h
  split at h
  · cases h
  · next hne =>
    cases h
    exact ⟨List.takeWhile_append_dropWhile.symm, hne, List.all_takeWhile⟩

/-- What is read as the whole part has no zero in front, unless it is the
zero. -/
theorem whole_of_readWhole {cs whole r : List Char} (h : readWhole cs = some (whole, r)) :
    cs = whole ++ r
      ∧ ((whole == ['0'] || (!whole.isEmpty && whole.head? != some '0')) && whole.all isDigit)
        = true := by
  unfold readWhole at h
  split at h
  · next rest =>
    have hzero : some (['0'], rest) = some (whole, r) := by
      split at h
      · split at h
        · cases h
        · exact h
      · exact h
    cases hzero
    exact ⟨rfl, rfl⟩
  · next hfront =>
    obtain ⟨rfl, hne, hdigits⟩ := digits_of_readDigits h
    refine ⟨rfl, ?_⟩
    cases whole with
    | nil => exact absurd rfl hne
    | cons d ds =>
      have hd : d ≠ '0' := by
        rintro rfl
        exact hfront _ rfl
      rw [hdigits]
      simp [hd]

/-- What is read as a fraction is a point and some digits, or nothing. -/
theorem fraction_of_readFraction {cs r : List Char} {fraction : Option (List Char)}
    (h : readFraction cs = some (fraction, r)) :
    (∀ n : Numeral, n.fraction = fraction → cs = n.fractionChars ++ r)
      ∧ fraction.all (fun ds => !ds.isEmpty && ds.all isDigit) = true := by
  unfold readFraction at h
  split at h
  · obtain ⟨⟨ds, r'⟩, hdigits, hp⟩ := Option.map_eq_some_iff.1 h
    cases hp
    obtain ⟨rfl, hne, hds⟩ := digits_of_readDigits hdigits
    refine ⟨fun n hn => ?_, ?_⟩
    · unfold Numeral.fractionChars
      rw [hn]
      rfl
    · rw [Option.all_some, hds]
      simpa using hne
  · cases h
    refine ⟨fun n hn => ?_, rfl⟩
    unfold Numeral.fractionChars
    rw [hn]
    rfl

/-- What is read as an exponent is a spelling of it, or nothing. -/
theorem spells_of_readExponent {cs r : List Char} {e : Option Int}
    (h : readExponent cs = some (e, r)) :
    ∃ exponent, cs = exponent ++ r ∧ SpellsExponent e exponent := by
  have hsigned : ∀ {mark : Char} {cs : List Char}, mark ∈ ['e', 'E'] →
      (readSigned cs).map (fun p => (some p.1, p.2)) = some (e, r) →
      ∃ exponent, mark :: cs = exponent ++ r ∧ SpellsExponent e exponent := by
    intro mark cs hmark h
    obtain ⟨⟨v, r'⟩, hsigned, hp⟩ := Option.map_eq_some_iff.1 h
    cases hp
    unfold readSigned at hsigned
    split at hsigned
    · obtain ⟨⟨ds, r'⟩, hdigits, hp⟩ := Option.map_eq_some_iff.1 hsigned
      cases hp
      obtain ⟨rfl, hds⟩ := digits_of_readDigits hdigits
      exact ⟨_, rfl, .plus hmark hds⟩
    · obtain ⟨⟨ds, r'⟩, hdigits, hp⟩ := Option.map_eq_some_iff.1 hsigned
      cases hp
      obtain ⟨rfl, hds⟩ := digits_of_readDigits hdigits
      exact ⟨_, rfl, .minus hmark hds⟩
    · obtain ⟨⟨ds, r'⟩, hdigits, hp⟩ := Option.map_eq_some_iff.1 hsigned
      cases hp
      obtain ⟨rfl, hds⟩ := digits_of_readDigits hdigits
      exact ⟨_, rfl, .bare hmark hds⟩
  unfold readExponent at h
  split at h
  · exact hsigned (by simp) h
  · exact hsigned (by simp) h
  · cases h
    exact ⟨[], rfl, .none⟩

/-- What is read behind the sign is a spelling of the numeral. -/
theorem isSpelled_of_readUnsigned {negative : Bool} {cs r : List Char} {n : Numeral}
    (h : readUnsigned negative cs = some (n, r)) :
    ∃ number, cs = number ++ r
      ∧ n.IsSpelled ((if negative then ['-'] else []) ++ number) := by
  unfold readUnsigned at h
  split at h
  · cases h
  · next whole r₁ hwhole =>
    split at h
    · cases h
    · next fraction r₂ hfraction =>
      obtain ⟨⟨e, r₃⟩, hexponent, hp⟩ := Option.map_eq_some_iff.1 h
      cases hp
      obtain ⟨rfl, hw⟩ := whole_of_readWhole hwhole
      obtain ⟨hchars, hf⟩ := fraction_of_readFraction hfraction
      obtain ⟨exponent, rfl, he⟩ := spells_of_readExponent hexponent
      refine ⟨whole ++ (_ ++ exponent), ?_, ?_, exponent, he, rfl⟩
      · rw [hchars ⟨negative, whole, fraction, e⟩ rfl]
        simp only [List.append_assoc]
      · unfold Numeral.isWellFormed
        rw [hw, hf]
        rfl

/-- What a reader takes for a number spells it. -/
theorem isSpelled_of_readNumber {cs r : List Char} {n : Numeral}
    (h : readNumber cs = some (n, r)) : ∃ number, cs = number ++ r ∧ n.IsSpelled number := by
  unfold readNumber at h
  split at h
  · obtain ⟨number, rfl, hn⟩ := isSpelled_of_readUnsigned h
    exact ⟨_, rfl, hn⟩
  · exact isSpelled_of_readUnsigned h

-- ============================================================ writing

def Numeral.exponentChars (n : Numeral) : List Char :=
  match n.exponent with
  | none => []
  | some e => 'e' :: (if e < 0 then '-' else '+') :: Text.numeral e.natAbs

def Numeral.chars (n : Numeral) : List Char :=
  (if n.negative then ['-'] else []) ++ (n.whole ++ (n.fractionChars ++ n.exponentChars))

/-- The writing of a well-formed numeral spells it. -/
theorem Numeral.isSpelled_chars {n : Numeral} (h : n.isWellFormed = true) :
    n.IsSpelled n.chars := by
  refine ⟨h, n.exponentChars, ?_, rfl⟩
  unfold exponentChars
  cases n.exponent with
  | none => exact .none
  | some e =>
    have hdigits : IsDigits (Text.numeral e.natAbs) :=
      ⟨Text.numeral_ne_nil _, Text.all_isDigit_numeral _⟩
    have hvalue := Text.digitsValue_numeral e.natAbs
    show SpellsExponent (some e) ('e' :: (if e < 0 then '-' else '+') :: Text.numeral e.natAbs)
    by_cases hneg : e < 0
    · have hspelled := SpellsExponent.minus List.mem_cons_self hdigits
      rw [hvalue] at hspelled
      rw [if_pos hneg]
      have he : -(e.natAbs : Int) = e := by omega
      rwa [he] at hspelled
    · have hspelled := SpellsExponent.plus List.mem_cons_self hdigits
      rw [hvalue] at hspelled
      rw [if_neg hneg]
      have he : (e.natAbs : Int) = e := by omega
      rwa [he] at hspelled

end EventAnalytics.Json
