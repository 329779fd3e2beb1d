/-
Which texts are made of which tokens.

A text is made of some tokens when it spells them one after the other, with
blanks before, between and behind them (`Lexes`). The spellings of a token
are told apart from any reader: marks and literals have one each, numbers
those of their numerals, and strings all ways of spelling their characters,
a unit of 16 bits for a character and two surrogates for one.

Cutting a text gives tokens that it is made of (`lexes_of_tokens`), and all
of them, unless two numbers stand next to each other, where one text could
spell more than one number (`tokens_of_lexes`). In both directions the work
is done token by token (`isSpelled_of_readToken`, `readToken_of_isSpelled`),
for numbers and the pieces of strings apart.
-/
import EventAnalytics.Proofs.Json.Numeral
import Mathlib.Data.List.Chain

namespace EventAnalytics.Json

open Text (isDigit)

-- =========================================================== spellings

/-- The texts that spell a piece of a string. -/
inductive Piece.IsSpelled : Piece → List Char → Prop where
  | plain {c : Char} (hquote : c ≠ '"') (hbackslash : c ≠ '\\') (hcontrol : 32 ≤ c.toNat) :
    IsSpelled (.char c) [c]
  | escaped {e c : Char} (h : escapeChar? e = some c) : IsSpelled (.char c) ['\\', e]
  | unit {a b c d : Char} {n : Nat} (h : hexUnit? a b c d = some n) :
    IsSpelled (.unit n) ['\\', 'u', a, b, c, d]

/-- The texts that spell some pieces one after the other. -/
inductive SpellsPieces : List Piece → List Char → Prop where
  | nil : SpellsPieces [] []
  | cons {p : Piece} {ps : List Piece} {spelling cs : List Char} (h : p.IsSpelled spelling)
    (hs : SpellsPieces ps cs) : SpellsPieces (p :: ps) (spelling ++ cs)

/-- The characters that pieces stand for. A unit stands for the character
with its number, unless it is a surrogate; a high and a low surrogate in a
row stand for one character. -/
inductive Mean : List Piece → List Char → Prop where
  | nil : Mean [] []
  | char {c : Char} {ps : List Piece} {cs : List Char} (h : Mean ps cs) :
    Mean (.char c :: ps) (c :: cs)
  | unit {n : Nat} {ps : List Piece} {cs : List Char} (hn : n < 0xD800 ∨ 0xE000 ≤ n)
    (h : Mean ps cs) : Mean (.unit n :: ps) (Char.ofNat n :: cs)
  | pair {n m : Nat} {ps : List Piece} {cs : List Char} (hn : 0xD800 ≤ n ∧ n < 0xDC00)
    (hm : 0xDC00 ≤ m ∧ m < 0xE000) (h : Mean ps cs) :
    Mean (.unit n :: .unit m :: ps)
      (Char.ofNat (0x10000 + (n - 0xD800) * 1024 + (m - 0xDC00)) :: cs)

/-- The texts that spell a token. A string that names no text has its pieces
all the same. -/
inductive Token.IsSpelled : Token → List Char → Prop where
  | openBracket : IsSpelled .openBracket ['[']
  | closeBracket : IsSpelled .closeBracket [']']
  | openBrace : IsSpelled .openBrace ['\x7b']
  | closeBrace : IsSpelled .closeBrace ['\x7d']
  | colon : IsSpelled .colon [':']
  | comma : IsSpelled .comma [',']
  | null : IsSpelled .null ['n', 'u', 'l', 'l']
  | true : IsSpelled (.bool true) ['t', 'r', 'u', 'e']
  | false : IsSpelled (.bool false) ['f', 'a', 'l', 's', 'e']
  | number {n : Numeral} {cs : List Char} (h : n.IsSpelled cs) : IsSpelled (.number n) cs
  | string {ps : List Piece} {cs : List Char} {value : Option String} (h : SpellsPieces ps cs)
    (hvalue : ∀ s, value = some s ↔ Mean ps s.toList) :
    IsSpelled (.string value) ('"' :: (cs ++ ['"']))

/-- The texts that are made of some tokens, with blanks anywhere between
them. -/
inductive Lexes : List Char → List Token → Prop where
  | nil : Lexes [] []
  | blank {c : Char} {cs : List Char} {ts : List Token} (hc : isSpace c = true)
    (h : Lexes cs ts) : Lexes (c :: cs) ts
  | token {t : Token} {spelling cs : List Char} {ts : List Token} (ht : t.IsSpelled spelling)
    (h : Lexes cs ts) : Lexes (spelling ++ cs) (t :: ts)

/-- Two texts that are cut into tokens are so together. -/
theorem Lexes.append {a b : List Char} {ts us : List Token} (ha : Lexes a ts) (hb : Lexes b us) :
    Lexes (a ++ b) (ts ++ us) := by
  induction ha with
  | nil => exact hb
  | blank hc _ ih => exact .blank hc ih
  | token ht _ ih =>
    rw [List.append_assoc, List.cons_append]
    exact .token ht ih

theorem Token.IsSpelled.lexes {t : Token} {cs : List Char} (h : t.IsSpelled cs) :
    Lexes cs [t] := by
  have hone := Lexes.token h .nil
  rwa [List.append_nil] at hone

-- =========================================================== strings

/-- Pieces are joined to the characters that they stand for. -/
theorem joinPieces_of_mean {ps : List Piece} {cs : List Char} (h : Mean ps cs) (acc : List Char) :
    joinPieces acc ps = some (acc.reverse ++ cs) := by
  induction h generalizing acc with
  | nil =>
    rw [List.append_nil]
    rfl
  | char _ ih =>
    rw [joinPieces, ih, List.reverse_cons, List.append_assoc]
    rfl
  | unit hn _ ih =>
    rw [joinPieces.eq_def]
    simp only
    rw [if_neg (by omega), if_neg (by omega), ih, List.reverse_cons, List.append_assoc]
    rfl
  | pair hn hm _ ih =>
    rw [joinPieces.eq_def]
    simp only
    rw [if_pos hn, if_pos hm, ih, List.reverse_cons, List.append_assoc]
    rfl

/-- What pieces are joined to is what they stand for. -/
theorem mean_of_joinPieces {acc cs : List Char} {ps : List Piece}
    (h : joinPieces acc ps = some cs) : ∃ new, cs = acc.reverse ++ new ∧ Mean ps new := by
  -- the cases are those of the joining: a character, a pair of surrogates, a
  -- failure, or a unit of its own
  induction acc, ps using joinPieces.induct generalizing cs with
  | case1 acc =>
    cases h
    exact ⟨[], (List.append_nil _).symm, .nil⟩
  | case2 acc c ps ih =>
    rw [joinPieces] at h
    obtain ⟨new, rfl, hmean⟩ := ih h
    exact ⟨c :: new, by simp, .char hmean⟩
  | case3 acc n hn m ps hm ih =>
    rw [joinPieces.eq_def] at h
    simp only [if_pos hn, if_pos hm] at h
    obtain ⟨new, rfl, hmean⟩ := ih h
    exact ⟨_ :: new, by simp, .pair hn hm hmean⟩
  | case4 acc n hn m ps hm =>
    rw [joinPieces.eq_def] at h
    simp only [if_pos hn, if_neg hm] at h
    cases h
  | case5 acc n ps hn hnone =>
    rw [joinPieces.eq_def] at h
    simp only [if_pos hn] at h
    cases h
  | case6 acc n ps hhigh hlow =>
    rw [joinPieces.eq_def] at h
    simp only [if_neg hhigh, if_pos hlow] at h
    cases h
  | case7 acc n ps hhigh hlow ih =>
    rw [joinPieces.eq_def] at h
    simp only [if_neg hhigh, if_neg hlow] at h
    obtain ⟨new, rfl, hmean⟩ := ih h
    exact ⟨_ :: new, by simp, .unit (by omega) hmean⟩

/-- The text of a string is what its pieces stand for, if that is one. -/
theorem map_joinPieces_eq_some_iff {ps : List Piece} {s : String} :
    (joinPieces [] ps).map String.ofList = some s ↔ Mean ps s.toList := by
  constructor
  · intro h
    obtain ⟨cs, hcs, rfl⟩ := Option.map_eq_some_iff.1 h
    obtain ⟨new, rfl, hmean⟩ := mean_of_joinPieces hcs
    rw [String.toList_ofList]
    exact hmean
  · intro h
    rw [joinPieces_of_mean h, Option.map_some, List.reverse_nil, List.nil_append,
      String.ofList_toList]

/-- A spelled piece is read as the piece. -/
theorem readPieces_of_isSpelled {p : Piece} {spelling : List Char} (h : p.IsSpelled spelling)
    (acc : List Piece) (cs : List Char) :
    readPieces acc (spelling ++ cs) = readPieces (p :: acc) cs := by
  cases h with
  | plain hquote hbackslash hcontrol =>
    -- The spelling begins none of the escapes that are tried before.
    rw [List.singleton_append, readPieces, if_neg]
    · rintro (heq | hlow)
      · exact hbackslash heq
      · omega
    · exact hquote
    · intro _ _ _ _ _ heq _
      exact hbackslash heq
    · intro _ _ heq _
      exact hbackslash heq
  | @escaped e c h =>
    have hu : e ≠ 'u' := by
      rintro rfl
      cases h
    show readPieces acc ('\\' :: e :: cs) = _
    rw [readPieces, h]
    intro _ _ _ _ _ heq _
    exact hu heq
  | unit h =>
    simp only [List.cons_append, List.nil_append]
    rw [readPieces, h]

/-- Pieces are read as they are spelled, up to the quote. -/
theorem readPieces_of_spells {ps : List Piece} {cs : List Char} (h : SpellsPieces ps cs)
    (acc : List Piece) (r : List Char) :
    readPieces acc (cs ++ '"' :: r) = some (acc.reverse ++ ps, r) := by
  induction h generalizing acc with
  | nil =>
    rw [List.append_nil]
    rfl
  | cons h _ ih =>
    rw [List.append_assoc, readPieces_of_isSpelled h, ih, List.reverse_cons, List.append_assoc]
    rfl

/-- What is read as pieces, up to a quote, spells them. -/
theorem spells_of_readPieces {acc ps : List Piece} {cs r : List Char}
    (h : readPieces acc cs = some (ps, r)) :
    ∃ new inside, ps = acc.reverse ++ new ∧ cs = inside ++ '"' :: r
      ∧ SpellsPieces new inside := by
  -- a piece in front, once the rest is spelled
  have hstep : ∀ {acc : List Piece} {p : Piece} {spelling rest : List Char},
      p.IsSpelled spelling →
      (∃ new inside, ps = (p :: acc).reverse ++ new ∧ rest = inside ++ '"' :: r
        ∧ SpellsPieces new inside) →
      ∃ new inside, ps = acc.reverse ++ new ∧ spelling ++ rest = inside ++ '"' :: r
        ∧ SpellsPieces new inside := by
    intro acc p spelling rest hp hrest
    obtain ⟨new, inside, rfl, rfl, hspells⟩ := hrest
    exact ⟨p :: new, spelling ++ inside, by simp, by simp, .cons hp hspells⟩
  -- the cases are those of the reader
  induction acc, cs using readPieces.induct with
  | case1 acc => cases h
  | case2 acc rest =>
    rw [readPieces] at h
    cases h
    exact ⟨[], [], (List.append_nil _).symm, rfl, .nil⟩
  | case3 acc a b c d rest n hn ih =>
    rw [readPieces, hn] at h
    exact hstep (.unit hn) (ih h)
  | case4 acc a b c d rest hnone =>
    rw [readPieces, hnone] at h
    cases h
  | case5 acc e rest hunit c hc ih =>
    rw [readPieces, hc] at h
    · exact hstep (.escaped hc) (ih h)
    · exact hunit
  | case6 acc e rest hunit hnone =>
    rw [readPieces, hnone] at h
    · cases h
    · exact hunit
  | case7 acc c rest hquote hunit hescape hbad =>
    rw [readPieces, if_pos hbad] at h
    · cases h
    all_goals assumption
  | case8 acc c rest hquote hunit hescape hgood ih =>
    rw [readPieces, if_neg hgood] at h
    · rw [not_or] at hgood
      exact hstep (.plain hquote hgood.1 (by omega)) (ih h)
    all_goals assumption

-- ============================================================ readers

/-- Whether a token is a number. -/
def Token.isNumber : Token → Bool
  | .number _ => true
  | _ => false

/-- A spelled token is read, unless it is a number and what follows can be
read as more of it. It does not start with a blank. -/
theorem readToken_of_isSpelled {t : Token} {spelling : List Char} (h : t.IsSpelled spelling)
    {cs : List Char} (hcs : t.isNumber = true → endsNumber cs = true) :
    readToken (spelling ++ cs) = some (t, cs) ∧ ∃ c r, spelling = c :: r ∧ isSpace c = false := by
  cases h with
  -- tokens with a spelling of their own are read by their first characters
  | openBracket | closeBracket | openBrace | closeBrace | colon | comma | null | true | false =>
    exact ⟨rfl, _, _, rfl, rfl⟩
  | @number n _ h =>
    have hread := readNumber_of_isSpelled h (hcs rfl)
    obtain ⟨c, r, rfl, hc⟩ := h.exists_cons
    -- a number starts with a digit or a sign, so that no other token is read
    have hne : ∀ b : Char, (isDigit b || b == '-') = false → c ≠ b := by
      intro b hb hsame
      rw [hsame, hb] at hc
      cases hc
    constructor
    · rw [List.cons_append] at hread ⊢
      rw [readToken, hread]
      · rfl
      all_goals
        intro r' heq
        exact hne _ (by decide) (List.cons.inj heq).1
    · refine ⟨c, r, rfl, ?_⟩
      rw [← Bool.not_eq_true]
      intro hspace
      simp only [isSpace, Bool.or_eq_true, beq_iff_eq] at hspace
      rcases hspace with ((heq | heq) | heq) | heq <;> exact hne _ (by decide) heq
  | @string ps inside value h hvalue =>
    refine ⟨?_, _, _, rfl, rfl⟩
    have hjoined : (joinPieces [] ps).map String.ofList = value := by
      apply Option.ext
      intro s
      rw [map_joinPieces_eq_some_iff, hvalue]
    rw [List.cons_append, List.append_assoc, List.singleton_append, readToken,
      readPieces_of_spells h, Option.map_some, List.reverse_nil, List.nil_append, hjoined]

/-- What is read as a token spells it. -/
theorem isSpelled_of_readToken {t : Token} {cs r : List Char} (h : readToken cs = some (t, r)) :
    ∃ spelling, cs = spelling ++ r ∧ t.IsSpelled spelling := by
  unfold readToken at h
  split at h
  case h_10 =>
    obtain ⟨⟨ps, r'⟩, hread, hp⟩ := Option.map_eq_some_iff.1 h
    cases hp
    obtain ⟨new, inside, rfl, rfl, hspells⟩ := spells_of_readPieces hread
    refine ⟨'"' :: (inside ++ ['"']), by simp, .string hspells fun s => ?_⟩
    exact map_joinPieces_eq_some_iff
  case h_11 =>
    obtain ⟨⟨n, r'⟩, hread, hp⟩ := Option.map_eq_some_iff.1 h
    cases hp
    obtain ⟨number, rfl, hn⟩ := isSpelled_of_readNumber hread
    exact ⟨number, rfl, .number hn⟩
  all_goals
    cases h
    exact ⟨_, rfl, by constructor⟩

-- ============================================================ cutting

theorem cut_cons {c : Char} {cs r : List Char} {t : Token} (hc : isSpace c = false)
    (h : readToken (c :: cs) = some (t, r)) (acc : List Token) :
    cut acc (c :: cs) = cut (t :: acc) r := by
  have hspace : ¬isSpace c = true := by
    rw [hc]
    exact Bool.false_ne_true
  rw [cut, if_neg hspace]
  split
  · next hnone =>
    rw [h] at hnone
    cases hnone
  · next p hsome =>
    rw [h] at hsome
    cases hsome
    rfl

/-- Cutting gives tokens that the text is made of. -/
theorem lexes_of_cut {acc ts : List Token} {cs : List Char} (h : cut acc cs = some ts) :
    ∃ new, ts = acc.reverse ++ new ∧ Lexes cs new := by
  induction acc, cs using cut.induct with
  | case1 acc =>
    rw [cut] at h
    cases h
    exact ⟨[], (List.append_nil _).symm, .nil⟩
  | case2 acc c r hc ih =>
    rw [cut, if_pos hc] at h
    obtain ⟨new, rfl, hlexes⟩ := ih h
    exact ⟨new, rfl, .blank hc hlexes⟩
  | case3 acc c r hc hnone =>
    rw [cut, if_neg hc] at h
    split at h
    · cases h
    · next p hsome => cases hnone.symm.trans hsome
  | case4 acc c r hc p hp ih =>
    rw [cut_cons (by simpa using hc) hp] at h
    obtain ⟨new, rfl, hlexes⟩ := ih h
    obtain ⟨spelling, hspelling, ht⟩ := isSpelled_of_readToken hp
    rw [hspelling]
    exact ⟨p.1 :: new, by simp, .token ht hlexes⟩

/-- The tokens of a text are tokens that it is made of. -/
theorem lexes_of_tokens {s : String} {ts : List Token} (h : tokens s = some ts) :
    Lexes s.toList ts := by
  obtain ⟨new, rfl, hlexes⟩ := lexes_of_cut h
  exact hlexes

/-- Whether two tokens may stand next to each other without a blank: of two
numbers, the second would be read as more of the first. -/
def Token.Apart (t u : Token) : Prop := ¬(t.isNumber = true ∧ u.isNumber = true)

/-- A text that is made of tokens of which the first is no number cannot be
read as more of a number. -/
theorem endsNumber_of_lexes {cs : List Char} {ts : List Token} (h : Lexes cs ts)
    (hts : ∀ t ∈ ts.head?, t.isNumber = false) : endsNumber cs = true := by
  cases h with
  | nil => rfl
  | @blank c cs ts hc h =>
    simp only [isSpace, Bool.or_eq_true, beq_iff_eq] at hc
    rcases hc with ((rfl | rfl) | rfl) | rfl <;> rfl
  | @token t spelling cs ts ht h =>
    cases ht with
    | number hn => cases hts _ rfl
    | openBracket | closeBracket | openBrace | closeBrace | colon | comma | null | true | false
      | string => rfl

/-- A text is cut into tokens that it is made of, if no two numbers stand
next to each other. -/
theorem cut_of_lexes {cs : List Char} {ts : List Token} (h : Lexes cs ts)
    (hapart : ts.IsChain Token.Apart) (acc : List Token) :
    cut acc cs = some (acc.reverse ++ ts) := by
  induction h generalizing acc with
  | nil =>
    rw [cut, List.append_nil]
  | blank hc _ ih =>
    rw [cut, if_pos hc]
    exact ih hapart acc
  | @token t spelling cs ts ht h ih =>
    rw [List.isChain_cons] at hapart
    have hends : t.isNumber = true → endsNumber cs = true := by
      intro hnumber
      refine endsNumber_of_lexes h fun u hu => ?_
      rw [← Bool.not_eq_true]
      exact fun hu' => hapart.1 u hu ⟨hnumber, hu'⟩
    obtain ⟨hread, c, r, rfl, hc⟩ := readToken_of_isSpelled ht hends
    rw [List.cons_append] at hread ⊢
    rw [cut_cons hc hread, ih hapart.2, List.reverse_cons, List.append_assoc]
    rfl

/-- A text has the tokens that it is spelled by, when neighbours among them
stand apart. -/
theorem tokens_of_lexes {s : String} {ts : List Token} (h : Lexes s.toList ts)
    (hapart : ts.IsChain Token.Apart) : tokens s = some ts :=
  cut_of_lexes h hapart []

end EventAnalytics.Json
