/-
The tree of a written JSON value.

Written values are made of the tokens of their trees (`lexes_chars`, by
induction on values): in a string every character, escaped or not, spells
one piece, and a number is the writing of its numeral. Hence the text of a
value is recognised as the value's own tree (`ofText?_text`), with the
numerals that were written in place of its numbers.
-/
import EventAnalytics.Json.Writer
import EventAnalytics.Proofs.Decimal.Reread
import EventAnalytics.Proofs.Json.Tree

namespace EventAnalytics.Json

-- =========================================================== strings

/-- The piece that a character of a string is written as. -/
def pieceOf (c : Char) : Piece :=
  if c.toNat < 32 ∧ c ∉ ['\n', '\r', '\t', '\x08', '\x0c'] then .unit c.toNat else .char c

/-- A hexadecimal digit is read as the number it was written for. -/
theorem hexValue?_hexDigit (n : Nat) (h : n < 16) : Text.hexValue? (hexDigit n) = some n := by
  have : ∀ k : Fin 16, Text.hexValue? (hexDigit k) = some k.val := by decide
  exact this ⟨n, h⟩

/-- Every character is written as one piece. -/
theorem isSpelled_escapedChar (c : Char) : (pieceOf c).IsSpelled (escapedChar c) := by
  by_cases hquote : c = '"'
  · subst hquote
    exact .escaped rfl
  by_cases hbackslash : c = '\\'
  · subst hbackslash
    exact .escaped rfl
  by_cases hletter : c ∈ ['\n', '\r', '\t', '\x08', '\x0c']
  · simp only [List.mem_cons, List.not_mem_nil, or_false] at hletter
    rcases hletter with rfl | rfl | rfl | rfl | rfl <;> exact .escaped rfl
  have hescaped : escapedChar c = if c.toNat < 32 then
      ['\\', 'u', '0', '0', hexDigit (c.toNat / 16), hexDigit (c.toNat % 16)] else [c] := by
    simp only [List.mem_cons, List.not_mem_nil, or_false, not_or] at hletter
    obtain ⟨hn, hr, ht, hb, hf⟩ := hletter
    unfold escapedChar
    rw [if_neg hquote, if_neg hbackslash, if_neg hn, if_neg hr, if_neg ht, if_neg hb, if_neg hf]
  rw [hescaped]
  by_cases hlow : c.toNat < 32
  · rw [if_pos hlow, pieceOf, if_pos ⟨hlow, hletter⟩]
    refine .unit ?_
    unfold hexUnit?
    rw [hexValue?_hexDigit _ (by omega), hexValue?_hexDigit _ (by omega)]
    show some (((0 * 16 + 0) * 16 + c.toNat / 16) * 16 + c.toNat % 16) = some c.toNat
    congr 1
    omega
  · rw [if_neg hlow, pieceOf, if_neg (fun h => hlow h.1)]
    exact .plain hquote hbackslash (Nat.not_lt.1 hlow)

/-- Characters that are escaped one by one spell the pieces that they stand
for. -/
theorem spellsPieces_escaped (cs : List Char) :
    SpellsPieces (cs.map pieceOf) (cs.flatMap escapedChar) := by
  induction cs with
  | nil => exact .nil
  | cons c cs ih => exact .cons (isSpelled_escapedChar c) ih

/-- The pieces of characters stand for them. -/
theorem mean_map_pieceOf (cs : List Char) : Mean (cs.map pieceOf) cs := by
  induction cs with
  | nil => exact .nil
  | cons c cs ih =>
    rw [List.map_cons]
    unfold pieceOf
    split
    · next h =>
      have hunit := Mean.unit (n := c.toNat) (.inl (by omega)) ih
      rwa [Char.ofNat_toNat] at hunit
    · exact .char ih

/-- A text between quotes spells the token of the text. -/
theorem isSpelled_stringChars (s : String) : Token.IsSpelled (.string (some s)) (stringChars s) := by
  refine .string (spellsPieces_escaped s.toList) fun t => ?_
  have hmean := mean_map_pieceOf s.toList
  rw [← map_joinPieces_eq_some_iff] at hmean ⊢
  rw [hmean]

-- =========================================================== numbers

/-- The numeral that an integer is written as. -/
def Numeral.ofInt (n : Int) : Numeral := ⟨decide (n < 0), Text.numeral n.natAbs, none, none⟩

/-- Integers are written as their numerals. -/
theorem intNumeral_eq (n : Int) : Text.intNumeral n = (Numeral.ofInt n).chars := by
  unfold Text.intNumeral Numeral.ofInt Numeral.chars
  by_cases h : n < 0
  · rw [if_pos h]
    simp only [decide_eq_true h, if_true, Numeral.fractionChars, Numeral.exponentChars,
      List.append_nil]
    rfl
  · rw [if_neg h]
    simp only [decide_eq_false h, Numeral.fractionChars, Numeral.exponentChars, List.append_nil]
    rfl

/-- The numeral of an integer is well formed. -/
theorem isWellFormed_ofInt (n : Int) : (Numeral.ofInt n).isWellFormed = true := by
  have hdigits := Text.all_isDigit_numeral n.natAbs
  simp only [Numeral.isWellFormed, Numeral.ofInt, Bool.and_eq_true, Bool.or_eq_true, beq_iff_eq,
    bne_iff_ne]
  refine ⟨⟨?_, hdigits⟩, rfl⟩
  by_cases hzero : n.natAbs = 0
  · rw [hzero]
    exact .inl (by decide +kernel)
  · exact .inr ⟨by simpa using Text.numeral_ne_nil _, Text.head?_numeral hzero⟩

-- =============================================================== trees

mutual

def node : Json → Node
  | .null => .null
  | .bool b => .bool b
  | .integer n => .number (Numeral.ofInt n)
  | .double d => .number d.numeral
  | .string s => .string (some s)
  | .array items => .array (itemNodes items)
  | .object fields => .object (fieldNodes fields)

/-- The items of an array as trees. -/
def itemNodes : List Json → List Node
  | [] => []
  | v :: vs => v.node :: itemNodes vs

/-- The fields of an object as trees. -/
def fieldNodes : List (String × Json) → List (Option String × Node)
  | [] => []
  | (k, v) :: fs => (some k, v.node) :: fieldNodes fs

end

/-- The tokens of the items after the first one. -/
def moreItemTokens (vs : List Node) : List Token := vs.flatMap fun v => .comma :: v.tokenList

/-- The tokens of the fields after the first one. -/
def moreFieldTokens (fs : List (Option String × Node)) : List Token :=
  fs.flatMap fun f => .comma :: .string f.1 :: .colon :: f.2.tokenList

theorem itemTokens_eq (v : Node) (vs : List Node) :
    itemTokens (v :: vs) = v.tokenList ++ moreItemTokens vs := by
  induction vs generalizing v with
  | nil => exact (List.append_nil _).symm
  | cons w vs ih =>
    rw [itemTokens, ih]
    rfl

theorem fieldTokens_eq (k : Option String) (v : Node) (fs : List (Option String × Node)) :
    fieldTokens ((k, v) :: fs) = .string k :: .colon :: (v.tokenList ++ moreFieldTokens fs) := by
  induction fs generalizing k v with
  | nil => rw [fieldTokens, moreFieldTokens, List.flatMap_nil, List.append_nil]
  | cons f fs ih =>
    rw [fieldTokens, ih]
    rfl

/-- A key, its colon and what comes after it. -/
theorem lexes_key (k : String) {cs : List Char} {ts : List Token} (h : Lexes cs ts) :
    Lexes (stringChars k ++ ':' :: cs) (.string (some k) :: .colon :: ts) :=
  .token (isSpelled_stringChars k) (.token .colon h)

mutual

/-- A value is written with the tokens of its tree. -/
theorem lexes_chars : ∀ v : Json, Lexes v.chars v.node.tokenList
  | .null => Token.IsSpelled.null.lexes
  | .bool true => Token.IsSpelled.true.lexes
  | .bool false => Token.IsSpelled.false.lexes
  | .integer n => by
    rw [chars, intNumeral_eq]
    exact (Token.IsSpelled.number (Numeral.isSpelled_chars (isWellFormed_ofInt n))).lexes
  | .double d => by
    rw [chars, Double.text_eq]
    exact (Token.IsSpelled.number (Numeral.isSpelled_chars d.isWellFormed_numeral)).lexes
  | .string s => (isSpelled_stringChars s).lexes
  | .array [] => Token.IsSpelled.openBracket.lexes.append Token.IsSpelled.closeBracket.lexes
  | .array (v :: vs) => by
    have hitems := (lexes_chars v).append (lexes_moreItems vs)
    rw [← itemTokens_eq] at hitems
    exact Token.IsSpelled.openBracket.lexes.append
      (hitems.append Token.IsSpelled.closeBracket.lexes)
  | .object [] => Token.IsSpelled.openBrace.lexes.append Token.IsSpelled.closeBrace.lexes
  | .object ((k, v) :: fs) => by
    have hfields := lexes_key k ((lexes_chars v).append (lexes_moreFields fs))
    rw [← fieldTokens_eq] at hfields
    have hform : chars (.object ((k, v) :: fs))
        = '\x7b' :: ((stringChars k ++ ':' :: (v.chars ++ moreFields fs)) ++ ['\x7d']) := by
      simp only [chars, List.cons_append, List.append_assoc]
    rw [hform]
    exact .token .openBrace (hfields.append Token.IsSpelled.closeBrace.lexes)

/-- Items behind commas are spelled as they are written, by induction on
nested values. -/
theorem lexes_moreItems : ∀ vs : List Json,
    Lexes (moreItems vs) (moreItemTokens (itemNodes vs))
  | [] => .nil
  | v :: vs => Token.IsSpelled.comma.lexes.append ((lexes_chars v).append (lexes_moreItems vs))

/-- And so are fields behind commas. -/
theorem lexes_moreFields : ∀ fs : List (String × Json),
    Lexes (moreFields fs) (moreFieldTokens (fieldNodes fs))
  | [] => .nil
  | (k, v) :: fs => by
    have hfields := lexes_key k ((lexes_chars v).append (lexes_moreFields fs))
    have hform : moreFields ((k, v) :: fs)
        = ',' :: (stringChars k ++ ':' :: (v.chars ++ moreFields fs)) := by
      simp only [moreFields, List.cons_append, List.append_assoc]
    rw [hform]
    exact .token .comma hfields

end

/-- A written value is recognised as its own tree. -/
theorem ofText?_text (v : Json) : Node.ofText? v.text = some v.node := by
  rw [Node.ofText?_eq_some_iff]
  unfold text
  rw [String.toList_ofList]
  exact lexes_chars v

end EventAnalytics.Json
