/-
Patterns of `LIKE`, by the standard rules.

In a pattern `%` stands for any run of characters, `_` for any single one
and everything else for itself, in the case it is written in. The escape
character takes the meaning of the character after it away, which has to
be one that has a meaning; a pattern with any other escape is refused.

Matching tries a run at every length (`patternMatches`). What comes out of
all the trying is said once for each kind of item: a run leaves some end
of the text for what follows it (`patternMatches_run`), and characters
that stand for themselves leave what comes after them
(`patternMatches_plain`). A text that was escaped is read as the latter,
whatever it is made of (`readPattern?_patternChars`).
-/
import EventAnalytics.Sql.Quote
import Mathlib.Data.List.Infix

namespace EventAnalytics.Sql

/-- What a piece of a pattern stands for. -/
inductive PatternItem where
  /-- Any characters, as many as there may be. -/
  | run
  /-- Any one character. -/
  | one
  /-- A character that stands for itself. -/
  | plain (c : Char)
  deriving DecidableEq, Repr

namespace PatternItem

/-- What a character stands for that was not escaped. -/
def ofChar (c : Char) : PatternItem :=
  if c = '%' then .run else if c = '_' then .one else .plain c

end PatternItem

/-- The items of a pattern, unless an escape stands before a character
that has no meaning to lose. -/
def readPattern? (escape : Char) : List Char → Option (List PatternItem)
  | [] => some []
  | [c] => if c = escape then none else some [.ofChar c]
  | c :: d :: r =>
    if c = escape then
      if d = escape ∨ d = '%' ∨ d = '_' then (readPattern? escape r).map (.plain d :: ·)
      else none
    else (readPattern? escape (d :: r)).map (.ofChar c :: ·)

/-- Whether a whole text matches a pattern. -/
def patternMatches : List PatternItem → List Char → Bool
  | [], cs => cs.isEmpty
  | .run :: ps, cs => cs.tails.any (patternMatches ps)
  | .one :: ps, _ :: cs => patternMatches ps cs
  | .plain p :: ps, c :: cs => p == c && patternMatches ps cs
  | _ :: _, [] => false

-- ============================================================= reading

theorem readPattern?_cons {escape c : Char} (h : c ≠ escape) (cs : List Char) :
    readPattern? escape (c :: cs) = (readPattern? escape cs).map (.ofChar c :: ·) := by
  cases cs with
  | nil => simp [readPattern?, h]
  | cons d r => rw [readPattern?, if_neg h]

/-- An escaped text is read as its characters, each for itself. -/
theorem readPattern?_patternChars (cs rest : List Char) :
    readPattern? '\\' (patternChars cs ++ rest)
      = (readPattern? '\\' rest).map (cs.map .plain ++ ·) := by
  induction cs with
  | nil =>
    show readPattern? '\\' rest = (readPattern? '\\' rest).map id
    rw [Option.map_id, id]
  | cons c cs ih =>
    have hchars : patternChars (c :: cs) ++ rest
        = (if isPatternChar c then ['\\', c] else [c]) ++ (patternChars cs ++ rest) := by
      simp [patternChars]
    have hmore : ((readPattern? '\\' rest).map (cs.map PatternItem.plain ++ ·)).map
          (PatternItem.plain c :: ·)
        = (readPattern? '\\' rest).map ((c :: cs).map .plain ++ ·) := by
      rw [Option.map_map]
      rfl
    rw [hchars, ← hmore, ← ih]
    by_cases hc : isPatternChar c = true
    -- A sign of patterns has the escape before it and is read together with
    -- it.
    · have hspecial : c = '\\' ∨ c = '%' ∨ c = '_' := by
        simpa [isPatternChar, or_assoc] using hc
      rw [if_pos hc]
      show readPattern? '\\' ('\\' :: c :: (patternChars cs ++ rest)) = _
      rw [readPattern?, if_pos rfl, if_pos hspecial]
    · have hnone : c ≠ '\\' ∧ c ≠ '%' ∧ c ≠ '_' := by
        simpa [isPatternChar, and_assoc] using hc
      have hplain : PatternItem.ofChar c = .plain c := by
        unfold PatternItem.ofChar
        rw [if_neg hnone.2.1, if_neg hnone.2.2]
      rw [if_neg hc, ← hplain]
      exact readPattern?_cons hnone.1 _

-- ============================================================ matching

theorem patternMatches_nil (cs : List Char) : patternMatches [] cs = true ↔ cs = [] := by
  unfold patternMatches
  exact List.isEmpty_iff

/-- A run takes the text up to some place. -/
theorem patternMatches_run (ps : List PatternItem) (cs : List Char) :
    patternMatches (.run :: ps) cs = true
      ↔ ∃ a b, a ++ b = cs ∧ patternMatches ps b = true := by
  rw [patternMatches, List.any_eq_true]
  constructor
  · rintro ⟨b, hb, hmatch⟩
    obtain ⟨a, hab⟩ := (List.mem_tails b cs).1 hb
    exact ⟨a, b, hab, hmatch⟩
  · rintro ⟨a, b, hab, hmatch⟩
    exact ⟨b, (List.mem_tails b cs).2 ⟨a, hab⟩, hmatch⟩

/-- Characters that stand for themselves are the text's first. -/
theorem patternMatches_plain (vs : List Char) (ps : List PatternItem) (cs : List Char) :
    patternMatches (vs.map .plain ++ ps) cs = true
      ↔ ∃ b, vs ++ b = cs ∧ patternMatches ps b = true := by
  induction vs generalizing cs with
  | nil => simp
  | cons v vs ih =>
    cases cs with
    | nil => simp [patternMatches]
    | cons c cs =>
      rw [List.map_cons, List.cons_append, patternMatches, Bool.and_eq_true, beq_iff_eq, ih]
      constructor
      · rintro ⟨rfl, b, hb, hmatch⟩
        exact ⟨b, congrArg (v :: ·) hb, hmatch⟩
      · rintro ⟨b, hb, hmatch⟩
        obtain ⟨hv, hb⟩ := List.cons.inj hb
        exact ⟨hv, b, hb, hmatch⟩

/-- Characters for themselves and then anything: the text starts with
them. -/
theorem patternMatches_open_end (vs cs : List Char) :
    patternMatches (vs.map .plain ++ [.run]) cs = true ↔ vs <+: cs := by
  rw [patternMatches_plain]
  constructor
  · rintro ⟨b, hb, -⟩
    exact ⟨b, hb⟩
  · rintro ⟨b, hb⟩
    refine ⟨b, hb, (patternMatches_run [] b).2 ⟨b, [], List.append_nil b, ?_⟩⟩
    rfl

/-- Anything and then characters for themselves: the text ends with
them. -/
theorem patternMatches_open_start (vs cs : List Char) :
    patternMatches (.run :: vs.map .plain) cs = true ↔ vs <:+ cs := by
  have hall : ∀ b, patternMatches (vs.map .plain) b = true ↔ b = vs := by
    intro b
    have h := patternMatches_plain vs [] b
    rw [List.append_nil] at h
    rw [h]
    simp only [patternMatches_nil]
    constructor
    · rintro ⟨_, hb, rfl⟩
      rw [← hb, List.append_nil]
    · rintro rfl
      exact ⟨[], List.append_nil b, rfl⟩
  rw [patternMatches_run]
  simp only [hall]
  constructor
  · rintro ⟨a, _, hb, rfl⟩
    exact ⟨a, hb⟩
  · rintro ⟨a, hb⟩
    exact ⟨a, vs, hb, rfl⟩

/-- Anything on both sides: the text has the characters somewhere. -/
theorem patternMatches_open (vs cs : List Char) :
    patternMatches (.run :: (vs.map .plain ++ [.run])) cs = true ↔ vs <:+: cs := by
  rw [patternMatches_run]
  simp only [patternMatches_open_end]
  constructor
  · rintro ⟨a, _, hb, b, rfl⟩
    exact ⟨a, b, by rw [← hb, List.append_assoc]⟩
  · rintro ⟨a, b, hb⟩
    exact ⟨a, vs ++ b, by rw [← hb, List.append_assoc], b, rfl⟩

end EventAnalytics.Sql
