/-
What the clause of a range keeps.

A clause is read off its lexemes (`Span.ofClause?`): the column is compared
from below and from above, each time with a literal, and a literal stands
for the instant that is written in it.

A literal drops the fraction of its second, so a clause keeps what lies
between the whole seconds of the ends (`clause_keeps_whole_seconds`).
Before the start that is too much and at the end too little, unless the
ends are whole seconds, as those of days are.
-/
import EventAnalytics.Proofs.Query.Lexemes
import EventAnalytics.Proofs.Time.Literal

namespace EventAnalytics

open Sql
open Time (Instant)

-- ============================================================ reading

/-- Two instants and all that lie between them. -/
structure Span where
  first : Instant
  last : Instant
  deriving DecidableEq, Repr

namespace Span

/-- Whether a span holds an instant. -/
def Holds (s : Span) (t : Instant) : Prop := s.first ≤ t ∧ t ≤ s.last

instance (s : Span) (t : Instant) : Decidable (s.Holds t) :=
  inferInstanceAs (Decidable (_ ∧ _))

/-- What follows some lexemes that stand at the front of others. -/
def after? (front ls : List Lexeme) : Option (List Lexeme) :=
  if front <+: ls then some (ls.drop front.length) else none

/-- The instant that a column is compared with by a sign and an equality
sign, with the rest of the lexemes. -/
def bound? (column : List Lexeme) (sign : Char) (ls : List Lexeme) :
    Option (Instant × List Lexeme) :=
  match after? column ls with
  | some (.mark c :: .mark '=' :: .quoted .literal s :: rest) =>
    if c = sign then (Time.readLoose s).toOption.map (·, rest) else none
  | _ => none

/-- The span that a clause about a column asks for. -/
def ofClause? (column clause : String) : Option Span :=
  (lexemes? column).bind fun lc =>
    (lexemes? clause).bind fun ls =>
      match bound? lc '>' ls with
      | some (first, .word "AND" :: rest) =>
        match bound? lc '<' rest with
        | some (last, []) => some ⟨first, last⟩
        | _ => none
      | _ => none

/-- A literal bounds a column by the whole second of its instant. -/
theorem bound?_sqlText (column : List Lexeme) (sign : Char) (t : Instant) (rest : List Lexeme) :
    bound? column sign (column ++ .mark sign :: .mark '=' :: .quoted .literal t.sqlText :: rest)
      = some (t.wholeSecond, rest) := by
  have hafter : ∀ ls, after? column (column ++ ls) = some ls := by
    intro ls
    unfold after?
    rw [if_pos (List.prefix_append _ _), List.drop_left]
  unfold bound?
  rw [hafter]
  simp only [if_true, Time.readLoose_sqlText]
  rfl

/-- The clause of a range asks for the span between the whole seconds of
its ends. -/
theorem ofClause?_sql {column : String} {lc : List Lexeme} (hc : lexemes? column = some lc)
    (r : TimeRange) :
    ofClause? column (r.sql column) = some ⟨r.start.wholeSecond, r.stop.wholeSecond⟩ := by
  have hclause := lexemes?_rangeSql hc r
  simp only [List.cons_append, List.nil_append] at hclause
  unfold ofClause?
  rw [hc, Option.bind_some, hclause, Option.bind_some, bound?_sqlText]
  simp only [bound?_sqlText]

end Span

-- ============================================================= the law

/-- The clause of a range keeps the instants between the whole seconds of
its ends. These are the instants of the range exactly when both ends are
whole seconds. -/
theorem clause_keeps_whole_seconds (r : TimeRange) {column : String} {lc : List Lexeme}
    (hc : lexemes? column = some lc) :
    ∃ s, Span.ofClause? column (r.sql column) = some s
      ∧ (∀ t, s.Holds t ↔ r.start.wholeSecond ≤ t ∧ t ≤ r.stop.wholeSecond)
      ∧ ((∀ t, s.Holds t ↔ r.start ≤ t ∧ t ≤ r.stop)
        ↔ r.start.wholeSecond = r.start ∧ r.stop.wholeSecond = r.stop) := by
  refine ⟨_, Span.ofClause?_sql hc r, fun _ => Iff.rfl, ?_⟩
  constructor
  · intro h
    -- the end of the range is kept, and the whole second of its start lies in it
    have hstop := (h r.stop).2 ⟨r.start_le, r.stop.le_refl⟩
    have hstart := (h r.start.wholeSecond).1
      ⟨Instant.le_refl _, Instant.wholeSecond_mono r.start_le⟩
    exact ⟨Instant.le_antisymm r.start.wholeSecond_le hstart.1,
      Instant.le_antisymm r.stop.wholeSecond_le hstop.2⟩
  · rintro ⟨hstart, hstop⟩ t
    show r.start.wholeSecond ≤ t ∧ t ≤ r.stop.wholeSecond ↔ _
    rw [hstart, hstop]

/-- From half a second past ten to half a second past twelve. -/
def halfSeconds : String := "2024-01-01T10:00:00.500Z,2024-01-01T12:00:00.500Z"

/-- Whether the ends of a range are half seconds. -/
def TimeRange.hasHalves (r : TimeRange) : Bool :=
  r.start.shownNanos = 500000000 && r.stop.shownNanos = 500000000

/-- The end of the range is not kept, and an instant before its start is. -/
theorem half_seconds_are_lost :
    ∃ r s, TimeRange.ofText halfSeconds Instant.epoch = .ok r
      ∧ Span.ofClause? "ts" (r.sql "ts") = some s ∧ ¬s.Holds r.stop
      ∧ s.Holds r.start.wholeSecond ∧ ¬r.start ≤ r.start.wholeSecond := by
  have hts : lexemes? "ts" = some [.word "ts"] := by decide +kernel
  have hcheck : (TimeRange.ofText halfSeconds Instant.epoch).toOption.any TimeRange.hasHalves
      = true := by decide +kernel
  obtain ⟨r, hr, hhalves⟩ := (Option.any_eq_true _ _).1 hcheck
  have hrange : TimeRange.ofText halfSeconds Instant.epoch = .ok r := by
    cases hread : TimeRange.ofText halfSeconds Instant.epoch with
    | error e =>
      rw [hread] at hr
      cases hr
    | ok r' =>
      rw [hread] at hr
      exact congrArg Except.ok (Option.some.inj hr)
  have hne : ∀ t : Instant, t.shownNanos = 500000000 → t.wholeSecond ≠ t := by
    intro t hhalf hwhole
    rw [Instant.wholeSecond_eq_self_iff.1 hwhole] at hhalf
    cases hhalf
  obtain ⟨hstart, hstop⟩ : r.start.shownNanos = 500000000 ∧ r.stop.shownNanos = 500000000 := by
    simpa [TimeRange.hasHalves] using hhalves
  obtain ⟨s, hs, hholds, -⟩ := clause_keeps_whole_seconds r hts
  refine ⟨r, s, hrange, hs, ?_, ?_, ?_⟩
  · intro h
    have hle := ((hholds r.stop).1 h).2
    exact hne r.stop hstop (Instant.le_antisymm r.stop.wholeSecond_le hle)
  · exact (hholds _).2 ⟨Instant.le_refl _, Instant.wholeSecond_mono r.start_le⟩
  · intro h
    exact hne r.start hstart (Instant.le_antisymm r.start.wholeSecond_le h)

end EventAnalytics
