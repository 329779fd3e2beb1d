/-
What compiling reads of the present.

The range of time is the only part of a query whose rendering depends on
the present, so it is enough that the range is the same at two moments, as
a range or as an error: whatever else is at fault, and whether it is
reported before the range or after it, is at fault at both
(`compile_of_same_range`). Two bounds are the same always, and everything
but a window of hours is the same all day.
-/
import EventAnalytics.Proofs.Query.Parts
import EventAnalytics.Proofs.Time.Days

namespace EventAnalytics

open Time (Instant)

namespace Compiler

variable {c : Compiler} {q : Query} {m n : Instant}

/-- Moments with the same range have the same statement or the same error. -/
theorem compile_of_same_range
    (h : ∀ text, q.timeRange = some text → TimeRange.ofText text m = TimeRange.ofText text n) :
    c.compile q m = c.compile q n := by
  have hrange : optional (rangeOf m) q.timeRange = optional (rangeOf n) q.timeRange := by
    cases htext : q.timeRange with
    | none => simp only [optional]
    | some text => simp only [optional, rangeOf, h text htext]
  have hparts : c.parts q m = c.parts q n := by
    unfold parts
    rw [hrange]
  unfold compile
  rw [statement_eq, statement_eq, hparts]

end Compiler

-- ============================================================= the law

/-- One query at two moments.

Without a range of time, or with one that has a comma, it compiles to the
same statement or the same error. So it does with every other range when
both moments have the same date, unless the range is a window of hours: a
positive count that can be read, and an `h` of either case. -/
theorem compiling_reads_the_date_only (c : Compiler) (q : Query) (m n : Instant) :
    ((q.timeRange = none ∨ ∃ text, q.timeRange = some text ∧ ',' ∈ text.toList) →
        c.compile q m = c.compile q n)
      ∧ (m.date = n.date →
        (∀ text, q.timeRange = some text → ¬TimeRange.IsHourWindow (Text.trimmed text)) →
        c.compile q m = c.compile q n) := by
  constructor
  · intro h
    refine Compiler.compile_of_same_range fun text htext => ?_
    rcases h with hnone | ⟨text', htext', hcomma⟩
    · cases hnone.symm.trans htext
    · cases htext'.symm.trans htext
      exact TimeRange.ofText_of_comma hcomma m n
  · intro hdate hhours
    refine Compiler.compile_of_same_range fun text htext => ?_
    exact TimeRange.ofTrimmed_of_same_day (Instant.day_eq_of_date_eq hdate) (hhours text htext)

/-- Seven days are the same at both ends of a day, and two dates are the same
on different days; but one hour is not the same all day. -/
theorem week_is_the_same_all_day :
    (Instant.epoch.date = lateInstant.date ∧ ¬TimeRange.IsHourWindow (Text.trimmed "7d")
        ∧ ∃ sql, Compiler.compile {} { timeRange := some "7d" } Instant.epoch = .ok sql
          ∧ Compiler.compile {} { timeRange := some "7d" } lateInstant = .ok sql)
      ∧ (',' ∈ "1970-01-01,1970-01-02".toList
        ∧ Compiler.compile {} { timeRange := some "1970-01-01,1970-01-02" } Instant.epoch
          = Compiler.compile {} { timeRange := some "1970-01-01,1970-01-02" } noonAfter)
      ∧ Compiler.compile {} { timeRange := some "1h" } Instant.epoch
        ≠ Compiler.compile {} { timeRange := some "1h" } lateInstant := by
  have hdate : Instant.epoch.date = lateInstant.date := by decide +kernel
  have hdays : Relative.Spells (Text.trimmed "7d").toList (.days 7) :=
    ⟨['7'], 'd', by decide, by decide +kernel, by decide, [], 0, .inl rfl, by decide +kernel⟩
  have hasked : Relative.days? Instant.epoch (.days 7) = some ⟨-6, 0⟩ := by decide +kernel
  have hhours : ¬TimeRange.IsHourWindow (Text.trimmed "7d") :=
    Relative.not_isHourWindow_of_days? hdays hasked
  have hsame := (compiling_reads_the_date_only {} { timeRange := some "7d" } Instant.epoch
    lateInstant).2 hdate (by rintro _ ⟨⟩; exact hhours)
  have hsome : (Compiler.compile {} { timeRange := some "7d" } Instant.epoch).toOption.isSome
      = true := by decide +kernel
  obtain ⟨sql, hsql⟩ := Option.isSome_iff_exists.1 hsome
  have hok := toOption_eq_some hsql
  refine ⟨⟨hdate, hhours, sql, hok, hsame ▸ hok⟩, ⟨by decide, ?_⟩, ?_⟩
  · exact (compiling_reads_the_date_only {} { timeRange := some "1970-01-01,1970-01-02" }
      Instant.epoch noonAfter).1 (.inr ⟨_, rfl, by decide⟩)
  · intro h
    have hoption : (Compiler.compile {} { timeRange := some "1h" } Instant.epoch).toOption
        ≠ (Compiler.compile {} { timeRange := some "1h" } lateInstant).toOption := by
      decide +kernel
    exact hoption (congrArg Except.toOption h)

end EventAnalytics
