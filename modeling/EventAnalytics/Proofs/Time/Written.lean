/-
What written instants are made of.

An instant is written with digits and the few signs between its parts. So
it cannot hold a quote and may stand in a quotation as it is.
-/
import EventAnalytics.Proofs.Text.Digits
import EventAnalytics.Time.Written

namespace EventAnalytics

namespace Time

open Text (not_mem_padded)

/-- A sign that is not used between the parts of a date is not in it. -/
theorem Date.not_mem_text {c : Char} (hc : Text.isDigit c = false) (hminus : c ≠ '-')
    (hplus : c ≠ '+') (d : Date) : c ∉ d.text := by
  have hyear : c ∉ yearText d.year := by
    unfold yearText
    split
    · exact not_mem_padded hc _ _
    · rw [List.mem_cons]
      rintro (h | h)
      · split at h
        · exact hminus h
        · exact hplus h
      · exact not_mem_padded hc _ _ h
  unfold Date.text
  simp only [List.mem_append, List.mem_cons, not_or]
  exact ⟨⟨hyear, hminus, not_mem_padded hc _ _⟩, hminus, not_mem_padded hc _ _⟩

/-- An instant as a literal holds no quote. -/
theorem Instant.quote_not_mem_sqlText (t : Instant) : '\'' ∉ t.sqlText.toList := by
  have hdigit : Text.isDigit '\'' = false := by decide
  have hdate := Date.not_mem_text hdigit (by decide) (by decide) t.date
  have hzone : '\'' ∉ "+00:00".toList := by decide +kernel
  unfold Instant.sqlText Instant.sqlChars Instant.clockText
  rw [String.toList_ofList]
  simp only [List.mem_append, List.mem_cons, not_or]
  exact ⟨⟨hdate, by decide, ⟨not_mem_padded hdigit _ _, by decide,
    not_mem_padded hdigit _ _⟩, by decide, not_mem_padded hdigit _ _⟩, hzone⟩

end Time

end EventAnalytics
