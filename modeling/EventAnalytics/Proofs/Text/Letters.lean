/-
ASCII letters, texts in small letters, and what trimming leaves.

Making a text small changes ASCII capitals and nothing else, so a small
letter is what is left of itself and of its capital. What is left of a
text without the white at its ends was there before; whatever is not white
is left (`mem_trimmed_iff`), and all of a text that has white around it but
none at its own ends (`trim_surrounded`).
-/
import EventAnalytics.Text.Blank
import EventAnalytics.Text.Numeral

namespace EventAnalytics.Text

/-- A small letter is what is left of itself and of its capital. -/
theorem lowerChar_eq_iff {c small capital : Char} (hcapital : capital.toNat + 32 = small.toNat)
    (hbounds : 97 ≤ small.toNat ∧ small.toNat ≤ 122) :
    lowerChar c = small ↔ c ∈ [small, capital] := by
  have hlower : ∀ {x : Char}, 65 ≤ x.toNat → x.toNat ≤ 90 → (lowerChar x).toNat = x.toNat + 32 := by
    intro x hlow hhigh
    have hvalid : (x.toNat + 32).isValidChar := .inl (by omega)
    unfold lowerChar Char.ofNat
    rw [if_pos (by simp [hlow, hhigh]), dif_pos hvalid]
    rfl
  have hother : ∀ {x : Char}, ¬ (65 ≤ x.toNat ∧ x.toNat ≤ 90) → lowerChar x = x := by
    intro x hx
    unfold lowerChar
    rw [if_neg (by simpa using hx)]
  rw [List.mem_cons, List.mem_singleton]
  constructor
  · rintro rfl
    by_cases hc : 65 ≤ c.toNat ∧ c.toNat ≤ 90
    · rw [hlower hc.1 hc.2] at hcapital
      exact .inr (Char.toNat_inj.1 (by omega))
    · exact .inl (hother hc).symm
  · rintro (rfl | rfl)
    · exact hother (by omega)
    · exact Char.toNat_inj.1 ((hlower (by omega) (by omega)).trans hcapital)

theorem lowered_eq_iff {s t : String} : lowered s = t ↔ s.toList.map lowerChar = t.toList := by
  unfold lowered
  constructor
  · rintro rfl
    rw [String.toList_ofList]
  · intro h
    rw [h, String.ofList_toList]

/-- An ASCII letter takes one byte. -/
theorem utf8Size_of_isLetter {c : Char} (h : isLetter c = true) : c.utf8Size = 1 := by
  simp only [isLetter, Bool.or_eq_true, Bool.and_eq_true, decide_eq_true_eq] at h
  have hlow : c.toNat ≤ 127 := by omega
  exact Char.utf8Size_eq_one_iff.2 hlow

/-- What stands in a text without the white at its ends stands in the
text. -/
theorem mem_of_mem_trimmed {s : String} {c : Char} (h : c ∈ (trimmed s).toList) :
    c ∈ s.toList := by
  unfold trimmed trim trimRight trimLeft at h
  rw [String.toList_ofList, List.mem_reverse] at h
  have hleft := (List.dropWhile_sublist _).subset h
  rw [List.mem_reverse] at hleft
  exact (List.dropWhile_sublist _).subset hleft

theorem mem_dropWhile_of_not_blank {c : Char} (hc : isBlank c = false) {cs : List Char}
    (h : c ∈ cs) : c ∈ cs.dropWhile isBlank := by
  rw [← List.takeWhile_append_dropWhile (p := isBlank) (l := cs), List.mem_append] at h
  refine h.resolve_left fun hwhite => ?_
  rw [List.all_eq_true.1 List.all_takeWhile c hwhite] at hc
  cases hc

/-- Trimming leaves what is not white. -/
theorem mem_trimmed_iff {c : Char} (hc : isBlank c = false) {s : String} :
    c ∈ (trimmed s).toList ↔ c ∈ s.toList := by
  refine ⟨mem_of_mem_trimmed, fun h => ?_⟩
  unfold trimmed trim trimRight trimLeft
  rw [String.toList_ofList, List.mem_reverse]
  apply mem_dropWhile_of_not_blank hc
  rw [List.mem_reverse]
  exact mem_dropWhile_of_not_blank hc h

/-- Whether a text has no white at its ends; it may have some inside. -/
structure IsTight (cs : List Char) : Prop where
  first : ∃ c r, cs = c :: r ∧ isBlank c = false
  last : ∃ r c, cs = r ++ [c] ∧ isBlank c = false

theorem isBlank_of_isDigit {c : Char} (h : isDigit c = true) : isBlank c = false := by
  have hout : ∀ r ∈ blankRanges, r.2 < 48 ∨ 57 < r.1 := by decide
  rw [isDigit_iff] at h
  cases hblank : isBlank c with
  | false => rfl
  | true =>
    obtain ⟨r, hr, hin⟩ := Ranges.holds_iff.1 hblank
    have := hout r hr
    omega

theorem isTight_of_digits {ds : List Char} (hne : ds ≠ []) (hds : ds.all isDigit = true) :
    IsTight ds := by
  have hblank : ∀ c ∈ ds, isBlank c = false := fun c hc =>
    isBlank_of_isDigit (List.all_eq_true.1 hds c hc)
  refine ⟨⟨ds.head hne, ds.tail, (List.cons_head_tail hne).symm, hblank _ (List.head_mem hne)⟩,
    ⟨ds.dropLast, ds.getLast hne, (List.dropLast_concat_getLast hne).symm,
      hblank _ (List.getLast_mem hne)⟩⟩

theorem IsTight.append {a b : List Char} (ha : IsTight a) (middle : List Char) (hb : IsTight b) :
    IsTight (a ++ (middle ++ b)) := by
  obtain ⟨c, r, rfl, hc⟩ := ha.first
  obtain ⟨r', c', rfl, hc'⟩ := hb.last
  refine ⟨⟨c, _, rfl, hc⟩, ⟨c :: r ++ (middle ++ r'), c', ?_, hc'⟩⟩
  simp only [List.append_assoc]

/-- White around a tight text is all that is trimmed. -/
theorem trim_surrounded {before after cs : List Char} (hbefore : before.all isBlank = true)
    (hafter : after.all isBlank = true) (h : IsTight cs) : trim (before ++ (cs ++ after)) = cs := by
  have hleft : trimLeft (before ++ (cs ++ after)) = cs ++ after := by
    obtain ⟨c, r, rfl, hc⟩ := h.first
    unfold trimLeft
    rw [List.dropWhile_append_of_pos (List.all_eq_true.1 hbefore), List.cons_append,
      List.dropWhile_cons, hc]
    rfl
  have hright : trimRight (cs ++ after) = cs := by
    obtain ⟨r, c, rfl, hc⟩ := h.last
    have hwhite : ∀ x ∈ after.reverse, isBlank x = true := fun x hx =>
      List.all_eq_true.1 hafter x (List.mem_reverse.1 hx)
    unfold trimRight
    rw [List.reverse_append, List.dropWhile_append_of_pos hwhite, List.reverse_append,
      List.reverse_singleton, List.singleton_append, List.dropWhile_cons, hc]
    simp
  unfold trim
  rw [hleft, hright]

end EventAnalytics.Text
