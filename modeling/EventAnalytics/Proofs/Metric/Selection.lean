/-
Which row of the metric table decides.

The table is searched row by row, and each row asks about all the types. What
comes out is told here without the search: `Decides d ts i` says that `i` is
the place of the first row that speaks of one of the types, or the place
behind the last row, where the fallback stands, if no row does. Every list
of types has such a place, and the metrics that stand there are the ones
that are shown (`exists_decides`).

Everything else is one comparison of places (`Decides.le`). More types can
only move the place towards the front: the row that decides for some types
speaks of one of them, hence of one of any types these are among. So the
place cannot depend on the order of the types or on repetitions, and there
is only one.

A row whose beginning begins with that of an earlier row never decides: the
earlier row speaks of every type that it speaks of. So it may as well be
left out (`forTypeList_of_shadowed`).
-/
import EventAnalytics.Metric

namespace EventAnalytics

-- ================================================== beginnings of types

namespace MetricRow

/-- The row's beginning, with something or nothing behind it, is one of the
types. -/
def Covers (r : MetricRow) (ts : List String) : Prop :=
  ∃ t ∈ ts, ∃ rest, t = r.start ++ rest

/-- Whatever begins with this row's beginning begins with that of `r`. -/
def IsShadowedBy (r' r : MetricRow) : Prop :=
  ∃ rest, r'.start = r.start ++ rest

/-- A row speaks of the types that begin with its start. -/
theorem matchesType_iff {r : MetricRow} {t : String} :
    r.matchesType t = true ↔ ∃ rest, t = r.start ++ rest := by
  unfold matchesType
  rw [List.isPrefixOf_iff_prefix]
  constructor
  · intro h
    obtain ⟨rest, hrest⟩ := h
    refine ⟨String.ofList rest, String.toList_injective ?_⟩
    rw [String.toList_append, String.toList_ofList, hrest]
  · intro h
    obtain ⟨rest, rfl⟩ := h
    exact ⟨rest.toList, String.toList_append.symm⟩

/-- A row is taken when it covers what is asked for. -/
theorem any_matchesType_iff {r : MetricRow} {ts : List String} :
    ts.any r.matchesType = true ↔ r.Covers ts := by
  rw [List.any_eq_true]
  exact exists_congr fun _ => and_congr_right fun _ => matchesType_iff

instance (r : MetricRow) (ts : List String) : Decidable (r.Covers ts) :=
  decidable_of_iff _ any_matchesType_iff

/-- No row speaks of no type, not even one whose beginning is empty. -/
theorem not_covers_nil (r : MetricRow) : ¬r.Covers [] := by
  rintro ⟨t, ht, -⟩
  cases ht

/-- A row that covers some types covers them among others as well. -/
theorem Covers.mono {r : MetricRow} {ts us : List String} (h : r.Covers ts) (hsub : ts ⊆ us) :
    r.Covers us := by
  obtain ⟨t, ht, hrest⟩ := h
  exact ⟨t, hsub ht, hrest⟩

/-- A row in the shadow of another covers nothing that the other does not. -/
theorem IsShadowedBy.covers {r r' : MetricRow} {ts : List String} (h : r'.IsShadowedBy r)
    (hcovers : r'.Covers ts) : r.Covers ts := by
  obtain ⟨rest, hstart⟩ := h
  obtain ⟨t, ht, rest', rfl⟩ := hcovers
  exact ⟨_, ht, rest ++ rest', by rw [hstart, String.append_assoc]⟩

end MetricRow

namespace MetricDefaults

variable {d : MetricDefaults} {ts us : List String} {i j : Nat}

-- ======================================================= places in a table

/-- What stands at a place in the table; the fallback stands behind the
rows. -/
def metricsAt (d : MetricDefaults) (i : Nat) : List String :=
  match d.rows[i]? with
  | some r => r.metrics
  | none => d.fallback

/-- The place `i` decides for the types `ts`: no row in front of it speaks
of one of them, and the row that stands there, if it is not the fallback,
does. -/
structure Decides (d : MetricDefaults) (ts : List String) (i : Nat) : Prop where
  inTable : i ≤ d.rows.length
  passed : ∀ r ∈ d.rows.take i, ¬r.Covers ts
  found : ∀ r ∈ d.rows[i]?, r.Covers ts

instance (d : MetricDefaults) (ts : List String) (i : Nat) : Decidable (d.Decides ts i) :=
  decidable_of_iff (i ≤ d.rows.length ∧ (∀ r ∈ d.rows.take i, ¬r.Covers ts)
      ∧ ∀ r ∈ d.rows[i]?, r.Covers ts)
    ⟨fun ⟨h, h', h''⟩ => ⟨h, h', h''⟩, fun ⟨h, h', h''⟩ => ⟨h, h', h''⟩⟩

/-- Places are compared by what the rows in front of them do not speak of. -/
theorem Decides.le (hi : d.Decides ts i) (hj : d.Decides us j) (hsub : ts ⊆ us) : j ≤ i := by
  apply Nat.le_of_not_lt
  intro hlt
  have hlen : i < d.rows.length := Nat.lt_of_lt_of_le hlt hj.inTable
  have hcovers : d.rows[i].Covers ts := hi.found _ (List.getElem?_eq_getElem hlen)
  have hmem : d.rows[i] ∈ d.rows.take j := List.mem_take_iff_getElem.2
    ⟨i, Nat.lt_min.2 ⟨hlt, hlen⟩, rfl⟩
  exact hj.passed _ hmem (hcovers.mono hsub)

/-- Only which types are asked for decides, not their order or number. -/
theorem Decides.eq_of_mem_iff (hi : d.Decides ts i) (hj : d.Decides us j)
    (hsame : ∀ t, t ∈ ts ↔ t ∈ us) : i = j :=
  Nat.le_antisymm (hj.le hi fun t => (hsame t).2) (hi.le hj fun t => (hsame t).1)

-- ============================================================== the search

/-- The types that a filter asks for; without a filter, none. -/
def requestedTypes : Option TypeFilter → List String
  | none => []
  | some f => f.types

/-- A search in vain has passed rows that cover nothing. -/
theorem find?_eq_none_iff_covers :
    (d.rows.find? fun r => ts.any r.matchesType) = none ↔ ∀ r ∈ d.rows, ¬r.Covers ts := by
  rw [List.find?_eq_none]
  exact forall₂_congr fun _ _ => not_congr MetricRow.any_matchesType_iff

/-- The search ends at the place that decides. -/
theorem exists_decides (d : MetricDefaults) (ts : List String) :
    ∃ i, d.Decides ts i ∧ d.forTypeList ts = d.metricsAt i := by
  unfold forTypeList
  cases hrow : d.rows.find? fun r => ts.any r.matchesType with
  | none =>
    have hend : d.rows[d.rows.length]? = none := List.getElem?_eq_none (Nat.le_refl _)
    refine ⟨d.rows.length, ⟨Nat.le_refl _, ?_, ?_⟩, ?_⟩
    · rw [List.take_length]
      exact find?_eq_none_iff_covers.1 hrow
    · simp
    · rw [metricsAt, hend]
  | some r =>
    obtain ⟨hr, before, after, hrows, hbefore⟩ := List.find?_eq_some_iff_append.1 hrow
    have hhere : d.rows[before.length]? = some r := by
      rw [hrows, List.getElem?_append_right (Nat.le_refl _), Nat.sub_self,
        List.getElem?_cons_zero]
    refine ⟨before.length, ⟨?_, ?_, ?_⟩, ?_⟩
    · rw [hrows, List.length_append]
      exact Nat.le_add_right _ _
    · rw [hrows, List.take_left]
      intro r' hr' hcovers
      have hno : (!ts.any r'.matchesType) = true := hbefore r' hr'
      rw [MetricRow.any_matchesType_iff.2 hcovers] at hno
      exact absurd hno (by decide)
    · rw [hhere]
      intro r' hr'
      cases hr'
      exact MetricRow.any_matchesType_iff.1 hr
    · rw [metricsAt, hhere]

/-- The same types have the same metrics, in whatever order they are asked
for. -/
theorem forTypeList_congr (d : MetricDefaults) (hsame : ∀ t, t ∈ ts ↔ t ∈ us) :
    d.forTypeList ts = d.forTypeList us := by
  obtain ⟨i, hi, hts⟩ := d.exists_decides ts
  obtain ⟨j, hj, hus⟩ := d.exists_decides us
  rw [hts, hus, hi.eq_of_mem_iff hj hsame]

theorem forTypeList_nil (d : MetricDefaults) : d.forTypeList [] = d.fallback := by
  unfold forTypeList
  rw [find?_eq_none_iff_covers.2 fun r _ => r.not_covers_nil]

theorem forTypes_eq (d : MetricDefaults) (filter : Option TypeFilter) :
    d.forTypes filter = d.forTypeList (requestedTypes filter) := by
  cases filter with
  | none => exact d.forTypeList_nil.symm
  | some f => rfl

-- ============================================================ idle rows

/-- A row whose types an earlier row speaks of may be left out: the search
does not come to it when it would end there. -/
theorem forTypeList_of_shadowed {before after : List MetricRow} {r r' : MetricRow}
    {fallback : List String} (hr : r ∈ before) (hshadow : r'.IsShadowedBy r) (ts : List String) :
    forTypeList ⟨before ++ r' :: after, fallback⟩ ts
      = forTypeList ⟨before ++ after, fallback⟩ ts := by
  unfold forTypeList
  simp only [List.find?_append]
  cases hbefore : before.find? fun r => ts.any r.matchesType with
  | some first => rfl
  | none =>
    have hr' : ¬r'.Covers ts := by
      intro hcovers
      have hno := List.find?_eq_none.1 hbefore r hr
      exact hno (MetricRow.any_matchesType_iff.2 (hshadow.covers hcovers))
    have hskip : ((r' :: after).find? fun r => ts.any r.matchesType)
        = after.find? fun r => ts.any r.matchesType :=
      List.find?_cons_of_neg (mt MetricRow.any_matchesType_iff.1 hr')
    rw [hskip]

/-- A row in the shadow of one before it may as well be missing. -/
theorem forTypes_of_shadowed {before after : List MetricRow} {r' : MetricRow}
    (hrows : d.rows = before ++ r' :: after) (hshadow : ∃ r ∈ before, r'.IsShadowedBy r)
    (filter : Option TypeFilter) :
    forTypes ⟨before ++ after, d.fallback⟩ filter = d.forTypes filter := by
  obtain ⟨rows, fallback⟩ := d
  obtain rfl : rows = before ++ r' :: after := hrows
  obtain ⟨r, hr, hshadow⟩ := hshadow
  rw [forTypes_eq, forTypes_eq, forTypeList_of_shadowed hr hshadow]

-- ============================================================= the law

/-- For any types there is one place in the table that decides, and the
metrics there are shown. It depends on which types there are and on nothing
else of their list, more types never move it towards the end, one type is a
list of one, and no filter is an empty list. A row whose beginning begins
with that of an earlier row may be left out. -/
theorem table_order_decides (d : MetricDefaults) :
    (∀ ts, ∃ i, (∀ j, d.Decides ts j ↔ j = i)
        ∧ d.forTypes (some (.anyOf ts)) = d.metricsAt i)
      ∧ (∀ ts us, (∀ t, t ∈ ts ↔ t ∈ us) →
        d.forTypes (some (.anyOf ts)) = d.forTypes (some (.anyOf us)))
      ∧ (∀ ts us i j, (∀ t ∈ ts, t ∈ us) → d.Decides ts i → d.Decides us j → j ≤ i)
      ∧ (∀ t, d.forTypes (some (.one t)) = d.forTypes (some (.anyOf [t])))
      ∧ d.forTypes none = d.forTypes (some (.anyOf []))
      ∧ ∀ before r' after, d.rows = before ++ r' :: after →
        (∃ r ∈ before, r'.IsShadowedBy r) →
        ∀ filter, forTypes ⟨before ++ after, d.fallback⟩ filter = d.forTypes filter := by
  refine ⟨fun ts => ?_, fun _ _ => d.forTypeList_congr, fun _ _ _ _ hsub hi hj => hi.le hj hsub,
    fun _ => rfl, d.forTypeList_nil.symm, fun _ _ _ => forTypes_of_shadowed⟩
  obtain ⟨i, hi, hmetrics⟩ := d.exists_decides ts
  refine ⟨i, fun j => ⟨fun hj => ?_, fun hji => hji ▸ hi⟩, hmetrics⟩
  exact hj.eq_of_mem_iff hi fun _ => Iff.rfl

/-- The first row decides although the one behind it fits better, and this
one may be left out. A row for everything stands behind both and decides when
a tool run alone is asked for, so whatever is asked for beside a tool run, the
fallback is not shown. -/
theorem no_longest_match :
    let d : MetricDefaults := ⟨[⟨"llm.", ["cost"]⟩, ⟨"llm.chat.", ["tokens"]⟩, ⟨"", ["calls"]⟩],
      ["durationMs"]⟩
    d.forTypes (some (.anyOf ["tool.run", "llm.chat.done", "tool.run"])) = ["cost"]
      ∧ d.Decides ["tool.run"] 2
      ∧ d.Decides ["tool.run", "llm.chat.done"] 0
      ∧ (∀ us j, "tool.run" ∈ us → d.Decides us j → j ≤ 2)
      ∧ forTypes ⟨[⟨"llm.", ["cost"]⟩, ⟨"", ["calls"]⟩], d.fallback⟩ (some (.one "llm.chat.done"))
        = d.forTypes (some (.one "llm.chat.done")) := by
  intro d
  obtain ⟨-, hsame, hmore, -, -, hshadowed⟩ := table_order_decides d
  have hperm : d.forTypes (some (.anyOf ["tool.run", "llm.chat.done", "tool.run"]))
      = d.forTypes (some (.anyOf ["llm.chat.done", "tool.run"])) := by
    refine hsame _ _ fun t => ?_
    simp only [List.mem_cons, List.not_mem_nil, or_false]
    grind
  have hone : d.Decides ["tool.run"] 2 := by decide +kernel
  have htwo : d.Decides ["tool.run", "llm.chat.done"] 0 := by decide +kernel
  have hbeside : ∀ us j, "tool.run" ∈ us → d.Decides us j → j ≤ 2 := by
    intro us j hrun hj
    exact hmore _ _ _ _ (fun t ht => List.mem_singleton.1 ht ▸ hrun) hone hj
  refine ⟨hperm.trans (by decide +kernel), hone, htwo, hbeside, ?_⟩
  exact hshadowed [⟨"llm.", ["cost"]⟩] ⟨"llm.chat.", ["tokens"]⟩ [⟨"", ["calls"]⟩] rfl
    ⟨⟨"llm.", ["cost"]⟩, by simp, "chat.", by decide +kernel⟩ _

end MetricDefaults
end EventAnalytics
