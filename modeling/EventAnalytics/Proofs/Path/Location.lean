/-
Paths that lead to the same location, and expressions that are the same text.

Several paths may lead to one location: a root has two spellings, a column
of the source can be named without it, what follows a column is ignored, and
a place in the payload can be reached with and without its root. Their
expressions are the same, for an expression is made from the location alone
(`FieldRef.sql_eq`).

The converse is that no two locations share an expression. The text of an
expression is concatenated from names, dots and quotes, and what makes it
unambiguous is that it can be read back: as the name of a column, which
stands alone, or as a document and a pointer, whose text is cut at its dots
into the segments again. So `FieldRef.Location.sql_inj` is decoding, and
whatever has an expression in it as a whole, such as a list of grouping keys
or the clause of a condition, tells locations apart as well.
-/
import EventAnalytics.Proofs.Query.Meaning
import Mathlib.Data.List.Nodup
import Mathlib.Data.Option.Basic

namespace EventAnalytics

open Sql
open Time (Instant)

/-- What a path leads to: a column, or a place in a document. -/
inductive FieldRef.Location where
  | column (c : Column)
  | place (d : Document) (p : Pointer)

/-- The location of a field. A field without a root of its own lies in the
payload, under all of its segments. -/
def FieldRef.location : FieldRef → Location
  | direct c | actor c | source c => .column c
  | inside d p => .place d p
  | fallback p => .place .payload p

/-- The location that a path leads to, if it is accepted. -/
def location? (path : String) : Option FieldRef.Location :=
  (FieldRef.ofPath path).toOption.map FieldRef.location

namespace FieldRef.Location

/-- The expression that reads a location. -/
def sql : Location → String
  | column c => c.name
  | place d p => FieldRef.extraction d p

/-- What the expression says, read by the rules of SQL. -/
def reference : Location → Reference
  | column c => .column c.name
  | place d p => .extraction d.column.name p.text

-- ============================================================ decoding

/-- The expression is read back as what it says. -/
theorem ofText?_sql (l : Location) : Reference.ofText? l.sql = some l.reference := by
  unfold Reference.ofText?
  cases l with
  | column c =>
    have hcut : lexemes? (column c).sql = some [.word c.name] := column_isWord c
    have hread : Reference.read? [.word c.name] = some (.column c.name, []) :=
      Reference.read?_word c.name nofun
    rw [hcut, Option.bind_some, hread]
    rfl
  | place d p =>
    have hcut : lexemes? (place d p).sql = some (extractionLexemes d p.segments) :=
      lexemes?_extraction d p
    have hread := Reference.read?_extraction d p.segments []
    rw [List.append_nil] at hread
    rw [hcut, Option.bind_some, hread]
    rfl

/-- What an expression says tells its location: names of columns are
distinct, and pointers are cut into their segments again. -/
theorem reference_inj {l m : Location} (h : l.reference = m.reference) : l = m := by
  cases l with
  | column c =>
    cases m with
    | column c' => rw [Column.name_inj (Reference.column.inj h)]
    | place d' p' => cases h
  | place d p =>
    cases m with
    | column c' => cases h
    | place d' p' =>
      obtain ⟨hname, htext⟩ := Reference.extraction.inj h
      have hdocument : d = d' := by
        have hcolumn := Column.name_inj hname
        cases d <;> cases d' <;> first | rfl | cases hcolumn
      have hsegments : "$" :: p.segments = "$" :: p'.segments := by
        rw [← p.parts_text, ← p'.parts_text, htext]
      rw [hdocument, Pointer.ext (List.cons.inj hsegments).2]

theorem sql_inj {l m : Location} (h : l.sql = m.sql) : l = m := by
  have href : some l.reference = some m.reference := by
    rw [← l.ofText?_sql, ← m.ofText?_sql, h]
  exact reference_inj (Option.some.inj href)

/-- The bucket of a statement is no location. -/
theorem sql_ne_bucketName (l : Location) : l.sql ≠ bucketName := by
  intro h
  have href : some l.reference = some (.column "bucket") := by
    rw [← l.ofText?_sql, h]
    decide +kernel
  cases l with
  | column c => cases c <;> exact absurd href (by decide)
  | place d p => cases href

end FieldRef.Location

-- ========================================================= expressions

namespace FieldRef

theorem sql_eq (f : FieldRef) : f.sql = f.location.sql := by
  cases f <;> rfl

theorem reference_eq (f : FieldRef) : f.reference = f.location.reference := by
  cases f <;> rfl

end FieldRef

theorem location?_of_ofPath {path : String} {f : FieldRef} (h : FieldRef.ofPath path = .ok f) :
    location? path = some f.location := by
  unfold location?
  rw [h]
  rfl

/-- Accepted paths have the same expression just when they lead to the same
location. -/
theorem pathSql_eq_iff {p q : String} {f g : FieldRef} (hf : FieldRef.ofPath p = .ok f)
    (hg : FieldRef.ofPath q = .ok g) : pathSql p = pathSql q ↔ f.location = g.location := by
  rw [FieldRef.pathSql_of_ofPath hf, FieldRef.pathSql_of_ofPath hg, f.sql_eq, g.sql_eq,
    Except.ok.injEq]
  exact ⟨FieldRef.Location.sql_inj, congrArg FieldRef.Location.sql⟩

/-- A path that means nothing else can be written below `payload`. -/
theorem pathSql_below_payload {path : String} {r : Pointer}
    (h : FieldRef.ofPath path = .ok (.fallback r)) :
    pathSql ("payload." ++ path) = pathSql path := by
  obtain ⟨p, hp, hfallback⟩ := map_eq_ok h
  have hr : FieldRef.ofPointer p = .fallback p := by
    rcases FieldRef.ofPointer_cases p with ⟨c, hc, -⟩ | ⟨d, -, hinside⟩ | hsame
    · rw [← hfallback] at hc
      cases hc
    · rw [← hfallback] at hinside
      cases hinside
    · exact hsame
  obtain rfl : r = p := FieldRef.fallback.inj (hfallback.trans hr)
  have hbelow : FieldRef.ofPath ("payload." ++ path) = .ok (.inside .payload r) := by
    rw [FieldRef.ofPath_below_payload, hp]
    rfl
  exact (pathSql_eq_iff hbelow h).2 rfl

/-- A list of safe segments has its own expression in the payload. -/
theorem ofPath_payload {segments : List String} (h : ∀ s ∈ segments, isSafeSegment s = true) :
    ∃ p : Pointer, p.segments = segments
      ∧ FieldRef.ofPath (String.intercalate "." ("payload" :: segments))
        = .ok (.inside .payload p) := by
  have hall : ∀ s ∈ "payload" :: segments, isSafeSegment s = true :=
    List.forall_mem_cons.2 ⟨by decide +kernel, h⟩
  let whole : Pointer := ⟨"payload" :: segments, List.all_eq_true.2 hall⟩
  have hcut : pathSegments (String.intercalate "." ("payload" :: segments))
      = "payload" :: segments := by
    refine Text.parts_of_joinWith ?_ (List.cons_ne_nil _ _)
      fun s hs => dot_not_mem_of_isSafeSegment (hall s hs)
    rw [String.toList_intercalate, Text.joinWith_eq_intercalate]
    rfl
  exact ⟨whole.tail, rfl, FieldRef.ofPath_of_segments (p := whole) hcut.symm⟩

-- ================================================= grouping, conditions

/-- The keys of dimensions are the expressions of their locations. -/
theorem Compiler.Parts.Rendered.map_dimensions {c : Compiler} {q : Query} {now : Instant}
    {p : Parts} (h : p.Rendered c q now) :
    p.dimensions.map some
      = (q.breakdownBy.map location?).map (Option.map FieldRef.Location.sql) := by
  rw [List.map_map]
  refine map_eq_of_mapM (fun path expr hexpr => ?_) h.dimensions
  obtain ⟨f, hf, rfl⟩ := map_eq_ok (mapError_eq_ok hexpr)
  rw [Function.comp_apply, location?_of_ofPath hf, Option.map_some, f.sql_eq]

/-- A statement groups by something twice just when two of its dimensions
lead to the same location. -/
theorem nodup_grouping_iff {c : Compiler} {q : Query} {now : Instant} {s : Select}
    (h : c.statement q now = .ok s) :
    s.grouping.Nodup ↔ (q.breakdownBy.map location?).Nodup := by
  obtain ⟨p, hp, rfl⟩ := Compiler.statement_eq_ok h
  have hdimensions := hp.map_dimensions
  have hbucket : bucketName ∉ p.dimensions := by
    intro hm
    have hm' : some bucketName ∈ p.dimensions.map some := List.mem_map_of_mem hm
    rw [hdimensions] at hm'
    obtain ⟨l?, -, hl⟩ := List.mem_map.1 hm'
    obtain ⟨l, -, hl⟩ := Option.map_eq_some_iff.1 hl
    exact l.sql_ne_bucketName hl
  have hgrouping : (c.assembled q p).grouping.Nodup ↔ p.dimensions.Nodup := by
    show ((p.bucket.toList.map fun _ => bucketName) ++ p.dimensions).Nodup ↔ _
    cases p.bucket with
    | none => exact Iff.rfl
    | some g => exact List.nodup_cons.trans (and_iff_right hbucket)
  have hinj : Function.Injective (Option.map FieldRef.Location.sql) :=
    Option.map_injective fun _ _ => FieldRef.Location.sql_inj
  rw [hgrouping, ← List.nodup_map_iff (Option.some_injective _), hdimensions,
    List.nodup_map_iff hinj]

/-- A clause tells the location that its condition is about. -/
theorem Condition.location?_of_sql {c c' : Condition} {clause : String} (h : c.sql = .ok clause)
    (h' : c'.sql = .ok clause) : location? c.field = location? c'.field := by
  have hfield : ∀ {b : Condition}, b.sql = .ok clause → ∃ f, FieldRef.ofPath b.field = .ok f
      ∧ ∃ rest, Reference.read? b.lexemes = some (f.reference, rest) := by
    intro b hb
    rcases FieldRef.pathSql_cases b.field with ⟨s, -, herror⟩ | ⟨-, f, hf, -⟩
    · rw [Condition.sql, herror] at hb
      cases hb
    · exact ⟨f, hf, _, Reference.read?_path hf (head?_comparisonLexemes b.operator b.value)⟩
  obtain ⟨f, hf, rest, hread⟩ := hfield h
  obtain ⟨f', hf', rest', hread'⟩ := hfield h'
  have hlexemes : c.lexemes = c'.lexemes :=
    Option.some.inj ((lexemes?_condition h).symm.trans (lexemes?_condition h'))
  rw [hlexemes, hread'] at hread
  have hreference : f.reference = f'.reference :=
    (congrArg Prod.fst (Option.some.inj hread)).symm
  rw [f.reference_eq, f'.reference_eq] at hreference
  rw [location?_of_ofPath hf, location?_of_ofPath hf', FieldRef.Location.reference_inj hreference]

-- ============================================================= the law

/-- Accepted paths have the same expression just when they lead to the same
location. So a path that means nothing else has that of itself below
`payload`, and different lists of safe segments have different ones there.

Hence a statement groups by something twice just when two of its dimensions
lead to the same location, and two conditions have the same clause only if
they are about the same location, whatever else they ask. -/
theorem expressions_tell_locations_apart :
    (∀ p q f g, FieldRef.ofPath p = .ok f → FieldRef.ofPath q = .ok g →
        (pathSql p = pathSql q ↔ f.location = g.location))
      ∧ (∀ p r, FieldRef.ofPath p = .ok (.fallback r) →
        pathSql ("payload." ++ p) = pathSql p)
      ∧ (∀ ss ts : List String, (∀ s ∈ ss, isSafeSegment s = true) →
        (∀ t ∈ ts, isSafeSegment t = true) → ss ≠ ts →
        ∃ a b, pathSql (String.intercalate "." ("payload" :: ss)) = .ok a
          ∧ pathSql (String.intercalate "." ("payload" :: ts)) = .ok b ∧ a ≠ b)
      ∧ (∀ (c : Compiler) (q : Query) (now : Instant) (s : Select),
        c.statement q now = .ok s →
        (s.grouping.Nodup ↔ (q.breakdownBy.map location?).Nodup))
      ∧ ∀ (c c' : Condition) (clause : String), c.sql = .ok clause → c'.sql = .ok clause →
        location? c.field = location? c'.field := by
  refine ⟨fun _ _ _ _ => pathSql_eq_iff, fun _ _ => pathSql_below_payload, ?_,
    fun _ _ _ _ => nodup_grouping_iff, fun _ _ _ => Condition.location?_of_sql⟩
  intro ss ts hss hts hne
  obtain ⟨p, rfl, hp⟩ := ofPath_payload hss
  obtain ⟨q, rfl, hq⟩ := ofPath_payload hts
  refine ⟨_, _, FieldRef.pathSql_of_ofPath hp, FieldRef.pathSql_of_ofPath hq, ?_⟩
  intro h
  rw [FieldRef.sql_eq, FieldRef.sql_eq] at h
  obtain ⟨-, hpointer⟩ := FieldRef.Location.place.inj (FieldRef.Location.sql_inj h)
  exact hne (congrArg Pointer.segments hpointer)

/-- A query with two dimensions that lead to one place. -/
def usageTwice : Query where
  groupBy := some "day"
  breakdownBy := ["usage.total", "product", "payload.usage.total"]

/-- A version has the expression of the version of the source. A total that
means nothing else has the one below `payload`, and grouping by both groups
twice. A hyphen is not taken for a dot, neither in an expression nor in a
condition. -/
theorem hyphens_are_no_dots :
    pathSql "version.major" = pathSql "source.version"
      ∧ pathSql "payload.usage.total" = pathSql "usage.total"
      ∧ (∃ s, Compiler.statement {} usageTwice .epoch = .ok s ∧ ¬s.grouping.Nodup)
      ∧ (∃ a b, pathSql "payload.usage.total" = .ok a ∧ pathSql "payload.usage-total" = .ok b
        ∧ a ≠ b)
      ∧ (Condition.isSet "usage.total").sql ≠ (Condition.isSet "usage-total").sql := by
  obtain ⟨hsame, hbelow, hlists, hgrouping, hclauses⟩ := expressions_tell_locations_apart
  have hversion : FieldRef.ofPath "version.major" = .ok (.direct .version) := rfl
  have hsource : FieldRef.ofPath "source.version" = .ok (.source .version) := rfl
  have htotal : FieldRef.ofPath "usage.total"
      = .ok (.fallback ⟨["usage", "total"], by decide +kernel⟩) := rfl
  let hyphen : Pointer := ⟨["usage-total"], by decide +kernel⟩
  have hhyphen : FieldRef.ofPath "usage-total" = .ok (.fallback hyphen) :=
    FieldRef.ofPath_of_segments (p := hyphen) (by decide)
  have hpayload : "payload." ++ "usage.total" = "payload.usage.total" := by decide
  refine ⟨(hsame _ _ _ _ hversion hsource).2 rfl, hpayload ▸ hbelow _ _ htotal, ?_, ?_, ?_⟩
  · have hok : (Compiler.statement {} usageTwice .epoch).toOption.isSome = true := by
      decide +kernel
    obtain ⟨s, hs⟩ := Option.isSome_iff_exists.1 hok
    refine ⟨s, toOption_eq_some hs, ?_⟩
    rw [hgrouping _ _ _ _ (toOption_eq_some hs)]
    have hbelow' : location? "payload.usage.total" = location? "usage.total" := rfl
    simp [usageTwice, hbelow']
  · have hdot : String.intercalate "." ["payload", "usage", "total"] = "payload.usage.total" := by
      decide
    have hdash : String.intercalate "." ["payload", "usage-total"] = "payload.usage-total" := by
      decide
    rw [← hdot, ← hdash]
    exact hlists _ _ (by decide +kernel) (by decide +kernel) (by decide)
  · have hclause : (Condition.isSet "usage.total").sql
        = .ok "json_extract_string(payload, '$.usage.total') IS NOT NULL" := by decide +kernel
    intro h
    have hlocation : location? "usage.total" = location? "usage-total" :=
      hclauses (.isSet "usage.total") (.isSet "usage-total") _ hclause (h.symm.trans hclause)
    rw [location?_of_ofPath htotal, location?_of_ofPath hhyphen] at hlocation
    obtain ⟨-, hpointer⟩ := FieldRef.Location.place.inj (Option.some.inj hlocation)
    exact absurd (congrArg Pointer.segments hpointer) (by decide)

end EventAnalytics
