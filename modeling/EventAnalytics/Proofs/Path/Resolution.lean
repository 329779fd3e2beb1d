/-
How a path is resolved, and why its segments cannot disturb a quotation.

`ofPointer_cases` says once what resolution can lead to: a column of its
own, which is never a document; a place in the document that the root
names, along the segments after it; or a place in the payload along all
segments. Whoever needs to know what a resolved path looks like takes
these three cases and does not look at the tables of names again.
-/
import EventAnalytics.FieldRef
import EventAnalytics.Proofs.Outcome

namespace EventAnalytics

-- ==================================================== safe characters

/-- A character of a segment is no quote. -/
theorem isSegmentChar_ne_quote {c : Char} (h : isSegmentChar c = true) :
    c ≠ '\'' ∧ c ≠ '"' := by
  constructor
  · rintro rfl
    exact absurd h (by decide +kernel)
  · rintro rfl
    exact absurd h (by decide +kernel)

/-- A safe segment has no dot in it. -/
theorem dot_not_mem_of_isSafeSegment {s : String} (h : isSafeSegment s = true) :
    '.' ∉ s.toList := by
  intro hm
  unfold isSafeSegment at h
  have hdot := List.all_eq_true.1 (Bool.and_eq_true_iff.1 h).2 '.' hm
  exact absurd hdot (by decide +kernel)

/-- Texts without a quote of either kind. -/
def IsUnquoted (s : String) : Prop :=
  '\'' ∉ s.toList ∧ '"' ∉ s.toList

instance (s : String) : Decidable (IsUnquoted s) :=
  inferInstanceAs (Decidable (_ ∧ _))

/-- Segments that are safe have no quote. -/
theorem isUnquoted_of_isSafeSegment {s : String} (h : isSafeSegment s = true) :
    IsUnquoted s := by
  unfold isSafeSegment at h
  simp only [Bool.and_eq_true, List.all_eq_true] at h
  exact ⟨fun hm => (isSegmentChar_ne_quote (h.2 _ hm)).1 rfl,
    fun hm => (isSegmentChar_ne_quote (h.2 _ hm)).2 rfl⟩

/-- A text of unquoted parts with dots between them is unquoted. -/
theorem isUnquoted_of_joinWith {s : String} {ps : List String}
    (hs : s.toList = Text.joinWith '.' (ps.map String.toList)) (h : ∀ p ∈ ps, IsUnquoted p) :
    IsUnquoted s := by
  unfold IsUnquoted
  rw [hs]
  exact ⟨Text.not_mem_joinWith (by decide) (List.forall_mem_map.2 fun p hp => (h p hp).1),
    Text.not_mem_joinWith (by decide) (List.forall_mem_map.2 fun p hp => (h p hp).2)⟩

/-- A path is its segments with dots between them. -/
theorem toList_path (path : String) :
    path.toList = Text.joinWith '.' ((pathSegments path).map String.toList) := by
  unfold pathSegments Text.parts
  rw [List.map_map]
  simp only [Function.comp_def, String.toList_ofList, List.map_id']
  exact (Text.joinWith_splitAt '.' path.toList).symm

theorem isUnquoted_of_safe_segments {path : String}
    (h : ∀ s ∈ pathSegments path, isSafeSegment s = true) : IsUnquoted path :=
  isUnquoted_of_joinWith (toList_path path) fun s hs => isUnquoted_of_isSafeSegment (h s hs)

/-- The segments of a path below a root are those of the path after it. -/
theorem pathSegments_below {root : String} (h : '.' ∉ root.toList) (path : String) :
    pathSegments (root ++ "." ++ path) = root :: pathSegments path := by
  have hchars : (root ++ "." ++ path).toList = root.toList ++ '.' :: path.toList := by
    rw [String.toList_append, String.toList_append, List.append_assoc]
    rfl
  unfold pathSegments Text.parts
  rw [hchars, Text.splitAt_append h, List.map_cons, String.ofList_toList]

/-- A pointer is its segments. -/
theorem Pointer.ext {p q : Pointer} (h : p.segments = q.segments) : p = q := by
  cases p
  cases q
  cases h
  rfl

/-- A pointer is written like a path whose root is `$`. -/
theorem Pointer.toList_text (p : Pointer) :
    p.text.toList = Text.joinWith '.' (("$" :: p.segments).map String.toList) := by
  unfold Pointer.text
  rw [String.toList_append, String.toList_join, List.map_cons, Text.joinWith_cons,
    List.flatMap_map, List.flatMap_map]
  simp only [String.toList_append]
  rfl

/-- Pointers have no quote, since their segments have none. -/
theorem Pointer.isUnquoted_text (p : Pointer) : IsUnquoted p.text := by
  refine isUnquoted_of_joinWith p.toList_text (List.forall_mem_cons.2 ⟨by decide, ?_⟩)
  exact fun s hs => isUnquoted_of_isSafeSegment (List.all_eq_true.1 p.safe s hs)

/-- A pointer's text is cut into `$` and its segments again. -/
theorem Pointer.parts_text (p : Pointer) : Text.parts '.' p.text = "$" :: p.segments := by
  refine Text.parts_of_joinWith p.toList_text (List.cons_ne_nil _ _) ?_
  refine List.forall_mem_cons.2 ⟨by decide, ?_⟩
  exact fun s hs => dot_not_mem_of_isSafeSegment (List.all_eq_true.1 p.safe s hs)

-- ========================================================== resolution

/-- There is a pointer along the segments of another, whatever path they are
said to come from. -/
theorem Pointer.along_segments (path : String) (p : Pointer) :
    Pointer.along path p.segments = .ok p := by
  unfold Pointer.along
  split
  · next s hs =>
    have hbad := List.find?_some hs
    rw [List.all_eq_true.1 p.safe s (List.mem_of_find?_eq_some hs)] at hbad
    cases hbad
  · rfl

/-- A pointer along segments has just these. -/
theorem Pointer.segments_of_along {path : String} {segments : List String} {p : Pointer}
    (h : Pointer.along path segments = .ok p) : p.segments = segments := by
  unfold Pointer.along at h
  split at h
  · cases h
  · cases h
    rfl

/-- Segments are refused for the leftmost that is unsafe, or there is a
pointer along them. -/
theorem Pointer.along_cases (path : String) (segments : List String) :
    (∃ s, segments.find? (fun s => !isSafeSegment s) = some s
        ∧ Pointer.along path segments = .error ⟨path, s⟩)
      ∨ ((∀ s ∈ segments, isSafeSegment s = true)
        ∧ ∃ p : Pointer, p.segments = segments ∧ Pointer.along path segments = .ok p) := by
  cases hp : Pointer.along path segments with
  | error e =>
    unfold Pointer.along at hp
    split at hp
    · next s hs =>
      cases hp
      exact .inl ⟨s, hs, rfl⟩
    · cases hp
  | ok p =>
    have hsegments := Pointer.segments_of_along hp
    refine .inr ⟨?_, p, hsegments, rfl⟩
    rw [← hsegments]
    exact List.all_eq_true.1 p.safe

/-- Paths whose segments are all safe. -/
def IsSafePath (path : String) : Prop :=
  ∀ s ∈ pathSegments path, isSafeSegment s = true

instance (path : String) : Decidable (IsSafePath path) :=
  inferInstanceAs (Decidable (∀ s ∈ pathSegments path, isSafeSegment s = true))

/-- The segment that an unsafe path is refused for. -/
def IsLeftmostUnsafe (path segment : String) : Prop :=
  IsFirstWithout (fun s => isSafeSegment s = true) (pathSegments path) segment

/-- There is a pointer along a path when the path is safe. -/
theorem Pointer.exists_along_iff {path : String} :
    (∃ p, Pointer.along path (pathSegments path) = .ok p) ↔ IsSafePath path := by
  rcases Pointer.along_cases path (pathSegments path) with ⟨s, hs, hp⟩ | ⟨hsafe, p, -, hp⟩
  · obtain ⟨before, later, hsegments, -, hbad⟩ := find?_not_eq_some_iff.1 hs
    refine iff_of_false ?_ fun hsafe => hbad (hsafe s (by simp [hsegments]))
    intro h
    obtain ⟨p, hp'⟩ := h
    cases hp.symm.trans hp'
  · exact iff_of_true ⟨p, hp⟩ hsafe

/-- Otherwise its leftmost segment that is not safe is the fault. -/
theorem Pointer.along_eq_error_iff {path : String} {e : UnsafeSegment} :
    Pointer.along path (pathSegments path) = .error e
      ↔ ∃ s, IsLeftmostUnsafe path s ∧ e = ⟨path, s⟩ := by
  unfold IsLeftmostUnsafe
  simp only [← find?_not_eq_some_iff]
  rcases Pointer.along_cases path (pathSegments path) with ⟨s, hs, hp⟩ | ⟨hsafe, p, -, hp⟩
  · rw [hp, hs]
    constructor
    · rintro ⟨⟩
      exact ⟨s, rfl, rfl⟩
    · intro h
      obtain ⟨s', hs', rfl⟩ := h
      rw [Option.some.inj hs']
  · rw [hp]
    refine iff_of_false nofun ?_
    intro h
    obtain ⟨s, hs, -⟩ := h
    have hbad := List.find?_some hs
    rw [hsafe s (List.mem_of_find?_eq_some hs)] at hbad
    cases hbad

namespace FieldRef

/-- The columns that the tables of names lead to hold no documents. -/
theorem rootColumn_ne_document {s : String} {c : Column} (h : rootColumn? s = some c) :
    c ≠ .payload ∧ c ≠ .ctx := by
  unfold rootColumn? at h
  split at h
  all_goals cases h
  all_goals exact ⟨nofun, nofun⟩

/-- What is nested in a root is a column of its own, and never a document. -/
theorem nested_ne_document {root : String} {child : Option String} {f : FieldRef}
    (h : nested? root child = some f) :
    ∃ c, f.column? = some c ∧ c ≠ .payload ∧ c ≠ .ctx := by
  unfold nested? at h
  split at h
  · obtain ⟨c, hc, rfl⟩ := Option.map_eq_some_iff.1 h
    refine ⟨c, rfl, ?_⟩
    unfold actorColumn? at hc
    split at hc
    all_goals cases hc
    all_goals exact ⟨nofun, nofun⟩
  · obtain ⟨c, hc, rfl⟩ := Option.map_eq_some_iff.1 h
    refine ⟨c, rfl, ?_⟩
    unfold sourceColumn? at hc
    split at hc
    all_goals cases hc
    all_goals exact ⟨nofun, nofun⟩
  · cases h

/-- What safe segments can lead to. -/
theorem ofPointer_cases (p : Pointer) :
    (∃ c, (ofPointer p).column? = some c ∧ c ≠ .payload ∧ c ≠ .ctx)
      ∨ (∃ d, rootDocument? (p.segments.headD "") = some d ∧ ofPointer p = .inside d p.tail)
      ∨ ofPointer p = .fallback p := by
  unfold ofPointer
  simp only
  cases hroot : rootColumn? (p.segments.headD "") with
  | some c => exact .inl ⟨c, rfl, rootColumn_ne_document hroot⟩
  | none =>
    cases hnested : nested? (p.segments.headD "") p.tail.segments.head? with
    | some f => exact .inl (nested_ne_document hnested)
    | none =>
      cases hdoc : rootDocument? (p.segments.headD "") with
      | some d => exact .inr (.inl ⟨d, rfl, rfl⟩)
      | none => exact .inr (.inr rfl)

/-- A path that is resolved has a pointer along all of its segments. -/
theorem exists_pointer_of_ofPath {path : String} {f : FieldRef} (h : ofPath path = .ok f) :
    ∃ p : Pointer, p.segments = pathSegments path ∧ f = ofPointer p := by
  obtain ⟨p, hp, rfl⟩ := map_eq_ok h
  exact ⟨p, Pointer.segments_of_along hp, rfl⟩

/-- A path can be resolved just when it is safe, and so it is with its
expression. -/
theorem exists_ofPath_iff {path : String} : (∃ f, ofPath path = .ok f) ↔ IsSafePath path := by
  simp only [ofPath, exists_map_iff, Pointer.exists_along_iff]

/-- A path has an expression when it is safe. -/
theorem exists_pathSql_iff {path : String} :
    (∃ expr, pathSql path = .ok expr) ↔ IsSafePath path := by
  simp only [pathSql, exists_map_iff, exists_ofPath_iff]

/-- Otherwise it is refused for its leftmost unsafe segment. -/
theorem ofPath_eq_error_iff {path : String} {e : UnsafeSegment} :
    ofPath path = .error e ↔ ∃ s, IsLeftmostUnsafe path s ∧ e = ⟨path, s⟩ := by
  simp only [ofPath, map_eq_error_iff, Pointer.along_eq_error_iff]

/-- Otherwise its leftmost segment that is not safe is the fault. -/
theorem pathSql_eq_error_iff {path : String} {e : UnsafeSegment} :
    pathSql path = .error e ↔ ∃ s, IsLeftmostUnsafe path s ∧ e = ⟨path, s⟩ := by
  rw [pathSql, map_eq_error_iff, ofPath_eq_error_iff]

theorem pathSql_of_ofPath {path : String} {f : FieldRef} (h : ofPath path = .ok f) :
    pathSql path = .ok f.sql := by
  unfold pathSql
  rw [h]
  rfl

/-- The expression that reads a place, with the quotes set apart. -/
theorem extraction_eq (d : Document) (p : Pointer) :
    extraction d p
      = "json_extract_string(" ++ d.column.name ++ ", " ++ "'" ++ p.text ++ "'" ++ ")" := by
  have hbefore : ", '" = ", " ++ "'" := rfl
  have hafter : "')" = "'" ++ ")" := rfl
  unfold extraction
  rw [hbefore, hafter]
  simp only [String.append_assoc]

/-- A path with the segments of a pointer is resolved like the pointer. -/
theorem ofPath_of_segments {path : String} {p : Pointer} (h : p.segments = pathSegments path) :
    ofPath path = .ok (ofPointer p) := by
  unfold ofPath
  rw [← h, p.along_segments]
  rfl

/-- A path is refused for its leftmost unsafe segment, or it has none and
is resolved. -/
theorem pathSql_cases (path : String) :
    (∃ s, (pathSegments path).find? (fun s => !isSafeSegment s) = some s
        ∧ pathSql path = .error ⟨path, s⟩)
      ∨ ((∀ s ∈ pathSegments path, isSafeSegment s = true)
        ∧ ∃ f, ofPath path = .ok f ∧ pathSql path = .ok f.sql) := by
  unfold pathSql ofPath
  rcases Pointer.along_cases path (pathSegments path) with ⟨s, hs, hp⟩ | ⟨hsafe, p, -, hp⟩
  · rw [hp]
    exact .inl ⟨s, hs, rfl⟩
  · rw [hp]
    exact .inr ⟨hsafe, ofPointer p, rfl, rfl⟩

/-- A path below `payload` leads where the rest of it points to in the
payload, and is refused for the same segment as the rest. -/
theorem ofPath_below_payload (path : String) :
    ofPath ("payload." ++ path)
      = ((Pointer.along path (pathSegments path)).mapError fun e =>
        ⟨"payload." ++ path, e.segment⟩).map (inside .payload) := by
  have hpayload : isSafeSegment "payload" = true := by decide +kernel
  have hsegments : pathSegments ("payload." ++ path) = "payload" :: pathSegments path :=
    pathSegments_below (by decide : '.' ∉ "payload".toList) path
  rcases Pointer.along_cases path (pathSegments path) with ⟨s, hs, hp⟩ | ⟨hsafe, p, hps, hp⟩
  · obtain ⟨before, later, hpath, hbefore, hbad⟩ := find?_not_eq_some_iff.1 hs
    have hleftmost : IsLeftmostUnsafe ("payload." ++ path) s :=
      ⟨"payload" :: before, later, by rw [hsegments, hpath]; rfl,
        List.forall_mem_cons.2 ⟨hpayload, hbefore⟩, hbad⟩
    rw [hp, ofPath_eq_error_iff.2 ⟨s, hleftmost, rfl⟩]
    rfl
  · have hall : ∀ s ∈ "payload" :: pathSegments path, isSafeSegment s = true :=
      List.forall_mem_cons.2 ⟨hpayload, hsafe⟩
    let whole : Pointer := ⟨"payload" :: pathSegments path, List.all_eq_true.2 hall⟩
    have htail : whole.tail = p := Pointer.ext hps.symm
    rw [hp, ofPath_of_segments (p := whole) hsegments.symm, ← htail]
    rfl

/-- What a path can be resolved to. -/
theorem ofPath_cases {path : String} {f : FieldRef} (h : ofPath path = .ok f) :
    (∃ c, f.column? = some c ∧ c ≠ .payload ∧ c ≠ .ctx)
      ∨ (∃ d r, f = .inside d r ∧ r.segments = (pathSegments path).tail)
      ∨ (∃ r, f = .fallback r ∧ r.segments = pathSegments path) := by
  obtain ⟨p, hp, rfl⟩ := exists_pointer_of_ofPath h
  rcases ofPointer_cases p with hcol | ⟨d, -, hd⟩ | hf
  · exact .inl hcol
  · exact .inr (.inl ⟨d, p.tail, hd, by rw [← hp]; rfl⟩)
  · exact .inr (.inr ⟨p, hf, hp⟩)

end FieldRef

end EventAnalytics
