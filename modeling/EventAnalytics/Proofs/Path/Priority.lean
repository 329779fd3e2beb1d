/-
Which paths are accepted, and in which order their names are looked up.

A path is made of texts with a dot between each two (`IsCutInto`), and it
is accepted when each of them is a name. Where an accepted path leads is
told by five ways, each for itself and with its own table of names
(`Way.Leads`). Most paths are open to several ways only in that the last
one, into the payload, is open to all; so what resolution adds to the ways
is their order, and `first_way_is_taken` says that it takes the first way
that leads anywhere.

The two ways into a document end with a pointer, which is checked when it
is built although the whole path was checked before. That second check
cannot fail: a pointer along all segments has one along each end of them
(`Pointer.exists_along_suffix`).
-/
import EventAnalytics.Proofs.Path.Resolution

namespace EventAnalytics

-- =========================================================== segments

/-- The texts that a path is made of, with a dot between each two. -/
structure IsCutInto (path : String) (segments : List String) : Prop where
  ne_nil : segments ≠ []
  no_dot : ∀ s ∈ segments, '.' ∉ s.toList
  joined : String.intercalate "." segments = path

/-- There is one way to cut a path, and it is the one that is used. -/
theorem isCutInto_iff {path : String} {segments : List String} :
    IsCutInto path segments ↔ segments = pathSegments path := by
  constructor
  · intro h
    have hchars : path.toList = Text.joinWith '.' (segments.map String.toList) := by
      rw [← h.joined, String.toList_intercalate, Text.joinWith_eq_intercalate]
      rfl
    exact (Text.parts_of_joinWith hchars h.ne_nil h.no_dot).symm
  · rintro rfl
    refine ⟨?_, ?_, ?_⟩
    · intro hnil
      exact Text.splitAt_ne_nil '.' path.toList (List.map_eq_nil_iff.1 hnil)
    · intro s hs
      obtain ⟨part, hpart, rfl⟩ := List.mem_map.1 hs
      rw [String.toList_ofList]
      exact Text.not_mem_of_mem_splitAt hpart
    · apply String.toList_injective
      rw [String.toList_intercalate, toList_path path, Text.joinWith_eq_intercalate]
      rfl

/-- Texts of letters, numbers, `_` and `-`, with at least one of them. -/
def IsName (s : String) : Prop :=
  s ≠ "" ∧ ∀ c ∈ s.toList, Text.isAlphanumeric c = true ∨ c = '_' ∨ c = '-'

/-- The check of a segment finds out whether it is a name. -/
theorem isSafeSegment_iff {s : String} : isSafeSegment s = true ↔ IsName s := by
  unfold isSafeSegment isSegmentChar IsName
  simp only [Bool.and_eq_true, Bool.not_eq_true', List.isEmpty_eq_false_iff, ne_eq,
    String.toList_eq_nil_iff, List.all_eq_true, Bool.or_eq_true, beq_iff_eq, or_assoc]

instance (s : String) : Decidable (IsName s) :=
  decidable_of_iff _ isSafeSegment_iff

/-- A path is safe when all of its segments are names. -/
theorem isSafePath_iff {path : String} :
    IsSafePath path ↔ ∀ s ∈ pathSegments path, IsName s :=
  forall₂_congr fun _ _ => isSafeSegment_iff

/-- The leftmost segment that is not safe is the first that is no name. -/
theorem isLeftmostUnsafe_iff {path segment : String} :
    IsLeftmostUnsafe path segment ↔ IsFirstWithout IsName (pathSegments path) segment := by
  unfold IsLeftmostUnsafe
  rw [funext fun s => propext (@isSafeSegment_iff s)]

-- ============================================================= tables

/-- The roots that name a column. -/
def rootNames : List (String × Column) :=
  [("product", .product), ("version", .version), ("type", .type), ("run_id", .runId),
    ("runId", .runId)]

/-- The parts of the actor that have a column. -/
def actorNames : List (String × Column) :=
  [("type", .actorType), ("id", .actorId), ("name", .actorName)]

/-- The parts of the source that have a column. -/
def sourceNames : List (String × Column) :=
  [("product", .product), ("version", .version)]

/-- The roots that name a document. -/
def documentNames : List (String × Document) :=
  [("payload", .payload), ("ctx", .ctx)]

/-- The names that lead to a column from the root are those that are looked
up there. -/
theorem mem_rootNames {s : String} {c : Column} :
    (s, c) ∈ rootNames ↔ FieldRef.rootColumn? s = some c := by
  constructor
  · intro h
    simp only [rootNames, List.mem_cons, Prod.mk.injEq, List.not_mem_nil, or_false] at h
    rcases h with ⟨rfl, rfl⟩ | ⟨rfl, rfl⟩ | ⟨rfl, rfl⟩ | ⟨rfl, rfl⟩ | ⟨rfl, rfl⟩ <;> rfl
  · intro h
    unfold FieldRef.rootColumn? at h
    split at h <;> cases h <;> simp [rootNames]

theorem mem_actorNames {s : String} {c : Column} :
    (s, c) ∈ actorNames ↔ FieldRef.actorColumn? s = some c := by
  constructor
  · intro h
    simp only [actorNames, List.mem_cons, Prod.mk.injEq, List.not_mem_nil, or_false] at h
    rcases h with ⟨rfl, rfl⟩ | ⟨rfl, rfl⟩ | ⟨rfl, rfl⟩ <;> rfl
  · intro h
    unfold FieldRef.actorColumn? at h
    split at h <;> cases h <;> simp [actorNames]

theorem mem_sourceNames {s : String} {c : Column} :
    (s, c) ∈ sourceNames ↔ FieldRef.sourceColumn? s = some c := by
  constructor
  · intro h
    simp only [sourceNames, List.mem_cons, Prod.mk.injEq, List.not_mem_nil, or_false] at h
    rcases h with ⟨rfl, rfl⟩ | ⟨rfl, rfl⟩ <;> rfl
  · intro h
    unfold FieldRef.sourceColumn? at h
    split at h <;> cases h <;> simp [sourceNames]

/-- The names that lead into a document are those that are looked up
there. -/
theorem mem_documentNames {s : String} {d : Document} :
    (s, d) ∈ documentNames ↔ FieldRef.rootDocument? s = some d := by
  constructor
  · intro h
    simp only [documentNames, List.mem_cons, Prod.mk.injEq, List.not_mem_nil, or_false] at h
    rcases h with ⟨rfl, rfl⟩ | ⟨rfl, rfl⟩ <;> rfl
  · intro h
    unfold FieldRef.rootDocument? at h
    split at h <;> cases h <;> simp [documentNames]

-- =============================================================== ways

/-- The ways from the segments of a path to a field. -/
inductive Way where
  /-- By the root, which names a column; what follows it is ignored. -/
  | root
  /-- By a part of the actor; what follows it is ignored. -/
  | actor
  /-- By a part of the source; what follows it is ignored. -/
  | source
  /-- Into the document that the root names, along the segments after it. -/
  | document
  /-- Into the payload, along all segments. -/
  | payload
  deriving DecidableEq, Repr

namespace Way

/-- All ways, in the order in which they are tried. -/
def all : List Way := [root, actor, source, document, payload]

/-- Where a way leads from the segments of a path, whatever the others do. -/
inductive Leads (path : String) : List String → Way → FieldRef → Prop where
  | root {name : String} {rest : List String} {c : Column} (hname : (name, c) ∈ rootNames) :
    Leads path (name :: rest) root (.direct c)
  | actor {first name : String} {rest : List String} {c : Column} (hfirst : first = "actor")
    (hname : (name, c) ∈ actorNames) : Leads path (first :: name :: rest) actor (.actor c)
  | source {first name : String} {rest : List String} {c : Column} (hfirst : first = "source")
    (hname : (name, c) ∈ sourceNames) : Leads path (first :: name :: rest) source (.source c)
  | document {name : String} {rest : List String} {d : Document} {p : Pointer}
    (hname : (name, d) ∈ documentNames) (hp : Pointer.along path rest = .ok p) :
    Leads path (name :: rest) document (.inside d p)
  | payload {segments : List String} {p : Pointer} (hp : Pointer.along path segments = .ok p) :
    Leads path segments payload (.fallback p)

/-- A way that leads nowhere. -/
def IsClosed (path : String) (segments : List String) (way : Way) : Prop :=
  ∀ f, ¬Leads path segments way f

variable {path root : String} {segments rest : List String} {way : Way} {f g : FieldRef}

/-- A way leads to one field only. -/
theorem Leads.unique (hf : Leads path segments way f) (hg : Leads path segments way g) :
    f = g := by
  cases hf with
  | root hname =>
    cases hg with
    | root hname' =>
      rw [mem_rootNames] at hname hname'
      rw [Option.some.inj (hname.symm.trans hname')]
  | actor _ hname =>
    cases hg with
    | actor _ hname' =>
      rw [mem_actorNames] at hname hname'
      rw [Option.some.inj (hname.symm.trans hname')]
  | source _ hname =>
    cases hg with
    | source _ hname' =>
      rw [mem_sourceNames] at hname hname'
      rw [Option.some.inj (hname.symm.trans hname')]
  | document hname hp =>
    cases hg with
    | document hname' hp' =>
      rw [mem_documentNames] at hname hname'
      rw [Option.some.inj (hname.symm.trans hname'), Except.ok.inj (hp.symm.trans hp')]
  | payload hp =>
    cases hg with
    | payload hp' => rw [Except.ok.inj (hp.symm.trans hp')]

/-- The way to a column of its own is closed to other roots. -/
theorem root_isClosed (h : FieldRef.rootColumn? root = none) :
    IsClosed path (root :: rest) Way.root := by
  intro f hf
  cases hf with
  | root hname => cases h.symm.trans (mem_rootNames.1 hname)

/-- The way into the actor is closed to other names. -/
theorem actor_isClosed (h : FieldRef.nested? root rest.head? = none) :
    IsClosed path (root :: rest) actor := by
  intro f hf
  cases hf with
  | actor hfirst hname =>
    subst hfirst
    cases (Option.map_eq_none_iff.1 h).symm.trans (mem_actorNames.1 hname)

/-- The way into the source is closed to other names. -/
theorem source_isClosed (h : FieldRef.nested? root rest.head? = none) :
    IsClosed path (root :: rest) source := by
  intro f hf
  cases hf with
  | source hfirst hname =>
    subst hfirst
    cases (Option.map_eq_none_iff.1 h).symm.trans (mem_sourceNames.1 hname)

/-- The way into a document is closed to other roots. -/
theorem document_isClosed (h : FieldRef.rootDocument? root = none) :
    IsClosed path (root :: rest) document := by
  intro f hf
  cases hf with
  | document hname => cases h.symm.trans (mem_documentNames.1 hname)

/-- A way that leads somewhere is the first if all ways before it are closed. -/
theorem isFirst_of_leads (before : List Way) {later : List Way}
    (hall : all = before ++ way :: later) (hbefore : ∀ w ∈ before, IsClosed path segments w)
    (hf : Leads path segments way f) : IsFirstWithout (IsClosed path segments) all way :=
  ⟨before, later, hall, hbefore, fun hclosed => hclosed f hf⟩

/-- The flattened column of a root and its child is at the end of the way
of the actor or of that of the source, which exclude each other. -/
theorem exists_first_of_nested (hroot : FieldRef.rootColumn? root = none)
    (h : FieldRef.nested? root rest.head? = some f) :
    ∃ way, IsFirstWithout (IsClosed path (root :: rest)) all way
      ∧ Leads path (root :: rest) way f := by
  have hclosed : IsClosed path (root :: rest) Way.root := root_isClosed hroot
  unfold FieldRef.nested? at h
  split at h
  · next child hchild =>
    obtain ⟨rest', rfl⟩ := List.head?_eq_some_iff.1 hchild
    obtain ⟨c, hc, rfl⟩ := Option.map_eq_some_iff.1 h
    have hleads : Leads path ("actor" :: child :: rest') actor (.actor c) :=
      .actor rfl (mem_actorNames.2 hc)
    refine ⟨actor, isFirst_of_leads [Way.root] rfl ?_ hleads, hleads⟩
    exact List.forall_mem_singleton.2 hclosed
  · next child hchild =>
    obtain ⟨rest', rfl⟩ := List.head?_eq_some_iff.1 hchild
    obtain ⟨c, hc, rfl⟩ := Option.map_eq_some_iff.1 h
    have hleads : Leads path ("source" :: child :: rest') source (.source c) :=
      .source rfl (mem_sourceNames.2 hc)
    have hactor : IsClosed path ("source" :: child :: rest') actor := by
      intro g hg
      cases hg with
      | actor hfirst _ => exact absurd hfirst (by decide)
    refine ⟨source, isFirst_of_leads [Way.root, actor] rfl ?_ hleads, hleads⟩
    exact List.forall_mem_cons.2 ⟨hclosed, List.forall_mem_singleton.2 hactor⟩
  · cases h

/-- A pointer is resolved along the first way that is open. -/
theorem exists_first {p : Pointer} (hp : p.segments = root :: rest) :
    ∃ way, IsFirstWithout (IsClosed path (root :: rest)) all way
      ∧ Leads path (root :: rest) way (FieldRef.ofPointer p) := by
  have htail : p.tail.segments = rest := congrArg List.tail hp
  have hhead : p.segments.headD "" = root := congrArg (List.headD · "") hp
  unfold FieldRef.ofPointer
  simp only [hhead, htail]
  -- The ways are tried in their order, and each that does not lead on is
  -- closed.
  cases hroot : FieldRef.rootColumn? root with
  | some c =>
    have hleads : Leads path (root :: rest) Way.root (.direct c) := .root (mem_rootNames.2 hroot)
    exact ⟨_, isFirst_of_leads [] rfl (List.forall_mem_nil _) hleads, hleads⟩
  | none =>
    cases hnested : FieldRef.nested? root rest.head? with
    | some f => exact exists_first_of_nested hroot hnested
    | none =>
      have hroot' : IsClosed path (root :: rest) Way.root := root_isClosed hroot
      have hactor : IsClosed path (root :: rest) actor := actor_isClosed hnested
      have hsource : IsClosed path (root :: rest) source := source_isClosed hnested
      cases hdocument : FieldRef.rootDocument? root with
      | some d =>
        have hleads : Leads path (root :: rest) document (.inside d p.tail) :=
          .document (mem_documentNames.2 hdocument) (htail ▸ p.tail.along_segments path)
        refine ⟨_, isFirst_of_leads [Way.root, actor, source] rfl ?_ hleads, hleads⟩
        simp only [List.forall_mem_cons]
        exact ⟨hroot', hactor, hsource, List.forall_mem_nil _⟩
      | none =>
        have hdocument' : IsClosed path (root :: rest) document := document_isClosed hdocument
        have hleads : Leads path (root :: rest) payload (.fallback p) :=
          .payload (hp ▸ p.along_segments path)
        refine ⟨_, isFirst_of_leads [Way.root, actor, source, document] rfl ?_ hleads,
          hleads⟩
        simp only [List.forall_mem_cons]
        exact ⟨hroot', hactor, hsource, hdocument', List.forall_mem_nil _⟩

end Way

/-- There is a pointer along each end of safe segments. -/
theorem Pointer.exists_along_suffix {path : String} {rest : List String} (h : IsSafePath path)
    (hrest : rest <:+ pathSegments path) :
    ∃ p, Pointer.along path rest = .ok p ∧ p.segments = rest := by
  have hsafe : ∀ s ∈ rest, isSafeSegment s = true := fun s hs => h s (hrest.subset hs)
  let p : Pointer := ⟨rest, List.all_eq_true.2 hsafe⟩
  exact ⟨p, p.along_segments path, rfl⟩

-- ============================================================= quotes

/-- Names of columns have no quote. -/
theorem Column.isUnquoted_name (c : Column) : IsUnquoted c.name := by
  cases c <;> decide

namespace FieldRef

/-- The pointer of a place inside a document. -/
def pointer? : FieldRef → Option Pointer
  | inside _ p | fallback p => some p
  | direct _ | actor _ | source _ => none

/-- Fields whose expression has no quote but the two around the pointer, if
there is a pointer in it. -/
def IsQuotedOnce (f : FieldRef) : Prop :=
  (f.pointer? = none → IsUnquoted f.sql)
    ∧ ∀ p, f.pointer? = some p → ∃ before after, f.sql = before ++ "'" ++ p.text ++ "'" ++ after
      ∧ IsUnquoted before ∧ IsUnquoted p.text ∧ IsUnquoted after

/-- An extraction has the two quotes around its pointer and no other. -/
theorem isQuotedOnce_extraction (d : Document) (p : Pointer) :
    ∃ before after, extraction d p = before ++ "'" ++ p.text ++ "'" ++ after
      ∧ IsUnquoted before ∧ IsUnquoted p.text ∧ IsUnquoted after := by
  refine ⟨_, _, extraction_eq d p, ?_, p.isUnquoted_text, by decide⟩
  cases d <;> decide

/-- Whatever field there is, its expression has no other quotes. -/
theorem isQuotedOnce (f : FieldRef) : f.IsQuotedOnce := by
  unfold IsQuotedOnce
  cases f with
  | direct c => exact ⟨fun _ => c.isUnquoted_name, nofun⟩
  | actor c => exact ⟨fun _ => c.isUnquoted_name, nofun⟩
  | source c => exact ⟨fun _ => c.isUnquoted_name, nofun⟩
  | inside d p =>
    refine ⟨nofun, ?_⟩
    rintro _ ⟨⟩
    exact isQuotedOnce_extraction d p
  | fallback p =>
    refine ⟨nofun, ?_⟩
    rintro _ ⟨⟩
    exact isQuotedOnce_extraction .payload p

-- ========================================================= resolution

/-- Accepted paths are resolved along the first way that is open. -/
theorem ofPath_eq_ok_iff {path : String} {f : FieldRef} :
    ofPath path = .ok f
      ↔ IsSafePath path ∧ ∃ way,
        IsFirstWithout (Way.IsClosed path (pathSegments path)) Way.all way
          ∧ Way.Leads path (pathSegments path) way f := by
  have hfirst : ∀ {g}, ofPath path = .ok g → ∃ way,
      IsFirstWithout (Way.IsClosed path (pathSegments path)) Way.all way
        ∧ Way.Leads path (pathSegments path) way g := by
    intro g hg
    obtain ⟨p, hp, rfl⟩ := exists_pointer_of_ofPath hg
    cases hsegments : pathSegments path with
    | nil => exact absurd hsegments (isCutInto_iff.2 rfl).ne_nil
    | cons root rest => exact Way.exists_first (hp.trans hsegments)
  constructor
  · exact fun h => ⟨exists_ofPath_iff.1 ⟨f, h⟩, hfirst h⟩
  · intro h
    obtain ⟨hsafe, way, hway, hf⟩ := h
    obtain ⟨g, hg⟩ := exists_ofPath_iff.2 hsafe
    obtain ⟨way', hway', hleads⟩ := hfirst hg
    obtain rfl := hway.unique hway'
    rw [hf.unique hleads]
    exact hg

end FieldRef

-- ============================================================= the law

/-- A path is accepted just when each of the texts between its dots is a
name, and otherwise refused for the leftmost that is none, whatever its root
is.

An accepted path is resolved along the first way that leads anywhere. The
pointers on these ways can always be built; and the expression has no quote
but the two around the pointer. -/
theorem first_way_is_taken (path : String) :
    ∃ segments, (∀ ss, IsCutInto path ss ↔ ss = segments)
      ∧ ((∃ f, FieldRef.ofPath path = .ok f) ↔ ∀ s ∈ segments, IsName s)
      ∧ ((∃ expr, pathSql path = .ok expr) ↔ ∀ s ∈ segments, IsName s)
      ∧ (∀ e, FieldRef.ofPath path = .error e
        ↔ ∃ s, IsFirstWithout IsName segments s ∧ e = ⟨path, s⟩)
      ∧ (∀ e, pathSql path = .error e
        ↔ ∃ s, IsFirstWithout IsName segments s ∧ e = ⟨path, s⟩)
      ∧ (∀ f, FieldRef.ofPath path = .ok f ↔ (∀ s ∈ segments, IsName s) ∧ ∃ way,
        IsFirstWithout (Way.IsClosed path segments) Way.all way
          ∧ Way.Leads path segments way f)
      ∧ ((∀ s ∈ segments, IsName s) → ∀ rest, rest <:+ segments →
        ∃ p, Pointer.along path rest = .ok p ∧ p.segments = rest)
      ∧ ∀ f, FieldRef.ofPath path = .ok f → pathSql path = .ok f.sql ∧ f.IsQuotedOnce := by
  refine ⟨pathSegments path, fun _ => isCutInto_iff, ?_⟩
  simp only [← isSafePath_iff, ← isLeftmostUnsafe_iff]
  refine ⟨FieldRef.exists_ofPath_iff, FieldRef.exists_pathSql_iff,
    fun _ => FieldRef.ofPath_eq_error_iff, fun _ => FieldRef.pathSql_eq_error_iff,
    fun _ => FieldRef.ofPath_eq_ok_iff, fun h _ hrest => Pointer.exists_along_suffix h hrest, ?_⟩
  exact fun f h => ⟨FieldRef.pathSql_of_ofPath h, f.isQuotedOnce⟩

/-- A root that names a column does not excuse the quote after it. What
follows the name of an actor is not looked at, although there is a pointer
along it. -/
theorem columns_do_not_excuse_quotes :
    pathSql "type.it's.a b" = .error ⟨"type.it's.a b", "it's"⟩
      ∧ FieldRef.ofPath "actor.name.first" = .ok (.actor .actorName)
      ∧ pathSql "actor.name.first" = .ok "actor_name"
      ∧ ∃ p, Pointer.along "actor.name.first" ["name", "first"] = .ok p
        ∧ p.segments = ["name", "first"] := by
  constructor
  · obtain ⟨segments, hcut, -, -, -, herror, -⟩ := first_way_is_taken "type.it's.a b"
    have hsegments : ["type", "it's", "a b"] = segments :=
      (hcut _).1 ⟨by decide, by decide, by decide⟩
    subst hsegments
    have hname : IsFirstWithout IsName ["type", "it's", "a b"] "it's" :=
      ⟨["type"], ["a b"], rfl, by decide +kernel, by decide +kernel⟩
    exact (herror _).2 ⟨"it's", hname, rfl⟩
  · obtain ⟨segments, hcut, -, -, -, -, hresolved, hpointers, hsql⟩ :=
      first_way_is_taken "actor.name.first"
    have hsegments : ["actor", "name", "first"] = segments :=
      (hcut _).1 ⟨by decide, by decide, by decide⟩
    subst hsegments
    have hnames : ∀ s ∈ ["actor", "name", "first"], IsName s := by decide +kernel
    have hleads : Way.Leads "actor.name.first" ["actor", "name", "first"] .actor
        (.actor .actorName) := .actor rfl (by decide)
    have hfirst := Way.isFirst_of_leads [.root] rfl
      (List.forall_mem_singleton.2 (Way.root_isClosed rfl)) hleads
    have hfield : FieldRef.ofPath "actor.name.first" = .ok (.actor .actorName) :=
      (hresolved _).2 ⟨hnames, .actor, hfirst, hleads⟩
    exact ⟨hfield, (hsql _ hfield).1, hpointers hnames _ (List.suffix_cons _ _)⟩

end EventAnalytics
