/-
Events added to a store line by line.

A line is blank, or it holds an event that the store adds, or it ends the
work (`line_cases`). So a text is added up to its first line of the last
kind, and what was added before that stays: the store has the rows of the
events of those lines and is otherwise as it was (`ingestLines_cases`).

Nothing is remembered between two lines but the store and the number of
the line. A text whose lines are closed can therefore be added first and
another text after it, which is the same as adding both at once, the
numbers of its lines apart (`ingestLines_append`, `ingestLines_after`). A
text that was added cannot be added again: its first event is taken, and
stays so whatever is done with the store (`append_of_stored`).
-/
import EventAnalytics.Command.Failure
import EventAnalytics.Proofs.Store.Refinement
import EventAnalytics.Proofs.Store.Sharing

namespace EventAnalytics

/-- The lines that are not blank. -/
def Text.entries (ls : List String) : List String := ls.filter fun l => !isBlankText l

namespace IngestError

/-- The same failure when the lines come after some others. -/
def after (lines : Nat) : IngestError → IngestError
  | notEvent n => notEvent (lines + n)
  | refused n id reason => refused (lines + n) id reason

end IngestError

namespace Store

variable {s s' s'' : Store} {e : Event} {es es' : List Event} {l : String} {ls : List String}

-- ============================================================ one line

/-- The failure that a line ends the work with, and the store that it
leaves. There is none when the line's event is added. -/
def stop? (s : Store) (number : Nat) (l : String) : Option (IngestError × Store) :=
  match Event.ofText? l with
  | none => some (.notEvent number, s)
  | some e =>
    match s.append e with
    | (.error reason, s) => some (.refused number e.id reason, s)
    | (.ok (), _) => none

/-- What a line can be to a store. -/
theorem line_cases (s : Store) (number : Nat) (l : String) :
    Text.isBlankText l = true
      ∨ (Text.isBlankText l = false ∧ ∃ err s', s.stop? number l = some (err, s'))
      ∨ (Text.isBlankText l = false
        ∧ ∃ e s', Event.ofText? l = some e ∧ s.append e = (.ok (), s')) := by
  unfold stop?
  cases Text.isBlankText l with
  | true => exact .inl rfl
  | false =>
    refine .inr ?_
    cases Event.ofText? l with
    | none => exact .inl ⟨rfl, _, _, rfl⟩
    | some e =>
      rcases hs : s.append e with ⟨reason | u, s'⟩
      · exact .inl ⟨rfl, .refused number e.id reason, s', by simp only [hs]⟩
      · exact .inr ⟨rfl, e, s', rfl, hs⟩

/-- A blank line is passed over, and counted. -/
theorem ingestLines_blank (hblank : Text.isBlankText l = true) (s : Store) (number : Nat)
    (ls : List String) : s.ingestLines number (l :: ls) = s.ingestLines (number + 1) ls := by
  rw [ingestLines, if_pos hblank]

/-- A line ends the work because it is no event or its event is refused. -/
theorem stop?_cases {number : Nat} {err : IngestError} (h : s.stop? number l = some (err, s')) :
    (Event.ofText? l = none ∧ err = .notEvent number ∧ s' = s)
      ∨ ∃ e reason, Event.ofText? l = some e ∧ s.append e = (.error reason, s')
        ∧ err = .refused number e.id reason := by
  unfold stop? at h
  cases hevent : Event.ofText? l with
  | none =>
    rw [hevent] at h
    cases h
    exact .inl ⟨rfl, rfl, rfl⟩
  | some e =>
    rw [hevent] at h
    rcases hs : s.append e with ⟨reason | u, s₁⟩
    · simp only [hs] at h
      cases h
      exact .inr ⟨e, reason, rfl, hs, rfl⟩
    · simp only [hs] at h
      cases h

/-- The line that stops the reading decides the answer, whatever follows. -/
theorem ingestLines_stop {number : Nat} {err : IngestError}
    (hblank : Text.isBlankText l = false) (h : s.stop? number l = some (err, s'))
    (ls : List String) : s.ingestLines number (l :: ls) = (.error err, s') := by
  have hnot : ¬Text.isBlankText l = true := by simp [hblank]
  rw [ingestLines, if_neg hnot]
  rcases stop?_cases h with ⟨hevent, rfl, rfl⟩ | ⟨e, reason, hevent, happend, rfl⟩
  · simp only [hevent]
  · simp only [hevent, happend]

/-- A line that is added counts as one, and the reading goes on behind it. -/
theorem ingestLines_event {number : Nat} (hblank : Text.isBlankText l = false)
    (hevent : Event.ofText? l = some e) (happend : s.append e = (.ok (), s'))
    (ls : List String) :
    s.ingestLines number (l :: ls)
      = Prod.map (Except.map (· + 1)) id (s'.ingestLines (number + 1) ls) := by
  have hnot : ¬Text.isBlankText l = true := by simp [hblank]
  rw [ingestLines, if_neg hnot]
  simp only [hevent, happend]
  rcases s'.ingestLines (number + 1) ls with ⟨err | n, s₁⟩ <;> rfl

/-- A line stops a text for the same reason wherever it stands. -/
theorem stop?_add (s : Store) (k number : Nat) (l : String) :
    s.stop? (k + number) l = (s.stop? number l).map (Prod.map (.after k) id) := by
  unfold stop?
  cases Event.ofText? l with
  | none => rfl
  | some e =>
    rcases hs : s.append e with ⟨reason | u, s'⟩
    · simp only [hs]
      rfl
    · simp only [hs]
      rfl

-- ===================================================== texts in a row

/-- Lines are added after others as if these had been added before. -/
theorem ingestLines_append (s : Store) (number : Nat) (ls ls' : List String) :
    s.ingestLines number (ls ++ ls') = match s.ingestLines number ls with
      | (.error err, s') => (.error err, s')
      | (.ok n, s') =>
        Prod.map (Except.map (n + ·)) id (s'.ingestLines (number + ls.length) ls') := by
  induction ls generalizing s number with
  | nil =>
    show s.ingestLines number ls'
      = Prod.map (Except.map (0 + ·)) id (s.ingestLines (number + 0) ls')
    rcases s.ingestLines number ls' with ⟨err | n, s'⟩
    · rfl
    · simp [Except.map]
  | cons l ls ih =>
    have hnumber : number + (l :: ls).length = number + 1 + ls.length := by
      rw [List.length_cons]
      omega
    -- a line is blank, stops the work, or adds an event; the rest follows by
    -- induction from the store that it leaves
    rw [hnumber]
    rcases s.line_cases number l with hblank | ⟨hblank, err, s', hstop⟩
      | ⟨hblank, e, s', hevent, happend⟩
    · rw [List.cons_append, ingestLines_blank hblank, ingestLines_blank hblank, ih]
    · rw [List.cons_append, ingestLines_stop hblank hstop, ingestLines_stop hblank hstop]
    · rw [List.cons_append, ingestLines_event hblank hevent happend,
        ingestLines_event hblank hevent happend, ih]
      rcases s'.ingestLines (number + 1) ls with ⟨err | n, s₁⟩
      · rfl
      · simp only [Prod.map_apply, Except.map, id]
        rcases s₁.ingestLines (number + 1 + ls.length) ls' with ⟨err | m, s₂⟩
        · rfl
        · have hcount : n + m + 1 = n + 1 + m := by omega
          simp only [Prod.map_apply, Except.map, hcount, id]

/-- Only the numbers of lines tell how many lines there were before. -/
theorem ingestLines_after (s : Store) (k number : Nat) (ls : List String) :
    s.ingestLines (k + number) ls
      = Prod.map (Except.mapError (.after k)) id (s.ingestLines number ls) := by
  induction ls generalizing s number with
  | nil => rfl
  | cons l ls ih =>
    rcases s.line_cases number l with hblank | ⟨hblank, err, s', hstop⟩
      | ⟨hblank, e, s', hevent, happend⟩
    · rw [ingestLines_blank hblank, ingestLines_blank hblank, Nat.add_assoc, ih]
    · have hstop' : s.stop? (k + number) l = some (err.after k, s') := by
        rw [stop?_add, hstop]
        rfl
      rw [ingestLines_stop hblank hstop, ingestLines_stop hblank hstop']
      rfl
    · rw [ingestLines_event hblank hevent happend, ingestLines_event hblank hevent happend,
        Nat.add_assoc, ih]
      rcases s'.ingestLines (number + 1) ls with ⟨err | n, s₁⟩ <;> rfl

-- ====================================================== what is added

/-- One store comes after another: it has the rows of some more events,
behind those that were there, and is the same otherwise. -/
structure GrowsBy (s s' : Store) (es : List Event) : Prop extends KeepsRest s s' where
  added : s'.current.rows s.table.key = s.current.rows s.table.key ++ es.map Event.row

namespace GrowsBy

/-- Where table and current state are the same, no event was added. -/
theorem of_current (htable : s'.table = s.table) (hcurrent : s'.current = s.current) :
    s.GrowsBy s' [] where
  toKeepsRest := .of_current htable hcurrent
  added := by rw [hcurrent, List.map_nil, List.append_nil]

/-- Events that are added one after the other stand in this order. -/
theorem trans (h : s.GrowsBy s' es) (h' : s'.GrowsBy s'' es') : s.GrowsBy s'' (es ++ es') where
  table := h'.table.trans h.table
  objects := h.objects.trans h'.objects
  rows := by
    intro key hkey
    rw [h'.rows key (by rwa [h.table]), h.rows key hkey]
  added := by
    have hadded := h'.added
    rw [h.table, h.added] at hadded
    rw [hadded, List.map_append, List.append_assoc]

/-- An event that is added gets a row. -/
theorem append_ok (h : s.append e = (.ok (), s')) : s.GrowsBy s' [e] := by
  obtain ⟨-, -, d, hinsert, rfl⟩ := inserted_of_append h
  obtain ⟨hobjects, hrows⟩ := Database.insert?_leaves hinsert
  exact ⟨⟨s.table_keep, hobjects, hrows⟩, (Database.insert?_eq_some hinsert).1⟩

/-- An event that is refused leaves none. -/
theorem append_error {reason : StoreError} (h : s.append e = (.error reason, s')) :
    s.GrowsBy s' [] := by
  rcases s.append_cases e with ⟨f, -, hs⟩ | ⟨-, -, hs⟩ | ⟨-, -, hs⟩ | ⟨-, -, -, d, -, hs⟩
  · cases h.symm.trans hs
    exact .of_current rfl rfl
  · cases h.symm.trans hs
    exact .of_current s.table_keep s.current_keep
  · cases h.symm.trans hs
    exact .of_current s.table_keep s.current_keep
  · cases h.symm.trans hs

end GrowsBy

/-- A store takes some lines: those that are not blank hold events, and all
of these are added, one after the other. -/
structure Takes (s : Store) (ls : List String) (es : List Event) (s' : Store) : Prop where
  decoded : (Text.entries ls).map Event.ofText? = es.map some
  added : s.appendAll es = (.ok es.length, s')

/-- A batch that is added begins with an event that is added. -/
theorem appendAll_cons_eq_ok {n : Nat} (h : s.appendAll (e :: es) = (.ok n, s')) :
    ∃ s₁ m, s.append e = (.ok (), s₁) ∧ s₁.appendAll es = (.ok m, s') ∧ n = m + 1 := by
  rw [appendAll_cons] at h
  rcases hs : s.append e with ⟨reason | u, s₁⟩
  · rw [hs] at h
    cases h
  · rw [hs] at h
    simp only at h
    rcases hrest : s₁.appendAll es with ⟨reason | m, s₂⟩
    · rw [hrest] at h
      cases h
    · rw [hrest] at h
      cases h
      exact ⟨s₁, m, rfl, hrest, rfl⟩

/-- Events that are added together stand in their order. -/
theorem GrowsBy.appendAll {n : Nat} (h : s.appendAll es = (.ok n, s')) : s.GrowsBy s' es := by
  induction es generalizing s n with
  | nil =>
    cases h
    exact .of_current rfl rfl
  | cons e es ih =>
    obtain ⟨s₁, m, happend, hrest, -⟩ := appendAll_cons_eq_ok h
    exact (GrowsBy.append_ok happend).trans (ih hrest)

namespace Takes

theorem nil (s : Store) : s.Takes [] [] s := ⟨rfl, rfl⟩

/-- A blank line takes nothing. -/
theorem blank (hblank : Text.isBlankText l = true) (h : s.Takes ls es s') :
    s.Takes (l :: ls) es s' := by
  have hentries : Text.entries (l :: ls) = Text.entries ls := by
    simp [Text.entries, hblank]
  exact ⟨hentries ▸ h.decoded, h.added⟩

/-- A line that is added takes its event. -/
theorem event (hblank : Text.isBlankText l = false) (hevent : Event.ofText? l = some e)
    (happend : s.append e = (.ok (), s')) (h : s'.Takes ls es s'') :
    s.Takes (l :: ls) (e :: es) s'' where
  decoded := by
    have hentries : Text.entries (l :: ls) = l :: Text.entries ls := by
      simp [Text.entries, hblank]
    rw [hentries, List.map_cons, List.map_cons, hevent, h.decoded]
  added := by
    rw [appendAll_cons, happend]
    simp only [h.added]
    rfl

/-- As many events are taken as there are lines that are not blank. -/
theorem length_eq (h : s.Takes ls es s') : es.length = (Text.entries ls).length := by
  have hlength := congrArg List.length h.decoded
  rw [List.length_map, List.length_map] at hlength
  exact hlength.symm

theorem growsBy (h : s.Takes ls es s') : s.GrowsBy s' es := GrowsBy.appendAll h.added

end Takes

/-- A store takes all lines, or those before one that ends the work. -/
theorem ingestLines_cases (s : Store) (number : Nat) (ls : List String) :
    (∃ es s', s.Takes ls es s' ∧ s.ingestLines number ls = (.ok es.length, s'))
      ∨ ∃ before l later es s' err s'', ls = before ++ l :: later
        ∧ Text.isBlankText l = false ∧ s.Takes before es s'
        ∧ s'.stop? (number + before.length) l = some (err, s'')
        ∧ s.ingestLines number ls = (.error err, s'') := by
  induction ls generalizing s number with
  | nil => exact .inl ⟨[], s, .nil s, rfl⟩
  | cons l ls ih =>
    have hnumber : ∀ before : List String,
        number + 1 + before.length = number + (l :: before).length := by
      intro before
      rw [List.length_cons]
      omega
    -- the first line decides whether the induction hypothesis is needed
    rcases s.line_cases number l with hblank | ⟨hblank, err, s', hstop⟩
      | ⟨hblank, e, s', hevent, happend⟩
    · rw [ingestLines_blank hblank]
      rcases ih s (number + 1) with ⟨es, s', htakes, hall⟩
        | ⟨before, l', later, es, s', err, s'', rfl, hl', htakes, hstop, herror⟩
      · exact .inl ⟨es, s', htakes.blank hblank, hall⟩
      · rw [hnumber] at hstop
        exact .inr ⟨l :: before, l', later, es, s', err, s'', rfl, hl', htakes.blank hblank,
          hstop, herror⟩
    · exact .inr ⟨[], l, ls, [], s, err, s', rfl, hblank, .nil s, hstop,
        ingestLines_stop hblank hstop ls⟩
    · rw [ingestLines_event hblank hevent happend]
      rcases ih s' (number + 1) with ⟨es, s₁, htakes, hall⟩
        | ⟨before, l', later, es, s₁, err, s'', rfl, hl', htakes, hstop, herror⟩
      · refine .inl ⟨e :: es, s₁, htakes.event hblank hevent happend, ?_⟩
        rw [hall]
        rfl
      · rw [hnumber] at hstop
        refine .inr ⟨l :: before, l', later, e :: es, s₁, err, s'', rfl, hl',
          htakes.event hblank hevent happend, hstop, ?_⟩
        rw [herror]
        rfl

/-- The line that ends the work adds nothing, and the failure names it. -/
theorem stop?_eq_some {number : Nat} {err : IngestError} (h : s.stop? number l = some (err, s')) :
    s.GrowsBy s' []
      ∧ ∃ what causes, err.chain = .words (s!"line {number}: " ++ what) :: causes := by
  rcases stop?_cases h with ⟨-, rfl, rfl⟩ | ⟨e, reason, -, happend, rfl⟩
  · have hwords : toString ": invalid event" = toString ": " ++ "invalid event" := by rfl
    refine ⟨.of_current rfl rfl, "invalid event", [.json], ?_⟩
    simp only [IngestError.chain, hwords, String.append_assoc]
  · have hwords : toString ": failed to append event "
        = toString ": " ++ "failed to append event " := by rfl
    refine ⟨.append_error happend, "failed to append event " ++ e.id, reason.chain, ?_⟩
    simp only [IngestError.chain, hwords, String.append_assoc]

-- =========================================================== once more

/-- An event that is stored already is refused. -/
theorem append_of_stored (hvalid : e.missing? = none)
    (hrow : e.row ∈ s.current.rows s.table.key) :
    ∃ reason, (reason = .taken e.id ∨ reason = .database)
      ∧ s.append e = (.error reason, s.keep) := by
  rcases s.append_cases e with ⟨f, hf, -⟩ | ⟨-, -, h⟩ | ⟨-, -, h⟩ | ⟨-, -, -, d, hinsert, -⟩
  · rw [hvalid] at hf
    cases hf
  · exact ⟨_, .inl rfl, h⟩
  · exact ⟨_, .inr rfl, h⟩
  · exact absurd rfl ((Database.insert?_eq_some hinsert).2 _ hrow)

/-- Blank lines in front only move the count of lines. -/
theorem ingestLines_blanks {before : List String} (hblank : ∀ b ∈ before, Text.isBlankText b = true)
    (s : Store) (number : Nat) (ls : List String) :
    s.ingestLines number (before ++ ls) = s.ingestLines (number + before.length) ls := by
  induction before generalizing number with
  | nil => rfl
  | cons b before ih =>
    have hnumber : number + 1 + before.length = number + (b :: before).length := by
      rw [List.length_cons]
      omega
    rw [List.cons_append, ingestLines_blank (hblank b List.mem_cons_self),
      ih (fun b' hb' => hblank b' (List.mem_cons_of_mem _ hb')), hnumber]

/-- The first line of a text that was added, and the event in it, which is
valid and stored. -/
theorem Takes.exists_first (h : s.Takes ls es s') (hne : es ≠ []) :
    ∃ before l later e, ls = before ++ l :: later
      ∧ (∀ b ∈ before, Text.isBlankText b = true) ∧ Text.isBlankText l = false
      ∧ Event.ofText? l = some e ∧ e.missing? = none
      ∧ e.row ∈ s'.current.rows s'.table.key := by
  cases es with
  | nil => exact absurd rfl hne
  | cons e es =>
    obtain ⟨l, rest, hentries, hevent, -⟩ := List.map_eq_cons_iff.1 h.decoded
    obtain ⟨before, later, hls, hbefore, hl, -⟩ := List.filter_eq_cons_iff.1 hentries
    obtain ⟨s₁, m, happend, -, -⟩ := appendAll_cons_eq_ok h.added
    refine ⟨before, l, later, e, hls, ?_, by simpa using hl, hevent,
      (inserted_of_append happend).1, ?_⟩
    · intro b hb
      simpa using hbefore b hb
    · have hgrows := h.growsBy
      rw [hgrows.table, hgrows.added]
      exact List.mem_append_right _ List.mem_cons_self

-- ============================================================= texts

/-- Either all lines are taken, or the first that cannot be stops the
reading. -/
theorem ingest_cases (s : Store) (text : String) :
    (∃ es s', s.Takes (Text.lines text) es s' ∧ s.ingest text = (.ok es.length, s'))
      ∨ ∃ before l later es s' err s'', Text.lines text = before ++ l :: later
        ∧ Text.isBlankText l = false ∧ s.Takes before es s'
        ∧ s'.stop? (before.length + 1) l = some (err, s'')
        ∧ s.ingest text = (.error err, s'') := by
  have hcases := s.ingestLines_cases 1 (Text.lines text)
  simp only [Nat.add_comm 1] at hcases
  exact hcases

/-- Two texts in a row are one text, when a line does not go on from the
first to the second. -/
theorem ingest_append {a : String} (hclosed : Text.isClosed a = true) (s : Store) (b : String) :
    s.ingest (a ++ b) = match s.ingest a with
      | (.error err, s') => (.error err, s')
      | (.ok m, s') => match s'.ingest b with
        | (.error err, s'') => (.error (err.after (Text.lines a).length), s'')
        | (.ok n, s'') => (.ok (m + n), s'') := by
  unfold ingest
  rw [Text.lines_append hclosed, ingestLines_append]
  rcases s.ingestLines 1 (Text.lines a) with ⟨err | m, s'⟩
  · rfl
  · simp only
    rw [Nat.add_comm 1, ingestLines_after]
    rcases s'.ingestLines 1 (Text.lines b) with ⟨err | n, s''⟩ <;> rfl

/-- A text that was added is refused from then on, at its first event. -/
theorem ingest_again {text : String} (htakes : s.Takes (Text.lines text) es s') (hne : es ≠ [])
    (ops : List Operation) :
    ∃ before l later e reason, Text.lines text = before ++ l :: later
      ∧ (∀ b ∈ before, Text.isBlankText b = true) ∧ Text.isBlankText l = false
      ∧ Event.ofText? l = some e ∧ (reason = .taken e.id ∨ reason = .database)
      ∧ (s'.after ops).ingest text
        = (.error (.refused (before.length + 1) e.id reason), (s'.after ops).keep) := by
  obtain ⟨before, l, later, e, hlines, hbefore, hl, hevent, hvalid, hrow⟩ :=
    htakes.exists_first hne
  obtain ⟨htable, hgrown⟩ := s'.isGrownTo_after ops
  have hstored : e.row ∈ (s'.after ops).current.rows (s'.after ops).table.key := by
    rw [htable]
    exact hgrown.subset hrow
  obtain ⟨reason, hreason, happend⟩ := append_of_stored hvalid hstored
  have hstop : (s'.after ops).stop? (before.length + 1) l
      = some (.refused (before.length + 1) e.id reason, (s'.after ops).keep) := by
    simp only [stop?, hevent, happend]
  refine ⟨before, l, later, e, reason, hlines, hbefore, hl, hevent, hreason, ?_⟩
  unfold ingest
  rw [hlines, ingestLines_blanks hbefore, Nat.add_comm 1, ingestLines_stop hl hstop]

end Store

-- ============================================================= the law

/-- A text that is added to a store, in whatever state this is.

Either the events of all lines that are not blank are added, and counted.
Or there is a first line that is not blank and holds no event or one that
is refused: the failure names that line, and the store has the events of
the lines before it. When the lines of a text are closed, adding a text
behind it is adding one after the other. And a text that was added is
refused from then on, whatever is done with the store in between: at its
first line that is not blank, and the store stays as it is. -/
theorem ingestion_stops_and_resumes (s : Store) (text : String) :
    ((∃ es s', s.Takes (Text.lines text) es s' ∧ s.GrowsBy s' es
          ∧ s.ingest text = (.ok (Text.entries (Text.lines text)).length, s'))
        ∨ ∃ before l later es s' err s'', Text.lines text = before ++ l :: later
          ∧ Text.isBlankText l = false ∧ s.Takes before es s'
          ∧ s'.stop? (before.length + 1) l = some (err, s'') ∧ s.GrowsBy s'' es
          ∧ s.ingest text = (.error err, s'')
          ∧ ∃ what causes,
            err.chain = .words (s!"line {before.length + 1}: " ++ what) :: causes)
      ∧ (Text.isClosed text = true → ∀ rest,
        s.ingest (text ++ rest) = match s.ingest text with
          | (.error err, s') => (.error err, s')
          | (.ok m, s') => match s'.ingest rest with
            | (.error err, s'') => (.error (err.after (Text.lines text).length), s'')
            | (.ok n, s'') => (.ok (m + n), s''))
      ∧ ∀ n s', s.ingest text = (.ok n, s') → 0 < n → ∀ ops,
        ∃ before l later e reason, Text.lines text = before ++ l :: later
          ∧ (∀ b ∈ before, Text.isBlankText b = true) ∧ Text.isBlankText l = false
          ∧ Event.ofText? l = some e ∧ (reason = .taken e.id ∨ reason = .database)
          ∧ ((s'.after ops).ingest text).1 = .error (.refused (before.length + 1) e.id reason)
          ∧ ((s'.after ops).ingest text).2.table = (s'.after ops).table
          ∧ ((s'.after ops).ingest text).2.current = (s'.after ops).current
          ∧ ((s'.after ops).ingest text).2.view = (s'.after ops).view := by
  refine ⟨?_, fun hclosed rest => Store.ingest_append hclosed s rest, ?_⟩
  -- the cases of the work are the cases of the law
  · rcases s.ingest_cases text with ⟨es, s', htakes, hall⟩
      | ⟨before, l, later, es, s', err, s'', hlines, hl, htakes, hstop, herror⟩
    · refine .inl ⟨es, s', htakes, htakes.growsBy, ?_⟩
      rw [hall, htakes.length_eq]
    · obtain ⟨hnothing, htold⟩ := Store.stop?_eq_some hstop
      have hgrows := htakes.growsBy.trans hnothing
      rw [List.append_nil] at hgrows
      exact .inr ⟨before, l, later, es, s', err, s'', hlines, hl, htakes, hstop, hgrows, herror,
        htold⟩
  -- what was added once is there, so that the first line that is not blank
  -- is refused
  · intro n s' hadded hn ops
    rcases s.ingest_cases text with ⟨es, s₁, htakes, hall⟩
      | ⟨-, -, -, -, -, err, s₁, -, -, -, -, herror⟩
    · rw [hadded] at hall
      cases hall
      obtain ⟨before, l, later, e, reason, hlines, hbefore, hl, hevent, hreason, hagain⟩ :=
        Store.ingest_again htakes (List.ne_nil_of_length_pos hn) ops
      refine ⟨before, l, later, e, reason, hlines, hbefore, hl, hevent, hreason, ?_⟩
      rw [hagain]
      exact ⟨rfl, Store.table_keep _, Store.current_keep _, Store.view_keep _⟩
    · rw [hadded] at herror
      cases herror

/-- One event, on a line that is closed. -/
def oneEvent : String :=
  "\x7b\"id\":\"a\",\"type\":\"t\",\"ts\":\"2024-05-01T00:00:00Z\"\x7d\n"

/-- What follows an event can be no event, and the event cannot be added
again on another day. -/
theorem line_behind_event_is_refused :
    let s := Store.openOn {} ⟨"events", "events"⟩
    (s.ingest oneEvent).1 = .ok 1
      ∧ (s.ingest (oneEvent ++ "oops")).1 = .error (.notEvent 2)
      ∧ ∃ e reason, Event.ofText? ((Text.lines oneEvent).headD "") = some e
        ∧ (((s.ingest oneEvent).2.after [.reopen]).ingest oneEvent).1
          = .error (.refused 1 e.id reason) := by
  intro s
  have hadded : (s.ingest oneEvent).1 = .ok 1 := by decide +kernel
  have hbad : ((s.ingest oneEvent).2.ingest "oops").1 = .error (.notEvent 1) := by
    decide +kernel
  have hlines : Text.lines oneEvent = [(Text.lines oneEvent).headD ""] := by decide +kernel
  have hlaw := ingestion_stops_and_resumes s oneEvent
  rcases hs : s.ingest oneEvent with ⟨r, s'⟩
  rw [hs] at hadded hbad hlaw
  simp only at hadded
  subst hadded
  refine ⟨rfl, ?_, ?_⟩
  · rw [hlaw.2.1 (by decide +kernel) "oops"]
    rcases hs' : s'.ingest "oops" with ⟨r, s''⟩
    rw [hs'] at hbad
    simp only at hbad
    subst hbad
    have hcount : (Text.lines oneEvent).length = 1 := by rw [hlines]; rfl
    simp only [hs', hcount]
    rfl
  · obtain ⟨before, l, later, e, reason, hsplit, -, -, hevent, -, hagain, -⟩ :=
      hlaw.2.2 1 s' rfl (by decide) [.reopen]
    obtain ⟨rfl, rfl, rfl⟩ : before = [] ∧ l = (Text.lines oneEvent).headD "" ∧ later = [] := by
      rw [hlines] at hsplit
      cases before with
      | nil => simpa [eq_comm] using hsplit
      | cons b before => simp at hsplit
    exact ⟨e, reason, hevent, hagain⟩

end EventAnalytics
