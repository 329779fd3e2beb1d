/-
What a stored event comes back as.

Adding an event succeeds only in a store whose newest snapshot is the
current state, so afterwards that snapshot is the state before the event.
Whether reading finds the event is then a matter of room: with fewer
snapshots than a store keeps it sees the new state, and otherwise the
snapshot, where the event is not (`get_of_append`). Opened anew, the store
finds it in any case.

What is found is the event that the row holds. For an event with plain
times and with integers for numbers that is the event itself, its empty
optional texts left out, and storing it again gives the same row.
-/
import EventAnalytics.Proofs.Store.Readable

namespace EventAnalytics

variable {s s' : Store} {e : Event}

namespace Store

-- ================================================= coherent snapshots

/-- Whether the newest snapshot is the current state when it is taken for
it. -/
def IsCoherent (s : Store) : Prop := s.keepsCurrent = true → s.kept.head? = some s.current

/-- Keeping a snapshot keeps a store coherent. -/
theorem isCoherent_keep (h : s.IsCoherent) : s.keep.IsCoherent := by
  unfold keep
  split
  · exact h
  · exact fun _ => rfl

theorem isCoherent_commit (s : Store) (d : Database) : (s.commit d).IsCoherent := by
  intro h
  cases h

/-- Inserting keeps a store coherent, whether or not the row gets in. -/
theorem isCoherent_insert (h : s.IsCoherent) (r : Row) : (s.insert r).2.IsCoherent := by
  unfold insert
  split
  · split
    · exact isCoherent_commit _ _
    · exact h
  · exact h

theorem isCoherent_openOn (d : Database) (t : Sql.TableName) : (openOn d t).IsCoherent := by
  intro h
  cases h

theorem isClosed_isCoherent :
    IsClosed (fun _ => True) (fun s s' => s.IsCoherent → s'.IsCoherent) where
  refl _ h := h
  trans h h' hs := h' (h hs)
  keep _ h := isCoherent_keep h
  insert _ r _ h := isCoherent_insert h r
  define := by
    intro s h
    unfold define
    split
    · exact h
    · split
      · exact h
      · exact isCoherent_commit _ _
  reopen _ _ := isCoherent_openOn _ _

/-- No run of operations makes a store incoherent. -/
theorem isCoherent_after (h : s.IsCoherent) (ops : List Operation) : (s.after ops).IsCoherent :=
  isClosed_isCoherent.after s (fun _ _ => trivial) h

-- ===================================================== adding an event

/-- Keeping a snapshot makes the current state visible only by keeping
it. -/
theorem keepsCurrent_of_seesCurrent_keep (h : s.keep.seesCurrent = true) :
    s.keep.keepsCurrent = true := by
  unfold keep at h ⊢
  split at h
  · next hkept =>
    rw [if_pos hkept]
    rcases Bool.or_eq_true_iff.1 hkept with hcurrent | hfull
    · exact hcurrent
    · rcases Bool.or_eq_true_iff.1 h with hcurrent | hroom
      · exact hcurrent
      · have hfull := of_decide_eq_true hfull
        have hroom := of_decide_eq_true hroom
        omega
  · next hkept => rw [if_neg hkept]

/-- What adding an event did when it succeeded: the row stands behind the
others, none of which had its identity, and the newest snapshot is the
state before. -/
theorem append_eq_ok (hs : s.IsCoherent) (h : s.append e = (.ok (), s')) :
    s'.table = s.table ∧ s'.keepsCurrent = false ∧ s'.kept.head? = some s.current
      ∧ s'.current.rows s.table.key = s.current.rows s.table.key ++ [e.row]
      ∧ ∀ r ∈ s.current.rows s.table.key, r .id ≠ some e.id := by
  obtain ⟨-, hsees, d, hinsert, rfl⟩ := inserted_of_append h
  have hhead := isCoherent_keep hs (keepsCurrent_of_seesCurrent_keep hsees)
  rw [current_keep] at hhead
  obtain ⟨hrows, hnew⟩ := Database.insert?_eq_some hinsert
  rw [Event.row_id] at hnew
  exact ⟨s.table_keep, rfl, hhead, hrows, hnew⟩

/-- An event that was added had its required fields. -/
theorem missing?_of_append (h : s.append e = (.ok (), s')) : e.missing? = none :=
  (inserted_of_append h).1

/-- A valid event can be added to a store whose table is empty, and has the
only row then. -/
theorem append_to_empty {d : Database} {t : Sql.TableName} (h : d.rows t.key = [])
    (he : e.missing? = none) :
    ((openOn d t).append e).1 = .ok ()
      ∧ ((openOn d t).append e).2.current.rows t.key = [e.row] := by
  have hfollows : Follows t (openOn d t) {} := Follows.reopened (l := {}) h
  obtain ⟨hanswer, hafter⟩ := hfollows.append rfl e
  have hadded : Ledger.append {} e = (.ok (), { events := [e] }) := by
    unfold Ledger.append Ledger.refusal?
    rw [he]
    rfl
  rw [hadded] at hanswer hafter
  exact ⟨hanswer, hafter.stored⟩

/-- After an event was added, reading finds its row while there is room for
another snapshot, and no row otherwise. Opened anew, the store has it. -/
theorem row?_of_append (hs : s.IsCoherent) (h : s.append e = (.ok (), s')) :
    s'.view.row? s'.table.key e.id
        = (if s'.kept.length < room then some e.row else none)
      ∧ s'.reopen.view.row? s'.reopen.table.key e.id = some e.row := by
  obtain ⟨htable, hkeeps, hhead, hrows, hnew⟩ := append_eq_ok hs h
  have hcurrent : s'.current.row? s.table.key e.id = some e.row :=
    Database.row?_of_last hrows e.row_id hnew
  constructor
  · rw [htable]
    unfold view seesCurrent
    rw [hkeeps, Bool.false_or]
    by_cases hroom : s'.kept.length < room
    · rw [if_pos (decide_eq_true hroom), if_pos hroom]
      exact hcurrent
    · have hnone : ¬decide (s'.kept.length < room) = true := by
        intro hlt
        exact hroom (of_decide_eq_true hlt)
      rw [if_neg hnone, if_neg hroom, List.headD_eq_head?_getD, hhead]
      exact Database.row?_eq_none hnew
  · show (s'.current.define s'.table.key).row? s'.table.key e.id = some e.row
    unfold Database.row? at hcurrent ⊢
    rw [Database.rows_define, htable]
    exact hcurrent

end Store

-- ============================================================= the law

/-- An event with nothing in it that a row does not hold: its times have
years of four digits, and its documents have integers for numbers and are
no numbers themselves. -/
structure Event.IsPlain (e : Event) : Prop where
  ts : Time.hasFourDigits e.ts.date.year = true
  ingestTs : ∀ t ∈ e.ingestTs, Time.hasFourDigits t.date.year = true
  ctx : e.ctx.onlyIntegers = true ∧ e.ctx.isNumber = false
  payload : e.payload.onlyIntegers = true ∧ e.payload.isNumber = false

/-- A plain event that is added comes back from its row, its empty optional
texts left out.

It comes back at once if the store has room for another snapshot, and
otherwise reading says that there is no such event until the store is
opened anew. What comes back has the row of the event, and writes that row
when it is added to an empty table. -/
theorem stored_event_comes_back (d : Database) (t : Sql.TableName) (ops : List Operation)
    {text : String} {e : Event} {s' : Store} (htext : Event.ofText? text = some e)
    (hplain : e.IsPlain) (happend : ((Store.openOn d t).after ops).append e = (.ok (), s')) :
    (s'.get e.id).1 = .ok (if s'.kept.length < Store.room then some e.restored else none)
      ∧ (s'.reopen.get e.id).1 = .ok (some e.restored)
      ∧ s'.current.rows t.key = ((Store.openOn d t).after ops).current.rows t.key ++ [e.row]
      ∧ ∀ (d' : Database) (t' : Sql.TableName), d'.rows t'.key = [] →
        ((Store.openOn d' t').append e.restored).1 = .ok ()
          ∧ ((Store.openOn d' t').append e.restored).2.current.rows t'.key = [e.row] := by
  have hcoherent := Store.isCoherent_after (Store.isCoherent_openOn d t) ops
  have htable : ((Store.openOn d t).after ops).table = t :=
    ((Store.openOn d t).isGrownTo_after ops).1
  obtain ⟨hview, hreopened⟩ := Store.row?_of_append hcoherent happend
  obtain ⟨-, -, -, hrows, -⟩ := Store.append_eq_ok hcoherent happend
  -- What the row holds is read back whole, since the event is plain.
  have hevent : e.row.event = .ok e.restored := by
    obtain ⟨c, p, hc, hp, hrow⟩ := Event.event_row_of_ofText? htext
    rw [Event.oddTime?_eq_none_iff.2 ⟨hplain.ts, hplain.ingestTs⟩, hc hplain.ctx.1,
      hp hplain.payload.1] at hrow
    exact hrow
  refine ⟨?_, ?_, ?_, ?_⟩
  -- Whether a read sees the row is a matter of the snapshots that the
  -- session has taken.
  · by_cases hroom : s'.kept.length < Store.room
    · rw [if_pos hroom] at hview ⊢
      rw [Store.get_of_row hview, hevent]
    · rw [if_neg hroom] at hview ⊢
      unfold Store.get
      rw [hview]
  · rw [Store.get_of_row hreopened, hevent]
  · rw [htable] at hrows
    exact hrows
  · intro d' t' hempty
    have hvalid : e.restored.missing? = none :=
      e.missing?_restored.trans (Store.missing?_of_append happend)
    have hadded := Store.append_to_empty hempty hvalid
    rw [e.row_restored] at hadded
    exact hadded

/-- An event inside a leap second, with an empty text and an integer that
takes all of 64 bits. -/
def leapText : String :=
  "\x7b\"id\":\"d\",\"type\":\"t\",\"ts\":\"2017-01-01T00:59:60.5+01:00\",\"runId\":\"\","
    ++ "\"ctx\":\x7b\"b\":[18446744073709551615,-1],\"a\":null\x7d\x7d"

/-- Whether an event is plain and can be the fourth of a session. -/
def isPlainFourth (e : Event) : Bool :=
  let s := ((Store.openOn {} ⟨"events", "events"⟩).after (appends ["a", "b", "c"])).append e
  Time.hasFourDigits e.ts.date.year && e.ingestTs.isNone
    && (e.ctx.onlyIntegers && !e.ctx.isNumber) && (e.payload.onlyIntegers && !e.payload.isNumber)
    && (decide (s.1 = .ok ()) && decide (s.2.kept.length = Store.room))

/-- The event is plain, and the fourth of its session: it comes back once
the store is opened anew. -/
theorem fourth_event_comes_back_late :
    ∃ e, Event.ofText? leapText = some e ∧ e.IsPlain
      ∧ ∃ s', ((Store.openOn {} ⟨"events", "events"⟩).after (appends ["a", "b", "c"])).append e
          = (.ok (), s')
        ∧ (s'.get e.id).1 = .ok none ∧ (s'.reopen.get e.id).1 = .ok (some e.restored) := by
  have hcheck : (Event.ofText? leapText).any isPlainFourth = true := by decide +kernel
  obtain ⟨e, htext, hfourth⟩ := (Option.any_eq_true _ _).1 hcheck
  simp only [isPlainFourth, Bool.and_eq_true, Bool.not_eq_true', decide_eq_true_eq] at hfourth
  obtain ⟨⟨⟨⟨hts, hingest⟩, hctx⟩, hpayload⟩, happend, hkept⟩ := hfourth
  have hplain : e.IsPlain := by
    refine ⟨hts, ?_, hctx, hpayload⟩
    rw [Option.isNone_iff_eq_none.1 hingest]
    exact fun t ht => nomatch ht
  refine ⟨e, htext, hplain, _, Prod.ext happend rfl, ?_⟩
  obtain ⟨hget, hreopen, -, -⟩ := stored_event_comes_back {} ⟨"events", "events"⟩
    (appends ["a", "b", "c"]) htext hplain (Prod.ext happend rfl)
  rw [hkept, if_neg (by decide)] at hget
  exact ⟨hget, hreopen⟩

end EventAnalytics
