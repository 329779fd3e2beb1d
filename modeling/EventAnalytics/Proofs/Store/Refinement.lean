/-
A store keeps its ledger, as long as there is room.

Every event that a session accepts costs the store one of the snapshots it
has room for, since the test for the identity leaves one behind and the
event makes it old. `Follows` ties a store to its ledger: the rows are
those of the events, there are as many snapshots as events in the session
(and one more while the newest is the current state), and the newest old
one is the state before the last event. That covers a store with room,
where reading sees the current state, and also a full one, where reading
sees all events but the last and nothing can be written.

The lemmas go operation by operation, each saying what a store with room
answers and that it follows its ledger still. `store_refines_ledger` is
what comes of it for runs: all answers are the ledger's while every
session leaves room, and in the first state without room they are not.
-/
import EventAnalytics.Proofs.Store.Database
import EventAnalytics.Proofs.Store.Steps

namespace EventAnalytics

variable {t : Sql.TableName} {s : Store} {l : Ledger}

-- ====================================================== the invariant

/-- A store and the ledger of the events that it accepted. -/
structure Follows (t : Sql.TableName) (s : Store) (l : Ledger) : Prop where
  table : s.table = t
  stored : s.current.rows t.key = l.events.map Event.row
  isDefined : s.current.isDefined t.key = true
  opened : l.opened ≤ l.events.length
  snapshots : s.kept.length = l.recent + s.keepsCurrent.toNat
  fits : s.kept.length ≤ Store.room
  newest : s.keepsCurrent = true → s.kept.head? = some s.current
  /-- The state that was kept before the last event. -/
  before : s.keepsCurrent = false → l.recent ≠ 0 →
    ∃ d, s.kept.head? = some d ∧ d.rows t.key = l.events.dropLast.map Event.row

/-- Looking for an identity among the rows of some events. -/
theorem Database.isSome_row? {d : Database} {key : String} {es : List Event}
    (h : d.rows key = es.map Event.row) (id : String) :
    (d.row? key id).isSome = es.any fun e => e.id == id := by
  unfold Database.row?
  rw [h, List.isSome_find?, List.any_map]
  simp only [Function.comp_def, Event.row_id, Option.some_beq_some]

namespace Follows

/-- A new session on an old ledger. -/
theorem reopened {d : Database} (h : d.rows t.key = l.events.map Event.row) :
    Follows t (Store.openOn d t) { l with opened := l.events.length } where
  table := rfl
  stored := by
    show (d.define t.key).rows t.key = _
    rw [Database.rows_define, h]
  isDefined := Database.isDefined_define d t.key
  opened := Nat.le_refl _
  snapshots := by simp [Store.openOn, Ledger.recent]
  fits := by simp [Store.openOn]
  newest := fun h => by cases h
  before := fun _ h => absurd (Nat.sub_self _) h

-- ================================================= a store with room

/-- With room left, reading sees the current state. -/
theorem seesCurrent (h : Follows t s l) (hroom : l.hasRoom = true) : s.seesCurrent = true := by
  unfold Store.seesCurrent
  cases hk : s.keepsCurrent with
  | true => rfl
  | false =>
    have hlength := h.snapshots
    rw [hk] at hlength
    have hlt : l.recent < Store.room := by simpa [Ledger.hasRoom] using hroom
    simpa [hlength] using hlt

/-- As long as there is room, reading sees the current state. -/
theorem view_eq (h : Follows t s l) (hroom : l.hasRoom = true) : s.view = s.current := by
  unfold Store.view
  rw [if_pos (h.seesCurrent hroom)]

/-- Keeping the snapshot that reading sees leaves the ledger alone, and
with room left it is the current one. -/
theorem keep (h : Follows t s l) (hroom : l.hasRoom = true) :
    Follows t s.keep l ∧ s.keep.keepsCurrent = true ∧ s.keep.current = s.current := by
  have hlt : l.recent < Store.room := by simpa [Ledger.hasRoom] using hroom
  cases hk : s.keepsCurrent with
  | true =>
    have hsame : s.keep = s := by simp [Store.keep, hk]
    rw [hsame]
    exact ⟨h, hk, rfl⟩
  | false =>
    have hlength : s.kept.length = l.recent := by
      have := h.snapshots
      rw [hk] at this
      simpa using this
    have hkeep : s.keep = { s with kept := s.current :: s.kept, keepsCurrent := true } := by
      unfold Store.keep
      rw [if_neg]
      simp [hk, hlength, hlt]
    rw [hkeep]
    refine ⟨⟨h.table, h.stored, h.isDefined, h.opened, ?_, ?_, fun _ => rfl, fun hf => by cases hf⟩,
      rfl, rfl⟩
    · simp [hlength]
    · simp only [List.length_cons, hlength]
      omega

-- ========================================================= operations

/-- What is taken in the ledger has a row, and nothing else has. -/
theorem isSome_row? (h : Follows t s l) (id : String) :
    (s.current.row? t.key id).isSome = l.has id :=
  Database.isSome_row? h.stored id

/-- As long as there is room, the store has just the identities of its
ledger. -/
theorem contains (h : Follows t s l) (hroom : l.hasRoom = true) (id : String) :
    (s.contains id).1 = l.has id := by
  unfold Store.contains
  rw [h.view_eq hroom, h.table]
  exact h.isSome_row? id

/-- As long as there is room, the store counts what its ledger has. -/
theorem count (h : Follows t s l) (hroom : l.hasRoom = true) : s.count.1 = l.events.length := by
  unfold Store.count Store.rows
  rw [h.view_eq hroom, h.table, h.stored, List.length_map]

/-- Getting an event finds one when its identity is taken, and keeps a
snapshot at most. -/
theorem get (h : Follows t s l) (hroom : l.hasRoom = true) (id : String) :
    isPresent (s.get id).1 = l.has id ∧ Follows t (s.get id).2 l := by
  have hrow := h.isSome_row? id
  unfold Store.get
  rw [h.view_eq hroom, h.table]
  cases hr : s.current.row? t.key id with
  | none =>
    rw [hr] at hrow
    exact ⟨hrow, h⟩
  | some r =>
    rw [hr] at hrow
    cases hevent : r.event with
    | ok e =>
      simp only [hevent]
      exact ⟨hrow, (h.keep hroom).1⟩
    | error f =>
      simp only [hevent]
      exact ⟨hrow, (h.keep hroom).1⟩

/-- Creating the schema again changes nothing. -/
theorem define (h : Follows t s l) (hroom : l.hasRoom = true) : s.define = (.ok (), s) := by
  unfold Store.define
  rw [h.seesCurrent hroom, h.table, h.isDefined]
  rfl

/-- An event that the ledger accepts gets its row, and the state before it
is the newest snapshot. -/
theorem insert (h : Follows t s l) (hk : s.keepsCurrent = true) {e : Event}
    (hnew : l.has e.id = false) :
    ∃ s', s.insert e.row = (.ok (), s') ∧ Follows t s' { l with events := l.events ++ [e] } := by
  -- to the ledger the identity is new, so it is to the table
  have hfresh : ∀ r ∈ s.current.rows s.table.key, r .id ≠ e.row .id := by
    intro r hr hid
    rw [h.table, h.stored] at hr
    obtain ⟨e', he', rfl⟩ := List.mem_map.1 hr
    rw [Event.row_id, Event.row_id] at hid
    exact Ledger.has_eq_false_iff.1 hnew e' he' (Option.some.inj hid)
  have hdefined : s.current.isDefined s.table.key = true := by
    rw [h.table]
    exact h.isDefined
  obtain ⟨d, hinsert, hrows, hdef⟩ := Database.insert?_of_new hdefined e.isComplete_row hfresh
  have hsees : s.seesCurrent = true := by simp [Store.seesCurrent, hk]
  have hsnapshots : s.kept.length = l.recent + 1 := by
    have := h.snapshots
    rw [hk] at this
    exact this
  rw [h.table] at hrows hdef
  -- the session has one event more, and with the old state one snapshot more
  have hrecent : Ledger.recent { l with events := l.events ++ [e] } = l.recent + 1 := by
    have := h.opened
    simp only [Ledger.recent, List.length_append, List.length_singleton]
    omega
  refine ⟨s.commit d, ?_, h.table, ?_, hdef, ?_, ?_, h.fits, (fun hf => by cases hf), ?_⟩
  · simp [Store.insert, hsees, hinsert]
  · show d.rows t.key = _
    rw [hrows, h.stored, List.map_append, List.map_singleton]
  · have := h.opened
    simp only [List.length_append]
    omega
  · rw [hrecent]
    exact hsnapshots
  · intro _ _
    refine ⟨s.current, h.newest hk, ?_⟩
    -- the state before is the one that was current, and it was kept
    simp only [List.dropLast_concat]
    exact h.stored

/-- Adding an event to a store with room is adding it to the ledger. -/
theorem append (h : Follows t s l) (hroom : l.hasRoom = true) (e : Event) :
    (s.append e).1 = (l.append e).1 ∧ Follows t (s.append e).2 (l.append e).2 := by
  unfold Store.append Ledger.append Ledger.refusal?
  cases hm : e.missing? with
  | some f => exact ⟨rfl, h⟩
  | none =>
    obtain ⟨hkeep, hk, -⟩ := h.keep hroom
    have hcontains : s.contains e.id = (l.has e.id, s.keep) := by
      rw [← h.contains hroom]
      rfl
    simp only [hcontains]
    cases hid : l.has e.id with
    | true => exact ⟨rfl, hkeep⟩
    | false =>
      obtain ⟨s', hinsert, hfollows⟩ := hkeep.insert hk hid
      simp only [hinsert]
      exact ⟨rfl, hfollows⟩

end Follows

-- ============================================================ batches

/-- A session that has room had room before. -/
theorem Ledger.hasRoom_of_prefix {l l' : Ledger} (h : l'.hasRoom = true)
    (hopened : l.opened = l'.opened) (hevents : l.events <+: l'.events) : l.hasRoom = true := by
  have hlength := hevents.length_le
  unfold Ledger.hasRoom Ledger.recent at *
  simp only [decide_eq_true_eq] at *
  omega

/-- A batch that leaves room has found room. -/
theorem Ledger.hasRoom_of_appendAll {l : Ledger} {es : List Event}
    (h : (l.appendAll es).2.hasRoom = true) : l.hasRoom = true := by
  obtain ⟨k, hafter, -⟩ := l.appendAll_cases es
  rw [hafter] at h
  exact Ledger.hasRoom_of_prefix h rfl (List.prefix_append _ _)

namespace Follows

/-- A batch that leaves room does to the store what it does to the ledger. -/
theorem appendAll (h : Follows t s l) {es : List Event}
    (hafter : (l.appendAll es).2.hasRoom = true) :
    (s.appendAll es).1 = (l.appendAll es).1 ∧ Follows t (s.appendAll es).2 (l.appendAll es).2 := by
  induction es generalizing s l with
  | nil => exact ⟨rfl, h⟩
  | cons e es ih =>
    obtain ⟨hanswer, hfollows⟩ := h.append (Ledger.hasRoom_of_appendAll hafter) e
    rw [Store.appendAll_cons]
    unfold Ledger.appendAll at hafter ⊢
    rcases hs : s.append e with ⟨r, s'⟩
    rcases hl : l.append e with ⟨r', l'⟩
    rw [hs, hl] at hanswer hfollows
    rw [hl] at hafter
    cases hanswer
    cases r with
    | error err => exact ⟨rfl, hfollows⟩
    | ok u =>
      obtain ⟨hrest, hfollows⟩ := ih hfollows hafter
      exact ⟨congrArg (Except.map (· + 1)) hrest, hfollows⟩

-- ======================================================== a full store

/-- Without room, reading sees the state before the last event, and
nothing is kept any more. -/
theorem full (h : Follows t s l) (hfull : l.hasRoom = false) :
    s.seesCurrent = false ∧ s.keep = s
      ∧ s.view.rows t.key = l.events.dropLast.map Event.row := by
  have hle : Store.room ≤ l.recent := by simpa [Ledger.hasRoom] using hfull
  have hsnapshots := h.snapshots
  have hfits := h.fits
  -- were the current state kept, there would be one snapshot more than fit
  have hk : s.keepsCurrent = false := by
    cases hk : s.keepsCurrent with
    | false => rfl
    | true =>
      rw [hk] at hsnapshots
      have : Bool.toNat true = 1 := rfl
      omega
  have hlength : Store.room ≤ s.kept.length := by omega
  have hrecent : l.recent ≠ 0 := by
    have : 0 < Store.room := by decide
    omega
  have hsees : s.seesCurrent = false := by
    simp [Store.seesCurrent, hk, Nat.not_lt.2 hlength]
  obtain ⟨d, hd, hrows⟩ := h.before hk hrecent
  refine ⟨hsees, ?_, ?_⟩
  · unfold Store.keep
    rw [if_pos]
    simp [hlength]
  · unfold Store.view
    rw [hsees, if_neg (by decide), List.headD_eq_head?_getD, hd]
    exact hrows

/-- A full store does not count its last event. -/
theorem count_of_full (h : Follows t s l) (hfull : l.hasRoom = false) :
    s.count.1 = l.events.length - 1 := by
  unfold Store.count Store.rows
  rw [h.table, (h.full hfull).2.2, List.length_map, List.length_dropLast]

/-- A full store refuses every event, and one that a ledger accepts by a
failure of the database. -/
theorem append_of_full (h : Follows t s l) (hfull : l.hasRoom = false) (e : Event) :
    (∃ err, s.append e = (.error err, s))
      ∧ (l.refusal? e = none → (s.append e).1 = .error .database) := by
  obtain ⟨hsees, hkeep, hview⟩ := h.full hfull
  have hrow := Database.isSome_row? hview e.id
  unfold Store.append Store.contains
  rw [hkeep, h.table, hrow]
  cases hm : e.missing? with
  | some f => exact ⟨⟨_, rfl⟩, fun hnone => by simp [Ledger.refusal?, hm] at hnone⟩
  | none =>
    -- what is seen lacks the last event only, so an identity that is seen is
    -- taken
    cases hid : l.events.dropLast.any fun e' => e'.id == e.id with
    | true =>
      refine ⟨⟨_, rfl⟩, ?_⟩
      intro hnone
      obtain ⟨-, hnew⟩ := Ledger.refusal?_eq_none_iff.1 hnone
      obtain ⟨e', he', hsame⟩ := List.any_eq_true.1 hid
      exact absurd (eq_of_beq hsame)
        (Ledger.has_eq_false_iff.1 hnew e' (List.dropLast_subset _ he'))
    | false => simp [Store.insert, hsees]

/-- A full store takes nothing of a batch. -/
theorem appendAll_of_full (h : Follows t s l) (hfull : l.hasRoom = false) (es : List Event) :
    (s.appendAll es).2 = s := by
  cases es with
  | nil => rfl
  | cons e es =>
    obtain ⟨⟨err, happend⟩, -⟩ := h.append_of_full hfull e
    rw [Store.appendAll_cons, happend]

/-- A batch that takes the last of the room leaves a full store, which has
stopped on the way. -/
theorem appendAll_until_full (h : Follows t s l) (hroom : l.hasRoom = true) {es : List Event}
    (hafter : (l.appendAll es).2.hasRoom = false) :
    ∃ m : Ledger, Follows t (s.appendAll es).2 m ∧ m.hasRoom = false
      ∧ m.events <+: (l.appendAll es).2.events := by
  induction es generalizing s l with
  | nil =>
    rw [show (l.appendAll []).2 = l from rfl, hroom] at hafter
    cases hafter
  | cons e es ih =>
    obtain ⟨hanswer, hfollows⟩ := h.append hroom e
    rw [Store.appendAll_cons]
    unfold Ledger.appendAll at hafter ⊢
    -- either the batch goes on with room, or this event takes the last of it
    rcases l.append_cases e with ⟨err, -, hl⟩ | ⟨-, hl⟩
    · rw [hl] at hafter
      rw [show _ = l.hasRoom from rfl, hroom] at hafter
      cases hafter
    · rcases hs : s.append e with ⟨r, s'⟩
      rw [hs, hl] at hanswer hfollows
      rw [hl] at hafter ⊢
      cases hanswer
      cases hfull : Ledger.hasRoom { l with events := l.events ++ [e] } with
      | true => exact ih hfollows hfull hafter
      | false =>
        obtain ⟨k, hk, -⟩ := Ledger.appendAll_cases { l with events := l.events ++ [e] } es
        refine ⟨{ l with events := l.events ++ [e] }, ?_, hfull, ?_⟩
        · show Follows t (s'.appendAll es).2 _
          rw [hfollows.appendAll_of_full hfull]
          exact hfollows
        · show _ <+: (Ledger.appendAll { l with events := l.events ++ [e] } es).2.events
          rw [hk]
          exact List.prefix_append _ _

-- ======================================================= steps and runs

/-- A new session has all the room. -/
theorem hasRoom_reopened (l : Ledger) :
    Ledger.hasRoom { l with opened := l.events.length } = true := by
  simp [Ledger.hasRoom, Ledger.recent, Store.room]

/-- An operation that leaves room answers as the ledger does, and the store
follows its ledger still. -/
theorem step (h : Follows t s l) (hroom : l.hasRoom = true) {op : Operation}
    (hafter : (l.step op).2.hasRoom = true) :
    (s.step op).1 = (l.step op).1 ∧ Follows t (s.step op).2 (l.step op).2 := by
  cases op with
  | append e =>
    obtain ⟨hanswer, hfollows⟩ := h.append hroom e
    exact ⟨congrArg Answer.done hanswer, hfollows⟩
  | appendAll es =>
    obtain ⟨hanswer, hfollows⟩ := h.appendAll hafter
    exact ⟨congrArg Answer.added hanswer, hfollows⟩
  | get i =>
    obtain ⟨hanswer, hfollows⟩ := h.get hroom i
    exact ⟨congrArg Answer.isThere hanswer, hfollows⟩
  | contains i => exact ⟨congrArg Answer.isThere (h.contains hroom i), (h.keep hroom).1⟩
  | count => exact ⟨congrArg Answer.counted (h.count hroom), (h.keep hroom).1⟩
  | define =>
    show (Prod.map Answer.done id s.define).1 = _ ∧ Follows t (Prod.map Answer.done id s.define).2 l
    rw [h.define hroom]
    exact ⟨rfl, h⟩
  | reopen =>
    refine ⟨rfl, ?_⟩
    show Follows t (Store.openOn s.current s.table) _
    rw [h.table]
    exact reopened h.stored

/-- An operation that takes the last of the room leaves a full store. -/
theorem step_until_full (h : Follows t s l) (hroom : l.hasRoom = true) {op : Operation}
    (hafter : (l.step op).2.hasRoom = false) :
    ∃ m : Ledger, Follows t (s.step op).2 m ∧ m.hasRoom = false
      ∧ m.events <+: (l.step op).2.events := by
  have hsame : ∀ {p : Prop}, l.hasRoom = false → p := by
    intro p hfull
    rw [hroom] at hfull
    cases hfull
  cases op with
  | append e => exact ⟨_, (h.append hroom e).2, hafter, List.prefix_refl _⟩
  | appendAll es => exact h.appendAll_until_full hroom hafter
  | reopen =>
    have hopen : ((l.step .reopen).2).hasRoom = true := hasRoom_reopened l
    rw [hopen] at hafter
    cases hafter
  | get i => exact hsame hafter
  | contains i => exact hsame hafter
  | count => exact hsame hafter
  | define => exact hsame hafter

/-- A run that keeps room is answered as by the ledger: by induction on the
run, since each step leaves a store that follows its ledger. -/
theorem run (h : Follows t s l) {ops : List Operation} (hkeeps : l.keepsRoom ops = true) :
    s.answers ops = l.answers ops ∧ Follows t (s.after ops) (l.after ops) := by
  induction ops generalizing s l with
  | nil => exact ⟨rfl, h⟩
  | cons op ops ih =>
    unfold Ledger.keepsRoom at hkeeps
    obtain ⟨hroom, hrest⟩ := Bool.and_eq_true_iff.1 hkeeps
    have hafter : (l.step op).2.hasRoom = true := by
      cases ops with
      | nil => exact hrest
      | cons op' ops' => exact (Bool.and_eq_true_iff.1 hrest).1
    obtain ⟨hanswer, hfollows⟩ := h.step hroom hafter
    obtain ⟨hanswers, hend⟩ := ih hfollows hrest
    refine ⟨?_, hend⟩
    show (s.step op).1 :: _ = (l.step op).1 :: _
    rw [hanswer, hanswers]

/-- A run that does not keep room has a first operation that takes the
last of it. -/
theorem run_until_full (h : Follows t s l) (hroom : l.hasRoom = true) {ops : List Operation}
    (hkeeps : l.keepsRoom ops = false) :
    ∃ before op later, ops = before ++ op :: later ∧ l.keepsRoom before = true
      ∧ ∃ m : Ledger, Follows t (s.after (before ++ [op])) m ∧ m.hasRoom = false
        ∧ m.events <+: (l.after (before ++ [op])).events := by
  induction ops generalizing s l with
  | nil =>
    rw [show l.keepsRoom [] = l.hasRoom from rfl, hroom] at hkeeps
    cases hkeeps
  | cons op ops ih =>
    unfold Ledger.keepsRoom at hkeeps
    rw [hroom, Bool.true_and] at hkeeps
    cases hafter : (l.step op).2.hasRoom with
    | false => exact ⟨[], op, ops, rfl, hroom, h.step_until_full hroom hafter⟩
    | true =>
      obtain ⟨before, op', later, rfl, hbefore, hfull⟩ := ih (h.step hroom hafter).2 hafter hkeeps
      refine ⟨op :: before, op', later, rfl, ?_, hfull⟩
      unfold Ledger.keepsRoom
      rw [hroom, hbefore]
      rfl

end Follows

-- ===================================================== rows are forever

namespace Store

/-- One store comes after another: it has the same table, and in it the
rows that were there. -/
def IsGrownTo (s s' : Store) : Prop :=
  s'.table = s.table ∧ s.current.rows s.table.key <+: s'.current.rows s.table.key

/-- No operation takes a row away, whatever state the store is in. -/
theorem isClosed_isGrownTo : IsClosed (fun _ => True) IsGrownTo where
  refl _ := ⟨rfl, List.prefix_refl _⟩
  trans := by
    intro s s' s'' h h'
    refine ⟨h'.1.trans h.1, h.2.trans ?_⟩
    rw [← h.1]
    exact h'.2
  keep := by
    intro s
    have hsame : s.keep.current.rows s.table.key = s.current.rows s.table.key :=
      congrArg (Database.rows · s.table.key) s.current_keep
    exact ⟨s.table_keep, hsame ▸ List.prefix_refl _⟩
  insert := by
    intro s r _
    unfold insert
    split
    · split
      · next d hd => exact ⟨rfl, Database.rows_prefix_of_insert? hd⟩
      · exact ⟨rfl, List.prefix_refl _⟩
    · exact ⟨rfl, List.prefix_refl _⟩
  define := by
    intro s
    unfold define
    split
    · exact ⟨rfl, List.prefix_refl _⟩
    · split
      · exact ⟨rfl, List.prefix_refl _⟩
      · exact ⟨rfl, (Database.rows_define s.current s.table.key _).symm ▸ List.prefix_refl _⟩
  reopen s := ⟨rfl, (Database.rows_define s.current s.table.key _).symm ▸ List.prefix_refl _⟩

/-- No run takes a row away or changes one. -/
theorem isGrownTo_after (s : Store) (ops : List Operation) : s.IsGrownTo (s.after ops) :=
  isClosed_isGrownTo.after s fun _ _ => trivial

end Store

-- ============================================================= the law

/-- A store that is opened on an empty database.

While every session in a run leaves room, the store is its ledger: all
answers are the same, it holds the rows of the accepted events in order,
and their identities are distinct. The first operation that leaves no room
leaves a store that counts too few events and to which the database
refuses what a ledger accepts. In any case the rows stay. -/
theorem store_refines_ledger (t : Sql.TableName) (ops : List Operation) :
    (Ledger.keepsRoom {} ops = true →
        (Store.openOn {} t).answers ops = Ledger.answers {} ops
          ∧ ((Store.openOn {} t).after ops).current.rows t.key
            = (Ledger.after {} ops).events.map Event.row
          ∧ ((Ledger.after {} ops).events.map Event.id).Nodup)
      ∧ (Ledger.keepsRoom {} ops = false →
        ∃ before op later, ops = before ++ op :: later ∧ Ledger.keepsRoom {} before = true
          ∧ ((Store.openOn {} t).after (before ++ [op])).count.1
            < (Ledger.after {} (before ++ [op])).events.length
          ∧ ∀ e : Event, (Ledger.after {} (before ++ [op])).refusal? e = none →
            (((Store.openOn {} t).after (before ++ [op])).append e).1 = .error .database)
      ∧ ∀ more, ((Store.openOn {} t).after ops).current.rows t.key
          <+: ((Store.openOn {} t).after (ops ++ more)).current.rows t.key := by
  -- an opened store follows the empty ledger
  have hstart : Follows t (Store.openOn {} t) {} := Follows.reopened (l := {}) rfl
  refine ⟨?_, ?_, ?_⟩
  · intro hkeeps
    obtain ⟨hanswers, hend⟩ := hstart.run hkeeps
    exact ⟨hanswers, hend.stored, Ledger.nodup_after ops List.nodup_nil⟩
  -- the first operation that leaves no room leaves a full store, of some of
  -- the events
  · intro hkeeps
    obtain ⟨before, op, later, hops, hbefore, m, hm, hfull, hevents⟩ :=
      hstart.run_until_full rfl hkeeps
    refine ⟨before, op, later, hops, hbefore, ?_, ?_⟩
    · have hlength := hevents.length_le
      have hopened := hm.opened
      have hrecent : Store.room ≤ m.recent := by simpa [Ledger.hasRoom] using hfull
      have hroom : 0 < Store.room := by decide
      unfold Ledger.recent at hrecent
      rw [hm.count_of_full hfull]
      omega
    · intro e hnone
      obtain ⟨hvalid, hnew⟩ := Ledger.refusal?_eq_none_iff.1 hnone
      refine (hm.append_of_full hfull e).2 (Ledger.refusal?_eq_none_iff.2 ⟨hvalid, ?_⟩)
      apply Ledger.has_eq_false_iff.2
      intro e' he'
      exact Ledger.has_eq_false_iff.1 hnew e' (hevents.subset he')
  -- whatever the room, rows are only ever added
  · intro more
    have htable : ((Store.openOn {} t).after ops).table = t :=
      ((Store.openOn {} t).isGrownTo_after ops).1
    have hmore := (((Store.openOn {} t).after ops).isGrownTo_after more).2
    have hafter : (Store.openOn {} t).after (ops ++ more)
        = ((Store.openOn {} t).after ops).after more :=
      List.foldl_append
    rw [htable] at hmore
    rw [hafter]
    exact hmore

/-- Plain events with the given identities, added one by one. -/
def appends (ids : List String) : List Operation :=
  ids.map fun i => .append { id := i, type := "t", ts := .epoch }

/-- Three events leave room and the fourth does not: it is stored but not
counted. -/
theorem fourth_event_goes_unseen :
    let s := Store.openOn {} ⟨"events", "events"⟩
    s.answers (appends ["a", "b", "c"]) = Ledger.answers {} (appends ["a", "b", "c"])
      ∧ (∃ before op later, appends ["a", "b", "c", "d"] = before ++ op :: later
          ∧ Ledger.keepsRoom {} before = true
          ∧ (s.after (before ++ [op])).count.1 < (Ledger.after {} (before ++ [op])).events.length
          ∧ ∀ e : Event, (Ledger.after {} (before ++ [op])).refusal? e = none →
            ((s.after (before ++ [op])).append e).1 = .error .database)
      ∧ (s.after (appends ["a", "b", "c", "d"])).count.1 = 3 := by
  have hthree : Ledger.keepsRoom {} (appends ["a", "b", "c"]) = true := by decide +kernel
  have hfour : Ledger.keepsRoom {} (appends ["a", "b", "c", "d"]) = false := by decide +kernel
  refine ⟨?_, ?_, by decide +kernel⟩
  · exact ((store_refines_ledger _ _).1 hthree).1
  · exact (store_refines_ledger _ _).2.1 hfour

end EventAnalytics
