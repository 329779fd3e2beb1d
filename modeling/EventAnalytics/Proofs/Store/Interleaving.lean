/-
Calls that add events to one store at the same time.

Adding an event takes three steps: the event is checked, its identity is
looked for, and its row is inserted. Each step is done at once, but other
calls may come between them, so what a call has looked for in vain may be
there when it inserts. A `Traffic` is a store with the calls at work on
it. It moves by turns, each taken by one call, in whatever order; three
turns of one call in a row are the whole of adding an event
(`Traffic.after_three_turns`).

What keeps the rows right is the last step alone, which puts no identity
into the table twice and leaves everything as it was when it fails. A
store is orderly when its table is defined, its identities are distinct
and its snapshots are older states, and whatever is done keeps it so
(`isClosed_isOrderly`). On an orderly store every call is told the truth
(`Call.Fits`): one that succeeded has a row in the table, and one that was
refused for its identity finds that in the table. The induction over turns
(`IsSafe.after`) also counts the snapshots that are used up, since these
are the one thing that can keep a new event out.
-/
import EventAnalytics.Proofs.Store.Objects
import EventAnalytics.Proofs.Store.Readable

namespace EventAnalytics

variable {s s' : Store} {id : String}

-- ===================================================== orderly stores

namespace Store

/-- The rows of the event table in the current state. -/
def stored (s : Store) : List Row := s.current.rows s.table.key

/-- Keeping a snapshot leaves the stored rows alone. -/
@[simp] theorem stored_keep (s : Store) : s.keep.stored = s.stored := by
  unfold stored
  rw [s.current_keep, s.table_keep]

/-- Whether the table has a row with a given identity. -/
def Stores (s : Store) (id : String) : Prop := ∃ r ∈ s.stored, r .id = some id

/-- An identity that is in the table stays there. -/
theorem Stores.later (h : s.Stores id) (hgrown : s.IsGrownTo s') : s'.Stores id := by
  obtain ⟨r, hr, hid⟩ := h
  refine ⟨r, ?_, hid⟩
  unfold stored
  rw [hgrown.1]
  exact hgrown.2.subset hr

/-- What is true of every store that was opened on a database with distinct
identities. -/
structure IsOrderly (s : Store) : Prop where
  isDefined : s.current.isDefined s.table.key = true
  distinct : (s.stored.map fun r => r .id).Nodup
  older : ∀ d ∈ s.kept, d.rows s.table.key <+: s.stored

/-- A store that was just opened on distinct identities is orderly. -/
theorem isOrderly_openOn {d : Database} {t : Sql.TableName}
    (h : ((d.rows t.key).map fun r => r .id).Nodup) : (openOn d t).IsOrderly where
  isDefined := Database.isDefined_define d t.key
  distinct := by
    show (((d.define t.key).rows t.key).map fun r => r .id).Nodup
    rwa [Database.rows_define]
  older _ hd := absurd hd List.not_mem_nil

namespace IsOrderly

theorem keep (h : s.IsOrderly) : s.keep.IsOrderly := by
  unfold Store.keep
  split
  · exact h
  · refine ⟨h.isDefined, h.distinct, ?_⟩
    intro d hd
    rcases List.mem_cons.1 hd with rfl | hd
    · exact List.prefix_refl _
    · exact h.older d hd

/-- Writing a row that the table admits keeps the store orderly, since its
identity is new. -/
theorem commit (h : s.IsOrderly) {d : Database} {r : Row}
    (hinsert : s.current.insert? s.table.key r = some d) : (s.commit d).IsOrderly := by
  obtain ⟨hrows, hnew⟩ := Database.insert?_eq_some hinsert
  refine ⟨?_, ?_, ?_⟩
  · exact ((Database.insert?_leaves hinsert).1.isDefined _).trans h.isDefined
  · show ((d.rows s.table.key).map fun r => r .id).Nodup
    rw [hrows, List.map_append, List.nodup_append]
    refine ⟨h.distinct, List.nodup_singleton _, ?_⟩
    intro i hi j hj hsame
    obtain ⟨q, hq, rfl⟩ := List.mem_map.1 hi
    rw [List.map_singleton, List.mem_singleton] at hj
    exact hnew q hq (hsame.trans hj)
  · intro d' hd'
    exact (h.older d' hd').trans (Database.rows_prefix_of_insert? hinsert)

/-- Inserting keeps the store orderly, whether or not the row gets in. -/
theorem insert (h : s.IsOrderly) (r : Row) : (s.insert r).2.IsOrderly := by
  unfold Store.insert
  split
  · split
    · next d hinsert => exact h.commit hinsert
    · exact h
  · exact h

theorem define (h : s.IsOrderly) : s.define.2.IsOrderly := by
  unfold Store.define
  split
  · exact h
  · split
    · exact h
    · have hrows : (s.current.define s.table.key).rows s.table.key = s.stored :=
        Database.rows_define _ _ _
      refine ⟨Database.isDefined_define _ _, ?_, ?_⟩
      · show (((s.current.define s.table.key).rows s.table.key).map fun r => r .id).Nodup
        rw [hrows]
        exact h.distinct
      · intro d hd
        show _ <+: (s.current.define s.table.key).rows s.table.key
        rw [hrows]
        exact h.older d hd

/-- Reading sees the stored rows up to some point. -/
theorem rows_prefix (h : s.IsOrderly) : s.rows <+: s.stored := by
  have hstates : InAllStates (· <+: s.stored) s := ⟨List.prefix_refl _, h.older⟩
  exact hstates.rows

/-- An identity that reading sees is in the table. -/
theorem stores_of_view (h : s.IsOrderly) (hseen : (s.view.row? s.table.key id).isSome = true) :
    s.Stores id := by
  obtain ⟨r, hr⟩ := Option.isSome_iff_exists.1 hseen
  unfold Database.row? at hr
  exact ⟨r, h.rows_prefix.subset (List.mem_of_find?_eq_some hr), by simpa using List.find?_some hr⟩

/-- Whether the row of an event gets into the table: it does if writing is
possible and the identity is new, and otherwise nothing changes. -/
theorem insert_cases (h : s.IsOrderly) (e : Event) :
    (s.insert e.row = (.error .database, s) ∧ (s.seesCurrent = true → s.Stores e.id))
      ∨ ∃ d, s.insert e.row = (.ok (), s.commit d) ∧ s.seesCurrent = true
        ∧ s.current.insert? s.table.key e.row = some d := by
  unfold Store.insert
  cases hsees : s.seesCurrent with
  | false => exact .inl ⟨rfl, fun h => nomatch h⟩
  | true =>
    cases hinsert : s.current.insert? s.table.key e.row with
    | some d => exact .inr ⟨d, rfl, rfl, rfl⟩
    | none =>
      refine .inl ⟨rfl, fun _ => ?_⟩
      by_contra hnew
      have hfresh : ∀ r ∈ s.current.rows s.table.key, r .id ≠ e.row .id :=
        fun r hr hid => hnew ⟨r, hr, hid.trans e.row_id⟩
      obtain ⟨d, hd, -⟩ := Database.insert?_of_new h.isDefined e.isComplete_row hfresh
      cases hd.symm.trans hinsert

end IsOrderly

/-- Whatever is done with an orderly store leaves it orderly. -/
theorem isClosed_isOrderly :
    IsClosed (fun _ => True) (fun s s' => s.IsOrderly → s'.IsOrderly) where
  refl _ h := h
  trans h h' hs := h' (h hs)
  keep _ h := h.keep
  insert _ r _ h := h.insert r
  define _ h := h.define
  reopen _ h := isOrderly_openOn h.distinct

/-- No run of operations makes an orderly store disorderly. -/
theorem isOrderly_after (h : s.IsOrderly) (ops : List Operation) : (s.after ops).IsOrderly :=
  isClosed_isOrderly.after s (fun _ _ => trivial) h

/-- Keeping a snapshot does not decide whether reading sees the current
state. -/
@[simp] theorem seesCurrent_keep (s : Store) : s.keep.seesCurrent = s.seesCurrent := by
  unfold keep
  split
  · rfl
  · next hroom =>
    simp only [Bool.or_eq_true, decide_eq_true_eq, not_or, Nat.not_le] at hroom
    simp [seesCurrent, hroom.2]

/-- How many snapshots of older states are kept at most. -/
def KeepsAtMost (s : Store) (n : Nat) : Prop := s.kept.length ≤ n + s.keepsCurrent.toNat

/-- Keeping the current state takes up no room for older ones. -/
theorem KeepsAtMost.keep {n : Nat} (h : s.KeepsAtMost n) : s.keep.KeepsAtMost n := by
  unfold Store.keep
  split
  · exact h
  · next hroom =>
    simp only [Bool.or_eq_true, not_or, Bool.not_eq_true] at hroom
    unfold KeepsAtMost at h ⊢
    rw [hroom.1] at h
    exact Nat.succ_le_succ h

/-- Writing turns the current state into one more older one. -/
theorem KeepsAtMost.commit {n : Nat} (h : s.KeepsAtMost n) (d : Database) :
    (s.commit d).KeepsAtMost (n + 1) :=
  Nat.le_trans h (Nat.add_le_add_left (Bool.toNat_le _) n)

/-- As long as few snapshots are kept, reading and writing go on. -/
theorem KeepsAtMost.seesCurrent {n : Nat} (h : s.KeepsAtMost n) (hn : n < room) :
    s.seesCurrent = true := by
  unfold KeepsAtMost at h
  unfold Store.seesCurrent
  cases hcurrent : s.keepsCurrent with
  | true => rfl
  | false =>
    rw [hcurrent] at h
    exact decide_eq_true (Nat.lt_of_le_of_lt h hn)

end Store

-- =============================================================== calls

/-- How far a call has come. -/
inductive Stage where
  | begun
  /-- The event is valid. -/
  | checked
  /-- The identity was looked for and not seen. -/
  | unseen
  | finished (r : Except StoreError Unit)

/-- A call that adds an event. -/
structure Call where
  event : Event
  stage : Stage := .begun

namespace Call

variable {c : Call}

/-- The next step of a call. -/
def advance (s : Store) (c : Call) : Call × Store :=
  match c.stage with
  | .begun =>
    match c.event.missing? with
    | some f => ({ c with stage := .finished (.error (.invalid f)) }, s)
    | none => ({ c with stage := .checked }, s)
  | .checked =>
    match s.contains c.event.id with
    | (true, s) => ({ c with stage := .finished (.error (.taken c.event.id)) }, s)
    | (false, s) => ({ c with stage := .unseen }, s)
  | .unseen => ({ c with stage := .finished (s.insert c.event.row).1 }, (s.insert c.event.row).2)
  | .finished _ => (c, s)

def succeeded (c : Call) : Bool :=
  match c.stage with
  | .finished (.ok ()) => true
  | _ => false

def isFinished (c : Call) : Bool :=
  match c.stage with
  | .finished _ => true
  | _ => false

/-- What a call that got this far has been told is true. -/
def Fits (s : Store) (c : Call) : Prop :=
  match c.stage with
  | .begun => True
  | .checked | .unseen => c.event.missing? = none
  | .finished (.ok ()) => c.event.missing? = none ∧ s.Stores c.event.id
  | .finished (.error (.invalid f)) => c.event.missing? = some f
  | .finished (.error (.taken i)) => i = c.event.id ∧ c.event.missing? = none ∧ s.Stores i
  | .finished (.error .database) =>
    c.event.missing? = none ∧ (s.seesCurrent = true → s.Stores c.event.id)
  | .finished (.error (.faulty _ _)) => False

/-- What a call has been told stays true while the table grows and writing
gets no easier. -/
theorem Fits.later (h : c.Fits s) (hgrown : s.IsGrownTo s')
    (hsees : s'.seesCurrent = true → s.seesCurrent = true) : c.Fits s' := by
  unfold Fits at h ⊢
  split at h
  · trivial
  · exact h
  · exact h
  · exact ⟨h.1, h.2.later hgrown⟩
  · exact h
  · exact ⟨h.1, h.2.1, h.2.2.later hgrown⟩
  · exact ⟨h.1, fun hs => (h.2 (hsees hs)).later hgrown⟩
  · exact h

/-- A step of a call is made of the parts that operations are made of. -/
theorem isClosed_advance {R : Store → Store → Prop} (h : Store.IsClosed (fun _ => True) R)
    (c : Call) (s : Store) : R s (c.advance s).2 := by
  unfold advance
  split
  · cases c.event.missing? <;> exact h.refl s
  · unfold Store.contains
    cases (s.view.row? s.table.key c.event.id).isSome <;> exact h.keep s
  · exact h.insert s trivial
  · exact h.refl s

theorem event_advance (c : Call) (s : Store) : (c.advance s).1.event = c.event := by
  unfold advance
  split
  · cases c.event.missing? <;> rfl
  · unfold Store.contains
    cases (s.view.row? s.table.key c.event.id).isSome <;> rfl
  · rfl
  · rfl

/-- What the end of a call can be for a valid event. -/
theorem Fits.stage_cases (h : c.Fits s) (hvalid : c.event.missing? = none)
    (hend : c.isFinished = true) :
    (c.stage = .finished (.ok ()) ∧ s.Stores c.event.id)
      ∨ (c.stage = .finished (.error (.taken c.event.id)) ∧ s.Stores c.event.id)
      ∨ (c.stage = .finished (.error .database)
        ∧ (s.seesCurrent = true → s.Stores c.event.id)) := by
  obtain ⟨e, stage⟩ := c
  cases stage with
  | begun => cases hend
  | checked => cases hend
  | unseen => cases hend
  | finished r =>
    rcases r with (_ | f | i | ⟨i, f⟩) | ⟨⟩
    · exact .inr (.inr ⟨rfl, h.2⟩)
    · cases hvalid.symm.trans h
    · obtain ⟨hi, -, hstores⟩ := h
      have hi : i = e.id := hi
      subst hi
      exact .inr (.inl ⟨rfl, hstores⟩)
    · exact h.elim
    · exact .inl ⟨rfl, h.2⟩

/-- The steps of a call, one right after the other, add its event. -/
theorem advance_to_end (s : Store) (e : Event) :
    let first := advance s { event := e }
    let second := first.1.advance first.2
    second.1.advance second.2 = (⟨e, .finished (s.append e).1⟩, (s.append e).2) := by
  unfold Store.append Store.contains
  cases hvalid : e.missing? with
  | some f => simp [advance, hvalid]
  | none =>
    cases hseen : (s.view.row? s.table.key e.id).isSome with
    | true => simp [advance, hvalid, Store.contains, hseen]
    | false => simp [advance, hvalid, Store.contains, hseen]

/-- What a step of a call does: it leaves the table alone, or it is the one
by which the call succeeds. -/
theorem advance_cases (hs : s.IsOrderly) (hc : c.Fits s) :
    ∃ c' s', c.advance s = (c', s') ∧ c'.event = c.event ∧ c'.Fits s'
      ∧ (((s' = s ∨ s' = s.keep) ∧ c'.succeeded = c.succeeded)
        ∨ (c.succeeded = false ∧ c'.succeeded = true ∧ s.seesCurrent = true
          ∧ ∃ d, s.current.insert? s.table.key c.event.row = some d ∧ s' = s.commit d)) := by
  obtain ⟨e, stage⟩ := c
  -- one case for each stage, since a stage decides what the next step is
  cases stage with
  | begun =>
    cases hvalid : e.missing? with
    | some f =>
      refine ⟨⟨e, .finished (.error (.invalid f))⟩, s, ?_, rfl, hvalid, .inl ⟨.inl rfl, rfl⟩⟩
      simp [advance, hvalid]
    | none =>
      refine ⟨⟨e, .checked⟩, s, ?_, rfl, hvalid, .inl ⟨.inl rfl, rfl⟩⟩
      simp [advance, hvalid]
  | checked =>
    have hvalid : e.missing? = none := hc
    cases hseen : (s.view.row? s.table.key e.id).isSome with
    | true =>
      -- what was seen is in the table, and keeping the snapshot leaves it
      -- there
      have hstores := (hs.stores_of_view hseen).later (Store.isClosed_isGrownTo.keep s)
      refine ⟨⟨e, .finished (.error (.taken e.id))⟩, s.keep, ?_, rfl, ⟨rfl, hvalid, hstores⟩,
        .inl ⟨.inr rfl, rfl⟩⟩
      simp [advance, Store.contains, hseen]
    | false =>
      refine ⟨⟨e, .unseen⟩, s.keep, ?_, rfl, hvalid, .inl ⟨.inr rfl, rfl⟩⟩
      simp [advance, Store.contains, hseen]
  | unseen =>
    have hvalid : e.missing? = none := hc
    -- the insertion is the one step that can change the table
    rcases hs.insert_cases e with ⟨hinsert, hwhy⟩ | ⟨d, hinsert, hsees, hd⟩
    · refine ⟨⟨e, .finished (.error .database)⟩, s, ?_, rfl, ⟨hvalid, hwhy⟩,
        .inl ⟨.inl rfl, rfl⟩⟩
      simp [advance, hinsert]
    · have hstores : (s.commit d).Stores e.id := by
        refine ⟨e.row, ?_, e.row_id⟩
        show e.row ∈ d.rows s.table.key
        rw [(Database.insert?_eq_some hd).1]
        exact List.mem_append_right _ (List.mem_singleton_self _)
      refine ⟨⟨e, .finished (.ok ())⟩, s.commit d, ?_, rfl, ⟨hvalid, hstores⟩,
        .inr ⟨rfl, rfl, hsees, d, hd, rfl⟩⟩
      simp [advance, hinsert]
  | finished r => exact ⟨⟨e, .finished r⟩, s, rfl, rfl, hc, .inl ⟨.inl rfl, rfl⟩⟩

end Call

-- =============================================================== turns

/-- A store and the calls at work on it. -/
structure Traffic where
  store : Store
  calls : List Call

namespace Traffic

variable {x : Traffic}

def start (s : Store) (es : List Event) : Traffic :=
  ⟨s, es.map fun e => { event := e }⟩

/-- One call takes its next step. -/
def turn (x : Traffic) (i : Nat) : Traffic :=
  match x.calls[i]? with
  | none => x
  | some c => ⟨(c.advance x.store).2, x.calls.set i (c.advance x.store).1⟩

def after (x : Traffic) (turns : List Nat) : Traffic := turns.foldl turn x

/-- The events of the calls that have succeeded. -/
def accepted (x : Traffic) : List Event := (x.calls.filter Call.succeeded).map Call.event

/-- The events that calls have added under a given identity. -/
def acceptedAs (x : Traffic) (id : String) : List Event := x.accepted.filter fun e => e.id == id

/-- Whether all calls have come to their end. -/
def isFinished (x : Traffic) : Bool := x.calls.all Call.isFinished

/-- What is true at any time of calls that started on a store. -/
structure IsSafe (s : Store) (x : Traffic) : Prop where
  table : x.store.table = s.table
  orderly : x.store.IsOrderly
  fits : ∀ c ∈ x.calls, c.Fits x.store
  added : ∃ rows, x.store.stored = s.stored ++ rows ∧ rows.Perm (x.accepted.map Event.row)
  snapshots : x.store.KeepsAtMost (s.kept.length + x.accepted.length)

/-- Calls that have only begun have done nothing to an orderly store. -/
theorem isSafe_start (hs : s.IsOrderly) (es : List Event) : IsSafe s (start s es) where
  table := rfl
  orderly := hs
  fits := by
    intro c hc
    obtain ⟨e, -, rfl⟩ := List.mem_map.1 hc
    trivial
  added := by
    have hnone : (start s es).accepted = [] := by
      unfold accepted start
      rw [List.filter_eq_nil_iff.2, List.map_nil]
      intro c hc
      obtain ⟨e, -, rfl⟩ := List.mem_map.1 hc
      exact Bool.false_ne_true
    exact ⟨[], (List.append_nil _).symm, hnone ▸ .nil⟩
  snapshots := Nat.le_trans (Nat.le_add_right _ _) (Nat.le_add_right _ _)

/-- A turn of a call that there is, is its next step. -/
theorem turn_of_get {i : Nat} {c : Call} (h : x.calls[i]? = some c) :
    x.turn i = ⟨(c.advance x.store).2, x.calls.set i (c.advance x.store).1⟩ := by
  unfold turn
  rw [h]

/-- A call that is left alone adds its event. -/
theorem after_three_turns {i : Nat} {e : Event} (h : x.calls[i]? = some { event := e }) :
    x.after [i, i, i]
      = ⟨(x.store.append e).2, x.calls.set i ⟨e, .finished (x.store.append e).1⟩⟩ := by
  have hi : i < x.calls.length := (List.getElem?_eq_some_iff.1 h).1
  have hagain : ∀ (s : Store) (c : Call), turn ⟨s, x.calls.set i c⟩ i
      = ⟨(c.advance s).2, x.calls.set i (c.advance s).1⟩ := by
    intro s c
    have hget : (x.calls.set i c)[i]? = some c := List.getElem?_set_self hi
    rw [turn_of_get (x := ⟨s, _⟩) hget, List.set_set]
  have hend := Call.advance_to_end x.store e
  simp only at hend
  show ((x.turn i).turn i).turn i = _
  rw [turn_of_get h, hagain, hagain, hend]

/-- A turn is nothing, or the step of one call among the others. -/
theorem turn_cases (x : Traffic) (i : Nat) :
    x.turn i = x ∨ ∃ before c later, x.calls = before ++ c :: later
      ∧ x.turn i = ⟨(c.advance x.store).2, before ++ (c.advance x.store).1 :: later⟩ := by
  unfold turn
  cases hc : x.calls[i]? with
  | none => exact .inl rfl
  | some c =>
    obtain ⟨hi, hget⟩ := List.getElem?_eq_some_iff.1 hc
    have hsplit : x.calls = x.calls.take i ++ c :: x.calls.drop (i + 1) := by
      rw [← hget, List.getElem_cons_drop, List.take_append_drop]
    refine .inr ⟨_, c, _, hsplit, ?_⟩
    simp only [List.set_eq_take_append_cons_drop, if_pos hi]

/-- A step by which no call succeeds accepts nothing. -/
theorem accepted_of_same {c c' : Call} (hevent : c'.event = c.event)
    (hsame : c'.succeeded = c.succeeded) (before later : List Call) :
    accepted ⟨s', before ++ c' :: later⟩ = accepted ⟨s, before ++ c :: later⟩ := by
  simp only [accepted, List.filter_append, List.filter_cons, hsame, List.map_append]
  split <;> simp [hevent]

/-- A step by which a call succeeds accepts its event. -/
theorem accepted_of_succeeded {c c' : Call} (hevent : c'.event = c.event)
    (hnot : c.succeeded = false) (hdone : c'.succeeded = true) (before later : List Call) :
    (accepted ⟨s', before ++ c' :: later⟩).Perm
      (accepted ⟨s, before ++ c :: later⟩ ++ [c.event]) := by
  simp only [accepted, List.filter_append, List.filter_cons, hnot, hdone, if_true,
    Bool.false_eq_true, if_false, List.map_append, List.map_cons, hevent]
  exact List.perm_middle.trans (List.perm_append_singleton _ _).symm

namespace IsSafe

/-- A turn keeps everything at a time that is safe. -/
theorem turn (h : IsSafe s x) (i : Nat) : IsSafe s (x.turn i) := by
  rcases x.turn_cases i with hx | ⟨before, c, later, hcalls, hx⟩
  · rw [hx]
    exact h
  have hc : c ∈ x.calls := hcalls ▸ List.mem_append_right _ List.mem_cons_self
  -- whatever the step is, the table grows and the store stays orderly
  have hgrown := c.isClosed_advance Store.isClosed_isGrownTo x.store
  have horderly := c.isClosed_advance Store.isClosed_isOrderly x.store h.orderly
  obtain ⟨c', s', hadvance, hevent, hfits, hcase⟩ := c.advance_cases h.orderly (h.fits c hc)
  rw [hadvance] at hx hgrown horderly
  rw [hx]
  -- the other calls were told the truth, and it stays true when writing gets
  -- no easier
  have hall : (s'.seesCurrent = true → x.store.seesCurrent = true) →
      ∀ b ∈ before ++ c' :: later, b.Fits s' := by
    intro hsees b hb
    have hother : b ∈ before ++ c :: later → b.Fits s' :=
      fun hb => (h.fits b (hcalls ▸ hb)).later hgrown hsees
    rcases List.mem_append.1 hb with hb | hb
    · exact hother (List.mem_append_left _ hb)
    · rcases List.mem_cons.1 hb with rfl | hb
      · exact hfits
      · exact hother (List.mem_append_right _ (List.mem_cons_of_mem _ hb))
  -- what has been accepted before the turn, with the call in its place
  obtain ⟨rows, hrows, hperm⟩ := h.added
  have hold : x.accepted = accepted ⟨x.store, before ++ c :: later⟩ := by rw [← hcalls]
  -- either the call succeeds by this step, or nobody does
  rcases hcase with ⟨hquiet, hsame⟩ | ⟨hnot, hdone, hsees, d, hd, rfl⟩
  · have haccepted : accepted ⟨s', before ++ c' :: later⟩ = x.accepted :=
      (accepted_of_same hevent hsame before later).trans hold.symm
    rcases hquiet with rfl | rfl
    · refine ⟨h.table, horderly, hall (fun hsees => hsees), ?_, ?_⟩
      · exact ⟨rows, hrows, haccepted ▸ hperm⟩
      · exact haccepted ▸ h.snapshots
    · refine ⟨x.store.table_keep.trans h.table, horderly,
        hall (fun hsees => x.store.seesCurrent_keep ▸ hsees), ?_, ?_⟩
      · exact ⟨rows, x.store.stored_keep.trans hrows, haccepted ▸ hperm⟩
      · exact haccepted ▸ h.snapshots.keep
  · have haccepted : (accepted ⟨x.store.commit d, before ++ c' :: later⟩).Perm
        (x.accepted ++ [c.event]) :=
      hold ▸ accepted_of_succeeded hevent hnot hdone before later
    -- the new row stands behind the others, and its event is one more
    -- accepted
    refine ⟨h.table, horderly, hall (fun _ => hsees), ?_, ?_⟩
    · refine ⟨rows ++ [c.event.row], ?_, ?_⟩
      · show d.rows x.store.table.key = _
        rw [(Database.insert?_eq_some hd).1, ← List.append_assoc, ← hrows]
        rfl
      · have hmore := haccepted.map Event.row
        rw [List.map_append, List.map_singleton] at hmore
        exact (hperm.append_right _).trans hmore.symm
    · have hcount := haccepted.length_eq
      rw [List.length_append, List.length_singleton] at hcount
      rw [hcount, ← Nat.add_assoc]
      exact h.snapshots.commit d

/-- So does any number of turns: the induction is over them in order. -/
theorem after (h : IsSafe s x) (turns : List Nat) : IsSafe s (x.after turns) := by
  induction turns generalizing x with
  | nil => exact h
  | cons i turns ih => exact ih (h.turn i)

/-- Identities of accepted events are distinct. -/
theorem nodup_accepted (h : IsSafe s x) : (x.accepted.map Event.id).Nodup := by
  obtain ⟨rows, hrows, hperm⟩ := h.added
  have hids : ((x.accepted.map Event.row).map fun r => r .id)
      = (x.accepted.map Event.id).map some := by
    rw [List.map_map, List.map_map]
    exact List.map_congr_left fun e _ => e.row_id
  have hdistinct := h.orderly.distinct
  rw [hrows, List.map_append] at hdistinct
  have hnew := ((hperm.map fun r : Row => r .id).nodup_iff).1 (List.nodup_append.1 hdistinct).2.1
  rw [hids] at hnew
  exact List.Nodup.of_map _ hnew

/-- An identity is in the table if it was there before or was accepted. -/
theorem stores_iff (h : IsSafe s x) :
    x.store.Stores id ↔ s.Stores id ∨ ∃ e ∈ x.accepted, e.id = id := by
  obtain ⟨rows, hrows, hperm⟩ := h.added
  unfold Store.Stores
  rw [hrows]
  constructor
  · rintro ⟨r, hr, hid⟩
    rcases List.mem_append.1 hr with hr | hr
    · exact .inl ⟨r, hr, hid⟩
    · obtain ⟨e, he, rfl⟩ := List.mem_map.1 (hperm.subset hr)
      exact .inr ⟨e, he, Option.some.inj (e.row_id.symm.trans hid)⟩
  · rintro (⟨r, hr, hid⟩ | ⟨e, he, rfl⟩)
    · exact ⟨r, List.mem_append_left _ hr, hid⟩
    · exact ⟨e.row, List.mem_append_right _ (hperm.symm.subset (List.mem_map_of_mem he)), e.row_id⟩

/-- An identity is accepted once at most, and then the event is found under
it. -/
theorem acceptedAs_cases (h : IsSafe s x) (id : String) :
    (x.acceptedAs id = [] ∧ ∀ e ∈ x.accepted, e.id ≠ id)
      ∨ ∃ e, x.acceptedAs id = [e] ∧ x.store.current.row? s.table.key id = some e.row := by
  have hmem : ∀ e, e ∈ x.acceptedAs id ↔ e ∈ x.accepted ∧ e.id = id := by
    intro e
    rw [acceptedAs, List.mem_filter, beq_iff_eq]
  have hdistinct : ((x.acceptedAs id).map Event.id).Nodup :=
    h.nodup_accepted.sublist (List.filter_sublist.map _)
  -- all that was accepted under the identity has it, and identities are
  -- distinct, so it is one event at most
  cases hall : x.acceptedAs id with
  | nil =>
    refine .inl ⟨rfl, fun e he hid => ?_⟩
    have hthere := (hmem e).2 ⟨he, hid⟩
    rw [hall] at hthere
    exact List.not_mem_nil hthere
  | cons e es =>
    rw [hall] at hmem hdistinct
    obtain ⟨he, rfl⟩ := (hmem e).1 List.mem_cons_self
    refine .inr ⟨e, ?_, ?_⟩
    · cases es with
      | nil => rfl
      | cons e' es =>
        have hsame := ((hmem e').1 (List.mem_cons_of_mem _ List.mem_cons_self)).2
        rw [List.map_cons, List.map_cons, hsame, List.nodup_cons] at hdistinct
        exact absurd List.mem_cons_self hdistinct.1
    · obtain ⟨rows, hrows, hperm⟩ := h.added
      have hrow : e.row ∈ x.store.stored := by
        rw [hrows]
        exact List.mem_append_right _ (hperm.symm.subset (List.mem_map_of_mem he))
      rw [← h.table]
      exact Database.row?_of_mem h.orderly.distinct hrow e.row_id

end IsSafe

/-- Turns never change which events the calls are for. -/
theorem events_after (x : Traffic) (turns : List Nat) :
    (x.after turns).calls.map Call.event = x.calls.map Call.event := by
  induction turns generalizing x with
  | nil => rfl
  | cons i turns ih =>
    refine (ih (x.turn i)).trans ?_
    rcases x.turn_cases i with hx | ⟨before, c, later, hcalls, hx⟩
    · rw [hx]
    · rw [hx, hcalls, List.map_append, List.map_cons, c.event_advance, List.map_append,
        List.map_cons]

/-- What the parts of operations keep, calls keep as well. -/
theorem isClosed_after {R : Store → Store → Prop} (h : Store.IsClosed (fun _ => True) R)
    (x : Traffic) (turns : List Nat) : R x.store (x.after turns).store := by
  induction turns generalizing x with
  | nil => exact h.refl _
  | cons i turns ih =>
    refine h.trans ?_ (ih (x.turn i))
    rcases x.turn_cases i with hx | ⟨before, c, later, -, hx⟩
    · rw [hx]
      exact h.refl _
    · rw [hx]
      exact c.isClosed_advance h x.store

end Traffic

-- ============================================================= the law

/-- Calls that add events to an orderly store, in any state that they can
get to together.

No two rows have the same identity, the table has the rows from before and
behind them those of the calls that have succeeded, and no row changes any
more. When all calls have come to their end, an identity that was new and
that somebody gave a valid event to is there: one call has succeeded, its
row is the one that is found, and the others were refused for the identity
or by the database. The exception is a store that has used up its
snapshots on other events. It can no longer be written to, and the
database refuses all events under an identity that nobody has got in. -/
theorem interleaved_calls_add_an_identity_once {s : Store} (hs : s.IsOrderly) (es : List Event)
    (turns : List Nat) :
    let x := (Traffic.start s es).after turns
    x.calls.map Call.event = es
      ∧ (x.store.stored.map fun r => r .id).Nodup
      ∧ (∃ rows, x.store.stored = s.stored ++ rows ∧ rows.Perm (x.accepted.map Event.row))
      ∧ (∀ more, x.store.stored <+: (x.after more).store.stored)
      ∧ (x.isFinished = true → ∀ c ∈ x.calls, c.event.missing? = none → ¬ s.Stores c.event.id →
        ((∃ e, x.acceptedAs c.event.id = [e]
            ∧ x.store.current.row? s.table.key c.event.id = some e.row)
          ∧ (c.stage = .finished (.ok ()) ∨ c.stage = .finished (.error (.taken c.event.id))
            ∨ c.stage = .finished (.error .database)))
        ∨ (x.acceptedAs c.event.id = [] ∧ c.stage = .finished (.error .database)
          ∧ x.store.seesCurrent = false
          ∧ Store.room ≤ s.kept.length + x.accepted.length)) := by
  intro x
  -- the invariant holds at the start and after every turn, so it holds now
  have hsafe : x.IsSafe s := (Traffic.isSafe_start hs es).after turns
  refine ⟨?_, hsafe.orderly.distinct, hsafe.added, ?_, ?_⟩
  · refine (Traffic.events_after _ turns).trans ?_
    show (es.map _).map Call.event = es
    rw [List.map_map]
    exact List.map_id es
  · intro more
    have hgrown := Traffic.isClosed_after Store.isClosed_isGrownTo x more
    show _ <+: (x.after more).store.current.rows (x.after more).store.table.key
    rw [hgrown.1]
    exact hgrown.2
  · intro hfinished c hc hvalid hnew
    have hend : c.isFinished = true := List.all_eq_true.1 hfinished c hc
    have hstage := (hsafe.fits c hc).stage_cases hvalid hend
    -- either nobody has got the identity in, or just one call has
    rcases hsafe.acceptedAs_cases c.event.id with ⟨hnone, hothers⟩ | hone
    · have hmissing : ¬ x.store.Stores c.event.id := by
        rw [hsafe.stores_iff]
        rintro (hthere | ⟨e, he, hid⟩)
        · exact hnew hthere
        · exact hothers e he hid
      -- being told of success or of a taken identity would be true, so it
      -- was the database, and that for lack of room
      rcases hstage with ⟨-, hthere⟩ | ⟨-, hthere⟩ | ⟨hrefused, hthere⟩
      · exact absurd hthere hmissing
      · exact absurd hthere hmissing
      · have hblind : x.store.seesCurrent = false :=
          Bool.eq_false_iff.2 fun hsees => hmissing (hthere hsees)
        refine .inr ⟨hnone, hrefused, hblind, Nat.le_of_not_lt fun hroom => ?_⟩
        rw [hsafe.snapshots.seesCurrent hroom] at hblind
        cases hblind
    · refine .inl ⟨hone, ?_⟩
      rcases hstage with ⟨hstage, -⟩ | ⟨hstage, -⟩ | ⟨hstage, -⟩
      · exact .inl hstage
      · exact .inr (.inl hstage)
      · exact .inr (.inr hstage)

/-- Plain events with the given identities. -/
def plainEvents (ids : List String) : List Event :=
  ids.map fun i => { id := i, type := "t", ts := .epoch }

/-- Of two calls that both look for an identity before either inserts it,
the second to insert is refused, and the other's row is there. Of five
calls with different events, one after the other, the last is refused
although its identity is new. -/
theorem second_to_insert_and_fifth_are_refused :
    let s := Store.openOn {} ⟨"events", "events"⟩
    let race := (Traffic.start s (plainEvents ["a", "a"])).after [0, 0, 1, 1, 1, 0]
    let five := (Traffic.start s (plainEvents ["a", "b", "c", "d", "e"])).after
      [0, 0, 0, 1, 1, 1, 2, 2, 2, 3, 3, 3, 4, 4, 4]
    s.IsOrderly
      ∧ (race.isFinished = true ∧ ∃ e, race.acceptedAs "a" = [e]
        ∧ race.store.current.row? "events" "a" = some e.row)
      ∧ (five.isFinished = true ∧ five.acceptedAs "e" = []
        ∧ ∃ c ∈ five.calls, c.event.id = "e" ∧ c.event.missing? = none
          ∧ c.stage = .finished (.error .database)) := by
  intro s race five
  have hs : s.IsOrderly := Store.isOrderly_openOn List.nodup_nil
  -- the table is empty, so that every identity is new
  have hnew : ∀ i, ¬ s.Stores i := by
    rintro i ⟨r, hr, -⟩
    cases hr
  have hvalid : ∀ i ∈ ["a", "e"],
      ({ id := i, type := "t", ts := .epoch } : Event).missing? = none := by decide
  have hcall : ∀ {x : Traffic} {es : List Event} {e : Event}, x.calls.map Call.event = es →
      e ∈ es → ∃ c ∈ x.calls, c.event = e := fun hevents he => List.mem_map.1 (hevents ▸ he)
  have hnone : five.acceptedAs "e" = [] := List.eq_nil_of_length_eq_zero (by decide +kernel)
  refine ⟨hs, ⟨by decide +kernel, ?_⟩, ⟨by decide +kernel, hnone, ?_⟩⟩
  -- one of the two calls has won
  · have hone : (race.acceptedAs "a").length = 1 := by decide +kernel
    obtain ⟨hevents, -, -, -, hend⟩ :=
      interleaved_calls_add_an_identity_once hs (plainEvents ["a", "a"]) [0, 0, 1, 1, 1, 0]
    obtain ⟨c, hc, hevent⟩ := hcall hevents List.mem_cons_self
    have hthis := hend (by decide +kernel) c hc (hevent ▸ hvalid "a" (by decide)) (hnew _)
    rw [hevent] at hthis
    rcases hthis with ⟨hstored, -⟩ | ⟨hnone, -⟩
    · exact hstored
    · rw [hnone] at hone
      cases hone
  -- nobody has got the last identity in, so its call was refused by the
  -- database
  · obtain ⟨hevents, -, -, -, hend⟩ :=
      interleaved_calls_add_an_identity_once hs (plainEvents ["a", "b", "c", "d", "e"])
        [0, 0, 0, 1, 1, 1, 2, 2, 2, 3, 3, 3, 4, 4, 4]
    obtain ⟨c, hc, hevent⟩ := hcall (e := { id := "e", type := "t", ts := .epoch }) hevents
      (by simp [plainEvents])
    have hok : c.event.missing? = none := hevent ▸ hvalid "e" (by decide)
    have hthis := hend (by decide +kernel) c hc hok (hnew _)
    have hid : c.event.id = "e" := by rw [hevent]
    rw [hid] at hthis
    rcases hthis with ⟨⟨e, hsome, -⟩, -⟩ | ⟨-, hrefused, -⟩
    · cases hnone.symm.trans hsome
    · exact ⟨c, hc, hid, hok, hrefused⟩

end EventAnalytics
