/-
Which stored events can be read.

Nothing gets into an event table but the rows of events that were offered
to the store, and no snapshot shows anything else: what is true of some rows
and stays true when a row is added is true of all states that can be seen
(`Store.isClosed_inAllStates`). So a row that is found is the row of a
decoded event, whose documents can be read because they were kept. Its times can be read unless their years are
written with a sign; the loose form in which events arrive knows such
years, the strict form in which rows are read does not.
-/
import EventAnalytics.Proofs.Event.Restored
import EventAnalytics.Proofs.Store.Refinement

namespace EventAnalytics

namespace Store

variable {P : Row → Prop} {Q : List Row → Prop} {s : Store}

/-- Getting an event whose row is found. -/
theorem get_of_row {id : String} {r : Row} (h : s.view.row? s.table.key id = some r) :
    (s.get id).1 = match r.event with
      | .ok e => .ok (some e)
      | .error f => .error (.faulty id f) := by
  unfold get
  rw [h]
  cases hevent : r.event <;> simp only [hevent]

-- ==================================================== rows and snapshots

/-- Whether the rows of the event table are as a property demands, in the
current state and in every snapshot that is kept. -/
structure InAllStates (Q : List Row → Prop) (s : Store) : Prop where
  current : Q (s.current.rows s.table.key)
  kept : ∀ d ∈ s.kept, Q (d.rows s.table.key)

namespace InAllStates

theorem keep (h : InAllStates Q s) : InAllStates Q s.keep := by
  unfold Store.keep
  split
  · exact h
  · refine ⟨h.current, ?_⟩
    intro d hd
    rcases List.mem_cons.1 hd with rfl | hd
    · exact h.current
    · exact h.kept d hd

/-- So are the rows that reading sees. -/
theorem rows (h : InAllStates Q s) : Q s.rows := by
  unfold Store.rows view
  split
  · exact h.current
  · cases hkept : s.kept with
    | nil => exact h.current
    | cons d ds => exact h.kept d (by rw [hkept]; exact List.mem_cons_self)

theorem insert (h : InAllStates Q s) {r : Row} (hadd : ∀ {rows}, Q rows → Q (rows ++ [r])) :
    InAllStates Q (s.insert r).2 := by
  unfold Store.insert
  split
  · split
    · next d hinsert =>
      refine ⟨?_, h.kept⟩
      show Q (d.rows s.table.key)
      rw [(Database.insert?_eq_some hinsert).1]
      exact hadd h.current
    · exact h
  · exact h

/-- A state that differs by objects of the schema alone. -/
theorem define (h : InAllStates Q s) : InAllStates Q s.define.2 := by
  unfold Store.define
  split
  · exact h
  · split
    · exact h
    · refine ⟨?_, h.kept⟩
      show Q ((s.current.define s.table.key).rows s.table.key)
      rw [Database.rows_define]
      exact h.current

theorem openOn {d : Database} {t : Sql.TableName} (h : Q (d.rows t.key)) :
    InAllStates Q (openOn d t) := by
  refine ⟨?_, fun d hd => absurd hd List.not_mem_nil⟩
  show Q ((d.define t.key).rows t.key)
  rw [Database.rows_define]
  exact h

end InAllStates

-- ================================================================ runs

/-- What goes on holding of some rows when a row with a property is added
goes on holding in all states. -/
theorem isClosed_inAllStates (hadd : ∀ {rows r}, P r → Q rows → Q (rows ++ [r])) :
    IsClosed P (fun s s' => InAllStates Q s → InAllStates Q s') where
  refl _ h := h
  trans h h' hs := h' (h hs)
  keep _ h := h.keep
  insert _ _ hr h := h.insert (hadd hr)
  define _ h := h.define
  reopen _ h := InAllStates.openOn h.current

/-- A row that is found after a run on an empty database is the row of an
event that the run offered. -/
theorem exists_offered {t : Sql.TableName} {ops : List Operation} {id : String} {r : Row}
    (h : ((openOn {} t).after ops).view.row? t.key id = some r) :
    ∃ e ∈ ops.flatMap offered, e.id = id ∧ e.row = r := by
  let P : Row → Prop := fun r => ∃ e ∈ ops.flatMap offered, e.row = r
  have hadd : ∀ {rows : List Row} {r : Row}, P r → (∀ q ∈ rows, P q) →
      ∀ q ∈ rows ++ [r], P q := by
    intro rows r hr hrows q hq
    rcases List.mem_append.1 hq with hq | hq
    · exact hrows q hq
    · rw [List.mem_singleton.1 hq]
      exact hr
  have hstart : InAllStates (fun rows => ∀ r ∈ rows, P r) (openOn {} t) :=
    InAllStates.openOn (fun r hr => absurd hr List.not_mem_nil)
  have hview := ((isClosed_inAllStates hadd).after _ (fun e he => ⟨e, he, rfl⟩) hstart).rows
  have htable : ((openOn {} t).after ops).table = t := ((openOn {} t).isGrownTo_after ops).1
  unfold Store.rows at hview
  rw [htable] at hview
  obtain ⟨e, he, hrow⟩ := hview r (List.mem_of_find?_eq_some h)
  have hid : r .id = some id := by simpa using List.find?_some h
  rw [← hrow, Event.row_id] at hid
  exact ⟨e, he, Option.some.inj hid, hrow⟩

end Store

-- ============================================================= the law

/-- An event that came as a JSON text, with documents that are more than a
number. -/
structure Event.IsDecoded (e : Event) : Prop where
  text : ∃ text, Event.ofText? text = some e
  ctx : e.ctx.isNumber = false
  payload : e.payload.isNumber = false

/-- Of an event that is there, getting it gives the event or tells which of
its times cannot be read.

A time cannot be read when its year is not written with four digits; no
document ever stands in the way. -/
theorem readable_unless_year_is_odd (t : Sql.TableName) {ops : List Operation}
    (hops : ∀ e ∈ ops.flatMap Store.offered, e.IsDecoded) {id : String}
    (h : (((Store.openOn {} t).after ops).contains id).1 = true) :
    ∃ e ∈ ops.flatMap Store.offered, e.id = id
      ∧ (e.oddTime? = none → ∃ c p, (((Store.openOn {} t).after ops).get id).1
          = .ok (some { e.restored with ctx := c, payload := p }))
      ∧ ∀ odd, e.oddTime? = some odd → (((Store.openOn {} t).after ops).get id).1
          = .error (.faulty id (.time odd.offsetText .invalid)) := by
  have htable : ((Store.openOn {} t).after ops).table = t :=
    ((Store.openOn {} t).isGrownTo_after ops).1
  have hsome : (((Store.openOn {} t).after ops).view.row? t.key id).isSome = true := by
    unfold Store.contains at h
    rw [htable] at h
    exact h
  -- The row that is seen under the name was made of an event that was
  -- offered.
  obtain ⟨r, hr⟩ := Option.isSome_iff_exists.1 hsome
  obtain ⟨e, he, hid, hrow⟩ := Store.exists_offered hr
  obtain ⟨text, htext⟩ := (hops e he).text
  obtain ⟨c, p, -, -, hevent⟩ := Event.event_row_of_ofText? htext
  have hget : (((Store.openOn {} t).after ops).get id).1
      = match e.row.event with
        | .ok e => .ok (some e)
        | .error f => .error (.faulty id f) := by
    rw [hrow]
    apply Store.get_of_row
    rw [htable]
    exact hr
  rw [hevent] at hget
  refine ⟨e, he, hid, ?_, ?_⟩
  · intro hnone
    rw [hnone] at hget
    exact ⟨c, p, hget⟩
  · intro odd hodd
    rw [hodd] at hget
    exact hget

/-- An event half an hour before the year 10000 where it happened, and half
an hour into it in universal time. -/
def lateText : String :=
  "\x7b\"id\":\"a\",\"type\":\"t\",\"ts\":\"9999-12-31T23:30:00-01:00\"\x7d"

/-- Whether an event is there once it was added, has documents that are no
numbers, and has a time with an odd year. -/
def isThereAndOdd (e : Event) : Bool :=
  !e.ctx.isNumber && !e.payload.isNumber && e.oddTime?.isSome
    && (((Store.openOn {} ⟨"events", "events"⟩).after [.append e]).contains e.id).1

/-- The event is stored and is there, and cannot be read. -/
theorem late_event_is_faulty :
    ∃ e odd, Event.ofText? lateText = some e ∧ e.oddTime? = some odd
      ∧ (((Store.openOn {} ⟨"events", "events"⟩).after [.append e]).contains e.id).1 = true
      ∧ (((Store.openOn {} ⟨"events", "events"⟩).after [.append e]).get e.id).1
        = .error (.faulty e.id (.time odd.offsetText .invalid)) := by
  have hcheck : (Event.ofText? lateText).any isThereAndOdd = true := by decide +kernel
  obtain ⟨e, htext, hodd⟩ := (Option.any_eq_true _ _).1 hcheck
  simp only [isThereAndOdd, Bool.and_eq_true, Bool.not_eq_true'] at hodd
  obtain ⟨⟨⟨hctx, hpayload⟩, hsome⟩, hthere⟩ := hodd
  obtain ⟨odd, hodd⟩ := Option.isSome_iff_exists.1 hsome
  have hdecoded : ∀ e' ∈ [Operation.append e].flatMap Store.offered, e'.IsDecoded := by
    intro e' he'
    have hsame : e' = e := by simpa [Store.offered] using he'
    rw [hsame]
    exact ⟨⟨lateText, htext⟩, hctx, hpayload⟩
  obtain ⟨e', he', -, -, hfaulty⟩ := readable_unless_year_is_odd _ hdecoded hthere
  have hsame : e' = e := by simpa [Store.offered] using he'
  rw [hsame] at hfaulty
  exact ⟨e, odd, htext, hodd, hthere, hfaulty odd hodd⟩

end EventAnalytics
