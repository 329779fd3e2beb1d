/-
Reading whatever row is stored.

Rows can be put into the event table from outside, between two openings of
the store, and need not come from events. What the store reads from such a
row is what the cells of the row hold, or their first fault; the question
is only whether reading sees the row at all.

A row that was there when the store was opened is in every state that the
session can see (`Store.mem_rows_after`), and a row that came later is seen
while there is room for snapshots. With distinct identities a row that is
seen is found under its identity, and one that is not seen leaves its
identity without any (`Store.IsOrderly.row?_of_unseen`).
-/
import EventAnalytics.Proofs.Event.Cells
import EventAnalytics.Proofs.Store.Interleaving

namespace EventAnalytics

open Time (IsTimestamp)

variable {s s' : Store} {r : Row} {id : String}

namespace Store

-- ======================================================== seen and unseen

namespace IsOrderly

theorem row?_of_seen (h : s.IsOrderly) (hr : r ∈ s.rows) (hid : r .id = some id) :
    s.view.row? s.table.key id = some r :=
  Database.row?_of_mem (h.distinct.sublist (h.rows_prefix.sublist.map _)) hr hid

/-- A stored row that reading does not see leaves no row under its
identity. -/
theorem row?_of_unseen (h : s.IsOrderly) (hr : r ∈ s.stored) (hid : r .id = some id)
    (hunseen : r ∉ s.rows) : s.view.row? s.table.key id = none := by
  apply Database.row?_eq_none
  intro q hq hsame
  have hq' : s.current.row? s.table.key id = some q :=
    Database.row?_of_mem h.distinct (h.rows_prefix.subset hq) hsame
  have hr' : s.current.row? s.table.key id = some r := Database.row?_of_mem h.distinct hr hid
  rw [Option.some.inj (hq'.symm.trans hr')] at hq
  exact hunseen hq

end IsOrderly

/-- A row that was there when the store was opened is seen from then on. -/
theorem mem_rows_after {d : Database} {t : Sql.TableName} (h : r ∈ d.rows t.key)
    (ops : List Operation) :
    r ∈ ((openOn d t).after ops).stored ∧ r ∈ ((openOn d t).after ops).rows := by
  have hclosed := @isClosed_inAllStates (fun _ => True) (r ∈ ·)
    (fun _ hrows => List.mem_append_left _ hrows)
  have hstates : InAllStates (r ∈ ·) ((openOn d t).after ops) :=
    hclosed.after (openOn d t) (fun _ _ => trivial) (InAllStates.openOn h)
  exact ⟨hstates.current, hstates.rows⟩

/-- The row of an event that was added is in the table. -/
theorem stored_of_append {e : Event} (h : s.append e = (.ok (), s')) : e.row ∈ s'.stored := by
  obtain ⟨-, -, d, hinsert, rfl⟩ := inserted_of_append h
  show e.row ∈ d.rows s.keep.table.key
  rw [table_keep, (Database.insert?_eq_some hinsert).1]
  exact List.mem_append_right _ (List.mem_singleton_self _)

/-- Getting an event changes no state and not what reading sees. -/
theorem unchanged_by_get (s : Store) (id : String) :
    (s.get id).2.current = s.current ∧ (s.get id).2.rows = s.rows := by
  have hkeep : s.keep.current = s.current ∧ s.keep.rows = s.rows := by
    refine ⟨s.current_keep, ?_⟩
    unfold Store.rows
    rw [s.view_keep, s.table_keep]
  unfold get
  split
  · exact ⟨rfl, rfl⟩
  · split <;> exact hkeep

end Store

-- ============================================================= the law

/-- What getting an event answers for any row that is stored under its
identity, after any operations on a store that was opened on a database
with distinct identities.

If reading sees the row, then the answer is the event that the cells of
the row hold, which there is just when they are readable, and otherwise
their first fault. A row that was there when the store was opened is seen,
and so is every row while the current state is; to a row that is not seen
the answer is that there is no such event. In no case is anything
changed. -/
theorem stored_rows_are_read_exactly {d : Database} {t : Sql.TableName}
    (hdistinct : ((d.rows t.key).map fun r => r .id).Nodup) (ops : List Operation) :
    let s := (Store.openOn d t).after ops
    (∀ c : Cells, c.row ∈ s.stored →
      (c.row ∈ s.rows →
        (∀ e, (s.get c.id).1 = .ok (some e) ↔ c.Holds e)
          ∧ ((∃ e, (s.get c.id).1 = .ok (some e)) ↔ c.IsReadable)
          ∧ (¬ c.IsReadable →
            ∃ f, c.FirstFault f ∧ (s.get c.id).1 = .error (.faulty c.id f)))
      ∧ (c.row ∉ s.rows →
        (s.get c.id).1 = .ok none ∧ s.seesCurrent = false ∧ c.row ∉ d.rows t.key))
    ∧ ∀ id, (s.get id).2.current = s.current ∧ (s.get id).2.rows = s.rows := by
  intro s
  have horderly : s.IsOrderly := Store.isOrderly_after (Store.isOrderly_openOn hdistinct) ops
  refine ⟨?_, s.unchanged_by_get⟩
  intro c hstored
  have hid : c.row .id = some c.id := rfl
  constructor
  -- a row that is seen is the one that is found, and it is read cell by cell
  · intro hseen
    have hget := Store.get_of_row (horderly.row?_of_seen hseen hid)
    have hok : ∀ e, (s.get c.id).1 = .ok (some e) ↔ c.Holds e := by
      intro e
      rw [hget, ← Cells.event_eq_ok_iff]
      cases c.row.event <;> simp
    refine ⟨hok, ?_, ?_⟩
    · simp only [hok]
      exact Cells.exists_holds_iff
    · intro hnot
      cases hevent : c.row.event with
      | ok e => exact absurd (Cells.exists_holds_iff.1 ⟨e, Cells.event_eq_ok_iff.1 hevent⟩) hnot
      | error f =>
        rw [hevent] at hget
        exact ⟨f, Cells.firstFault_of_event hevent, hget⟩
  -- a row that is not seen is found by nobody else's identity, since
  -- identities are distinct
  · intro hunseen
    refine ⟨?_, ?_, ?_⟩
    · unfold Store.get
      rw [horderly.row?_of_unseen hstored hid hunseen]
    · by_contra hsees
      rw [Bool.not_eq_false] at hsees
      refine hunseen ?_
      unfold Store.rows Store.view
      rw [if_pos hsees]
      exact hstored
    · intro hopened
      exact hunseen (Store.mem_rows_after hopened ops).2

/-- A row with nothing in it but what must be there and an empty time of
intake. -/
def bareCells : Cells where
  id := "a"
  schema := ""
  type := "t"
  ts := "2024-05-01 09:30:00.25+02:00"
  ingestTs := some ""
  runId := none
  product := none
  version := none
  actorType := none
  actorId := none
  actorName := none
  ctx := none
  payload := none

/-- The row with an intake that is no time, and a context that is no
document. -/
def faultyCells : Cells :=
  { bareCells with id := "b", ingestTs := some "soon", ctx := some "\x7b" }

/-- A store with both rows, put there from outside. -/
def plantedStore : Store :=
  (Store.openOn { tables := [("events", [bareCells.row, faultyCells.row])] }
    ⟨"events", "events"⟩).after [.count]

/-- The event of the one row is read, and the time of intake of the other is
its first fault. The fourth event of a session is stored, and could be
read, but is not seen. -/
theorem planted_rows_are_read_and_fourth_event_is_not :
    (∃ e, (plantedStore.get "a").1 = .ok (some e) ∧ bareCells.Holds e)
    ∧ (∃ reason, (plantedStore.get "b").1 = .error (.faulty "b" (.time "soon" reason)))
    ∧ let s := (Store.openOn {} ⟨"events", "events"⟩).after (appends ["a", "b", "c", "d"])
      ∃ c : Cells, c.id = "d" ∧ c.row ∈ s.stored ∧ c.IsReadable ∧ (s.get "d").1 = .ok none := by
  have hseen : ∀ {r : Row}, r ∈ [bareCells.row, faultyCells.row] →
      r ∈ plantedStore.stored ∧ r ∈ plantedStore.rows :=
    fun hr => Store.mem_rows_after hr [.count]
  have hfirst := hseen List.mem_cons_self
  have hsecond := hseen (List.mem_cons_of_mem _ List.mem_cons_self)
  obtain ⟨hplanted, -⟩ := stored_rows_are_read_exactly
    (d := { tables := [("events", [bareCells.row, faultyCells.row])] })
    (t := ⟨"events", "events"⟩) (by decide +kernel) [.count]
  refine ⟨?_, ?_, ?_⟩
  · obtain ⟨hok, hreadable, -⟩ := (hplanted bareCells hfirst.1).1 hfirst.2
    obtain ⟨e, he⟩ := hreadable.2 (by decide +kernel)
    exact ⟨e, he, (hok e).1 he⟩
  · obtain ⟨-, -, hfault⟩ := (hplanted faultyCells hsecond.1).1 hsecond.2
    obtain ⟨f, hf, hget⟩ := hfault (by decide +kernel)
    -- the time is right, so the intake is the first fault, whatever the
    -- documents are
    have hnot : ¬ IsTimestamp "soon" := by decide +kernel
    cases hf with
    | ts h => exact absurd (by decide +kernel) h
    | ingestTs _ hs _ =>
      cases hs
      exact ⟨_, hget⟩
    | ctx _ hingest _ _ => exact absurd (hingest "soon" rfl) hnot
    | payload _ hingest _ _ _ => exact absurd (hingest "soon" rfl) hnot
  · intro s
    let e : Event := { id := "d", type := "t", ts := .epoch }
    let before := (Store.openOn {} ⟨"events", "events"⟩).after (appends ["a", "b", "c"])
    have hops : appends ["a", "b", "c", "d"] = appends ["a", "b", "c"] ++ [.append e] := rfl
    have hlast : (before.append e).2 = s := by
      show _ = (Store.openOn {} _).after (appends ["a", "b", "c", "d"])
      rw [hops]
      unfold Store.after
      rw [List.foldl_append]
      rfl
    have happend : before.append e = (.ok (), s) := Prod.ext (by decide +kernel) hlast
    have hstored : e.row ∈ s.stored := Store.stored_of_append happend
    -- the row that was added, as cells
    obtain ⟨c, hc⟩ := Cells.exists_row_eq e.isComplete_row
    have hid : c.id = "d" := by
      have hfiled : c.row .id = some "d" := by
        rw [hc]
        exact e.row_id
      exact Option.some.inj hfiled
    have hreadable : c.IsReadable := by
      rw [← Cells.isOk_event_iff, hc]
      decide +kernel
    -- reading sees the snapshot from before the last event
    have hunseen : c.row ∉ s.rows := by
      have hothers : s.rows.all (fun r => r .id != some "d") = true := by decide +kernel
      intro hr
      have hother := List.all_eq_true.1 hothers _ hr
      rw [hc, e.row_id] at hother
      cases hother
    rw [← hc] at hstored
    obtain ⟨hlaw, -⟩ := stored_rows_are_read_exactly (d := {}) (t := ⟨"events", "events"⟩)
      List.nodup_nil (appends ["a", "b", "c", "d"])
    have hget := ((hlaw c hstored).2 hunseen).1
    rw [hid] at hget
    exact ⟨c, hid, hstored, hreadable, hget⟩

end EventAnalytics
