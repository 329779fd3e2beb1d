/-
What the operations of a store are made of.

Whatever is done with a store comes down to four things: a snapshot is
kept, the row of an event is inserted, missing objects are created, or the
store is opened anew. What holds between a store and what each of these
leaves of it, and goes on holding along a chain, holds for every run
(`IsClosed.after`). So an invariant of the store is proved by looking at
these four, and the operations are taken apart in this file only.
-/
import EventAnalytics.Proofs.Store.Ledger

namespace EventAnalytics.Store

variable {P : Row → Prop} {R : Store → Store → Prop}

@[simp] theorem current_keep (s : Store) : s.keep.current = s.current := by
  unfold keep
  split <;> rfl

@[simp] theorem table_keep (s : Store) : s.keep.table = s.table := by
  unfold keep
  split <;> rfl

/-- Keeping a snapshot does not change what reading sees. -/
theorem view_keep (s : Store) : s.keep.view = s.view := by
  unfold keep
  split
  · rfl
  · next hnot =>
    simp only [Bool.or_eq_true, decide_eq_true_eq, not_or, Nat.not_le] at hnot
    simp [view, seesCurrent, hnot.2]

/-- What becomes of an event: it is refused for a blank field, for an
identity that reading sees or by the database, or its row is inserted. -/
theorem append_cases (s : Store) (e : Event) :
    (∃ f, e.missing? = some f ∧ s.append e = (.error (.invalid f), s))
      ∨ (e.missing? = none ∧ (s.view.row? s.table.key e.id).isSome = true
        ∧ s.append e = (.error (.taken e.id), s.keep))
      ∨ (e.missing? = none ∧ (s.view.row? s.table.key e.id).isSome = false
        ∧ s.append e = (.error .database, s.keep))
      ∨ (e.missing? = none ∧ (s.view.row? s.table.key e.id).isSome = false
        ∧ s.keep.seesCurrent = true
        ∧ ∃ d, s.current.insert? s.table.key e.row = some d
          ∧ s.append e = (.ok (), s.keep.commit d)) := by
  unfold append contains
  cases e.missing? with
  | some f => exact .inl ⟨f, rfl, rfl⟩
  | none =>
    cases (s.view.row? s.table.key e.id).isSome with
    | true => exact .inr (.inl ⟨rfl, rfl, rfl⟩)
    | false =>
      -- The transaction commits only if it sees the current state of the
      -- database.
      cases hsees : s.keep.seesCurrent with
      | false =>
        have hinsert : s.keep.insert e.row = (.error .database, s.keep) := by
          simp [insert, hsees]
        exact .inr (.inr (.inl ⟨rfl, rfl, hinsert⟩))
      | true =>
        cases hd : s.current.insert? s.table.key e.row with
        | none =>
          have hinsert : s.keep.insert e.row = (.error .database, s.keep) := by
            simp [insert, hsees, hd]
          exact .inr (.inr (.inl ⟨rfl, rfl, hinsert⟩))
        | some d =>
          have hinsert : s.keep.insert e.row = (.ok (), s.keep.commit d) := by
            simp [insert, hsees, hd]
          exact .inr (.inr (.inr ⟨rfl, rfl, rfl, d, rfl, hinsert⟩))

/-- An event that is added is valid, and what is added is its row. -/
theorem inserted_of_append {s s' : Store} {e : Event} (h : s.append e = (.ok (), s')) :
    e.missing? = none ∧ s.keep.seesCurrent = true
      ∧ ∃ d, s.current.insert? s.table.key e.row = some d ∧ s' = s.keep.commit d := by
  rcases s.append_cases e with ⟨f, -, hs⟩ | ⟨-, -, hs⟩ | ⟨-, -, hs⟩ | ⟨hvalid, -, hsees, d, hd, hs⟩
  · cases h.symm.trans hs
  · cases h.symm.trans hs
  · cases h.symm.trans hs
  · cases h.symm.trans hs
    exact ⟨hvalid, hsees, d, hd, rfl⟩

/-- A batch is one event after the other. -/
theorem appendAll_cons (s : Store) (e : Event) (es : List Event) :
    s.appendAll (e :: es) = match s.append e with
      | (.error err, s) => (.error err, s)
      | (.ok (), s) => Prod.map (Except.map (· + 1)) id (s.appendAll es) := by
  rw [Store.appendAll]
  rcases s.append e with ⟨err | _, s'⟩
  · rfl
  · simp only
    rcases s'.appendAll es with ⟨err | n, s''⟩ <;> rfl

/-- The events that an operation offers to a store. -/
def offered : Operation → List Event
  | .append e => [e]
  | .appendAll es => es
  | _ => []

/-- What holds between a store and what is left of it by the things that
operations are made of, where the rows that are inserted have a property. -/
structure IsClosed (P : Row → Prop) (R : Store → Store → Prop) : Prop where
  refl : ∀ s, R s s
  trans : ∀ {s s' s''}, R s s' → R s' s'' → R s s''
  keep : ∀ s, R s s.keep
  insert : ∀ s {r}, P r → R s (s.insert r).2
  define : ∀ s, R s s.define.2
  reopen : ∀ s, R s s.reopen

namespace IsClosed

/-- What the parts of adding an event keep, adding it keeps. -/
theorem append (h : IsClosed P R) (s : Store) {e : Event} (he : P e.row) :
    R s (s.append e).2 := by
  unfold Store.append contains
  cases e.missing? with
  | some f => exact h.refl s
  | none =>
    cases (s.view.row? s.table.key e.id).isSome with
    | true => exact h.keep s
    | false => exact h.trans (h.keep s) (h.insert s.keep he)

/-- So does adding many. -/
theorem appendAll (h : IsClosed P R) (s : Store) {es : List Event} (hes : ∀ e ∈ es, P e.row) :
    R s (s.appendAll es).2 := by
  induction es generalizing s with
  | nil => exact h.refl s
  | cons e es ih =>
    have happend := h.append s (hes e List.mem_cons_self)
    rw [appendAll_cons]
    rcases hs : s.append e with ⟨err | u, s'⟩
    · rw [hs] at happend
      exact happend
    · rw [hs] at happend
      exact h.trans happend (ih s' (fun e' he' => hes e' (List.mem_cons_of_mem _ he')))

/-- So does any operation. -/
theorem step (h : IsClosed P R) (s : Store) (op : Operation) (hop : ∀ e ∈ offered op, P e.row) :
    R s (s.step op).2 := by
  cases op with
  | append e => exact h.append s (hop e List.mem_cons_self)
  | appendAll es => exact h.appendAll s hop
  | get i =>
    show R s (s.get i).2
    unfold get
    split
    · exact h.refl s
    · split <;> exact h.keep s
  | contains i => exact h.keep s
  | count => exact h.keep s
  | define => exact h.define s
  | reopen => exact h.reopen s

/-- What holds for the parts of operations holds for runs. -/
theorem after (h : IsClosed P R) (s : Store) {ops : List Operation}
    (hops : ∀ e ∈ ops.flatMap offered, P e.row) : R s (s.after ops) := by
  induction ops generalizing s with
  | nil => exact h.refl s
  | cons op ops ih =>
    rw [List.flatMap_cons] at hops
    apply h.trans (h.step s op ?_) (ih (s.step op).2 ?_)
    · intro e he
      exact hops e (List.mem_append_left _ he)
    · intro e he
      exact hops e (List.mem_append_right _ he)

end IsClosed

end EventAnalytics.Store
