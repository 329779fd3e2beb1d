/-
The store as a ledger of events.

A `Ledger` is what a caller expects of a store: the events accepted so
far, in order of arrival and with distinct identities. It refuses an event
for a blank field or a taken identity and for nothing else, and neither
creating the schema again nor opening anew means anything to it but that
a new session begins.

Operations are values here, so that a store and a ledger can be taken
through the same run and their answers compared. Of an event that was
found an answer only says that it was: how an event comes back is another
matter.
-/
import EventAnalytics.Store.Basic

namespace EventAnalytics

-- ========================================================= operations

/-- What can be done with a store. -/
inductive Operation where
  | append (e : Event)
  | appendAll (es : List Event)
  | get (id : String)
  | contains (id : String)
  | count
  | define
  | reopen

/-- What an operation answers; of an event only whether there is one. -/
inductive Answer where
  | done (r : Except StoreError Unit)
  | added (r : Except StoreError Nat)
  | isThere (b : Bool)
  | counted (n : Nat)

/-- Whether getting an event answers anything but that there is none. -/
def isPresent : Except StoreError (Option Event) → Bool
  | .ok none => false
  | _ => true

namespace Store

def step (s : Store) : Operation → Answer × Store
  | .append e => Prod.map .done id (s.append e)
  | .appendAll es => Prod.map .added id (s.appendAll es)
  | .get i => Prod.map (fun r => .isThere (isPresent r)) id (s.get i)
  | .contains i => Prod.map .isThere id (s.contains i)
  | .count => Prod.map .counted id s.count
  | .define => Prod.map .done id s.define
  | .reopen => (.done (.ok ()), s.reopen)

def answers (s : Store) : List Operation → List Answer
  | [] => []
  | op :: ops => (s.step op).1 :: (s.step op).2.answers ops

def after (s : Store) (ops : List Operation) : Store :=
  ops.foldl (fun s op => (s.step op).2) s

end Store

-- ========================================================== the ledger

/-- The events that were accepted. -/
structure Ledger where
  /-- The events in order of arrival. -/
  events : List Event := []
  /-- How many there were when the session began. -/
  opened : Nat := 0

namespace Ledger

def has (l : Ledger) (id : String) : Bool :=
  l.events.any fun e => e.id == id

/-- Why an event is refused, if it is. -/
def refusal? (l : Ledger) (e : Event) : Option StoreError :=
  match e.missing? with
  | some f => some (.invalid f)
  | none => if l.has e.id then some (.taken e.id) else none

def append (l : Ledger) (e : Event) : Except StoreError Unit × Ledger :=
  match l.refusal? e with
  | some err => (.error err, l)
  | none => (.ok (), { l with events := l.events ++ [e] })

/-- Adds events up to the first that is refused, and counts them. -/
def appendAll (l : Ledger) : List Event → Except StoreError Nat × Ledger
  | [] => (.ok 0, l)
  | e :: es =>
    match l.append e with
    | (.error err, l) => (.error err, l)
    | (.ok (), l) => Prod.map (Except.map (· + 1)) id (l.appendAll es)

def step (l : Ledger) : Operation → Answer × Ledger
  | .append e => Prod.map .done id (l.append e)
  | .appendAll es => Prod.map .added id (l.appendAll es)
  | .get i => (.isThere (l.has i), l)
  | .contains i => (.isThere (l.has i), l)
  | .count => (.counted l.events.length, l)
  | .define => (.done (.ok ()), l)
  | .reopen => (.done (.ok ()), { l with opened := l.events.length })

def answers (l : Ledger) : List Operation → List Answer
  | [] => []
  | op :: ops => (l.step op).1 :: (l.step op).2.answers ops

def after (l : Ledger) (ops : List Operation) : Ledger :=
  ops.foldl (fun l op => (l.step op).2) l

/-- How many events the session has accepted. -/
def recent (l : Ledger) : Nat := l.events.length - l.opened

/-- Whether the session has accepted fewer events than a store keeps
snapshots. -/
def hasRoom (l : Ledger) : Bool := l.recent < Store.room

/-- Whether there is room in every state of a run. -/
def keepsRoom (l : Ledger) : List Operation → Bool
  | [] => l.hasRoom
  | op :: ops => l.hasRoom && (l.step op).2.keepsRoom ops

-- =================================================== what is accepted

/-- An event that is not refused is added; another changes nothing. -/
theorem append_cases (l : Ledger) (e : Event) :
    (∃ err, l.refusal? e = some err ∧ l.append e = (.error err, l))
      ∨ (l.refusal? e = none ∧ l.append e = (.ok (), { l with events := l.events ++ [e] })) := by
  unfold append
  cases h : l.refusal? e with
  | some err => exact .inl ⟨err, rfl, rfl⟩
  | none => exact .inr ⟨rfl, rfl⟩

/-- A ledger refuses an event for a blank field or a taken identity only. -/
theorem refusal?_eq_none_iff {l : Ledger} {e : Event} :
    l.refusal? e = none ↔ e.missing? = none ∧ l.has e.id = false := by
  unfold refusal?
  cases e.missing? with
  | some f => simp
  | none => cases l.has e.id <;> simp

theorem has_eq_false_iff {l : Ledger} {id : String} :
    l.has id = false ↔ ∀ e ∈ l.events, e.id ≠ id := by
  unfold has
  simp

/-- What a batch does: it adds events from its front, and either all of
them, which it counts, or all before one that is refused. -/
theorem appendAll_cases (l : Ledger) (es : List Event) :
    ∃ k, (l.appendAll es).2 = { l with events := l.events ++ es.take k }
      ∧ ((k = es.length ∧ (l.appendAll es).1 = .ok k)
        ∨ ∃ e err, es[k]? = some e ∧ (l.appendAll es).2.refusal? e = some err
          ∧ (l.appendAll es).1 = .error err) := by
  induction es generalizing l with
  | nil => exact ⟨0, by simp [appendAll], .inl ⟨rfl, rfl⟩⟩
  | cons e es ih =>
    rcases l.append_cases e with ⟨err, hrefused, happend⟩ | ⟨-, happend⟩
    · refine ⟨0, ?_, .inr ⟨e, err, rfl, ?_, ?_⟩⟩
      · simp [appendAll, happend]
      · simpa [appendAll, happend] using hrefused
      · simp [appendAll, happend]
    -- The rest of the batch starts from one event more, and one more is
    -- counted.
    · obtain ⟨k, hafter, hcases⟩ := ih { l with events := l.events ++ [e] }
      have hstep : l.appendAll (e :: es) = Prod.map (Except.map (· + 1)) id
          (appendAll { l with events := l.events ++ [e] } es) := by
        simp [appendAll, happend]
      have hsnd : (l.appendAll (e :: es)).2
          = (appendAll { l with events := l.events ++ [e] } es).2 := by
        rw [hstep]
        rfl
      refine ⟨k + 1, ?_, ?_⟩
      · rw [hsnd, hafter]
        simp
      · rcases hcases with ⟨hk, hok⟩ | ⟨e', err, he', hrefused, herror⟩
        · refine .inl ⟨by simp [hk], ?_⟩
          rw [hstep, Prod.map_fst, hok]
          rfl
        · refine .inr ⟨e', err, by simpa using he', by rw [hsnd]; exact hrefused, ?_⟩
          rw [hstep, Prod.map_fst, herror]
          rfl

/-- An event that is added has a new identity. -/
theorem nodup_append {l : Ledger} {e : Event} (h : (l.events.map Event.id).Nodup) :
    ((l.append e).2.events.map Event.id).Nodup := by
  rcases l.append_cases e with ⟨err, -, hl⟩ | ⟨hnone, hl⟩
  · rw [hl]
    exact h
  · obtain ⟨-, hnew⟩ := refusal?_eq_none_iff.1 hnone
    have hnot : e.id ∉ l.events.map Event.id := by
      intro hm
      obtain ⟨e', he', hid⟩ := List.mem_map.1 hm
      exact has_eq_false_iff.1 hnew e' he' hid
    rw [hl, List.map_append, List.nodup_append]
    refine ⟨h, by simp, ?_⟩
    intro a ha b hb hab
    rw [List.map_singleton, List.mem_singleton] at hb
    rw [hab, hb] at ha
    exact hnot ha

theorem nodup_appendAll {l : Ledger} {es : List Event} (h : (l.events.map Event.id).Nodup) :
    ((l.appendAll es).2.events.map Event.id).Nodup := by
  induction es generalizing l with
  | nil => exact h
  | cons e es ih =>
    have happend := nodup_append (e := e) h
    unfold appendAll
    split
    · next err l' heq =>
      rw [heq] at happend
      exact happend
    · next l' heq =>
      rw [heq] at happend
      exact ih happend

/-- The identities in a ledger stay distinct. -/
theorem nodup_step {l : Ledger} (op : Operation) (h : (l.events.map Event.id).Nodup) :
    ((l.step op).2.events.map Event.id).Nodup := by
  cases op with
  | append e => exact nodup_append h
  | appendAll es => exact nodup_appendAll h
  | _ => exact h

/-- The identities stay distinct in any run. -/
theorem nodup_after {l : Ledger} (ops : List Operation) (h : (l.events.map Event.id).Nodup) :
    ((l.after ops).events.map Event.id).Nodup := by
  induction ops generalizing l with
  | nil => exact h
  | cons op ops ih => exact ih (nodup_step op h)

end Ledger

end EventAnalytics
