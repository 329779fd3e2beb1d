/-
Rows decoded by position and rows read by column.

A decoder takes one text after the other, so a text taken in the wrong
place would shift all the texts behind it. `Row.event_eq` says that this
does not happen: what is decoded from the selected texts of a row is what
the columns of the row say, each in the field of its name. The proof
follows the texts, one lemma for each thing that can be decoded from the
front of a list.
-/
import EventAnalytics.Store.Row

namespace EventAnalytics

/-- A text unless it is empty. -/
def nonEmpty? (s : Option String) : Option String := s.filter fun t => t != ""

namespace Row

/-- A column's text, unless it is missing or empty. -/
def text? (r : Row) (c : Column) : Option String :=
  if r.text c = "" then none else some (r.text c)

theorem text?_eq (r : Row) (c : Column) : r.text? c = nonEmpty? (r c) := by
  unfold text? text nonEmpty?
  cases r c with
  | none => rfl
  | some s => by_cases hs : s = "" <;> simp [hs, Option.filter]

/-- The instant written in a column, unless its text is missing or empty. -/
def instant? (r : Row) (c : Column) : Except Fault (Option Time.Instant) :=
  match r.text? c with
  | none => .ok none
  | some s => (instant s).map some

end Row

namespace Decoder

variable {α : Type} {s : String} {rest : List String}

theorem run_next (k : String → Decoder α) : (next >>= k).run (s :: rest) = (k s).run rest := rfl

theorem run_optional (k : Option String → Decoder α) :
    (optional >>= k).run (s :: rest) = (k (if s = "" then none else some s)).run rest := rfl

theorem run_instant (k : Time.Instant → Decoder α) :
    (instant >>= k).run (s :: rest) = Row.instant s >>= fun t => (k t).run rest := by
  show (Row.instant s >>= _) >>= _ = _
  cases Row.instant s <;> rfl

theorem run_document (k : Json → Decoder α) :
    (document >>= k).run (s :: rest) = Row.document s >>= fun v => (k v).run rest := by
  show (Row.document s >>= _) >>= _ = _
  cases Row.document s <;> rfl

theorem run_optionalInstant (r : Row) (c : Column) (k : Option Time.Instant → Decoder α) :
    (optionalInstant >>= k).run (r.text c :: rest)
      = r.instant? c >>= fun t => (k t).run rest := by
  unfold Row.instant? Row.text? optionalInstant
  rw [bind_assoc, run_optional]
  by_cases hs : r.text c = ""
  · rw [if_pos hs]
    rfl
  · rw [if_neg hs]
    simp only
    cases Row.instant (r.text c) <;> rfl

end Decoder

/-- An event is decoded from the columns of its fields. -/
theorem Row.event_eq (r : Row) :
    r.event = do
      let ts ← Row.instant (r.text .ts)
      let ingestTs ← r.instant? .ingestTs
      let ctx ← Row.document (r.text .ctx)
      let payload ← Row.document (r.text .payload)
      return {
        id := r.text .id
        schema := r.text .schema
        type := r.text .type
        ts, ingestTs
        runId := r.text? .runId
        source := ⟨r.text? .product, r.text? .version⟩
        actor := ⟨r.text? .actorType, r.text? .actorId, r.text? .actorName⟩
        ctx, payload } := by
  have hvalues : r.values = [r.text .id, r.text .schema, r.text .type, r.text .ts,
      r.text .ingestTs, r.text .runId, r.text .product, r.text .version, r.text .actorType,
      r.text .actorId, r.text .actorName, r.text .ctx, r.text .payload] := rfl
  unfold Row.event Decoder.event
  -- The decoder takes the cells one by one, and each step leaves the cells
  -- behind it.
  rw [StateT.run'_eq, hvalues, Decoder.run_next, Decoder.run_next, Decoder.run_next,
    Decoder.run_instant, map_bind]
  refine bind_congr fun ts => ?_
  rw [Decoder.run_optionalInstant, map_bind]
  refine bind_congr fun ingestTs => ?_
  rw [Decoder.run_optional, Decoder.run_optional, Decoder.run_optional, Decoder.run_optional,
    Decoder.run_optional, Decoder.run_optional, Decoder.run_document, map_bind]
  refine bind_congr fun ctx => ?_
  rw [Decoder.run_document, map_bind]
  exact bind_congr fun payload => rfl

end EventAnalytics
