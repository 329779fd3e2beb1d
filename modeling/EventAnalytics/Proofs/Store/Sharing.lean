/-
Several event tables in one database.

A database is used in sessions: each opens it under the name of a table,
which creates what is missing, and works on that table. Sessions do not
disturb one another (`keepsRest_after`): a session touches the rows of its
own table only, and what was created stays as it is.

But the indexes are created under the same names for every table, so all
of them go to the table that came first (`owner?_afterSessions`), and later
ones are left without, whatever the statements that create them say. Two
more things keep a table from being listed in full: a name that listings
hide, and a spelling that is not the name the table is known by.
-/
import EventAnalytics.Proofs.Store.Objects
import EventAnalytics.Proofs.Store.Steps

namespace EventAnalytics

open Sql (TableName)

-- ========================================================= one session

namespace Store

/-- One store comes after another: it has the same table, and of the
database at most the rows of that table are different. -/
structure KeepsRest (s s' : Store) : Prop where
  table : s'.table = s.table
  objects : s.current.SameObjects s'.current
  rows : ∀ key, key ≠ s.table.key → s'.current.rows key = s.current.rows key

theorem KeepsRest.of_current {s s' : Store} (htable : s'.table = s.table)
    (hcurrent : s'.current = s.current) : s.KeepsRest s' := by
  refine ⟨htable, ?_, ?_⟩
  · rw [hcurrent]
    exact .refl _
  · intro key _
    rw [hcurrent]

/-- While the event table is defined, nothing is created any more. -/
theorem isClosed_keepsRest :
    IsClosed (fun _ => True) fun s s' =>
      s.current.isDefined s.table.key = true → s.KeepsRest s' where
  refl _ _ := .of_current rfl rfl
  trans := by
    intro s s' s'' h h' hdefined
    have hfirst := h hdefined
    have hdefined' : s'.current.isDefined s'.table.key = true := by
      rw [hfirst.objects.isDefined, hfirst.table]
      exact hdefined
    have hsecond := h' hdefined'
    refine ⟨hsecond.table.trans hfirst.table, hfirst.objects.trans hsecond.objects, ?_⟩
    intro key hkey
    have hkey' : key ≠ s'.table.key := by
      rw [hfirst.table]
      exact hkey
    rw [hsecond.rows key hkey', hfirst.rows key hkey]
  keep s _ := .of_current s.table_keep s.current_keep
  insert := by
    -- An insertion is the one step that writes, and only rows of the table
    -- that the store works on.
    intro s r _ _
    unfold insert
    split
    · split
      · next d hinsert =>
        obtain ⟨hobjects, hrows⟩ := Database.insert?_leaves hinsert
        exact ⟨rfl, hobjects, hrows⟩
      · exact .of_current rfl rfl
    · exact .of_current rfl rfl
  define := by
    intro s hdefined
    unfold define
    rw [hdefined]
    split
    · exact .of_current rfl rfl
    · exact .of_current rfl rfl
  reopen s hdefined := .of_current rfl (Database.define_of_isDefined hdefined)

/-- A session creates what is missing when it opens the database, and changes
nothing from then on but the rows of its table. -/
theorem keepsRest_after (d : Database) (t : TableName) (ops : List Operation) :
    (openOn d t).KeepsRest ((openOn d t).after ops) :=
  isClosed_keepsRest.after (openOn d t) (fun _ _ => trivial) (d.isDefined_define t.key)

end Store

-- ============================================================ sessions

/-- A database opened under the name of a table, and what is done then. -/
structure Session where
  table : TableName
  operations : List Operation

namespace Database

def afterSession (d : Database) (s : Session) : Database :=
  ((Store.openOn d s.table).after s.operations).current

def afterSessions (d : Database) (ss : List Session) : Database := ss.foldl afterSession d

variable {d : Database}

/-- After a session there are the objects that opening created. -/
theorem sameObjects_afterSession (d : Database) (s : Session) :
    (d.define s.table.key).SameObjects (d.afterSession s) :=
  (Store.keepsRest_after d s.table s.operations).objects

theorem rows_afterSession {s : Session} {key : String} (h : key ≠ s.table.key) (d : Database) :
    (d.afterSession s).rows key = d.rows key := by
  have hrest := (Store.keepsRest_after d s.table s.operations).rows key h
  exact hrest.trans (d.rows_define s.table.key key)

/-- A session of a table leaves the objects of every table alone that was
defined before. -/
theorem objects_afterSession {t : TableName} (h : d.isDefined t.key = true) (s : Session) :
    (d.afterSession s).objects t = d.objects t := by
  obtain ⟨hkey, hindexes⟩ := isDefined_iff.1 h
  rw [(d.sameObjects_afterSession s).objects, define_eq_addTable hindexes]
  exact objects_addTable hkey s.table.key

-- ======================================================= many sessions

variable (ss : List Session)

/-- A database that no two objects share a name in stays so. -/
theorem isSound_afterSessions (h : d.IsSound) : (d.afterSessions ss).IsSound := by
  induction ss generalizing d with
  | nil => exact h
  | cons s ss ih => exact ih ((h.define s.table.key).of_sameObjects (d.sameObjects_afterSession s))

/-- The indexes that no table had go to the first that is opened. -/
theorem owner?_afterSessions (d : Database) (name : String) :
    (d.afterSessions ss).owner? name
      = (d.owner? name).or
        (if name ∈ indexNames then ss.head?.map fun s => s.table.key else none) := by
  induction ss generalizing d with
  | nil => simp [afterSessions]
  | cons s ss ih =>
    have hnext : d.afterSessions (s :: ss) = (d.afterSession s).afterSessions ss := rfl
    rw [hnext, ih, (d.sameObjects_afterSession s).owner?, owner?_define]
    by_cases hname : name ∈ indexNames
    · simp only [hname, if_true, List.head?_cons, Option.map_some]
      rw [Option.or_of_isSome (by simp)]
    · simp [hname]

/-- A table that was opened once stays defined. -/
theorem isDefined_afterSessions {key : String}
    (h : d.isDefined key = true ∨ ∃ s ∈ ss, s.table.key = key) :
    (d.afterSessions ss).isDefined key = true := by
  induction ss generalizing d with
  | nil =>
    rcases h with h | ⟨s, hs, -⟩
    · exact h
    · cases hs
  | cons s ss ih =>
    apply ih
    rw [(d.sameObjects_afterSession s).isDefined]
    rcases h with h | ⟨s', hs', rfl⟩
    · exact .inl (isDefined_define_of h s.table.key)
    · rcases List.mem_cons.1 hs' with rfl | hs'
      · exact .inl (d.isDefined_define _)
      · exact .inr ⟨s', hs', rfl⟩

end Database

-- ============================================================= the law

/-- A table that is opened in a database, after any sessions of any tables.

It lists all of its objects if and only if it is known under its own
spelling, nothing hides it, and each index it asks for is its own: it had
the index before, or no table had and no other was opened since. The
objects of the tables that were opened before and the rows of all other
tables stay as they are. -/
theorem first_table_takes_the_indexes {d : Database} (hd : d.IsSound) (ss : List Session)
    (t : TableName) :
    ((Store.openOn (d.afterSessions ss) t).objects = Database.allObjects t.key
        ↔ t.isPlain = true ∧ Database.isHidden t.key = false
          ∧ (∀ n ∈ Database.indexNames,
            (d.owner? n).getD ((ss.map Session.table).headD t).key = t.key)
          ∧ ∀ n, n ∉ Database.indexNames → d.owner? n = some t.key
            → Database.isHidden n = true)
      ∧ ∀ ops, (∀ s ∈ ss, (d.afterSessions (ss ++ [⟨t, ops⟩])).objects s.table
          = (d.afterSessions ss).objects s.table)
        ∧ ∀ key, key ≠ t.key → (d.afterSessions (ss ++ [⟨t, ops⟩])).rows key
          = (d.afterSessions ss).rows key := by
  refine ⟨?_, ?_⟩
  · have hlisted : (Store.openOn (d.afterSessions ss) t).objects
        = ((d.afterSessions ss).define t.key).objects t := rfl
    -- the sessions before have given the indexes that were free to the first
    -- table among them
    have howner : ∀ n ∈ Database.indexNames, ((d.afterSessions ss).owner? n).getD t.key
        = (d.owner? n).getD ((ss.map Session.table).headD t).key := by
      intro n hn
      rw [Database.owner?_afterSessions, if_pos hn]
      cases d.owner? n with
      | some key => rfl
      | none => cases ss <;> rfl
    have hother : ∀ n, n ∉ Database.indexNames →
        (d.afterSessions ss).owner? n = d.owner? n := by
      intro n hn
      rw [Database.owner?_afterSessions, if_neg hn, Option.or_none]
    rw [hlisted, Database.objects_define_eq_all_iff (Database.isSound_afterSessions ss hd)]
    apply and_congr_right
    intro _
    apply and_congr_right
    intro _
    -- the indexes that are asked for, and then the others
    apply and_congr
    · apply forall₂_congr
      intro n hn
      rw [howner n hn]
    · apply forall₂_congr
      intro n hn
      rw [hother n hn]
  -- what is done in the session itself touches the rows of its own table
  -- only
  · intro ops
    have hnext : d.afterSessions (ss ++ [⟨t, ops⟩])
        = (d.afterSessions ss).afterSession ⟨t, ops⟩ := List.foldl_concat _ _ _ _
    rw [hnext]
    constructor
    · intro s hs
      exact Database.objects_afterSession
        (Database.isDefined_afterSessions ss (.inr ⟨s, hs, rfl⟩)) ⟨t, ops⟩
    · intro key hkey
      exact Database.rows_afterSession hkey _

/-- On a new file, the first table has all its objects and a second one has
not. A first one named `sqlitea` has not either. -/
theorem second_table_lacks_the_indexes :
    (Store.openOn {} ⟨"alpha", "alpha"⟩).objects = Database.allObjects "alpha"
      ∧ (Store.openOn (Database.afterSessions {} [⟨⟨"alpha", "alpha"⟩, []⟩])
          ⟨"beta", "beta"⟩).objects ≠ Database.allObjects "beta"
      ∧ (Store.openOn {} ⟨"sqlitea", "sqlitea"⟩).objects ≠ Database.allObjects "sqlitea" := by
  have hempty : ({} : Database).IsSound := ⟨List.nodup_nil, List.nodup_nil⟩
  refine ⟨?_, ?_, ?_⟩
  · apply (first_table_takes_the_indexes hempty [] ⟨"alpha", "alpha"⟩).1.2
    exact ⟨by decide, by decide, fun _ _ => rfl, fun _ _ h => nomatch h⟩
  · intro hall
    obtain ⟨-, -, hmine, -⟩ := (first_table_takes_the_indexes hempty
      [⟨⟨"alpha", "alpha"⟩, []⟩] ⟨"beta", "beta"⟩).1.1 hall
    exact absurd (hmine "idx_events_ts" (by decide)) (by decide)
  · intro hall
    obtain ⟨-, hhidden, -⟩ := (first_table_takes_the_indexes hempty []
      ⟨"sqlitea", "sqlitea"⟩).1.1 hall
    exact absurd hhidden (by decide)

end EventAnalytics
