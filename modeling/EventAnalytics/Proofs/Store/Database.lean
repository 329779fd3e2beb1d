/-
What the operations on a database do to one table.

Creating an event table touches no row and leaves nothing to create, and
adding a row puts it at the end of its table. What concerns one table is
said through `rows` and `isDefined` from here on; only where several
tables share a database are the lists of tables and indexes opened again.
-/
import EventAnalytics.Store.Database

namespace EventAnalytics.Database

-- ==================================================== creating objects

/-- Creating an index makes sure of its name and of no other. -/
theorem hasIndex_addIndex (key : String) (d : Database) (i : Index) (other : String) :
    (d.addIndex key i).hasIndex other = (d.hasIndex other || i.name == other) := by
  unfold addIndex
  by_cases h : d.hasIndex i.name = true
  · rw [if_pos h]
    by_cases hn : i.name = other
    · subst hn
      simp [h]
    · simp [hn]
  · rw [if_neg h]
    simp [hasIndex]

theorem tables_addIndex (key : String) (d : Database) (i : Index) :
    (addIndex key d i).tables = d.tables := by
  unfold addIndex
  split <;> rfl

/-- Indexes are created beside the tables, which stay as they are. -/
theorem tables_foldl_addIndex (key : String) (is : List Index) (d : Database) :
    (is.foldl (addIndex key) d).tables = d.tables := by
  induction is generalizing d with
  | nil => rfl
  | cons i is ih => rw [List.foldl_cons, ih, tables_addIndex]

/-- Creating some indexes makes sure of all their names. -/
theorem hasIndex_foldl_addIndex (key : String) (is : List Index) (d : Database)
    (other : String) :
    (is.foldl (addIndex key) d).hasIndex other
      = (d.hasIndex other || is.any fun i => i.name == other) := by
  induction is generalizing d with
  | nil => simp
  | cons i is ih =>
    rw [List.foldl_cons, ih, hasIndex_addIndex, List.any_cons, Bool.or_assoc]

/-- A table that is created is there. -/
theorem hasTable_addTable (d : Database) (key : String) : (d.addTable key).hasTable key = true := by
  unfold addTable
  by_cases h : d.hasTable key = true
  · rw [if_pos h]
    exact h
  · rw [if_neg h]
    simp [hasTable]

/-- Creating a table leaves the rows of every table alone. -/
theorem rows_addTable (d : Database) (key k : String) : (d.addTable key).rows k = d.rows k := by
  unfold addTable
  by_cases h : d.hasTable key = true
  · rw [if_pos h]
  · rw [if_neg h]
    unfold rows
    simp only [List.find?_append]
    cases hfind : d.tables.find? fun t => t.1 == k with
    | some t => rfl
    | none => by_cases hk : key = k <;> simp [hk]

/-- Creating the objects of an event table touches no row of any table. -/
@[simp] theorem rows_define (d : Database) (key k : String) : (d.define key).rows k = d.rows k := by
  have htables : (d.define key).tables = (d.addTable key).tables :=
    tables_foldl_addIndex key _ _
  unfold rows
  rw [htables]
  exact rows_addTable d key k

/-- Nothing is left to create once an event table was created. -/
@[simp] theorem isDefined_define (d : Database) (key : String) :
    (d.define key).isDefined key = true := by
  have htables : (d.define key).tables = (d.addTable key).tables :=
    tables_foldl_addIndex key _ _
  have htable : (d.define key).hasTable key = true := by
    unfold hasTable
    rw [htables]
    exact hasTable_addTable d key
  unfold isDefined
  rw [htable, Bool.true_and, List.all_eq_true]
  intro i hi
  have hasked : (Index.all.any fun j => j.name == i.name) = true :=
    List.any_eq_true.2 ⟨i, hi, beq_self_eq_true _⟩
  unfold define
  rw [hasIndex_foldl_addIndex, hasked, Bool.or_true]

-- ============================================================ adding

theorem hasTable_setRows (d : Database) (key : String) (rs : List Row) :
    (d.setRows key rs).hasTable key = d.hasTable key := by
  unfold setRows hasTable
  rw [List.any_map]
  congr 1
  funext t
  by_cases h : t.1 = key <;> simp [h]

/-- Rows do not decide what there is left to create. -/
theorem isDefined_setRows (d : Database) (key : String) (rs : List Row) :
    (d.setRows key rs).isDefined key = d.isDefined key := by
  unfold isDefined
  rw [hasTable_setRows]
  rfl

/-- Rows that were put in place of a table's are found under its key. -/
theorem find?_replaced {key : String} {rs : List Row} {ts : List (String × List Row)}
    (h : (ts.any fun t => t.1 == key) = true) :
    (ts.map fun t => if t.1 = key then (key, rs) else t).find? (fun t => t.1 == key)
      = some (key, rs) := by
  induction ts with
  | nil => cases h
  | cons t ts ih =>
    by_cases ht : t.1 = key
    · simp [ht]
    · have hrest : (ts.any fun t => t.1 == key) = true := by
        simpa [ht] using h
      rw [List.map_cons, if_neg ht, List.find?_cons_of_neg (by simpa using ht)]
      exact ih hrest

theorem rows_setRows {d : Database} {key : String} (h : d.hasTable key = true) (rs : List Row) :
    (d.setRows key rs).rows key = rs := by
  unfold rows setRows
  simp only
  rw [find?_replaced h]

/-- A row that is complete and new to its table is added at the end. -/
theorem insert?_of_new {d : Database} {key : String} {r : Row} (h : d.isDefined key = true)
    (hcomplete : r.isComplete = true) (hnew : ∀ s ∈ d.rows key, s .id ≠ r .id) :
    ∃ d', d.insert? key r = some d' ∧ d'.rows key = d.rows key ++ [r]
      ∧ d'.isDefined key = true := by
  have htable : d.hasTable key = true := by
    unfold isDefined at h
    exact (Bool.and_eq_true_iff.1 h).1
  have hadmits : admits (d.rows key) r = true := by
    unfold admits
    rw [hcomplete, Bool.true_and, Bool.not_eq_true', List.any_eq_false]
    intro s hs
    simpa using hnew s hs
  refine ⟨d.setRows key (d.rows key ++ [r]), ?_, rows_setRows htable _, ?_⟩
  · unfold insert?
    rw [htable, hadmits]
    rfl
  · rw [isDefined_setRows]
    exact h

/-- A row that was added was new, and stands at the end. -/
theorem insert?_eq_some {d d' : Database} {key : String} {r : Row}
    (h : d.insert? key r = some d') :
    d'.rows key = d.rows key ++ [r] ∧ ∀ s ∈ d.rows key, s .id ≠ r .id := by
  unfold insert? at h
  split at h
  · next hok =>
    cases h
    obtain ⟨htable, hadmits⟩ := Bool.and_eq_true_iff.1 hok
    refine ⟨rows_setRows htable _, ?_⟩
    unfold admits at hadmits
    intro s hs hid
    have hnone := (Bool.and_eq_true_iff.1 hadmits).2
    rw [Bool.not_eq_true', List.any_eq_false] at hnone
    exact hnone s hs (by simpa using hid)
  · cases h

/-- However a row is added, the rows that were there stay. -/
theorem rows_prefix_of_insert? {d d' : Database} {key : String} {r : Row}
    (h : d.insert? key r = some d') : d.rows key <+: d'.rows key := by
  rw [(insert?_eq_some h).1]
  exact List.prefix_append _ _

/-- A row behind others is found when none of them has its identity. -/
theorem row?_of_last {d : Database} {key id : String} {rs : List Row} {r : Row}
    (h : d.rows key = rs ++ [r]) (hid : r .id = some id) (hnew : ∀ s ∈ rs, s .id ≠ some id) :
    d.row? key id = some r := by
  have hnone : rs.find? (fun s => s .id == some id) = none := by
    rw [List.find?_eq_none]
    intro s hs hsame
    exact hnew s hs (by simpa using hsame)
  unfold row?
  rw [h, List.find?_append, hnone]
  simp [hid]

/-- No row is found under an identity that none has. -/
theorem row?_eq_none {d : Database} {key id : String} (h : ∀ s ∈ d.rows key, s .id ≠ some id) :
    d.row? key id = none := by
  unfold row?
  rw [List.find?_eq_none]
  intro s hs hsame
  exact h s hs (by simpa using hsame)

/-- With distinct identities a row is found under its own. -/
theorem row?_of_mem {d : Database} {key id : String} {r : Row}
    (hdistinct : ((d.rows key).map fun r => r .id).Nodup) (hr : r ∈ d.rows key)
    (hid : r .id = some id) : d.row? key id = some r := by
  obtain ⟨before, later, hrows⟩ := List.append_of_mem hr
  rw [hrows, List.map_append, List.nodup_append] at hdistinct
  unfold row?
  rw [List.find?_eq_some_iff_append]
  refine ⟨by simpa using hid, before, later, hrows, ?_⟩
  intro q hq
  have hother : q .id ≠ r .id :=
    hdistinct.2.2 _ (List.mem_map_of_mem hq) _ (List.mem_map_of_mem List.mem_cons_self)
  simpa [hid] using hother

end EventAnalytics.Database
