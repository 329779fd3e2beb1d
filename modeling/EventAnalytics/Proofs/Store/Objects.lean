/-
The objects of a database and whom they belong to.

An index is created under a fixed name for whatever table asks, and is not
created when the name is taken. So an index belongs to the first table
that asked for it (`owner?_define`), and an event table lists all of its
objects exactly when each of the names is its own (`objects_eq_all_iff`).

What there is is told by the keys of the tables and the list of indexes,
which only creating changes; adding rows leaves both as they are.
-/
import EventAnalytics.Proofs.Store.Database
import Mathlib.Data.List.Nodup

namespace EventAnalytics.Database

variable {d d' : Database}

/-- The keys of the tables. -/
def keys (d : Database) : List String := d.tables.map Prod.fst

/-- The names of the indexes that an event table asks for. -/
def indexNames : List String := Index.all.map Index.name

-- ============================================================= owners

/-- The index of a given name, with the key of its table. -/
def index? (d : Database) (name : String) : Option (Index × String) :=
  d.indexes.find? fun i => i.1.name == name

/-- The table that an index belongs to. -/
def owner? (d : Database) (name : String) : Option String :=
  (d.index? name).map Prod.snd

/-- An index is there when it belongs to a table. -/
theorem hasIndex_eq (d : Database) (name : String) : d.hasIndex name = (d.owner? name).isSome := by
  unfold hasIndex owner? index?
  rw [Option.isSome_map, List.isSome_find?]

theorem hasTable_iff {key : String} : d.hasTable key = true ↔ key ∈ d.keys := by
  unfold hasTable keys
  simp

/-- A name that is free goes to the index that asks for it. -/
theorem index?_addIndex (key : String) (d : Database) (i : Index) (other : String) :
    (d.addIndex key i).index? other
      = (d.index? other).or (if i.name = other then some (i, key) else none) := by
  unfold addIndex
  by_cases h : d.hasIndex i.name = true
  · rw [if_pos h]
    by_cases hn : i.name = other
    · subst hn
      rw [hasIndex_eq, owner?, Option.isSome_map] at h
      rw [Option.or_of_isSome h]
    · rw [if_neg hn, Option.or_none]
  · rw [if_neg h]
    unfold index?
    rw [List.find?_append]
    by_cases hn : i.name = other <;> simp [hn]

/-- Of the indexes that ask for a free name the first gets it. -/
theorem index?_foldl_addIndex (key : String) (is : List Index) (d : Database)
    (other : String) :
    (is.foldl (addIndex key) d).index? other
      = (d.index? other).or ((is.find? fun i => i.name == other).map fun i => (i, key)) := by
  induction is generalizing d with
  | nil => simp
  | cons i is ih =>
    rw [List.foldl_cons, ih, index?_addIndex, Option.or_assoc]
    by_cases hn : i.name = other
    · simp [hn]
    · have hskip : (i.name == other) = false := by simpa using hn
      rw [if_neg hn, Option.none_or, List.find?_cons, hskip]

/-- Defining an event table creates the indexes that are missing, each on the
columns that it is declared with, and leaves the others as they are. -/
theorem index?_define (d : Database) (key name : String) :
    (d.define key).index? name
      = (d.index? name).or
        ((Index.all.find? fun i => i.name == name).map fun i => (i, key)) := by
  have htables : (d.addTable key).index? name = d.index? name := by
    unfold addTable
    split <;> rfl
  unfold define
  rw [index?_foldl_addIndex, htables]

/-- Defining an event table gives it the indexes that no table has yet. -/
theorem owner?_define (d : Database) (key name : String) :
    (d.define key).owner? name
      = (d.owner? name).or (if name ∈ indexNames then some key else none) := by
  have hasked : ((Index.all.find? fun i => i.name == name).map fun _ => key)
      = if name ∈ indexNames then some key else none := by
    cases hfind : Index.all.find? fun i => i.name == name with
    | none =>
      have hnone : name ∉ indexNames := by
        intro hmem
        obtain ⟨i, hi, hname⟩ := List.mem_map.1 hmem
        exact List.find?_eq_none.1 hfind i hi (by simpa using hname)
      rw [if_neg hnone, Option.map_none]
    | some i =>
      have hname : i.name = name := by simpa using List.find?_some hfind
      rw [if_pos (hname ▸ List.mem_map_of_mem (List.mem_of_find?_eq_some hfind)), Option.map_some]
  unfold owner?
  rw [index?_define, Option.map_or, Option.map_map, ← hasked]
  rfl

-- ============================================================= keeping

/-- Where all indexes are there, only the table can be missing. -/
theorem define_eq_addTable (h : ∀ n ∈ indexNames, d.hasIndex n = true) (key : String) :
    d.define key = d.addTable key := by
  have hkept : ∀ (is : List Index) (d : Database), (∀ i ∈ is, d.hasIndex i.name = true) →
      is.foldl (addIndex key) d = d := by
    intro is
    induction is with
    | nil => exact fun _ _ => rfl
    | cons i is ih =>
      intro d hall
      have hadd : d.addIndex key i = d := if_pos (hall i List.mem_cons_self)
      rw [List.foldl_cons, hadd]
      exact ih d fun j hj => hall j (List.mem_cons_of_mem _ hj)
  have hindexes : ∀ i ∈ Index.all, (d.addTable key).hasIndex i.name = true := by
    intro i hi
    have hthere := h i.name (List.mem_map_of_mem hi)
    unfold addTable
    split
    · exact hthere
    · exact hthere
  exact hkept Index.all _ hindexes

/-- Nothing is left to create when the table and all indexes are there. -/
theorem isDefined_iff {key : String} :
    d.isDefined key = true ↔ key ∈ d.keys ∧ ∀ n ∈ indexNames, d.hasIndex n = true := by
  unfold isDefined indexNames
  rw [Bool.and_eq_true, hasTable_iff, List.all_eq_true, List.forall_mem_map]

/-- Defining again changes nothing. -/
theorem define_of_isDefined {key : String} (h : d.isDefined key = true) : d.define key = d := by
  obtain ⟨hkey, hindexes⟩ := isDefined_iff.1 h
  rw [define_eq_addTable hindexes]
  exact if_pos (hasTable_iff.2 hkey)

/-- A table is created behind the others, unless it is there. -/
theorem keys_addTable (d : Database) (key : String) :
    (d.addTable key).keys = if key ∈ d.keys then d.keys else d.keys ++ [key] := by
  unfold addTable
  by_cases h : d.hasTable key = true
  · rw [if_pos h, if_pos (hasTable_iff.1 h)]
  · rw [if_neg h, if_neg (fun hmem => h (hasTable_iff.2 hmem))]
    unfold keys
    rw [List.map_append]
    rfl

theorem keys_define (d : Database) (key : String) :
    (d.define key).keys = if key ∈ d.keys then d.keys else d.keys ++ [key] := by
  rw [← keys_addTable]
  exact congrArg (List.map Prod.fst) (tables_foldl_addIndex key _ _)

/-- A table that was defined stays so, whichever is defined next. -/
theorem isDefined_define_of {key : String} (h : d.isDefined key = true) (other : String) :
    (d.define other).isDefined key = true := by
  obtain ⟨hkey, hindexes⟩ := isDefined_iff.1 h
  rw [isDefined_iff, keys_define]
  constructor
  · split
    · exact hkey
    · exact List.mem_append_left _ hkey
  · intro n hn
    rw [hasIndex_eq, owner?_define, Option.isSome_or, ← hasIndex_eq, hindexes n hn,
      Bool.true_or]

-- ======================================================== same objects

/-- One database has the tables and the indexes of another. -/
structure SameObjects (d d' : Database) : Prop where
  keys : d'.keys = d.keys
  indexes : d'.indexes = d.indexes

namespace SameObjects

theorem refl (d : Database) : d.SameObjects d := ⟨rfl, rfl⟩

theorem trans {d''} (h : d.SameObjects d') (h' : d'.SameObjects d'') : d.SameObjects d'' :=
  ⟨h'.keys.trans h.keys, h'.indexes.trans h.indexes⟩

/-- The same indexes belong to the same tables. -/
theorem owner? (h : d.SameObjects d') (name : String) : d'.owner? name = d.owner? name := by
  unfold Database.owner? Database.index?
  rw [h.indexes]

theorem isDefined (h : d.SameObjects d') (key : String) :
    d'.isDefined key = d.isDefined key := by
  rw [Bool.eq_iff_iff, isDefined_iff, isDefined_iff, h.keys]
  simp only [hasIndex_eq, h.owner?]

/-- What a database lists depends on its objects only. -/
theorem objects (h : d.SameObjects d') (t : Sql.TableName) : d'.objects t = d.objects t := by
  have hkeys : d'.tables.map Prod.fst = d.tables.map Prod.fst := h.keys
  unfold Database.objects
  rw [hkeys, h.indexes]

end SameObjects

-- =============================================================== adding

/-- Rows are put into tables that are there. -/
theorem keys_setRows (d : Database) (key : String) (rs : List Row) :
    (d.setRows key rs).keys = d.keys := by
  unfold keys setRows
  rw [List.map_map]
  apply List.map_congr_left
  intro t _
  by_cases h : t.1 = key <;> simp [h]

/-- Putting rows into one table leaves the rows of the others alone. -/
theorem rows_setRows_of_ne {key other : String} (h : other ≠ key) (d : Database)
    (rs : List Row) : (d.setRows key rs).rows other = d.rows other := by
  have hkey : ∀ t : String × List Row, (if t.1 = key then (key, rs) else t).1 = t.1 := by
    intro t
    by_cases ht : t.1 = key <;> simp [ht]
  unfold rows setRows
  simp only [List.find?_map, Function.comp_def, hkey]
  cases hfind : d.tables.find? fun t => t.1 == other with
  | none => rfl
  | some t =>
    have hother : t.1 = other := by simpa using List.find?_some hfind
    have hne : ¬t.1 = key := fun hsame => h (hother.symm.trans hsame)
    simp only [Option.map_some, if_neg hne]

/-- Adding a row to a table leaves the objects and the other tables' rows
alone. -/
theorem insert?_leaves {key : String} {r : Row} (h : d.insert? key r = some d') :
    d.SameObjects d' ∧ ∀ k, k ≠ key → d'.rows k = d.rows k := by
  unfold insert? at h
  split at h
  · cases h
    exact ⟨⟨d.keys_setRows key _, rfl⟩, fun k hk => d.rows_setRows_of_ne hk _⟩
  · cases h

-- ============================================================ soundness

/-- No two tables have the same key and no two indexes the same name. -/
structure IsSound (d : Database) : Prop where
  keys : d.keys.Nodup
  indexes : (d.indexes.map fun i => i.1.name).Nodup

/-- Soundness depends on the objects only. -/
theorem IsSound.of_sameObjects (h : d.IsSound) (hsame : d.SameObjects d') : d'.IsSound := by
  constructor
  · rw [hsame.keys]
    exact h.keys
  · rw [hsame.indexes]
    exact h.indexes

/-- An index is created only under a name that is free. -/
theorem IsSound.addIndex (h : d.IsSound) (key : String) (i : Index) :
    (d.addIndex key i).IsSound := by
  unfold Database.addIndex
  by_cases hname : d.hasIndex i.name = true
  · rw [if_pos hname]
    exact h
  · rw [if_neg hname]
    refine ⟨h.keys, ?_⟩
    have hnew : i.name ∉ d.indexes.map fun j => j.1.name := by
      intro hmem
      obtain ⟨j, hj, hin⟩ := List.mem_map.1 hmem
      exact hname (List.any_eq_true.2 ⟨j, hj, by simpa using hin⟩)
    rw [List.map_append]
    exact List.nodup_append'.2 ⟨h.indexes, List.nodup_singleton _, by simpa using hnew⟩

/-- Creating what is missing keeps the names apart. -/
theorem IsSound.define (h : d.IsSound) (key : String) : (d.define key).IsSound := by
  have htable : (d.addTable key).IsSound := by
    constructor
    · rw [keys_addTable]
      split
      · exact h.keys
      · next hnew =>
        exact List.nodup_append'.2 ⟨h.keys, List.nodup_singleton _, by simpa using hnew⟩
    · have hindexes : (d.addTable key).indexes = d.indexes := by
        unfold addTable
        split <;> rfl
      rw [hindexes]
      exact h.indexes
  have hfold : ∀ (is : List Index) (d : Database), d.IsSound →
      (is.foldl (Database.addIndex key) d).IsSound := by
    intro is
    induction is with
    | nil => exact fun _ h => h
    | cons i is ih => exact fun d hd => ih _ (hd.addIndex key i)
  exact hfold _ _ htable

/-- The index of a name is the one that is listed with it. -/
theorem IsSound.index?_eq_some_iff (h : d.IsSound) {name : String} {i : Index × String} :
    d.index? name = some i ↔ i ∈ d.indexes ∧ i.1.name = name := by
  unfold index?
  constructor
  · intro hfind
    exact ⟨List.mem_of_find?_eq_some hfind, by simpa using List.find?_some hfind⟩
  · intro hlisted
    obtain ⟨hi, rfl⟩ := hlisted
    have hfound : (d.indexes.find? fun j => j.1.name == i.1.name).isSome = true :=
      List.find?_isSome.2 ⟨i, hi, beq_self_eq_true i.1.name⟩
    obtain ⟨j, hfind⟩ := Option.isSome_iff_exists.1 hfound
    have hname : j.1.name = i.1.name := by simpa using List.find?_some hfind
    -- no two indexes share a name, so the one found is the one listed
    rw [hfind, List.inj_on_of_nodup_map h.indexes (List.mem_of_find?_eq_some hfind) hi hname]

-- ============================================================= listings

/-- The objects of an event table that has all of its indexes. -/
def allObjects (key : String) : List SchemaObject :=
  .mk .table key :: (indexNames.mergeSort fun a b => a ≤ b).map (.mk .index)

/-- A table that is there lists what it did when another is created. -/
theorem objects_addTable {t : Sql.TableName} (h : t.key ∈ d.keys) (key : String) :
    (d.addTable key).objects t = d.objects t := by
  have hkeys : (d.addTable key).keys.filter (fun k => k == t.key)
      = d.keys.filter fun k => k == t.key := by
    rw [keys_addTable]
    split
    · rfl
    · next hnew =>
      have hne : (key == t.key) = false := by
        rw [beq_eq_false_iff_ne]
        rintro rfl
        exact hnew h
      rw [List.filter_append, List.filter_singleton, hne]
      simp
  have hindexes : (d.addTable key).indexes = d.indexes := by
    unfold addTable
    split <;> rfl
  unfold keys at hkeys
  unfold objects
  rw [hkeys, hindexes]

/-- Listings are sorted, so they are told by what they hold. -/
theorem filter_mergeSort_eq_iff {as bs : List String} {p : String → Bool} (has : as.Nodup)
    (hbs : bs.Nodup) :
    (as.mergeSort fun a b => a ≤ b).filter p = bs.mergeSort (fun a b => a ≤ b)
      ↔ ∀ a, a ∈ as ∧ p a = true ↔ a ∈ bs := by
  -- both sides are sorted, so they are equal when they have the same members
  have hsorted : ∀ l : List String,
      (l.mergeSort fun a b => a ≤ b).Pairwise fun a b => decide (a ≤ b) = true := by
    intro l
    apply List.pairwise_mergeSort
    · intro a b c hab hbc
      exact decide_eq_true (String.le_trans (of_decide_eq_true hab) (of_decide_eq_true hbc))
    · intro a b
      rcases String.le_total a b with h | h
      · rw [decide_eq_true h, Bool.true_or]
      · rw [decide_eq_true h, Bool.or_true]
  have hmem : ∀ a, a ∈ (as.mergeSort fun a b => a ≤ b).filter p ↔ a ∈ as ∧ p a = true := by
    intro a
    rw [List.mem_filter, List.mem_mergeSort]
  constructor
  · intro h a
    rw [← hmem, h, List.mem_mergeSort]
  · intro h
    refine List.Perm.eq_of_pairwise ?_ ((hsorted as).filter p) (hsorted bs) ?_
    · intro a b _ _ hab hba
      exact String.le_antisymm (of_decide_eq_true hab) (of_decide_eq_true hba)
    · apply (List.perm_ext_iff_of_nodup _ _).2
      · intro a
        rw [hmem, h, List.mem_mergeSort]
      · exact ((List.mergeSort_perm as _).nodup_iff.2 has).filter p
      · exact (List.mergeSort_perm bs _).nodup_iff.2 hbs

/-- A listing, taken apart into its tables and its indexes. -/
theorem map_append_eq_iff {ks is js : List String} {key : String} :
    ks.map (SchemaObject.mk .table) ++ is.map (.mk .index)
        = .mk .table key :: js.map (.mk .index)
      ↔ ks = [key] ∧ is = js := by
  have hnames : ∀ {as bs : List String},
      as.map (SchemaObject.mk .index) = bs.map (.mk .index) → as = bs := by
    intro as bs h
    have hback := congrArg (List.map SchemaObject.name) h
    simpa [List.map_map, Function.comp_def] using hback
  constructor
  · intro h
    -- of two lists that start with a table, only the first may have one
    cases ks with
    | nil =>
      cases is with
      | nil => cases h
      | cons i is => cases h
    | cons k ks =>
      obtain ⟨hk, hrest⟩ := List.cons.inj h
      cases ks with
      | nil => exact ⟨by rw [(SchemaObject.mk.inj hk).2], hnames hrest⟩
      | cons k' ks =>
        cases js with
        | nil => cases hrest
        | cons j js => cases hrest
  · rintro ⟨rfl, rfl⟩
    rfl

/-- An event table lists all of its objects when it is found under its name,
nothing hides it, and the indexes in sight that belong to it are just
those that it asks for. -/
theorem objects_eq_all_iff (h : d.IsSound) {t : Sql.TableName} (ht : t.key ∈ d.keys) :
    d.objects t = allObjects t.key
      ↔ t.isPlain = true ∧ isHidden t.key = false
        ∧ ∀ n, d.owner? n = some t.key ∧ isHidden n = false ↔ n ∈ indexNames := by
  -- keys are distinct, so the table is found once
  have htables : d.keys.filter (fun k => k == t.key) = [t.key] := by
    rw [List.filter_beq, List.count_eq_one_of_mem h.keys ht]
    rfl
  unfold keys at htables
  have hnodup : ((d.indexes.filter fun i => i.2 == t.key).map fun i => i.1.name).Nodup :=
    h.indexes.sublist (List.filter_sublist.map _)
  have howner : ∀ n, n ∈ ((d.indexes.filter fun i => i.2 == t.key).map fun i => i.1.name)
      ↔ d.owner? n = some t.key := by
    intro n
    unfold owner?
    simp only [Option.map_eq_some_iff, h.index?_eq_some_iff, List.mem_map, List.mem_filter,
      beq_iff_eq]
    -- a name is listed with a key when its index is
    constructor
    · intro hn
      obtain ⟨i, ⟨hi, hkey⟩, hname⟩ := hn
      exact ⟨i, ⟨hi, hname⟩, hkey⟩
    · intro hn
      obtain ⟨i, ⟨hi, hname⟩, hkey⟩ := hn
      exact ⟨i, ⟨hi, hkey⟩, hname⟩
  unfold objects allObjects
  by_cases hplain : t.isPlain = true
  · rw [if_pos hplain, htables]
    simp only [List.filter_append, List.filter_map, Function.comp_def]
    rw [map_append_eq_iff, filter_mergeSort_eq_iff hnodup (by decide)]
    simp only [howner, Bool.not_eq_true']
    cases hhidden : isHidden t.key <;> simp [hplain, hhidden]
  · rw [if_neg hplain]
    exact ⟨nofun, fun hall => absurd hall.1 hplain⟩

/-- A table that is defined lists all of its objects when each index that it
asks for was its own or free, and it has no others in sight. -/
theorem objects_define_eq_all_iff (h : d.IsSound) (t : Sql.TableName) :
    (d.define t.key).objects t = allObjects t.key
      ↔ t.isPlain = true ∧ isHidden t.key = false
        ∧ (∀ n ∈ indexNames, (d.owner? n).getD t.key = t.key)
        ∧ ∀ n, n ∉ indexNames → d.owner? n = some t.key → isHidden n = true := by
  have hkey : t.key ∈ (d.define t.key).keys :=
    (isDefined_iff.1 (d.isDefined_define t.key)).1
  have howner : ∀ n, (d.define t.key).owner? n
      = if n ∈ indexNames then some ((d.owner? n).getD t.key) else d.owner? n := by
    intro n
    rw [owner?_define]
    by_cases hn : n ∈ indexNames
    · rw [if_pos hn, if_pos hn]
      cases d.owner? n <;> rfl
    · rw [if_neg hn, if_neg hn, Option.or_none]
  have hvisible : ∀ n ∈ indexNames, isHidden n = false := by decide
  rw [objects_eq_all_iff (h.define t.key) hkey]
  apply and_congr_right
  intro _
  apply and_congr_right
  intro _
  constructor
  -- what is its own after defining was its own before, or free
  · intro hall
    constructor
    · intro n hn
      have hmine := ((hall n).2 hn).1
      rw [howner, if_pos hn] at hmine
      exact Option.some.inj hmine
    · intro n hn hother
      cases hhidden : isHidden n with
      | true => rfl
      | false =>
        have hmine : (d.define t.key).owner? n = some t.key := by
          rw [howner, if_neg hn]
          exact hother
        exact absurd ((hall n).1 ⟨hmine, hhidden⟩) hn
  -- and the other way round, name by name
  · rintro ⟨hmine, hothers⟩ n
    rw [howner]
    by_cases hn : n ∈ indexNames
    · rw [if_pos hn, hmine n hn]
      exact iff_of_true ⟨rfl, hvisible n hn⟩ hn
    · rw [if_neg hn]
      refine iff_of_false ?_ hn
      rintro ⟨hother, hhidden⟩
      rw [hothers n hn hother] at hhidden
      cases hhidden

end EventAnalytics.Database
