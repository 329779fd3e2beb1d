/-
Which tables of accepted settings can be opened.

Settings are checked for a table that is an identifier. Such a name has no
blanks and no quotes, so a statement holds it as one word, wherever it is
put (`lexemes?_ddl`, `Statement.lexemes?_sql`). What the check does not look
at is which word it is: the grammar of statements keeps some to
itself, and the database all that start in a certain way. So a name can be
spelled bare just when it is free (`ofSpelling?_identifier`), and settings
can name a table that no store can be opened on.

A store on a table that is free has all its room, so that the first event
goes in and is counted.
-/
import EventAnalytics.Command.Run
import EventAnalytics.Proofs.Query.Quoting
import EventAnalytics.Proofs.Settings.Defaults
import EventAnalytics.Proofs.Store.Fidelity

namespace EventAnalytics

open Files (Location)
open Sql

-- ============================================================ free names

/-- A name that neither the grammar of statements nor the database keeps to
itself. -/
structure Sql.IsFree (name : String) : Prop where
  unreserved : Text.lowered name ∉ reservedWords
  external : ¬"sqlite_".toList <+: (Text.lowered name).toList

theorem Sql.isFree_iff {name : String} :
    IsFree name ↔ reservedWords.contains (Text.lowered name) = false
      ∧ isInternal (Text.lowered name) = false := by
  unfold isInternal
  rw [← Bool.not_eq_true, ← Bool.not_eq_true, List.contains_iff_mem, List.isPrefixOf_iff_prefix]
  exact ⟨fun h => ⟨h.unreserved, h.external⟩, fun h => ⟨h.1, h.2⟩⟩

instance (name : String) : Decidable (IsFree name) := decidable_of_iff _ isFree_iff.symm

-- =========================================================== identifiers

theorem isNameStart_of_isIdentifierStart {c : Char} (h : isIdentifierStart c = true) :
    isNameStart c = true := by
  unfold isIdentifierStart at h
  unfold isNameStart
  rw [h, Bool.true_or]

/-- Nothing that a name goes on with separates the parts of a statement. -/
theorem isSpace_of_isNameChar {c : Char} (h : isNameChar c = true) : isSpace c = false := by
  rw [← Bool.not_eq_true]
  intro hspace
  simp only [isSpace, Bool.or_eq_true, beq_iff_eq] at hspace
  rcases hspace with (((rfl | rfl) | rfl) | rfl) | rfl <;> cases h

/-- The characters of an identifier, as those of a bare name. -/
theorem isBareName_identifier {s : String} (h : IsIdentifier s) :
    isBareName s.toList = !reservedWords.contains (Text.lowered s)
      ∧ ∀ c ∈ s.toList, isNameChar c = true := by
  obtain ⟨c, r, hs, hstart, hrest⟩ := h
  have hc := isIdentifierStart_iff.2 hstart
  have hname : ∀ d ∈ s.toList, isNameChar d = true := by
    intro d hd
    apply isNameChar_of_isIdentifierChar
    rw [isIdentifierChar_iff]
    rw [hs] at hd
    rcases List.mem_cons.1 hd with rfl | hd
    · exact .inl hstart
    · exact hrest d hd
  refine ⟨?_, hname⟩
  have hall : r.all isNameChar = true := by
    rw [List.all_eq_true]
    exact fun d hd => hname d (hs ▸ List.mem_cons_of_mem c hd)
  have hlowered : Text.lowered (String.ofList (c :: r)) = Text.lowered s := by
    rw [← hs, String.ofList_toList]
  rw [hs, isBareName, isNameStart_of_isIdentifierStart hc, hall, hlowered]
  rfl

/-- An identifier spells itself, unless it is reserved. -/
theorem named?_identifier {s : String} (h : IsIdentifier s) :
    named? s.toList
      = if reservedWords.contains (Text.lowered s) = true then none else some s.toList := by
  obtain ⟨c, r, hs, hstart, -⟩ := id h
  have hc := isIdentifierStart_iff.2 hstart
  have hbare : named? s.toList = if isBareName s.toList then some s.toList else none := by
    rw [hs]
    unfold named?
    split
    case h_5 => rfl
    -- no identifier starts with a quote
    all_goals
      next heq =>
        cases heq
        cases hc
  rw [hbare, (isBareName_identifier h).1]
  cases reservedWords.contains (Text.lowered s) <;> rfl

/-- An identifier can name a table just when it is free, and the table is
then known by its small letters. -/
theorem Sql.TableName.ofSpelling?_identifier {s : String} (h : IsIdentifier s) :
    ofSpelling? s = if IsFree s then some ⟨s, Text.lowered s⟩ else none := by
  have hkept : ∀ {cs : List Char}, (∀ c ∈ cs, isNameChar c = true) → cs.dropWhile isSpace = cs := by
    intro cs hcs
    cases cs with
    | nil => rfl
    | cons c r =>
      rw [List.dropWhile_cons, isSpace_of_isNameChar (hcs c List.mem_cons_self)]
      rfl
  have hname := (isBareName_identifier h).2
  have htight : ((s.toList.dropWhile isSpace).reverse.dropWhile isSpace).reverse = s.toList := by
    rw [hkept hname, hkept fun c hc => hname c (List.mem_reverse.1 hc), List.reverse_reverse]
  unfold ofSpelling?
  simp only [htight, named?_identifier h, isFree_iff]
  cases reservedWords.contains (Text.lowered s) with
  | true => rfl
  | false =>
    simp only [Bool.false_eq_true, if_false, String.ofList_toList]
    cases isInternal (Text.lowered s) <;> rfl

-- ============================================================ statements

/-- The lexemes of a column in a table definition. -/
def Column.lexemes (c : Column) : List Lexeme :=
  [.word c.name, .word c.kind.name]
    ++ (if c.nullable then [] else [.word "NOT", .word "NULL"])
    ++ match c with
      | .id => [.word "PRIMARY", .word "KEY"]
      | .schema => [.word "DEFAULT", .quoted .literal schemaTag]
      | _ => []

/-- The lexemes of the statement that creates the table. -/
def createTableLexemes (table : String) : List Lexeme :=
  [.word "CREATE", .word "TABLE", .word "IF", .word "NOT", .word "EXISTS", .word table, .mark '(']
    ++ List.intercalate [.mark ','] (Column.all.map Column.lexemes) ++ [.mark ')']

/-- The lexemes of the statement that creates an index. -/
def createIndexLexemes (table : String) (i : Index) : List Lexeme :=
  [.word "CREATE", .word "INDEX", .word "IF", .word "NOT", .word "EXISTS", .word i.name,
      .word "ON", .word table, .mark '(']
    ++ List.intercalate [.mark ','] (i.columns.map fun c => [.word c.name]) ++ [.mark ')']

def ddlLexemes (table : String) : List (List Lexeme) :=
  createTableLexemes table :: Index.all.map (createIndexLexemes table)

/-- The statement that creates the table has the table as one word. -/
theorem lexemes?_createTable {table : String} (h : lexemes? table = some [.word table]) :
    lexemes? (createTable table) = some (createTableLexemes table) := by
  have hopen : Settles "CREATE TABLE IF NOT EXISTS "
      [.word "CREATE", .word "TABLE", .word "IF", .word "NOT", .word "EXISTS"] := by
    decide +kernel
  have hbracket : Joins " (\n    " [.mark '('] := by decide +kernel
  have hcomma : Joins ",\n    " [.mark ','] := by decide +kernel
  have hend : lexemes? "\n)" = some [.mark ')'] := by decide +kernel
  have hcolumn : ∀ c : Column, lexemes? c.definition = some c.lexemes := by
    intro c
    cases c <;> decide +kernel
  have hcolumns : (Column.all.map Column.definition).map lexemes?
      = (Column.all.map Column.lexemes).map some := by
    simp only [List.map_map, Function.comp_def, hcolumn]
  have hform : createTable table = "CREATE TABLE IF NOT EXISTS " ++ (table ++ (" (\n    "
      ++ (String.intercalate ",\n    " (Column.all.map Column.definition) ++ "\n)"))) := by
    unfold createTable
    simp only [String.append_assoc]
  have hrest := lexemes?_append (lexemes?_intercalate hcomma hcolumns) hend rfl
  have hall := hopen.append (hbracket.append h hrest)
  rw [hform, hall]
  simp only [createTableLexemes, List.cons_append, List.nil_append]

/-- Each statement that creates an index has the table as one word. -/
theorem lexemes?_createIndex {table : String} (h : lexemes? table = some [.word table])
    {i : Index} (hi : i ∈ Index.all) :
    lexemes? (createIndex table i) = some (createIndexLexemes table i) := by
  have hopen : Settles "CREATE INDEX IF NOT EXISTS "
      [.word "CREATE", .word "INDEX", .word "IF", .word "NOT", .word "EXISTS"] := by
    decide +kernel
  have hon : Joins " ON " [.word "ON"] := by decide +kernel
  have hbracket : Joins "(" [.mark '('] := by decide +kernel
  have hend : lexemes? ")" = some [.mark ')'] := by decide +kernel
  have hnames : ∀ i ∈ Index.all, lexemes? i.name = some [.word i.name] := by decide +kernel
  have hcolumns : (i.columns.map Column.name).map lexemes?
      = (i.columns.map fun c => [Lexeme.word c.name]).map some := by
    simp only [List.map_map, Function.comp_def, column_isWord]
  have hform : createIndex table i = "CREATE INDEX IF NOT EXISTS " ++ (i.name ++ (" ON "
      ++ (table ++ ("(" ++ (String.intercalate ", " (i.columns.map Column.name) ++ ")"))))) := by
    unfold createIndex
    simp only [String.append_assoc]
  have hrest := lexemes?_append (lexemes?_intercalate joins_comma hcolumns) hend rfl
  have hall := hopen.append (hon.append (hnames i hi) (hbracket.append h hrest))
  rw [hform, hall]
  simp only [createIndexLexemes, List.cons_append, List.nil_append]

/-- A table whose name is one word stands as that word in every statement
that creates the schema. -/
theorem lexemes?_ddl {table : String} (h : lexemes? table = some [.word table]) :
    (ddl table).map lexemes? = (ddlLexemes table).map some := by
  have hindexes : (Index.all.map (createIndex table)).map lexemes?
      = (Index.all.map (createIndexLexemes table)).map some := by
    simp only [List.map_map, List.map_inj_left, Function.comp_apply]
    exact fun i hi => lexemes?_createIndex h hi
  unfold ddl ddlLexemes
  rw [List.map_cons, List.map_cons, lexemes?_createTable h, hindexes]

/-- The lexemes of a placeholder. -/
def Placeholder.lexemes (p : Placeholder) : List Lexeme :=
  let parameter := [.mark '?', .word (String.ofList (Text.numeral (p.position + 1)))]
  if p.nullIfEmpty then
    [.word "NULLIF", .mark '('] ++ parameter ++ [.mark ',', .quoted .literal "", .mark ')']
  else parameter

/-- The lexemes of a column as a selection reads it. -/
def Column.projectionLexemes (c : Column) : List Lexeme :=
  [.word "COALESCE", .mark '(', .word c.name, .mark ',', .quoted .literal "", .mark ')']

/-- The lexemes of the statement that counts rows. -/
def rowCountLexemes (table : String) : List Lexeme :=
  [.word "SELECT", .word "COUNT", .mark '(', .mark '*', .mark ')', .word "FROM", .word table]

/-- The lexemes that end a statement on one identity. -/
def identityLexemes : List Lexeme :=
  [.word "WHERE", .word "id", .mark '=', .mark '?', .word "1"]

/-- The lexemes of a statement on the rows of a table. -/
def Statement.lexemes (table : String) : Statement → List Lexeme
  | insert =>
    [.word "INSERT", .word "INTO", .word table, .mark '(']
      ++ List.intercalate [.mark ','] (Column.all.map fun c => [.word c.name])
      ++ [.mark ')', .word "VALUES", .mark '(']
      ++ List.intercalate [.mark ','] (Placeholder.all.map Placeholder.lexemes) ++ [.mark ')']
  | select =>
    .word "SELECT" :: List.intercalate [.mark ','] (Column.all.map Column.projectionLexemes)
      ++ [.word "FROM", .word table] ++ identityLexemes
  | count => rowCountLexemes table
  | countOf => rowCountLexemes table ++ identityLexemes

/-- A placeholder has a position, and no text in it. -/
theorem Placeholder.lexemes?_sql (p : Placeholder) : lexemes? p.sql = some p.lexemes := by
  have hmark : Settles "?" [.mark '?'] := by decide +kernel
  have hopen : Settles "NULLIF(" [.word "NULLIF", .mark '('] := by decide +kernel
  have hend : lexemes? ", '')" = some [.mark ',', .quoted .literal "", .mark ')'] := by
    decide +kernel
  have hparameter := hmark.append (lexemes?_numeral (p.position + 1))
  unfold sql lexemes
  cases p.nullIfEmpty with
  | false => exact hparameter
  | true =>
    simp only [if_true, String.append_assoc]
    exact hopen.append (lexemes?_append hparameter hend rfl)

theorem Column.lexemes?_projection (c : Column) :
    lexemes? c.projection = some c.projectionLexemes := by
  cases c <;> decide +kernel

/-- A table whose name is one word stands as that word in every statement on
its rows. -/
theorem Statement.lexemes?_sql {table : String} (h : lexemes? table = some [.word table])
    (s : Statement) : lexemes? (s.sql table) = some (s.lexemes table) := by
  have hidentity : lexemes? " WHERE id = ?1" = some identityLexemes := by decide +kernel
  have hcount : lexemes? (sql table count) = some (rowCountLexemes table) := by
    have hopen : Settles "SELECT COUNT(*) FROM "
        [.word "SELECT", .word "COUNT", .mark '(', .mark '*', .mark ')', .word "FROM"] := by
      decide +kernel
    exact hopen.append h
  cases s with
  | count => exact hcount
  | countOf => exact lexemes?_append hcount hidentity rfl
  | select =>
    have hopen : Settles "SELECT " [.word "SELECT"] := by decide +kernel
    have hfrom : Joins " FROM " [.word "FROM"] := by decide +kernel
    have hcolumns : (Column.all.map Column.projection).map lexemes?
        = (Column.all.map Column.projectionLexemes).map some := by
      simp only [List.map_map, Function.comp_def, Column.lexemes?_projection]
    unfold sql lexemes
    -- From here on each statement is a chain of parts, each of which ends
    -- where a lexeme ends.
    simp only [String.append_assoc, List.cons_append, List.append_assoc]
    exact hopen.append (hfrom.append (lexemes?_intercalate joins_comma hcolumns)
      (lexemes?_append h hidentity rfl))
  | insert =>
    have hopen : Settles "INSERT INTO " [.word "INSERT", .word "INTO"] := by decide +kernel
    have hbracket : Joins " (" [.mark '('] := by decide +kernel
    have hvalues : Joins ") VALUES (" [.mark ')', .word "VALUES", .mark '('] := by decide +kernel
    have hend : lexemes? ")" = some [.mark ')'] := by decide +kernel
    have hcolumns : (Column.all.map Column.name).map lexemes?
        = (Column.all.map fun c => [Lexeme.word c.name]).map some := by
      simp only [List.map_map, Function.comp_def, column_isWord]
    have hplaceholders : (Placeholder.all.map Placeholder.sql).map lexemes?
        = (Placeholder.all.map Placeholder.lexemes).map some := by
      simp only [List.map_map, Function.comp_def, Placeholder.lexemes?_sql]
    -- Told from the end: the placeholders, then the columns before them.
    have hrest := lexemes?_append (lexemes?_intercalate joins_comma hplaceholders) hend rfl
    have hlists := hvalues.append (lexemes?_intercalate joins_comma hcolumns) hrest
    unfold sql lexemes
    simp only [String.append_assoc, List.cons_append, List.nil_append, List.append_assoc]
    exact hopen.append (hbracket.append h hlists)

/-- A query reads from the table of its compiler. -/
theorem Compiler.from_infix_lexemes (c : Compiler) (q : Query) (now : Time.Instant) :
    [.word "FROM", .word c.table] <:+: c.lexemes q now := by
  unfold lexemes
  simp only [List.append_assoc]
  exact (List.infix_append' _ _ _).trans (List.suffix_append _ _).isInfix

-- =============================================================== opening

/-- An identifier opens a table just when it is free. -/
theorem openTable_identifier {table : String} (h : IsIdentifier table) (d : Database)
    (l : Option Location) :
    openTable d table l
      = if IsFree table then .ok ⟨Store.openOn d ⟨table, Text.lowered table⟩, l⟩
        else .error .database := by
  unfold openTable
  rw [Sql.TableName.ofSpelling?_identifier h]
  by_cases hfree : IsFree table
  · rw [if_pos hfree, if_pos hfree]
  · rw [if_neg hfree, if_neg hfree]

namespace Store

/-- A store on an empty database has no event. -/
theorem follows_openOn_empty (t : TableName) : Follows t (openOn {} t) {} :=
  Follows.reopened (l := {}) rfl

/-- It takes a valid event and counts it. -/
theorem first_event (t : TableName) {e : Event} (he : e.missing? = none) :
    ∃ s, (openOn {} t).append e = (.ok (), s) ∧ s.count.1 = 1 ∧ (s.contains e.id).1 = true := by
  have hadded : Ledger.append {} e = (.ok (), { events := [e] }) := by
    unfold Ledger.append Ledger.refusal?
    rw [he]
    rfl
  obtain ⟨hanswer, hafter⟩ := (follows_openOn_empty t).append rfl e
  rw [hadded] at hanswer hafter
  refine ⟨_, Prod.ext hanswer rfl, hafter.count rfl, ?_⟩
  rw [hafter.contains rfl]
  simp [Ledger.has]

end Store

-- =============================================================== the law

/-- What settings that were accepted name as their table is one word in
every statement that creates the schema, in every statement on its rows and
in every compiled query.

A store can be opened on it just when the word is free; then it is empty,
and any valid event can be added to it and is counted. Otherwise opening is
refused by the database. -/
theorem accepted_table_opens_when_free {text : String} {settings : Settings}
    (h : Settings.ofText text = .ok settings) (l : Option Location) :
    (ddl settings.analytics.table).map lexemes?
        = (ddlLexemes settings.analytics.table).map some
      ∧ (∀ s : Statement, lexemes? (s.sql settings.analytics.table)
          = some (s.lexemes settings.analytics.table))
      ∧ (∀ (q : Query) (now : Time.Instant) sql,
          settings.analytics.compiler.compile q now = .ok sql →
          ∃ ls, lexemes? sql = some ls ∧ [.word "FROM", .word settings.analytics.table] <:+: ls)
      ∧ (IsFree settings.analytics.table →
          ∃ o, openTable {} settings.analytics.table l = .ok o ∧ o.location = l
            ∧ o.store.table = ⟨settings.analytics.table, Text.lowered settings.analytics.table⟩
            ∧ o.store.count.1 = 0
            ∧ ∀ e, e.missing? = none → ∃ s, o.store.append e = (.ok (), s) ∧ s.count.1 = 1
              ∧ (s.contains e.id).1 = true)
      ∧ (¬IsFree settings.analytics.table →
          openTable {} settings.analytics.table l = .error .database) := by
  have hplain := AnalyticsSettings.fault?_eq_none_iff.1 (Settings.fault?_of_ofText h)
  have htable := hplain.table
  have hword := lexemes?_plainIdentifier (isPlainIdentifier_iff.2 htable)
  refine ⟨lexemes?_ddl hword, Statement.lexemes?_sql hword, ?_, ?_, ?_⟩
  · intro q now sql hsql
    exact ⟨_, Compiler.lexemes?_compile (isPlainIdentifier_iff.2 htable) hsql,
      settings.analytics.compiler.from_infix_lexemes q now⟩
  · intro hfree
    refine ⟨_, (openTable_identifier htable {} l).trans (if_pos hfree), rfl, rfl, ?_, ?_⟩
    · exact (Store.follows_openOn_empty _).count rfl
    · exact fun e he => Store.first_event _ he
  · intro hkept
    exact (openTable_identifier htable {} l).trans (if_neg hkept)

/-- The settings of a document that names a table and nothing else. -/
def tableText (table : String) : String := "[analytics]\ntable = \"" ++ table ++ "\"\n"

/-- The settings may name a table by a reserved word, in capitals or not, and
a store cannot be opened on it then; it can be opened on `selected`. -/
theorem reserved_table_is_accepted_but_does_not_open :
    (∃ settings, Settings.ofText (tableText "Select") = .ok settings
        ∧ openTable {} settings.analytics.table none = .error .database)
      ∧ ∃ settings, Settings.ofText (tableText "selected") = .ok settings
        ∧ ∃ o, openTable {} settings.analytics.table none = .ok o
          ∧ (o.store.append { id := "a", type := "t", ts := .epoch }).1 = .ok () := by
  have hread : ∀ table ∈ ["Select", "selected"],
      (Settings.ofText (tableText table)).toOption.map (·.analytics.table) = some table := by
    decide +kernel
  constructor
  · obtain ⟨settings, hs, htable⟩ := Option.map_eq_some_iff.1 (hread "Select" (by simp))
    obtain ⟨-, -, -, -, hkept⟩ := accepted_table_opens_when_free (toOption_eq_some hs) none
    rw [htable] at hkept
    exact ⟨settings, toOption_eq_some hs, by rw [htable]; exact hkept (by decide +kernel)⟩
  · obtain ⟨settings, hs, htable⟩ := Option.map_eq_some_iff.1 (hread "selected" (by simp))
    obtain ⟨-, -, -, hfree, -⟩ := accepted_table_opens_when_free (toOption_eq_some hs) none
    rw [htable] at hfree
    obtain ⟨o, ho, -, -, -, happend⟩ := hfree (by decide +kernel)
    obtain ⟨s, hs', -⟩ := happend { id := "a", type := "t", ts := .epoch } (by decide)
    exact ⟨settings, toOption_eq_some hs, o, by rw [htable]; exact ho, by rw [hs']⟩

end EventAnalytics
