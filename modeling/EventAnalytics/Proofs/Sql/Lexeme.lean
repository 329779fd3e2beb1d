/-
SQL text cut into lexemes, by the standard rules of quoting.

A string literal stands between single quotes and a quoted identifier
between double quotes; inside either, its own quote written twice is one
quote and every other character stands for itself, the backslash
included. Outside quotes a run of name characters is a word, blanks
separate, and every other character is a mark of its own.

# The machine

The lexer takes one character at a time and has a mode. A quote inside a
quotation does not end it yet: the mode `closing` waits for the next
character, which either doubles the quote or shows that the quotation was
over. So a mode has lexemes that are pending, and a text is well lexed
when the machine does not end inside a quotation.

# How texts are put together

`lexemes?_append` is what everything downstream rests on: the lexemes of
two texts in a row are those of the one and then those of the other,
provided that the second starts with a character that cannot go on with
what the first left pending (`isApart`). A text after which nothing is
pending at all (`Settles`) may be followed by anything; one that does both
(`Joins`) may stand between any two.
-/
import EventAnalytics.Sql.Name
import EventAnalytics.Sql.Quote

namespace EventAnalytics.Sql

-- ============================================================ lexemes

/-- What quotes make of a text. -/
inductive Quotation where
  | literal
  | identifier
  deriving DecidableEq, Repr

def Quotation.sign : Quotation → Char
  | .literal => '\''
  | .identifier => '"'

/-- A lexeme of SQL; a quoted one holds the text that it stands for. -/
inductive Lexeme where
  | word (text : String)
  | mark (sign : Char)
  | quoted (kind : Quotation) (text : String)
  deriving DecidableEq, Repr

/-- A lexeme without what stands between its quotes. -/
def Lexeme.erased : Lexeme → Lexeme
  | .quoted kind _ => .quoted kind ""
  | l => l

@[simp] theorem Lexeme.erased_word (s : String) : (word s).erased = .word s := rfl

@[simp] theorem Lexeme.erased_mark (c : Char) : (mark c).erased = .mark c := rfl

@[simp] theorem Lexeme.erased_quoted (kind : Quotation) (s : String) :
    (quoted kind s).erased = .quoted kind "" := rfl

/-- What is left of some lexemes when every quotation is emptied. -/
def skeleton (ls : List Lexeme) : List Lexeme := ls.map Lexeme.erased

@[simp] theorem skeleton_nil : skeleton [] = [] := rfl

@[simp] theorem skeleton_cons (l : Lexeme) (ls : List Lexeme) :
    skeleton (l :: ls) = l.erased :: skeleton ls := rfl

@[simp] theorem skeleton_append (a b : List Lexeme) :
    skeleton (a ++ b) = skeleton a ++ skeleton b :=
  List.map_append

/-- The skeleton of an enumeration is made of those of its items. -/
theorem skeleton_intercalate (sep : List Lexeme) (items : List (List Lexeme)) :
    skeleton (sep.intercalate items) = (skeleton sep).intercalate (items.map skeleton) := by
  induction items with
  | nil => rfl
  | cons a rest ih =>
    cases rest with
    | nil => simp
    | cons b rest =>
      rw [List.intercalate_cons_cons, skeleton_append, skeleton_append, ih]
      simp only [List.map_cons, List.intercalate_cons_cons]

-- ======================================================== the machine

/-- Where the lexer is in its text; what it has read of a lexeme is kept
in reverse. -/
inductive LexMode where
  | between
  | word (read : List Char)
  | inside (kind : Quotation) (read : List Char)
  | closing (kind : Quotation) (read : List Char)
  deriving DecidableEq, Repr

namespace LexMode

/-- The lexemes that are complete unless the text goes on with them. -/
def pending : LexMode → List Lexeme
  | between => []
  | word read => [.word (String.ofList read.reverse)]
  | inside _ _ => []
  | closing kind read => [.quoted kind (String.ofList read.reverse)]

/-- Whether the lexer is inside a quotation. -/
def isInside : LexMode → Bool
  | inside _ _ => true
  | _ => false

/-- What a character outside quotes begins, or the mark that it is. -/
def start (c : Char) : List Lexeme × LexMode :=
  if c = '\'' then ([], .inside .literal [])
  else if c = '"' then ([], .inside .identifier [])
  else if isNameChar c then ([], .word [c])
  else if isSpace c then ([], .between)
  else ([.mark c], .between)

def step (m : LexMode) (c : Char) : List Lexeme × LexMode :=
  match m with
  | between => start c
  | word read =>
    if isNameChar c then ([], .word (c :: read))
    else (m.pending ++ (start c).1, (start c).2)
  | inside kind read =>
    if c = kind.sign then ([], .closing kind read) else ([], .inside kind (c :: read))
  | closing kind read =>
    if c = kind.sign then ([], .inside kind (c :: read))
    else (m.pending ++ (start c).1, (start c).2)

def scan (m : LexMode) : List Char → List Lexeme × LexMode
  | [] => ([], m)
  | c :: r =>
    let (here, m) := m.step c
    let (rest, m) := m.scan r
    (here ++ rest, m)

end LexMode

/-- The lexemes of a text, unless it ends inside a quotation. -/
def lexemes? (s : String) : Option (List Lexeme) :=
  let (found, m) := LexMode.between.scan s.toList
  if m.isInside then none else some (found ++ m.pending)

-- ================================================= texts in a row

/-- A text after which nothing is pending. -/
def Settles (s : String) (ls : List Lexeme) : Prop :=
  LexMode.between.scan s.toList = (ls, .between)

instance (s : String) (ls : List Lexeme) : Decidable (Settles s ls) :=
  inferInstanceAs (Decidable (LexMode.between.scan s.toList = (ls, .between)))

/-- Whether a text is empty or starts with a character that ends whatever
lexeme comes before it. -/
def isApart (s : String) : Bool :=
  match s.toList with
  | [] => true
  | c :: _ => !isNameChar c && c != '\'' && c != '"'

namespace LexMode

/-- Reading two texts in a row is reading the one and then the other. -/
theorem scan_append (m : LexMode) (a b : List Char) :
    m.scan (a ++ b)
      = ((m.scan a).1 ++ ((m.scan a).2.scan b).1, ((m.scan a).2.scan b).2) := by
  induction a generalizing m with
  | nil => simp [scan]
  | cons c r ih => simp [scan, ih, List.append_assoc]

/-- A character that ends lexemes hands out what was pending and then
does what it does at the start. -/
theorem step_of_apart {m : LexMode} {c : Char} (hm : m.isInside = false)
    (hc : (!isNameChar c && c != '\'' && c != '"') = true) :
    m.step c = (m.pending ++ (start c).1, (start c).2) := by
  simp only [Bool.and_eq_true, Bool.not_eq_true', bne_iff_ne] at hc
  obtain ⟨⟨hname, hsingle⟩, hdouble⟩ := hc
  cases m with
  | between => rfl
  | word read => simp [step, hname]
  | inside kind read => simp [isInside] at hm
  | closing kind read =>
    have hsign : c ≠ kind.sign := by
      cases kind
      · exact hsingle
      · exact hdouble
    simp [step, hsign]

/-- A text that starts apart from what comes before it is read as if it
stood alone. -/
theorem scan_of_apart {m : LexMode} {s : String} (hm : m.isInside = false)
    (hs : isApart s = true) :
    (m.scan s.toList).1 ++ (m.scan s.toList).2.pending
        = m.pending ++ ((LexMode.between.scan s.toList).1
            ++ (LexMode.between.scan s.toList).2.pending)
      ∧ ((m.scan s.toList).2.isInside = (LexMode.between.scan s.toList).2.isInside) := by
  unfold isApart at hs
  cases hl : s.toList with
  | nil => simpa [scan, pending, isInside] using hm
  | cons c r =>
    rw [hl] at hs
    have h := step_of_apart hm hs
    have h0 : LexMode.between.step c = start c := rfl
    simp [scan, h, h0, List.append_assoc]

end LexMode

/-- A text that is well lexed did not end inside a quotation, and its
lexemes are those found and those pending. -/
theorem lexemes?_eq_some_iff {s : String} {ls : List Lexeme} :
    lexemes? s = some ls ↔
      (LexMode.between.scan s.toList).2.isInside = false
        ∧ (LexMode.between.scan s.toList).1
            ++ (LexMode.between.scan s.toList).2.pending = ls := by
  unfold lexemes?
  simp only
  cases h : (LexMode.between.scan s.toList).2.isInside <;> simp

/-- The lexemes of two texts in a row, when the second stands apart. -/
theorem lexemes?_append {a b : String} {la lb : List Lexeme}
    (ha : lexemes? a = some la) (hb : lexemes? b = some lb)
    (apart : isApart b = true) : lexemes? (a ++ b) = some (la ++ lb) := by
  obtain ⟨hain, rfl⟩ := lexemes?_eq_some_iff.1 ha
  obtain ⟨hbin, rfl⟩ := lexemes?_eq_some_iff.1 hb
  obtain ⟨hout, hin⟩ := LexMode.scan_of_apart hain apart
  rw [lexemes?_eq_some_iff, String.toList_append, LexMode.scan_append]
  constructor
  · rw [hin]
    exact hbin
  · simp only [List.append_assoc]
    rw [hout]

/-- Nothing is pending after the first text, so anything may follow. -/
theorem Settles.append {a b : String} {la lb : List Lexeme} (ha : Settles a la)
    (hb : lexemes? b = some lb) : lexemes? (a ++ b) = some (la ++ lb) := by
  obtain ⟨hbin, rfl⟩ := lexemes?_eq_some_iff.1 hb
  unfold Settles at ha
  rw [lexemes?_eq_some_iff, String.toList_append, LexMode.scan_append, ha]
  exact ⟨hbin, by simp⟩

/-- The empty text has no lexemes. -/
theorem lexemes?_empty : Sql.lexemes? "" = some [] := by
  simp [Sql.lexemes?, LexMode.scan, LexMode.isInside, LexMode.pending]

/-- Two texts that stand apart do so together. -/
theorem isApart_append {a b : String} (ha : isApart a = true) (hb : isApart b = true) :
    isApart (a ++ b) = true := by
  unfold isApart at *
  rw [String.toList_append]
  cases h : a.toList with
  | nil => simpa using hb
  | cons c r =>
    rw [h] at ha
    simpa using ha

/-- What stands apart decides for all that follows, unless it is empty. -/
theorem isApart_append_of_ne {a b : String} (hne : a ≠ "") (ha : isApart a = true) :
    isApart (a ++ b) = true := by
  unfold isApart at *
  rw [String.toList_append]
  cases h : a.toList with
  | nil => exact absurd (String.toList_eq_nil_iff.1 h) hne
  | cons c r =>
    rw [h] at ha
    simpa using ha

/-- A text that does not go on with what comes before it, and after which
nothing is pending. -/
structure Joins (s : String) (ls : List Lexeme) : Prop where
  settles : Settles s ls
  apart : isApart s = true
  nonempty : s ≠ ""

instance (s : String) (ls : List Lexeme) : Decidable (Joins s ls) :=
  decidable_of_iff (Settles s ls ∧ isApart s = true ∧ s ≠ "")
    ⟨fun h => ⟨h.1, h.2.1, h.2.2⟩, fun h => ⟨h.settles, h.apart, h.nonempty⟩⟩

/-- What joins stands apart, whatever follows. -/
theorem Joins.isApart_append {s : String} {ls : List Lexeme} (h : Joins s ls) (b : String) :
    isApart (s ++ b) = true :=
  isApart_append_of_ne h.nonempty h.apart

/-- The lexemes of two texts with a joining one between them. -/
theorem Joins.append {a s b : String} {la ls lb : List Lexeme} (h : Joins s ls)
    (ha : lexemes? a = some la) (hb : lexemes? b = some lb) :
    lexemes? (a ++ (s ++ b)) = some (la ++ (ls ++ lb)) :=
  lexemes?_append ha (h.settles.append hb) (h.isApart_append b)

-- ================================================= words and quotes

namespace LexMode

/-- In a word, name characters go on with it. -/
theorem scan_word {cs : List Char} (h : cs.all isNameChar = true) (read : List Char) :
    (word read).scan cs = ([], word (cs.reverse ++ read)) := by
  induction cs generalizing read with
  | nil => rfl
  | cons c r ih =>
    simp only [List.all_cons, Bool.and_eq_true] at h
    have hstep : (word read).step c = ([], word (c :: read)) := by simp [step, h.1]
    simp only [scan, hstep, ih h.2]
    simp

/-- Doubled quotes keep the machine inside: the quotation reads back as
the characters before doubling. -/
theorem scan_doubled (kind : Quotation) (cs read : List Char) :
    (inside kind read).scan (doubled kind.sign cs)
      = ([], inside kind (cs.reverse ++ read)) := by
  induction cs generalizing read with
  | nil => rfl
  | cons c r ih =>
    have hd : doubled kind.sign (c :: r)
        = (if c = kind.sign then [c, c] else [c]) ++ doubled kind.sign r := by
      simp [doubled]
    rw [hd, scan_append]
    by_cases hc : c = kind.sign
    · have hstep : (inside kind read).scan [c, c] = ([], inside kind (c :: read)) := by
        simp [scan, step, hc]
      rw [if_pos hc, hstep, ih]
      simp
    · have hstep : (inside kind read).scan [c] = ([], inside kind (c :: read)) := by
        simp [scan, step, hc]
      rw [if_neg hc, hstep, ih]
      simp

end LexMode

/-- Name characters are no quotes. -/
theorem isNameChar_ne_quote {c : Char} (h : isNameChar c = true) : c ≠ '\'' ∧ c ≠ '"' := by
  constructor
  · rintro rfl
    exact absurd h (by decide)
  · rintro rfl
    exact absurd h (by decide)

/-- A run of name characters is one word. -/
theorem lexemes?_word {s : String} (hne : s ≠ "") (h : s.toList.all isNameChar = true) :
    lexemes? s = some [.word s] := by
  cases hs : s.toList with
  | nil => exact absurd (String.toList_eq_nil_iff.1 hs) hne
  | cons c r =>
    rw [hs] at h
    simp only [List.all_cons, Bool.and_eq_true] at h
    obtain ⟨hsingle, hdouble⟩ := isNameChar_ne_quote h.1
    have hscan : LexMode.between.scan s.toList = ([], .word (r.reverse ++ [c])) := by
      rw [hs]
      simp [LexMode.scan, LexMode.step, LexMode.start, hsingle, hdouble, h.1,
        LexMode.scan_word h.2]
    rw [lexemes?_eq_some_iff, hscan]
    have hback : String.ofList (c :: r) = s := by rw [← hs, String.ofList_toList]
    simp [LexMode.isInside, LexMode.pending, hback]

/-- A quotation with its own quotes doubled decodes to the text that was
doubled. -/
theorem lexemes?_quoted (kind : Quotation) (cs : List Char) :
    lexemes? (String.ofList (kind.sign :: doubled kind.sign cs ++ [kind.sign]))
      = some [.quoted kind (String.ofList cs)] := by
  have hstart : LexMode.between.step kind.sign = ([], .inside kind []) := by
    cases kind <;> rfl
  have hscan : LexMode.between.scan (kind.sign :: doubled kind.sign cs ++ [kind.sign])
      = ([], .closing kind cs.reverse) := by
    simp only [List.cons_append, LexMode.scan, hstart, LexMode.scan_append,
      LexMode.scan_doubled]
    simp [LexMode.step]
  rw [lexemes?_eq_some_iff, String.toList_ofList, hscan]
  simp [LexMode.isInside, LexMode.pending]

/-- A literal decodes to its text. -/
theorem lexemes?_literal (s : String) : lexemes? (literal s) = some [.quoted .literal s] := by
  have hform : literal s = String.ofList ('\'' :: doubled '\'' s.toList ++ ['\'']) := by
    apply String.toList_injective
    simp [literal, escaped]
  have h := lexemes?_quoted .literal s.toList
  rw [String.ofList_toList] at h
  rw [hform]
  exact h

/-- A quoted identifier decodes to its name. -/
theorem lexemes?_identifier (s : String) :
    lexemes? (identifier s) = some [.quoted .identifier s] := by
  have hform : identifier s = String.ofList ('"' :: doubled '"' s.toList ++ ['"']) := by
    apply String.toList_injective
    simp [identifier]
  have h := lexemes?_quoted .identifier s.toList
  rw [String.ofList_toList] at h
  rw [hform]
  exact h

/-- Without quotes inside, nothing is doubled. -/
theorem doubled_of_not_mem {q : Char} {cs : List Char} (h : q ∉ cs) : doubled q cs = cs := by
  induction cs with
  | nil => rfl
  | cons c r ih =>
    simp only [List.mem_cons, not_or] at h
    have hc : c ≠ q := fun e => h.1 e.symm
    have hd : doubled q (c :: r) = [c] ++ doubled q r := by simp [doubled, hc]
    rw [hd, ih h.2]
    rfl

/-- A text without single quotes may stand in a literal as it is. -/
theorem literal_of_not_mem {s : String} (h : '\'' ∉ s.toList) :
    literal s = "'" ++ s ++ "'" := by
  unfold literal escaped
  rw [doubled_of_not_mem h, String.ofList_toList]

/-- A text without double quotes may stand in an identifier as it is. -/
theorem identifier_of_not_mem {s : String} (h : '"' ∉ s.toList) :
    identifier s = "\"" ++ s ++ "\"" := by
  unfold identifier
  rw [doubled_of_not_mem h, String.ofList_toList]

-- ======================================================== enumerations

theorem joins_comma : Joins ", " [.mark ','] := by decide +kernel

theorem joins_and : Joins " AND " [.word "AND"] := by decide +kernel

/-- The lexemes of a list of texts with a joining one between them. -/
theorem lexemes?_intercalate {sep : String} {lsep : List Lexeme} (hsep : Joins sep lsep)
    {texts : List String} {lists : List (List Lexeme)}
    (h : texts.map lexemes? = lists.map some) :
    lexemes? (String.intercalate sep texts) = some (lsep.intercalate lists) := by
  induction texts generalizing lists with
  | nil =>
    cases lists with
    | nil => simpa using lexemes?_empty
    | cons l ls => simp at h
  | cons t ts ih =>
    cases lists with
    | nil => simp at h
    | cons l ls =>
      simp only [List.map_cons, List.cons.injEq] at h
      obtain ⟨ht, hts⟩ := h
      cases ts with
      | nil =>
        cases ls with
        | nil => simpa using ht
        | cons l' ls' => simp at hts
      | cons t' ts' =>
        cases ls with
        | nil => simp at hts
        | cons l' ls' =>
          rw [String.intercalate_cons_cons, List.intercalate_cons_cons, String.append_assoc,
            List.append_assoc]
          exact hsep.append ht (ih hts)

end EventAnalytics.Sql
