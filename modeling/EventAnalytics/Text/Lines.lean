/-
A text as lines, and lists of parts put together.

A line ends before a line feed; a carriage return just before that feed
belongs to the break. The break after the last line is optional, and an
empty text has no line at all.
-/

namespace EventAnalytics.Text

/-- The parts of a text between the occurrences of a separator; there is
always one more of them than there are separators. -/
def splitAt (sep : Char) : List Char → List (List Char)
  | [] => [[]]
  | c :: r =>
    if c = sep then [] :: splitAt sep r
    else match splitAt sep r with
      | [] => [[c]]
      | part :: parts => (c :: part) :: parts

def parts (sep : Char) (s : String) : List String :=
  (splitAt sep s.toList).map String.ofList

def joinWith (sep : Char) : List (List Char) → List Char
  | [] => []
  | [p] => p
  | p :: q :: ps => p ++ sep :: joinWith sep (q :: ps)

/-- A line without the carriage return of its break. -/
def dropReturn (line : List Char) : List Char :=
  if line.getLast? = some '\r' then line.dropLast else line

/-- The lines of a text. A last part that no feed follows is a line as it
stands, carriage return included, unless it is empty. -/
def lineChars (cs : List Char) : List (List Char) :=
  let ps := splitAt '\n' cs
  let closed := ps.dropLast.map dropReturn
  match ps.getLast? with
  | none => closed
  | some [] => closed
  | some open_ => closed ++ [open_]

def lines (s : String) : List String :=
  (lineChars s.toList).map String.ofList

-- ============================================== splitting and joining

theorem splitAt_ne_nil (sep : Char) (cs : List Char) : splitAt sep cs ≠ [] := by
  cases cs with
  | nil => simp [splitAt]
  | cons c r =>
    unfold splitAt
    split
    · simp
    · split <;> simp

/-- Joining the parts gives the text back. -/
theorem joinWith_splitAt (sep : Char) (cs : List Char) :
    joinWith sep (splitAt sep cs) = cs := by
  induction cs with
  | nil => rfl
  | cons c r ih =>
    unfold splitAt
    split
    · next h =>
      cases hs : splitAt sep r with
      | nil => exact absurd hs (splitAt_ne_nil sep r)
      | cons p ps => rw [hs] at ih; simp [joinWith, ih, h]
    · cases hs : splitAt sep r with
      | nil => exact absurd hs (splitAt_ne_nil sep r)
      | cons p ps =>
        rw [hs] at ih
        cases ps with
        | nil => simpa [joinWith] using ih
        | cons q qs => simpa [joinWith] using ih

/-- No part holds the separator. -/
theorem not_mem_of_mem_splitAt {sep : Char} {cs part : List Char}
    (h : part ∈ splitAt sep cs) : sep ∉ part := by
  induction cs generalizing part with
  | nil => simp [splitAt] at h; simp [h]
  | cons c r ih =>
    unfold splitAt at h
    split at h
    · rcases List.mem_cons.1 h with rfl | h
      · simp
      · exact ih h
    · next hc =>
      cases hs : splitAt sep r with
      | nil => exact absurd hs (splitAt_ne_nil sep r)
      | cons p ps =>
        rw [hs] at h ih
        rcases List.mem_cons.1 h with rfl | h
        · have := ih (List.mem_cons_self)
          simp only [List.mem_cons, not_or]
          exact ⟨fun e => hc e.symm, this⟩
        · exact ih (List.mem_cons_of_mem _ h)

/-- A text without the separator is one part. -/
theorem splitAt_of_not_mem {sep : Char} {cs : List Char} (h : sep ∉ cs) :
    splitAt sep cs = [cs] := by
  induction cs with
  | nil => rfl
  | cons c r ih =>
    rw [List.mem_cons, not_or] at h
    rw [splitAt, if_neg (Ne.symm h.1), ih h.2]

/-- A part ends at the first separator. -/
theorem splitAt_append {sep : Char} {cs : List Char} (h : sep ∉ cs) (r : List Char) :
    splitAt sep (cs ++ sep :: r) = cs :: splitAt sep r := by
  induction cs with
  | nil => rw [List.nil_append, splitAt, if_pos rfl]
  | cons c cs ih =>
    rw [List.mem_cons, not_or] at h
    rw [List.cons_append, splitAt, if_neg (Ne.symm h.1), ih h.2]

/-- Two texts with a separator between them have the parts of the one and
then those of the other. -/
theorem splitAt_append_cons (sep : Char) (a b : List Char) :
    splitAt sep (a ++ sep :: b) = splitAt sep a ++ splitAt sep b := by
  induction a with
  | nil => simp [splitAt]
  | cons c r ih =>
    rw [List.cons_append, splitAt, splitAt, ih]
    by_cases hc : c = sep
    · rw [if_pos hc, if_pos hc]
      rfl
    · rw [if_neg hc, if_neg hc]
      cases hs : splitAt sep r with
      | nil => exact absurd hs (splitAt_ne_nil sep r)
      | cons p ps => rfl

/-- Parts that do not hold the separator are what their join is split into. -/
theorem splitAt_joinWith {sep : Char} :
    ∀ {ps : List (List Char)}, ps ≠ [] → (∀ p ∈ ps, sep ∉ p) →
      splitAt sep (joinWith sep ps) = ps := by
  intro ps
  fun_induction joinWith sep ps with
  | case1 => exact fun hne => absurd rfl hne
  | case2 p => exact fun _ h => splitAt_of_not_mem (h p (by simp))
  | case3 p q ps ih =>
    intro _ h
    have hrest : ∀ r ∈ q :: ps, sep ∉ r := fun r hr => h r (List.mem_cons_of_mem _ hr)
    rw [splitAt_append (h p (by simp)), ih (by simp) hrest]

/-- A text is what its parts are joined to, so parts without the separator
are those of their join. -/
theorem parts_of_joinWith {sep : Char} {s : String} {ps : List String}
    (hs : s.toList = joinWith sep (ps.map String.toList)) (hne : ps ≠ [])
    (h : ∀ p ∈ ps, sep ∉ p.toList) : parts sep s = ps := by
  have hchars : ∀ cs ∈ ps.map String.toList, sep ∉ cs := List.forall_mem_map.2 h
  unfold parts
  rw [hs, splitAt_joinWith (fun hnil => hne (List.map_eq_nil_iff.1 hnil)) hchars, List.map_map]
  simp only [Function.comp_def, String.ofList_toList, List.map_id']

theorem joinWith_cons (sep : Char) (p : List Char) (ps : List (List Char)) :
    joinWith sep (p :: ps) = p ++ ps.flatMap (sep :: ·) := by
  induction ps generalizing p with
  | nil => exact (List.append_nil p).symm
  | cons q ps ih => rw [joinWith, ih, List.flatMap_cons, List.cons_append]

theorem joinWith_eq_intercalate (sep : Char) (ps : List (List Char)) :
    joinWith sep ps = [sep].intercalate ps := by
  fun_induction joinWith sep ps with
  | case1 => rfl
  | case2 p => rw [List.intercalate_singleton]
  | case3 p q ps ih =>
    rw [List.intercalate_cons_cons, ih, List.append_assoc]
    rfl

/-- Joined parts hold what the parts hold and the separator. -/
theorem not_mem_joinWith {sep c : Char} (hc : c ≠ sep) :
    ∀ {ps : List (List Char)}, (∀ p ∈ ps, c ∉ p) → c ∉ joinWith sep ps := by
  intro ps
  fun_induction joinWith sep ps with
  | case1 => simp
  | case2 p => simp
  | case3 p q ps ih =>
    intro h hm
    rcases List.mem_append.1 hm with hm | hm
    · exact h p (by simp) hm
    · rcases List.mem_cons.1 hm with hm | hm
      · exact hc hm
      · exact ih (fun r hr => h r (List.mem_cons_of_mem _ hr)) hm

-- ================================================ texts line by line

/-- Whether no line is left open at the end of a text: it is empty or ends
with a line feed. -/
def isClosed (s : String) : Bool :=
  s.toList.getLast?.all (· == '\n')

/-- A line feed closes all lines before it, and what follows it has lines
of its own. -/
theorem lineChars_append_cons (a b : List Char) :
    lineChars (a ++ '\n' :: b) = (splitAt '\n' a).map dropReturn ++ lineChars b := by
  have hne := splitAt_ne_nil '\n' b
  obtain ⟨last, hlast⟩ : ∃ last, (splitAt '\n' b).getLast? = some last :=
    ⟨_, List.getLast?_eq_some_getLast hne⟩
  unfold lineChars
  simp only [splitAt_append_cons, List.dropLast_append_of_ne_nil hne, List.getLast?_append, hlast,
    Option.some_or, List.map_append]
  cases last with
  | nil => rfl
  | cons c r => exact List.append_assoc _ _ _

/-- After a text whose lines are all closed, another goes on with its own
lines. -/
theorem lines_append {a : String} (h : isClosed a = true) (b : String) :
    lines (a ++ b) = lines a ++ lines b := by
  have hchars : lineChars (a.toList ++ b.toList) = lineChars a.toList ++ lineChars b.toList := by
    rcases List.eq_nil_or_concat a.toList with hnil | ⟨front, last, hlast⟩
    · rw [hnil]
      rfl
    · have hfeed : last = '\n' := by
        simpa [isClosed, hlast] using h
      have hclosed : lineChars (front ++ ['\n']) = (splitAt '\n' front).map dropReturn := by
        rw [lineChars_append_cons]
        exact List.append_nil _
      rw [hlast, hfeed, List.concat_eq_append, List.append_assoc, List.singleton_append,
        lineChars_append_cons, hclosed]
  unfold lines
  rw [String.toList_append, hchars, List.map_append]

end EventAnalytics.Text
