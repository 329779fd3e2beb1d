/-
Records in writing, and reading them back.

A record is written by its fields in the order of its form, and a field
without a value is left out. As a value that is an object whose keys are
in no order of their own (`written`), so that what holds of the text of
values holds of the text of records.

The form of a record knows every field by its usual name and by others
that nobody else uses (`RecordForm.Names`). Then each field finds its own
value and no other (`mapM_atMostOne?`), and reading gives for each field
in turn what was written, or nothing where it was left out
(`record?_written`). The induction goes along the form, with the fields
that have been passed in front: none of these can be taken for a later
one.
-/
import EventAnalytics.Json.Layout
import EventAnalytics.Json.Record
import EventAnalytics.Proofs.Json.Nesting

namespace EventAnalytics.Json

-- ============================================================ writing

/-- A record as a value, without the fields that have none. -/
def written (fields : List (String × Option Json)) : Json :=
  .object (fields.filterMap fun f => f.2.map fun v => (f.1, v))

theorem toList_text (v : Json) : v.text.toList = v.chars := String.toList_ofList

/-- A field of a record as its text stands in the record's text. -/
def fieldText (f : String × String) : String := (Json.string f.1).text ++ ":" ++ f.2

/-- The characters of a field are those of its name and of its value. -/
theorem toList_fieldText (k : String) (v : Json) :
    (fieldText (k, v.text)).toList = stringChars k ++ ':' :: v.chars := by
  unfold fieldText
  rw [String.toList_append, String.toList_append, toList_text, toList_text, List.append_assoc]
  rfl

/-- The characters of some fields, with commas between them. -/
theorem toList_fieldTexts (k : String) (v : Json) (fs : List (String × Json)) :
    (String.intercalate "," (((k, v) :: fs).map fun f => fieldText (f.1, f.2.text))).toList
      = stringChars k ++ ':' :: (v.chars ++ moreFields fs) := by
  induction fs generalizing k v with
  | nil =>
    rw [List.map_singleton, String.intercalate_singleton, toList_fieldText, moreFields,
      List.append_nil]
  | cons f fs ih =>
    have hrest := ih f.1 f.2
    rw [List.map_cons] at hrest
    rw [List.map_cons, List.map_cons, String.intercalate_cons_cons, String.toList_append,
      String.toList_append, toList_fieldText, hrest, moreFields]
    simp only [List.append_assoc, List.cons_append]
    rfl

/-- The text of a record is the text of an object. -/
theorem recordText_eq (fs : List (String × Json)) :
    recordText (fs.map fun f => (f.1, f.2.text)) = (Json.object fs).text := by
  have hmap : (fs.map fun f => (f.1, f.2.text)).map fieldText
      = fs.map fun f => fieldText (f.1, f.2.text) := List.map_map
  apply String.toList_inj.1
  show ("\x7b" ++ String.intercalate "," (List.map fieldText _) ++ "\x7d").toList = _
  rw [hmap, toList_text, String.toList_append, String.toList_append]
  cases fs with
  | nil => rfl
  | cons f fs =>
    rw [toList_fieldTexts, chars]
    simp only [List.append_assoc, List.cons_append]
    rfl

/-- The names and texts of the fields that have a value. -/
def fieldTexts (fields : List (String × Option Json)) : List (String × String) :=
  fields.filterMap fun f => f.2.map fun v => (f.1, v.text)

/-- What is written of a record is the text of the fields that it has. -/
theorem text_written (fields : List (String × Option Json)) :
    (written fields).text = recordText (fieldTexts fields) := by
  unfold written fieldTexts
  rw [← recordText_eq, List.map_filterMap]
  simp only [Option.map_map]
  rfl

theorem fieldTexts_append (fs gs : List (String × Option Json)) :
    fieldTexts (fs ++ gs) = fieldTexts fs ++ fieldTexts gs := List.filterMap_append

/-- A field that may be missing is written like one that is there, or not at
all. -/
theorem optionalField_eq {α : Type} {shown : α → String} {write : α → Json}
    (h : ∀ a, shown a = (write a).text) (name : String) (o : Option α) :
    optionalField name shown o = fieldTexts [(name, o.map write)] := by
  cases o with
  | none => rfl
  | some a =>
    show [(name, shown a)] = _
    rw [h a]
    rfl

theorem optionalText_eq (name : String) (o : Option String) :
    optionalText name o = fieldTexts [(name, o.map Json.string)] :=
  optionalField_eq (fun _ => rfl) name o

/-- The characters of some items, with commas between them. -/
theorem toList_itemTexts (v : Json) (vs : List Json) :
    (String.intercalate "," ((v :: vs).map text)).toList = v.chars ++ moreItems vs := by
  induction vs generalizing v with
  | nil =>
    rw [List.map_singleton, String.intercalate_singleton, toList_text, moreItems, List.append_nil]
  | cons w vs ih =>
    have hrest := ih w
    rw [List.map_cons] at hrest
    rw [List.map_cons, List.map_cons, String.intercalate_cons_cons, String.toList_append,
      String.toList_append, toList_text, hrest, moreItems, List.append_assoc]
    rfl

/-- The text of a list is the text of an array. -/
theorem listText_eq (vs : List Json) : listText (vs.map text) = (Json.array vs).text := by
  apply String.toList_inj.1
  unfold listText
  rw [toList_text, String.toList_append, String.toList_append]
  cases vs with
  | nil => rfl
  | cons v vs =>
    rw [toList_itemTexts, chars]
    simp only [List.append_assoc, List.cons_append]
    rfl

/-- A list of texts is written as the array of them. -/
theorem textsText_eq (ss : List String) :
    textsText ss = (Json.array (ss.map Json.string)).text := by
  rw [← listText_eq, List.map_map]
  rfl

-- ============================================================= fields

/-- The form lists fields by their usual names, and no name twice. -/
def RecordForm.Names (form : RecordForm) (names : List String) : Prop :=
  form.names.map List.head? = names.map some ∧ form.names.flatten.Nodup

instance (form : RecordForm) (names : List String) : Decidable (form.Names names) :=
  inferInstanceAs (Decidable (_ ∧ _))

theorem fieldNodes_eq_map (fs : List (String × Json)) :
    fieldNodes fs = fs.map fun f => (some f.1, f.2.node) := by
  induction fs with
  | nil => rfl
  | cons f fs ih => rw [fieldNodes, ih, List.map_cons]

/-- The fields of a written record as a tree. -/
def writtenNodes (fields : List (String × Option Json)) : List (Option String × Node) :=
  fieldNodes (fields.filterMap fun f => f.2.map fun v => (f.1, v))

/-- What is written of two lists of fields is what is written of the one and
then of the other. -/
theorem writtenNodes_append (fs gs : List (String × Option Json)) :
    writtenNodes (fs ++ gs) = writtenNodes fs ++ writtenNodes gs := by
  unfold writtenNodes
  rw [List.filterMap_append, fieldNodes_eq_map, fieldNodes_eq_map, fieldNodes_eq_map,
    List.map_append]

theorem underNames_append (names : List String) (fs gs : List (Option String × Node)) :
    underNames names (fs ++ gs) = underNames names fs ++ underNames names gs :=
  List.filterMap_append

/-- Whatever is written under a name is a field of that name. -/
theorem mem_writtenNodes {fields : List (String × Option Json)} {g : Option String × Node}
    (h : g ∈ writtenNodes fields) : ∃ f ∈ fields, g.1 = some f.1 := by
  unfold writtenNodes at h
  rw [fieldNodes_eq_map] at h
  obtain ⟨g', hg', rfl⟩ := List.mem_map.1 h
  obtain ⟨f, hf, hv⟩ := List.mem_filterMap.1 hg'
  obtain ⟨v, -, rfl⟩ := Option.map_eq_some_iff.1 hv
  exact ⟨f, hf, rfl⟩

/-- Under names that are no field's there is nothing. -/
theorem underNames_eq_nil {names : List String} {fields : List (String × Option Json)}
    (h : ∀ f ∈ fields, f.1 ∉ names) : underNames names (writtenNodes fields) = [] := by
  unfold underNames
  rw [List.filterMap_eq_nil_iff]
  intro g hg
  obtain ⟨f, hf, hkey⟩ := mem_writtenNodes hg
  simp only [hkey, List.contains_eq_mem, h f hf, decide_false, Bool.false_eq_true, if_false]

/-- A field is found under its own name, if it is there. -/
theorem underNames_self {names : List String} {f : String × Option Json} (h : f.1 ∈ names) :
    underNames names (writtenNodes [f]) = (f.2.map node).toList := by
  unfold underNames writtenNodes
  obtain ⟨k, v | v⟩ := f
  · rfl
  · simp [fieldNodes, h]

/-- A field finds what was written for it. -/
theorem atMostOne?_written {names : List String} {before after : List (String × Option Json)}
    {f : String × Option Json} (hf : f.1 ∈ names) (hbefore : ∀ g ∈ before, g.1 ∉ names)
    (hafter : ∀ g ∈ after, g.1 ∉ names) :
    atMostOne? names (writtenNodes (before ++ f :: after)) = some (f.2.map node) := by
  have hunder : underNames names (writtenNodes (before ++ f :: after)) = (f.2.map node).toList := by
    rw [writtenNodes_append, ← List.singleton_append, writtenNodes_append, underNames_append,
      underNames_append, underNames_eq_nil hbefore, underNames_eq_nil hafter, underNames_self hf,
      List.append_nil, List.nil_append]
  unfold atMostOne?
  rw [hunder]
  cases f.2 <;> rfl

/-- Every field of a form finds its own value, whatever other fields have
been passed. -/
theorem mapM_atMostOne? {names : List (List String)} {before fields : List (String × Option Json)}
    (hheads : names.map List.head? = (fields.map Prod.fst).map some)
    (hdistinct : names.flatten.Nodup) (hbefore : ∀ f ∈ before, f.1 ∉ names.flatten) :
    names.mapM (fun ns => atMostOne? ns (writtenNodes (before ++ fields)))
      = some (fields.map fun f => f.2.map node) := by
  induction names generalizing before fields with
  | nil =>
    rw [List.map_nil, List.map_map, eq_comm, List.map_eq_nil_iff] at hheads
    rw [hheads]
    rfl
  | cons ns names ih =>
    -- there are as many fields as names, since each goes by the first of its
    -- own
    obtain ⟨f, fs, rfl⟩ : ∃ f fs, fields = f :: fs := by
      cases fields with
      | nil => cases hheads
      | cons f fs => exact ⟨f, fs, rfl⟩
    simp only [List.map_cons, List.cons.injEq] at hheads
    obtain ⟨hhead, htail⟩ := hheads
    have hf : f.1 ∈ ns := List.mem_of_mem_head? hhead
    obtain ⟨-, hrest, hapart⟩ := List.nodup_append.1 (List.flatten_cons ▸ hdistinct)
    -- a later field goes by the first of its own names, which are not among these
    have hafter : ∀ g ∈ fs, g.1 ∉ ns := by
      intro g hg hmem
      have hname : some g.1 ∈ names.map List.head? :=
        htail ▸ List.mem_map_of_mem (List.mem_map_of_mem hg)
      obtain ⟨ns', hns', hhead'⟩ := List.mem_map.1 hname
      have hflat : g.1 ∈ names.flatten :=
        List.mem_flatten.2 ⟨ns', hns', List.mem_of_mem_head? hhead'⟩
      exact hapart g.1 hmem g.1 hflat rfl
    have hpassed : ∀ g ∈ before, g.1 ∉ ns ∧ g.1 ∉ names.flatten := by
      intro g hg
      have hnone := hbefore g hg
      rw [List.flatten_cons, List.mem_append, not_or] at hnone
      exact hnone
    have hpassed' : ∀ g ∈ before ++ [f], g.1 ∉ names.flatten := by
      intro g hg
      rcases List.mem_append.1 hg with hg | hg
      · exact (hpassed g hg).2
      · rw [List.mem_singleton.1 hg]
        exact fun hmem => hapart f.1 hf f.1 hmem rfl
    -- the field joins those that have been passed, for the names that are
    -- left
    have hnext := ih htail hrest hpassed'
    rw [List.append_assoc, List.singleton_append] at hnext
    rw [List.mapM_cons, atMostOne?_written hf (fun g hg => (hpassed g hg).1) hafter, hnext]
    rfl

/-- What is written with the names of a form is admitted by it. -/
theorem admits_written {form : RecordForm} {fields : List (String × Option Json)}
    (h : form.Names (fields.map Prod.fst)) : form.admits (writtenNodes fields) = true := by
  unfold RecordForm.admits
  rw [List.all_eq_true]
  intro g hg
  obtain ⟨f, hf, hkey⟩ := mem_writtenNodes hg
  have hname : some f.1 ∈ form.names.map List.head? :=
    h.1 ▸ List.mem_map_of_mem (List.mem_map_of_mem hf)
  obtain ⟨ns, hns, hhead⟩ := List.mem_map.1 hname
  have hany : (form.names.any fun names => names.contains f.1) = true :=
    List.any_eq_true.2 ⟨ns, hns, by simpa using List.mem_of_mem_head? hhead⟩
  simp only [hkey, hany, Bool.or_true]

/-- Reading a written record gives each field what was written for it. -/
theorem record?_written {form : RecordForm} {fields : List (String × Option Json)}
    (h : form.Names (fields.map Prod.fst)) (room : Nat) :
    Place.record? form ⟨room + 1, (written fields).node⟩
      = some (fields.map fun f => f.2.map fun v => ⟨room, v.node⟩) := by
  have hfound := @mapM_atMostOne? form.names [] fields h.1 h.2 (List.forall_mem_nil _)
  unfold written
  rw [node]
  show (if form.admits (writtenNodes fields) then _ else none) = _
  rw [admits_written h, if_pos rfl]
  show (List.mapM (fun ns => atMostOne? ns (writtenNodes ([] ++ fields))) form.names).map _ = _
  rw [hfound, Option.map_some, List.map_map]
  congr 2
  funext f
  exact Option.map_map _ _ _

/-- A written record is nested one deeper than its fields. -/
theorem depth_written_le_iff {room : Nat} {fields : List (String × Option Json)} :
    (written fields).depth ≤ room + 1 ↔ ∀ f ∈ fields, ∀ v ∈ f.2, v.depth ≤ room := by
  unfold written
  rw [depth, Nat.add_le_add_iff_right, fieldsDepth_le_iff]
  simp only [List.mem_filterMap, Option.map_eq_some_iff, Option.mem_def]
  constructor
  · intro h f hf v hv
    exact h (f.1, v) ⟨f, hf, v, hv, rfl⟩
  · rintro h g ⟨f, hf, v, hv, rfl⟩
    exact h f hf v hv

/-- Texts are not nested. -/
theorem depth_le_of_string {o : Option String} {v : Json} (h : v ∈ o.map Json.string)
    (room : Nat) : v.depth ≤ room := by
  obtain ⟨s, -, rfl⟩ := Option.map_eq_some_iff.1 h
  exact Nat.zero_le room

-- =========================================================== decoders

variable {α : Type} {decode : Place → Option α} {write : α → Json}

theorem text?_string (room : Nat) (s : String) :
    Place.text? ⟨room, (Json.string s).node⟩ = some s := rfl

/-- A field that may be left out is read back as what it was, provided that
no value of it is written as `null`. -/
theorem fieldOr_optional (hnull : ∀ a, (write a).node ≠ .null) {room : Nat} {o : Option α}
    (hread : ∀ a ∈ o, decode ⟨room, (write a).node⟩ = some a) :
    fieldOr none (Place.optional? decode) ((o.map write).map fun v => ⟨room, v.node⟩)
      = some o := by
  cases o with
  | none => rfl
  | some a =>
    show Place.optional? decode ⟨room, (write a).node⟩ = _
    unfold Place.optional?
    rw [hread a rfl]
    split
    · next h => exact absurd h (hnull a)
    · rfl

/-- A text that may be missing is read back as it was written. -/
theorem fieldOr_optionalText (room : Nat) (o : Option String) :
    fieldOr none (Place.optional? Place.text?)
      ((o.map Json.string).map fun v => ⟨room, v.node⟩) = some o :=
  @fieldOr_optional _ _ Json.string (fun _ h => nomatch h) room o fun s _ => text?_string room s

/-- A list is read back item by item. -/
theorem list?_array {room : Nat} (hread : ∀ a, decode ⟨room, (write a).node⟩ = some a)
    (as : List α) : Place.list? decode ⟨room + 1, (Json.array (as.map write)).node⟩ = some as := by
  rw [node]
  show (itemNodes (as.map write)).mapM (fun n => decode ⟨room, n⟩) = some as
  induction as with
  | nil => rfl
  | cons a as ih =>
    rw [List.map_cons, itemNodes, List.mapM_cons, hread a, ih]
    rfl

/-- A list of texts is read back as it was written. -/
theorem texts?_array (room : Nat) (ss : List String) :
    Place.texts? ⟨room + 1, (Json.array (ss.map Json.string)).node⟩ = some ss :=
  list?_array (text?_string room) ss

/-- Reading the text of a value is reading its tree. -/
theorem decodeText_text (decode : Place → Option α) (v : Json) :
    decodeText decode v.text = decode ⟨maxDepth, v.node⟩ := by
  unfold decodeText
  rw [ofText?_text, Option.bind_some]

end EventAnalytics.Json
