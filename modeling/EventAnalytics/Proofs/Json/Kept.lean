/-
The values that are kept, and reading them back.

A value that was kept out of a text has its integers in 64 bits, its
doubles finite, its keys in increasing order and its containers within the
room there was (`isKept_of_value?`). Of such a value the written text is
kept as well (`exists_value?`): the integers, the keys and the nesting come
back as they were. Only a double may come back as a neighbour of itself,
so a value without doubles comes back whole.
-/
import EventAnalytics.Proofs.Json.Written

namespace EventAnalytics.Json

-- ========================================================= kept values

/-- Whether the keys of some fields increase. -/
def Increasing (fs : List (String × Json)) : Prop := (fs.map Prod.fst).Pairwise (· < ·)

mutual

/-- Whether a value can be kept with room for some containers inside each
other. -/
def IsKept : Nat → Json → Prop
  | _, .integer n => -0x8000000000000000 ≤ n ∧ n ≤ maxSignificand
  | _, .double d => d.exponentField < 2047
  | room, .array items => ∃ r, room = r + 1 ∧ ItemsKept r items
  | room, .object fields =>
    ∃ r, room = r + 1 ∧ FieldsKept r fields ∧ Increasing fields
  | _, _ => True

/-- Whether all items can be kept. -/
def ItemsKept : Nat → List Json → Prop
  | _, [] => True
  | room, v :: vs => v.IsKept room ∧ ItemsKept room vs

/-- Whether the values of all fields can be kept. -/
def FieldsKept : Nat → List (String × Json) → Prop
  | _, [] => True
  | room, (_, v) :: fs => v.IsKept room ∧ FieldsKept room fs

end

/-- Whether a value is a number. -/
def isNumber : Json → Bool
  | .integer _ | .double _ => true
  | _ => false

mutual

/-- Whether all numbers in a value are integers. -/
def onlyIntegers : Json → Bool
  | .double _ => false
  | .array items => itemsOnlyIntegers items
  | .object fields => fieldsOnlyIntegers fields
  | _ => true

/-- Whether all numbers in some items are integers. -/
def itemsOnlyIntegers : List Json → Bool
  | [] => true
  | v :: vs => v.onlyIntegers && itemsOnlyIntegers vs

/-- Whether all numbers in some fields are integers. -/
def fieldsOnlyIntegers : List (String × Json) → Bool
  | [] => true
  | (_, v) :: fs => v.onlyIntegers && fieldsOnlyIntegers fs

end

/-- Fields can be kept when all of their values can. -/
theorem fieldsKept_iff {room : Nat} {fs : List (String × Json)} :
    FieldsKept room fs ↔ ∀ f ∈ fs, f.2.IsKept room := by
  induction fs with
  | nil => exact iff_of_true trivial (fun f hf => absurd hf List.not_mem_nil)
  | cons f fs ih => rw [FieldsKept, ih, List.forall_mem_cons]

mutual

/-- More room keeps what less room keeps. -/
theorem IsKept.mono {room more : Nat} (h : room ≤ more) : ∀ {v : Json}, v.IsKept room → v.IsKept more
  | .null, _ | .bool _, _ | .string _, _ => trivial
  | .integer _, hv | .double _, hv => hv
  | .array _, hv => by
    rw [IsKept] at hv ⊢
    obtain ⟨r, hr, hitems⟩ := hv
    exact ⟨more - 1, by omega, hitems.mono (by omega)⟩
  | .object _, hv => by
    rw [IsKept] at hv ⊢
    obtain ⟨r, hr, hfields, hsorted⟩ := hv
    exact ⟨more - 1, by omega, hfields.mono (by omega), hsorted⟩

/-- Items that can be kept in some room can be in more. -/
theorem ItemsKept.mono {room more : Nat} (h : room ≤ more) :
    ∀ {vs : List Json}, ItemsKept room vs → ItemsKept more vs
  | [], _ => trivial
  | _ :: _, hvs => ⟨hvs.1.mono h, hvs.2.mono h⟩

theorem FieldsKept.mono {room more : Nat} (h : room ≤ more) :
    ∀ {fs : List (String × Json)}, FieldsKept room fs → FieldsKept more fs
  | [], _ => trivial
  | _ :: _, hfs => ⟨hfs.1.mono h, hfs.2.mono h⟩

end

-- ============================================================= fields

/-- Fields increase when the first is below all others and these increase. -/
theorem increasing_cons {f : String × Json} {fs : List (String × Json)} :
    Increasing (f :: fs) ↔ (∀ g ∈ fs, f.1 < g.1) ∧ Increasing fs := by
  unfold Increasing
  rw [List.map_cons, List.pairwise_cons, List.forall_mem_map]

/-- Adding a field brings no other in. -/
theorem mem_insertField {key : String} {value : Json} {fs : List (String × Json)}
    {f : String × Json} (h : f ∈ insertField key value fs) : f = (key, value) ∨ f ∈ fs := by
  induction fs with
  | nil => exact .inl (List.mem_singleton.1 h)
  | cons g fs ih =>
    unfold insertField at h
    split at h
    · rcases List.mem_cons.1 h with rfl | h
      · exact .inl rfl
      · exact .inr h
    · split at h
      · rcases List.mem_cons.1 h with rfl | h
        · exact .inl rfl
        · exact .inr (List.mem_cons_of_mem _ h)
      · rcases List.mem_cons.1 h with rfl | h
        · exact .inr List.mem_cons_self
        · rcases ih h with rfl | h
          · exact .inl rfl
          · exact .inr (List.mem_cons_of_mem _ h)

/-- Adding a field keeps the names in order and apart. -/
theorem increasing_insertField {key : String} {value : Json} {fs : List (String × Json)}
    (h : Increasing fs) : Increasing (insertField key value fs) := by
  induction fs with
  | nil => exact List.pairwise_singleton _ _
  | cons g fs ih =>
    obtain ⟨hless, hrest⟩ := increasing_cons.1 h
    unfold insertField
    split
    · next hlt =>
      refine increasing_cons.2 ⟨?_, h⟩
      intro f hf
      rcases List.mem_cons.1 hf with rfl | hf
      · exact hlt
      · exact String.lt_trans hlt (hless f hf)
    · next hnlt =>
      split
      · next heq => exact increasing_cons.2 ⟨fun f hf => heq ▸ hless f hf, hrest⟩
      · next hne =>
        refine increasing_cons.2 ⟨?_, ih hrest⟩
        intro f hf
        rcases mem_insertField hf with rfl | hf
        · by_contra hge
          exact hne (String.le_antisymm hge hnlt)
        · exact hless f hf

/-- The fields of an object that is put together increase, and each of
them is one of those given. -/
theorem foldl_insertField {fs acc : List (String × Json)} (h : Increasing acc) :
    Increasing (fs.foldl (fun acc f => insertField f.1 f.2 acc) acc)
      ∧ ∀ f ∈ fs.foldl (fun acc f => insertField f.1 f.2 acc) acc, f ∈ acc ∨ f ∈ fs := by
  induction fs generalizing acc with
  | nil => exact ⟨h, fun f hf => .inl hf⟩
  | cons g fs ih =>
    obtain ⟨hincreasing, hmem⟩ := ih (increasing_insertField h)
    refine ⟨hincreasing, ?_⟩
    intro f hf
    rcases hmem f hf with hf | hf
    · rcases mem_insertField hf with rfl | hf
      · exact .inr List.mem_cons_self
      · exact .inl hf
    · exact .inr (List.mem_cons_of_mem _ hf)

/-- A key after all others is put behind them. -/
theorem insertField_of_last {key : String} {value : Json} {fs : List (String × Json)}
    (h : ∀ f ∈ fs, f.1 < key) : insertField key value fs = fs ++ [(key, value)] := by
  induction fs with
  | nil => rfl
  | cons g fs ih =>
    have hlt := h g List.mem_cons_self
    unfold insertField
    rw [if_neg (String.lt_asymm hlt), if_neg (String.ne_of_lt hlt).symm,
      ih (fun f hf => h f (List.mem_cons_of_mem _ hf))]
    rfl

/-- Fields whose keys increase are put together as they are. -/
theorem foldl_insertField_of_increasing {fs acc : List (String × Json)}
    (h : Increasing (acc ++ fs)) :
    fs.foldl (fun acc f => insertField f.1 f.2 acc) acc = acc ++ fs := by
  induction fs generalizing acc with
  | nil => exact (List.append_nil acc).symm
  | cons g fs ih =>
    have hlast : ∀ f ∈ acc, f.1 < g.1 := by
      unfold Increasing at h
      rw [List.map_append, List.pairwise_append] at h
      intro f hf
      exact h.2.2 _ (List.mem_map_of_mem hf) _ List.mem_cons_self
    rw [List.foldl_cons, insertField_of_last hlast, ih (by rwa [List.append_assoc]),
      List.append_assoc]
    rfl

/-- Fields that increase are put together as they stand. -/
theorem ofFields_of_increasing {fs : List (String × Json)} (h : Increasing fs) :
    ofFields fs = .object fs := by
  unfold ofFields
  exact congrArg Json.object (@foldl_insertField_of_increasing fs [] h)

-- ==================================================== what is kept

/-- A number that is kept is an integer of 64 bits or a finite double. -/
theorem Numeral.isKept_of_value? {n : Numeral} {v : Json} (h : n.value? = some v) (room : Nat) :
    v.IsKept room := by
  have hdouble : ∀ {w : Json}, n.double?.map Json.double = some w → w.IsKept room := by
    intro w hw
    obtain ⟨d, hd, rfl⟩ := Option.map_eq_some_iff.1 hw
    rw [IsKept]
    exact Double.exponentField_of_ofScientific? hd
  unfold value? at h
  split at h
  · exact hdouble h
  · simp only at h
    split at h
    · split at h
      · cases h
        rw [IsKept, maxSignificand]
        omega
      · exact hdouble h
    · split at h
      · cases h
        rw [IsKept]
        omega
      · exact hdouble h

mutual

/-- What is read in some room can be kept in it: a case for each kind of
node, and the induction is on nodes, items and fields at once. -/
theorem isKept_of_value? : ∀ {room : Nat} {n : Node} {v : Json},
    n.value? room = some v → v.IsKept room
  | room, .null, v, h => by
    cases h
    exact trivial
  | room, .bool b, v, h => by
    cases h
    exact trivial
  | room, .number n, v, h => n.isKept_of_value? h room
  | room, .string s, v, h => by
    obtain ⟨t, _, rfl⟩ := Option.map_eq_some_iff.1 h
    exact trivial
  | 0, .array items, v, h => by
    cases h
  | room + 1, .array items, v, h => by
    obtain ⟨vs, hvs, rfl⟩ := Option.map_eq_some_iff.1 h
    exact ⟨room, rfl, itemsKept_of_values? hvs⟩
  | 0, .object fields, v, h => by
    cases h
  | room + 1, .object fields, v, h => by
    obtain ⟨fs, hfs, rfl⟩ := Option.map_eq_some_iff.1 h
    obtain ⟨hincreasing, hmem⟩ := @foldl_insertField fs [] List.Pairwise.nil
    refine ⟨room, rfl, ?_, hincreasing⟩
    have hkept := fieldsKept_iff.1 (fieldsKept_of_values? hfs)
    apply fieldsKept_iff.2
    intro f hf
    rcases hmem f hf with hf | hf
    · exact absurd hf List.not_mem_nil
    · exact hkept f hf

theorem itemsKept_of_values? : ∀ {room : Nat} {ns : List Node} {vs : List Json},
    itemValues? room ns = some vs → ItemsKept room vs
  | room, [], vs, h => by
    cases h
    exact trivial
  | room, n :: ns, vs, h => by
    unfold itemValues? at h
    split at h
    · next w ws hw hws =>
      cases h
      exact ⟨isKept_of_value? hw, itemsKept_of_values? hws⟩
    · cases h

theorem fieldsKept_of_values? : ∀ {room : Nat} {ns : List (Option String × Node)}
    {fs : List (String × Json)}, fieldValues? room ns = some fs → FieldsKept room fs
  | room, [], fs, h => by
    cases h
    exact trivial
  | room, (k, n) :: ns, fs, h => by
    unfold fieldValues? at h
    split at h
    · next w ws hw hws =>
      cases h
      exact ⟨isKept_of_value? hw, fieldsKept_of_values? hws⟩
    · cases h

end

-- =================================================== what comes back

/-- A numeral that was written of an integer in the range of machine words is
read as that integer. -/
theorem value?_ofInt {n : Int} (h : -0x8000000000000000 ≤ n ∧ n ≤ maxSignificand) :
    (Numeral.ofInt n).value? = some (.integer n) := by
  have hself := Text.digitsValue_numeral n.natAbs
  unfold Numeral.value? Numeral.ofInt
  simp only [Option.isSome_none, Bool.or_self, Bool.false_eq_true, if_false]
  rw [hself]
  by_cases hneg : n < 0
  · have hfits : 0 < n.natAbs ∧ n.natAbs ≤ 0x8000000000000000 := by omega
    rw [if_pos (decide_eq_true hneg), if_pos hfits]
    congr 2
    omega
  · have hfits : n.natAbs ≤ maxSignificand := by omega
    have hpos : ¬decide (n < 0) = true := by
      intro h
      exact hneg (of_decide_eq_true h)
    rw [if_neg hpos, if_pos hfits]
    congr 2
    omega

mutual

/-- What is written for a kept value is kept, and is the same value when
that has no doubles. -/
theorem exists_value? : ∀ {room : Nat} {v : Json}, v.IsKept room →
    ∃ w, v.node.value? room = some w ∧ (v.onlyIntegers = true → w = v)
  | room, .null, _ => ⟨_, rfl, fun _ => rfl⟩
  | room, .bool b, _ => ⟨_, rfl, fun _ => rfl⟩
  | room, .string s, _ => ⟨_, rfl, fun _ => rfl⟩
  | room, .integer n, h => by
    rw [IsKept] at h
    exact ⟨_, value?_ofInt h, fun _ => rfl⟩
  | room, .double d, h => by
    rw [IsKept] at h
    obtain ⟨d', hd', _⟩ := Double.value?_numeral h
    refine ⟨_, hd', ?_⟩
    intro hints
    rw [onlyIntegers] at hints
    cases hints
  | room, .array items, h => by
    rw [IsKept] at h
    obtain ⟨r, rfl, hitems⟩ := h
    -- What comes back of the items differs from them in nothing but doubles.
    obtain ⟨ws, hws, hsame⟩ := exists_itemValues? hitems
    refine ⟨.array ws, ?_, ?_⟩
    · rw [node, Node.value?, hws]
      rfl
    · intro hints
      rw [onlyIntegers] at hints
      rw [hsame hints]
  | room, .object fields, h => by
    rw [IsKept] at h
    obtain ⟨r, rfl, hfields, hincreasing⟩ := h
    obtain ⟨ws, hws, hkeys, hsame⟩ := exists_fieldValues? hfields
    -- The keys of what is kept increase already, so the object is built in
    -- their order.
    have hobject : ofFields ws = .object ws := by
      apply ofFields_of_increasing
      unfold Increasing
      rw [hkeys]
      exact hincreasing
    refine ⟨.object ws, ?_, ?_⟩
    · rw [node, Node.value?, hws, ← hobject]
      rfl
    · intro hints
      rw [onlyIntegers] at hints
      rw [hsame hints]

theorem exists_itemValues? : ∀ {room : Nat} {vs : List Json}, ItemsKept room vs →
    ∃ ws, itemValues? room (itemNodes vs) = some ws
      ∧ (itemsOnlyIntegers vs = true → ws = vs)
  | room, [], _ => ⟨_, rfl, fun _ => rfl⟩
  | room, v :: vs, h => by
    obtain ⟨w, hw, hsame⟩ := exists_value? h.1
    obtain ⟨ws, hws, hsames⟩ := exists_itemValues? h.2
    refine ⟨w :: ws, ?_, ?_⟩
    · rw [itemNodes, itemValues?, hw, hws]
    · intro hints
      rw [itemsOnlyIntegers, Bool.and_eq_true] at hints
      rw [hsame hints.1, hsames hints.2]

theorem exists_fieldValues? : ∀ {room : Nat} {fs : List (String × Json)}, FieldsKept room fs →
    ∃ ws, fieldValues? room (fieldNodes fs) = some ws ∧ ws.map Prod.fst = fs.map Prod.fst
      ∧ (fieldsOnlyIntegers fs = true → ws = fs)
  | room, [], _ => ⟨_, rfl, rfl, fun _ => rfl⟩
  | room, (k, v) :: fs, h => by
    obtain ⟨w, hw, hsame⟩ := exists_value? h.1
    obtain ⟨ws, hws, hkeys, hsames⟩ := exists_fieldValues? h.2
    refine ⟨(k, w) :: ws, ?_, ?_, ?_⟩
    · rw [fieldNodes]
      unfold fieldValues?
      rw [hw, hws]
    · rw [List.map_cons, List.map_cons, hkeys]
    · intro hints
      rw [fieldsOnlyIntegers, Bool.and_eq_true] at hints
      rw [hsame hints.1, hsames hints.2]

end

/-- The text of a kept value is the text of a value. -/
theorem ofText?_of_isKept {v : Json} (h : v.IsKept maxDepth) :
    ∃ w, ofText? v.text = some w ∧ (v.onlyIntegers = true → w = v) := by
  obtain ⟨w, hw, hsame⟩ := exists_value? h
  refine ⟨w, ?_, hsame⟩
  unfold ofText?
  rw [ofText?_text, Option.bind_some, hw]

end EventAnalytics.Json
