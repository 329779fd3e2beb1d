/-
How deep values are nested, and what that decides.

A value is exact when nothing in it can be lost in writing: its numbers
are integers of 64 bits and the keys of its objects increase. Whether the
text of such a value is kept is a matter of nesting alone. `value?_node`
is the law: with room for as many containers inside each other as the
value has, it comes back whole, and with less room not at all. The
induction is over the value, a container passing on one less room than it
was given.
-/
import EventAnalytics.Proofs.Json.Kept

namespace EventAnalytics.Json

mutual

/-- How many containers of a value stand inside each other. -/
def depth : Json → Nat
  | .array items => itemsDepth items + 1
  | .object fields => fieldsDepth fields + 1
  | _ => 0

/-- The depth of the deepest item. -/
def itemsDepth : List Json → Nat
  | [] => 0
  | v :: vs => max v.depth (itemsDepth vs)

/-- The depth of the deepest value of a field. -/
def fieldsDepth : List (String × Json) → Nat
  | [] => 0
  | (_, v) :: fs => max v.depth (fieldsDepth fs)

end

theorem fieldsDepth_le_iff {room : Nat} {fs : List (String × Json)} :
    fieldsDepth fs ≤ room ↔ ∀ f ∈ fs, f.2.depth ≤ room := by
  induction fs with
  | nil => exact iff_of_true (Nat.zero_le _) (List.forall_mem_nil _)
  | cons f fs ih => rw [fieldsDepth, Nat.max_le, ih, List.forall_mem_cons]

mutual

/-- Whether all numbers in a value are integers of 64 bits, with a sign or
without, and the keys of all its objects increase. -/
def IsExact : Json → Prop
  | .integer n => -0x8000000000000000 ≤ n ∧ n ≤ maxSignificand
  | .double _ => False
  | .array items => ItemsExact items
  | .object fields => FieldsExact fields ∧ Increasing fields
  | _ => True

/-- Whether all items are exact. -/
def ItemsExact : List Json → Prop
  | [] => True
  | v :: vs => v.IsExact ∧ ItemsExact vs

/-- Whether the values of all fields are exact. -/
def FieldsExact : List (String × Json) → Prop
  | [] => True
  | (_, v) :: fs => v.IsExact ∧ FieldsExact fs

end

mutual

/-- The tree of an exact value is kept as the value when there is room for
its depth, and refused otherwise. -/
theorem value?_node : ∀ {v : Json}, v.IsExact → ∀ room : Nat,
    v.node.value? room = if v.depth ≤ room then some v else none
  | .null, _, room | .bool _, _, room | .string _, _, room => (if_pos (Nat.zero_le room)).symm
  | .integer n, h, room => by
    rw [IsExact] at h
    exact (value?_ofInt h).trans (if_pos (Nat.zero_le room)).symm
  | .double d, h, room => by
    rw [IsExact] at h
    exact h.elim
  | .array items, h, 0 => rfl
  | .array items, h, room + 1 => by
    rw [IsExact] at h
    rw [node, Node.value?, depth, itemValues?_itemNodes h room]
    simp only [Nat.add_le_add_iff_right, apply_ite (Option.map Json.array), Option.map_some,
      Option.map_none]
  | .object fields, h, 0 => rfl
  | .object fields, h, room + 1 => by
    rw [IsExact] at h
    rw [node, Node.value?, depth, fieldValues?_fieldNodes h.1 room]
    simp only [Nat.add_le_add_iff_right, apply_ite (Option.map ofFields), Option.map_some,
      Option.map_none, ofFields_of_increasing h.2]

theorem itemValues?_itemNodes : ∀ {vs : List Json}, ItemsExact vs → ∀ room : Nat,
    itemValues? room (itemNodes vs) = if itemsDepth vs ≤ room then some vs else none
  | [], _, room => (if_pos (Nat.zero_le room)).symm
  | v :: vs, h, room => by
    rw [itemNodes, itemValues?, value?_node h.1 room, itemValues?_itemNodes h.2 room, itemsDepth]
    by_cases hv : v.depth ≤ room
    · by_cases hvs : itemsDepth vs ≤ room
      · rw [if_pos hv, if_pos hvs, if_pos (Nat.max_le.2 ⟨hv, hvs⟩)]
      · rw [if_pos hv, if_neg hvs, if_neg (fun h => hvs (Nat.max_le.1 h).2)]
    · rw [if_neg hv, if_neg (fun h => hv (Nat.max_le.1 h).1)]

theorem fieldValues?_fieldNodes : ∀ {fs : List (String × Json)}, FieldsExact fs → ∀ room : Nat,
    fieldValues? room (fieldNodes fs) = if fieldsDepth fs ≤ room then some fs else none
  | [], _, room => (if_pos (Nat.zero_le room)).symm
  | (k, v) :: fs, h, room => by
    rw [fieldNodes, fieldsDepth]
    unfold fieldValues?
    rw [value?_node h.1 room, fieldValues?_fieldNodes h.2 room]
    by_cases hv : v.depth ≤ room
    · by_cases hfs : fieldsDepth fs ≤ room
      · rw [if_pos hv, if_pos hfs, if_pos (Nat.max_le.2 ⟨hv, hfs⟩)]
      · rw [if_pos hv, if_neg hfs, if_neg (fun h => hfs (Nat.max_le.1 h).2)]
    · rw [if_neg hv, if_neg (fun h => hv (Nat.max_le.1 h).1)]

end

end EventAnalytics.Json
