/-
Which texts are documents.

A text that is made of the tokens of a tree is a document when the tree is
within the limits of what is kept: so many containers inside each other
and no more, no number too large for a double, and no string that names no
text. `Node.isSome_value?_iff` tells these limits by induction on trees,
a container passing on one less room than it was given, and
`isDocument_iff` says them of texts.
-/
import EventAnalytics.Proofs.Json.Tree

namespace EventAnalytics.Json

-- ============================================================== limits

mutual

/-- How many containers of a tree stand inside each other. -/
def Node.depth : Node → Nat
  | .array items => itemNodesDepth items + 1
  | .object fields => fieldNodesDepth fields + 1
  | _ => 0

/-- The depth of the deepest item. -/
def itemNodesDepth : List Node → Nat
  | [] => 0
  | v :: vs => max v.depth (itemNodesDepth vs)

/-- The depth of the deepest value of a field. -/
def fieldNodesDepth : List (Option String × Node) → Nat
  | [] => 0
  | (_, v) :: fs => max v.depth (fieldNodesDepth fs)

end

mutual

/-- Whether all numbers in a tree have a value, and all strings and keys
name a text. -/
def Node.IsSound : Node → Prop
  | .number n => n.value?.isSome = true
  | .string s => s.isSome = true
  | .array items => ItemsSound items
  | .object fields => FieldsSound fields
  | _ => True

/-- Whether all items are sound. -/
def ItemsSound : List Node → Prop
  | [] => True
  | v :: vs => v.IsSound ∧ ItemsSound vs

/-- Whether the keys and the values of all fields are sound. -/
def FieldsSound : List (Option String × Node) → Prop
  | [] => True
  | (k, v) :: fs => k.isSome = true ∧ v.IsSound ∧ FieldsSound fs

end

mutual

/-- A sound tree is kept where there is room for it, and no other is. -/
theorem Node.isSome_value?_iff : ∀ {v : Node} {room : Nat},
    (v.value? room).isSome = true ↔ v.depth ≤ room ∧ v.IsSound
  | .null, room | .bool _, room => iff_of_true rfl ⟨Nat.zero_le room, trivial⟩
  | .number n, room => (and_iff_right (Nat.zero_le room)).symm
  | .string s, room => by
    rw [Node.value?, Option.isSome_map]
    exact (and_iff_right (Nat.zero_le room)).symm
  | .array items, 0 => iff_of_false nofun (fun h => absurd h.1 (Nat.not_succ_le_zero _))
  | .array items, room + 1 => by
    rw [Node.value?, Option.isSome_map, isSome_itemValues?_iff, Node.depth, Node.IsSound,
      Nat.add_le_add_iff_right]
  | .object fields, 0 => iff_of_false nofun (fun h => absurd h.1 (Nat.not_succ_le_zero _))
  | .object fields, room + 1 => by
    rw [Node.value?, Option.isSome_map, isSome_fieldValues?_iff, Node.depth, Node.IsSound,
      Nat.add_le_add_iff_right]

theorem isSome_itemValues?_iff : ∀ {vs : List Node} {room : Nat},
    (itemValues? room vs).isSome = true ↔ itemNodesDepth vs ≤ room ∧ ItemsSound vs
  | [], room => iff_of_true rfl ⟨Nat.zero_le room, trivial⟩
  | v :: vs, room => by
    have hboth : (itemValues? room (v :: vs)).isSome
        = ((v.value? room).isSome && (itemValues? room vs).isSome) := by
      rw [itemValues?]
      cases v.value? room <;> cases itemValues? room vs <;> rfl
    rw [hboth, Bool.and_eq_true, Node.isSome_value?_iff, isSome_itemValues?_iff, itemNodesDepth,
      ItemsSound, Nat.max_le, and_and_and_comm]

theorem isSome_fieldValues?_iff : ∀ {fs : List (Option String × Node)} {room : Nat},
    (fieldValues? room fs).isSome = true ↔ fieldNodesDepth fs ≤ room ∧ FieldsSound fs
  | [], room => iff_of_true rfl ⟨Nat.zero_le room, trivial⟩
  | (k, v) :: fs, room => by
    have hform : fieldValues? room ((k, v) :: fs)
        = match k, v.value? room, fieldValues? room fs with
          | some k, some w, some ws => some ((k, w) :: ws)
          | _, _, _ => none :=
      fieldValues?.eq_def room ((k, v) :: fs)
    have hall : (fieldValues? room ((k, v) :: fs)).isSome
        = (k.isSome && ((v.value? room).isSome && (fieldValues? room fs).isSome)) := by
      rw [hform]
      cases k <;> cases v.value? room <;> cases fieldValues? room fs <;> rfl
    rw [hall, Bool.and_eq_true, Bool.and_eq_true, Node.isSome_value?_iff,
      isSome_fieldValues?_iff, fieldNodesDepth, FieldsSound, Nat.max_le]
    tauto

end

-- ============================================================ documents

/-- The documents: the texts of sound trees of a limited depth. -/
def IsDocument (s : String) : Prop :=
  ∃ n : Node, Lexes s.toList n.tokenList ∧ n.depth ≤ maxDepth ∧ n.IsSound

/-- The documents that stand for a value. -/
def IsDocumentOf (s : String) (v : Json) : Prop :=
  ∃ n : Node, Lexes s.toList n.tokenList ∧ n.value? maxDepth = some v

/-- A text is read as the value that it is a document of. -/
theorem ofText?_eq_some_iff {s : String} {v : Json} : ofText? s = some v ↔ IsDocumentOf s v := by
  unfold ofText?
  rw [Option.bind_eq_some_iff]
  simp only [Node.ofText?_eq_some_iff, IsDocumentOf]

/-- Every document is one of a value. -/
theorem isDocument_iff {s : String} : IsDocument s ↔ ∃ v, IsDocumentOf s v := by
  constructor
  · intro h
    obtain ⟨n, hlexes, hlimits⟩ := h
    obtain ⟨v, hvalue⟩ := Option.isSome_iff_exists.1 (Node.isSome_value?_iff.2 hlimits)
    exact ⟨v, n, hlexes, hvalue⟩
  · intro h
    obtain ⟨v, n, hlexes, hvalue⟩ := h
    exact ⟨n, hlexes, Node.isSome_value?_iff.1 (Option.isSome_of_eq_some hvalue)⟩

end EventAnalytics.Json
