/-
Outcomes of steps that may fail.

A step that is made of others has succeeded only if these have, and has
failed at the first that has not. Said once for chains (`bind_eq_ok`,
`bind_eq_error`) and for lists (`mapM_eq_ok_iff`, `mapM_eq_error`), this is
how every outcome is taken apart, with no case analysis of its own.
-/

namespace EventAnalytics

variable {ε δ α β γ ρ σ : Type}

-- ============================================================= chains

/-- A chain that succeeds does so in both of its links. -/
theorem bind_eq_ok {x : Except ε α} {f : α → Except ε β} {b : β} (h : x >>= f = .ok b) :
    ∃ a, x = .ok a ∧ f a = .ok b := by
  cases x with
  | error e => cases h
  | ok a => exact ⟨a, rfl, h⟩

/-- A chain that fails does so in its first link, or in its second after the
first has succeeded. -/
theorem bind_eq_error {x : Except ε α} {f : α → Except ε β} {e : ε} (h : x >>= f = .error e) :
    x = .error e ∨ ∃ a, x = .ok a ∧ f a = .error e := by
  cases x with
  | error e' =>
    cases h
    exact .inl rfl
  | ok a => exact .inr ⟨a, rfl, h⟩

/-- And only in these two ways. -/
theorem bind_eq_error_iff {x : Except ε α} {f : α → Except ε β} {e : ε} :
    x >>= f = .error e ↔ x = .error e ∨ ∃ a, x = .ok a ∧ f a = .error e := by
  refine ⟨bind_eq_error, ?_⟩
  intro h
  rcases h with rfl | ⟨a, rfl, ha⟩
  · rfl
  · exact ha

/-- A chain succeeds when both of its links do. -/
theorem exists_bind_iff {x : Except ε α} {f : α → Except ε β} :
    (∃ b, x >>= f = .ok b) ↔ ∃ a, x = .ok a ∧ ∃ b, f a = .ok b := by
  constructor
  · intro h
    obtain ⟨b, h⟩ := h
    obtain ⟨a, ha, hb⟩ := bind_eq_ok h
    exact ⟨a, ha, b, hb⟩
  · intro h
    obtain ⟨a, rfl, b, hb⟩ := h
    exact ⟨b, hb⟩

theorem map_eq_ok {x : Except ε α} {f : α → β} {b : β} (h : x.map f = .ok b) :
    ∃ a, x = .ok a ∧ b = f a := by
  cases x with
  | error e => cases h
  | ok a =>
    cases h
    exact ⟨a, rfl, rfl⟩

theorem map_eq_error {x : Except ε α} {f : α → β} {e : ε} (h : x.map f = .error e) :
    x = .error e := by
  cases x with
  | error e' =>
    cases h
    rfl
  | ok a => cases h

theorem map_eq_error_iff {x : Except ε α} {f : α → β} {e : ε} :
    x.map f = .error e ↔ x = .error e :=
  ⟨map_eq_error, fun h => h ▸ rfl⟩

theorem exists_map_iff {x : Except ε α} {f : α → β} :
    (∃ b, x.map f = .ok b) ↔ ∃ a, x = .ok a := by
  constructor
  · intro h
    obtain ⟨b, h⟩ := h
    obtain ⟨a, ha, -⟩ := map_eq_ok h
    exact ⟨a, ha⟩
  · intro h
    obtain ⟨a, rfl⟩ := h
    exact ⟨f a, rfl⟩

/-- Other words for a failure make no success of it. -/
theorem mapError_eq_ok {x : Except ε α} {f : ε → δ} {a : α} (h : x.mapError f = .ok a) :
    x = .ok a := by
  cases x with
  | error e => cases h
  | ok a' =>
    cases h
    rfl

theorem exists_mapError_iff {x : Except ε α} {f : ε → δ} :
    (∃ a, x.mapError f = .ok a) ↔ ∃ a, x = .ok a :=
  ⟨fun ⟨a, h⟩ => ⟨a, mapError_eq_ok h⟩, fun ⟨a, h⟩ => ⟨a, h ▸ rfl⟩⟩

/-- A failure in other words is a failure in the first ones. -/
theorem mapError_eq_error_iff {x : Except ε α} {f : ε → δ} {d : δ} :
    x.mapError f = .error d ↔ ∃ e, x = .error e ∧ d = f e := by
  constructor
  · intro h
    cases x with
    | error e =>
      cases h
      exact ⟨e, rfl, rfl⟩
    | ok a => cases h
  · intro h
    obtain ⟨e, rfl, rfl⟩ := h
    rfl

/-- What is left when failures are forgotten was a success. -/
theorem toOption_eq_some {x : Except ε α} {a : α} (h : x.toOption = some a) : x = .ok a := by
  cases x with
  | error e => cases h
  | ok a' =>
    cases h
    rfl

-- ============================================================== lists

/-- A list is gone through with success when its head and its tail are. -/
theorem mapM_cons_eq_ok {f : α → Except ε β} {a : α} {as : List α} {bs : List β}
    (h : (a :: as).mapM f = .ok bs) :
    ∃ b bs', f a = .ok b ∧ as.mapM f = .ok bs' ∧ bs = b :: bs' := by
  rw [List.mapM_cons] at h
  obtain ⟨b, ha, h⟩ := bind_eq_ok h
  obtain ⟨bs', has, h⟩ := bind_eq_ok h
  cases h
  exact ⟨b, bs', ha, has, rfl⟩

/-- All items of a list are rendered when each of them is. -/
theorem mapM_eq_ok_iff {f : α → Except ε β} {as : List α} {bs : List β} :
    as.mapM f = .ok bs ↔ as.map f = bs.map .ok := by
  induction as generalizing bs with
  | nil =>
    rw [List.mapM_nil, List.map_nil]
    exact ⟨fun h => by cases h; rfl, fun h => by rw [List.map_eq_nil_iff.1 h.symm]; rfl⟩
  | cons a as ih =>
    constructor
    · intro h
      obtain ⟨b, bs', ha, has, rfl⟩ := mapM_cons_eq_ok h
      rw [List.map_cons, List.map_cons, ha, ih.1 has]
    · intro h
      obtain ⟨b, bs', rfl, ha, has⟩ := List.map_eq_cons_iff.1 h.symm
      rw [List.mapM_cons, ← ha, ih.2 has.symm]
      rfl

/-- The same for items that are there or not. -/
theorem map_of_mapM_eq_some {f : α → Option β} {as : List α} {bs : List β}
    (h : as.mapM f = some bs) : as.map f = bs.map some := by
  induction as generalizing bs with
  | nil =>
    cases h
    rfl
  | cons a as ih =>
    simp only [List.mapM_cons, Option.bind_eq_bind, Option.bind_eq_some_iff, Option.pure_def] at h
    obtain ⟨b, ha, bs', has, hbs⟩ := h
    cases hbs
    rw [List.map_cons, List.map_cons, ha, ih has]

/-- Where a list is gone through with success, every item has its result. -/
theorem exists_of_mapM_eq_ok {f : α → Except ε β} {as : List α} {bs : List β}
    (h : as.mapM f = .ok bs) {a : α} (ha : a ∈ as) : ∃ b ∈ bs, f a = .ok b := by
  have hmem : f a ∈ bs.map .ok := mapM_eq_ok_iff.1 h ▸ List.mem_map_of_mem ha
  obtain ⟨b, hb, hfa⟩ := List.mem_map.1 hmem
  exact ⟨b, hb, hfa.symm⟩

/-- The first item that is not rendered is why a list is not. -/
theorem mapM_eq_error {f : α → Except ε β} {as : List α} {e : ε} (h : as.mapM f = .error e) :
    ∃ before a later, as = before ++ a :: later ∧ (∀ a' ∈ before, ∃ b, f a' = .ok b)
      ∧ f a = .error e := by
  induction as with
  | nil => cases h
  | cons a as ih =>
    rw [List.mapM_cons] at h
    rcases bind_eq_error h with ha | ⟨b, ha, h⟩
    · exact ⟨[], a, as, rfl, List.forall_mem_nil _, ha⟩
    · rcases bind_eq_error h with has | ⟨bs, -, h⟩
      · obtain ⟨before, a', later, rfl, hbefore, ha'⟩ := ih has
        exact ⟨a :: before, a', later, rfl, List.forall_mem_cons.2 ⟨⟨b, ha⟩, hbefore⟩, ha'⟩
      · cases h

/-- A list is rendered just when every item is. -/
theorem exists_mapM_iff {f : α → Except ε β} {as : List α} :
    (∃ bs, as.mapM f = .ok bs) ↔ ∀ a ∈ as, ∃ b, f a = .ok b := by
  constructor
  · intro h a ha
    obtain ⟨bs, hbs⟩ := h
    obtain ⟨b, -, hb⟩ := exists_of_mapM_eq_ok hbs ha
    exact ⟨b, hb⟩
  · intro h
    cases hbs : as.mapM f with
    | ok bs => exact ⟨bs, rfl⟩
    | error e =>
      obtain ⟨before, a, later, rfl, -, ha⟩ := mapM_eq_error hbs
      obtain ⟨b, hb⟩ := h a (by simp)
      cases ha.symm.trans hb

/-- An item of a list lacks a property that all items before it have. -/
def IsFirstWithout (p : α → Prop) (as : List α) (a : α) : Prop :=
  ∃ before later, as = before ++ a :: later ∧ (∀ b ∈ before, p b) ∧ ¬p a

/-- The first item without a property does not have it. -/
theorem IsFirstWithout.not_self {p : α → Prop} {as : List α} {a : α}
    (h : IsFirstWithout p as a) : ¬p a := by
  obtain ⟨_, _, -, -, ha⟩ := h
  exact ha

/-- Something can only be the first in a list that is not empty. -/
theorem IsFirstWithout.ne_nil {p : α → Prop} {as : List α} {a : α}
    (h : IsFirstWithout p as a) : as ≠ [] := by
  obtain ⟨before, later, rfl, -, -⟩ := h
  exact List.append_ne_nil_of_right_ne_nil before (List.cons_ne_nil a later)

/-- A search for what fails a test finds the first item that does. -/
theorem find?_not_eq_some_iff {p : α → Bool} {as : List α} {a : α} :
    (as.find? fun a => !p a) = some a ↔ IsFirstWithout (fun a => p a = true) as a := by
  rw [List.find?_eq_some_iff_append]
  constructor
  · intro h
    obtain ⟨ha, before, later, rfl, hbefore⟩ := h
    exact ⟨before, later, rfl, fun b hb => by simpa using hbefore b hb, by simpa using ha⟩
  · intro h
    obtain ⟨before, later, rfl, hbefore, ha⟩ := h
    exact ⟨by simpa using ha, before, later, rfl, fun b hb => by simpa using hbefore b hb⟩

/-- Only one item can be the first. -/
theorem IsFirstWithout.unique {p : α → Prop} {as : List α} {a b : α}
    (ha : IsFirstWithout p as a) (hb : IsFirstWithout p as b) : a = b := by
  classical
  have hfind : ∀ c, IsFirstWithout p as c → (as.find? fun x => !decide (p x)) = some c := by
    intro c hc
    exact find?_not_eq_some_iff.2 (by simpa only [decide_eq_true_eq] using hc)
  exact Option.some.inj ((hfind a ha).symm.trans (hfind b hb))

/-- Where `p` says which items are rendered, the error of a list is that of
its first item without `p`. -/
theorem mapM_eq_error_iff {f : α → Except ε β} {p : α → Prop}
    (hp : ∀ a, (∃ b, f a = .ok b) ↔ p a) {as : List α} {e : ε} :
    as.mapM f = .error e ↔ ∃ a, IsFirstWithout p as a ∧ f a = .error e := by
  constructor
  · intro h
    obtain ⟨before, a, later, rfl, hbefore, ha⟩ := mapM_eq_error h
    refine ⟨a, ⟨before, later, rfl, fun b hb => (hp b).1 (hbefore b hb), fun hpa => ?_⟩, ha⟩
    obtain ⟨b, hb⟩ := (hp a).2 hpa
    cases ha.symm.trans hb
  · intro h
    obtain ⟨a, ⟨before, later, rfl, hbefore, -⟩, ha⟩ := h
    obtain ⟨bs, hbs⟩ := exists_mapM_iff.2 fun b hb => (hp b).2 (hbefore b hb)
    rw [List.mapM_append, hbs, List.mapM_cons, ha]
    rfl

/-- What holds between every item and its rendering holds along the lists. -/
theorem map_eq_of_map {f : α → ρ} {i : β → ρ} {g : β → γ} {h : α → γ}
    (hf : ∀ a b, f a = i b → g b = h a) :
    ∀ {as : List α} {bs : List β}, bs.map i = as.map f → bs.map g = as.map h := by
  intro as
  induction as with
  | nil =>
    intro bs hbs
    rw [List.map_eq_nil_iff.1 hbs]
    rfl
  | cons a as ih =>
    intro bs hbs
    obtain ⟨b, bs', rfl, hb, hbs'⟩ := List.map_eq_cons_iff.1 hbs
    rw [List.map_cons, List.map_cons, hf a b hb.symm, ih hbs']

/-- A list that is gone through with success agrees item by item with what
each result stands for. -/
theorem map_eq_of_mapM {f : α → Except ε β} {g : β → γ} {h : α → γ}
    (hf : ∀ a b, f a = .ok b → g b = h a) {as : List α} {bs : List β}
    (hbs : as.mapM f = .ok bs) : bs.map g = as.map h :=
  map_eq_of_map hf (mapM_eq_ok_iff.1 hbs).symm

/-- The same where the rendering is put together with its item. -/
theorem map_zipWith_of_mapM {f : α → Except ε β} {k : β → α → δ} {g : δ → γ} {h : α → γ}
    (hf : ∀ a b, f a = .ok b → g (k b a) = h a) :
    ∀ {as : List α} {bs : List β}, as.mapM f = .ok bs →
      (List.zipWith k bs as).map g = as.map h := by
  intro as
  induction as with
  | nil =>
    intro bs hbs
    cases hbs
    rfl
  | cons a as ih =>
    intro bs hbs
    obtain ⟨b, bs', ha, has, rfl⟩ := mapM_cons_eq_ok hbs
    rw [List.zipWith_cons_cons, List.map_cons, List.map_cons, hf a b ha, ih has]

/-- A fold that adds one rendering at a time is the renderings of the
whole list, added in one go. -/
theorem foldlM_eq_map_mapM {f : α → Except ε β} {step : σ → α → Except ε σ}
    (put : σ → List α → List β → σ) (hnil : ∀ s, put s [] [] = s)
    (hcons : ∀ s a as b bs, put (put s [a] [b]) as bs = put s (a :: as) (b :: bs))
    (hstep : ∀ s a, step s a = (fun b => put s [a] [b]) <$> f a) (as : List α) (s : σ) :
    as.foldlM step s = put s as <$> as.mapM f := by
  induction as generalizing s with
  | nil =>
    rw [List.foldlM_nil, List.mapM_nil]
    exact congrArg Except.ok (hnil s).symm
  | cons a as ih =>
    rw [List.foldlM_cons, List.mapM_cons, hstep]
    cases f a with
    | error e => rfl
    | ok b =>
      show as.foldlM step (put s [a] [b]) = _
      rw [ih]
      cases as.mapM f with
      | error e => rfl
      | ok bs => exact congrArg Except.ok (hcons s a as b bs)

end EventAnalytics
