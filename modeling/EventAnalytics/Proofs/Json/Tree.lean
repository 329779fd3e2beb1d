/-
Which tokens make which tree.

A tree has its tokens: one for each leaf, and for a container its brackets
or braces with what is inside between commas. The machine that recognises
texts makes a tree of just these (`ofTokens?_eq_some_iff`).

In one direction, whatever state the machine is in tells all the tokens
that it has taken, in the containers that are still open and in its mode
(`Machine.read`), and a step adds the token that it takes. In the other,
the tokens of a tree leave it finished on the stack that was there before
(`steps_tokenList`, by induction on trees). Since no two numbers can stand
next to each other in a tree, a text is recognised as a tree exactly when
it is made of the tokens of the tree (`Node.ofText?_eq_some_iff`).
-/
import EventAnalytics.Json.Node
import EventAnalytics.Proofs.Json.Tokens

namespace EventAnalytics.Json

-- =============================================================== tokens

mutual

/-- The tokens of a tree. -/
def Node.tokenList : Node → List Token
  | .null => [.null]
  | .bool b => [.bool b]
  | .number n => [.number n]
  | .string s => [.string s]
  | .array items => .openBracket :: (itemTokens items ++ [.closeBracket])
  | .object fields => .openBrace :: (fieldTokens fields ++ [.closeBrace])

/-- The tokens of items, with commas between them. -/
def itemTokens : List Node → List Token
  | [] => []
  | [v] => v.tokenList
  | v :: w :: vs => v.tokenList ++ .comma :: itemTokens (w :: vs)

/-- The tokens of fields, with commas between them. -/
def fieldTokens : List (Option String × Node) → List Token
  | [] => []
  | [(k, v)] => .string k :: .colon :: v.tokenList
  | (k, v) :: f :: fs => .string k :: .colon :: (v.tokenList ++ .comma :: fieldTokens (f :: fs))

end

/-- The tokens of items that others will follow. -/
def openItems (items : List Node) : List Token := items.flatMap fun v => v.tokenList ++ [.comma]

/-- The tokens of fields that others will follow. -/
def openFields (fields : List (Option String × Node)) : List Token :=
  fields.flatMap fun f => .string f.1 :: .colon :: (f.2.tokenList ++ [.comma])

theorem itemTokens_cons {vs : List Node} (h : vs ≠ []) (v : Node) :
    itemTokens (v :: vs) = v.tokenList ++ .comma :: itemTokens vs := by
  cases vs with
  | nil => exact absurd rfl h
  | cons w vs => rfl

theorem fieldTokens_cons {fs : List (Option String × Node)} (h : fs ≠ []) (k : Option String)
    (v : Node) :
    fieldTokens ((k, v) :: fs)
      = .string k :: .colon :: (v.tokenList ++ .comma :: fieldTokens fs) := by
  cases fs with
  | nil => exact absurd rfl h
  | cons f fs => rfl

/-- Items with one more behind them are open items and this one. -/
theorem itemTokens_concat (items : List Node) (v : Node) :
    itemTokens (items ++ [v]) = openItems items ++ v.tokenList := by
  induction items with
  | nil => rfl
  | cons w items ih =>
    rw [List.cons_append, itemTokens_cons (by simp), ih]
    simp only [openItems, List.flatMap_cons, List.append_assoc, List.cons_append,
      List.nil_append]

/-- Fields with one more behind them are open fields and this one. -/
theorem fieldTokens_concat (fields : List (Option String × Node)) (k : Option String) (v : Node) :
    fieldTokens (fields ++ [(k, v)])
      = openFields fields ++ .string k :: .colon :: v.tokenList := by
  induction fields with
  | nil => rfl
  | cons f fields ih =>
    rw [List.cons_append, fieldTokens_cons (by simp), ih]
    simp only [openFields, List.flatMap_cons, List.append_assoc, List.cons_append,
      List.nil_append]

-- ================================================ what a state has taken

/-- The tokens that were taken for a container that is still open. -/
def Frame.read : Frame → List Token
  | .array items => .openBracket :: openItems items.reverse
  | .object fields key => .openBrace :: (openFields fields.reverse ++ [.string key, .colon])

/-- The tokens that were taken since the last container was left open. -/
def Mode.read : Mode → List Token
  | .value => []
  | .firstItem => [.openBracket]
  | .firstKey => [.openBrace]
  | .key fields => .openBrace :: openFields fields.reverse
  | .colon fields k => .openBrace :: (openFields fields.reverse ++ [.string k])
  | .done v => v.tokenList

theorem Token.exists_numeral {t : Token} (h : t.isNumber = true) : ∃ n, t = .number n := by
  cases t with
  | number n => exact ⟨n, rfl⟩
  | _ => cases h

namespace Machine

/-- All tokens that were taken. -/
def read (m : Machine) : List Token := m.stack.reverse.flatMap Frame.read ++ m.mode.read

/-- A token that begins a value is taken. -/
theorem read_start {stack : List Frame} {t : Token} {m : Machine} (h : start stack t = some m) :
    m.read = stack.reverse.flatMap Frame.read ++ [t] := by
  cases t <;> cases h <;> rfl

/-- So is a token that comes after a value. -/
theorem read_continue? {v : Node} {stack : List Frame} {t : Token} {m : Machine}
    (h : continue? v stack t = some m) : m.read = read ⟨stack, .done v⟩ ++ [t] := by
  unfold continue? at h
  split at h
  · cases h
    simp [read, Frame.read, Mode.read, openItems]
  · cases h
    simp [read, Frame.read, Mode.read, Node.tokenList, itemTokens_concat]
  · cases h
    simp [read, Frame.read, Mode.read, openFields]
  · cases h
    simp [read, Frame.read, Mode.read, Node.tokenList, fieldTokens_concat]
  · cases h

/-- A step adds the token that it takes to those that were taken. -/
theorem read_step {m m' : Machine} {t : Token} (h : m.step t = some m') :
    m'.read = m.read ++ [t] := by
  obtain ⟨stack, mode⟩ := m
  cases mode with
  | value =>
    rw [read_start h]
    simp [read, Mode.read]
  | firstItem =>
    -- Either the array is empty, or its first value starts here.
    by_cases hclose : t = .closeBracket
    · subst hclose
      cases h
      simp [read, Mode.read, Node.tokenList, itemTokens]
    · have hstart : start (.array [] :: stack) t = some m' := by
        cases t <;> first | exact h | exact absurd rfl hclose
      rw [read_start hstart]
      simp [read, Mode.read, Frame.read, openItems]
  | firstKey =>
    cases t <;> cases h <;> simp [read, Mode.read, Node.tokenList, fieldTokens, openFields]
  | key fields =>
    cases t <;> cases h
    simp [read, Mode.read]
  | colon fields k =>
    cases t <;> cases h
    simp [read, Mode.read, Frame.read]
  | done v => exact read_continue? h

/-- Takes tokens one after the other. -/
def steps (m : Machine) (ts : List Token) : Option Machine := ts.foldlM step m

theorem steps_cons (m : Machine) (t : Token) (ts : List Token) :
    m.steps (t :: ts) = (m.step t).bind fun m' => m'.steps ts := by
  unfold steps
  rw [List.foldlM_cons]
  rfl

/-- What the machine has read grows by the tokens of its steps. -/
theorem read_steps {m m' : Machine} {ts : List Token} (h : m.steps ts = some m') :
    m'.read = m.read ++ ts := by
  induction ts generalizing m with
  | nil =>
    cases h
    exact (List.append_nil _).symm
  | cons t ts ih =>
    rw [steps_cons] at h
    obtain ⟨m₁, hstep, hsteps⟩ := Option.bind_eq_some_iff.1 h
    rw [ih hsteps, read_step hstep, List.append_assoc]
    rfl

/-- No number comes after a finished value. -/
theorem step_number_of_done {m : Machine} {v : Node} (hm : m.mode = .done v) (n : Numeral) :
    m.step (.number n) = none := by
  obtain ⟨stack, mode⟩ := m
  cases hm
  rcases stack with _ | ⟨f, stack⟩
  · rfl
  · cases f <;> rfl

/-- A number is a finished value. -/
theorem done_of_step_number {m m' : Machine} {n : Numeral} (h : m.step (.number n) = some m') :
    m'.mode = .done (.number n) := by
  obtain ⟨stack, mode⟩ := m
  cases mode with
  | done v =>
    rw [step_number_of_done rfl] at h
    cases h
  | _ => cases h <;> rfl

/-- Hence no two numbers are taken one right after the other. -/
theorem isChain_of_steps {m m' : Machine} {ts : List Token} (h : m.steps ts = some m') :
    ts.IsChain Token.Apart := by
  induction ts generalizing m with
  | nil => exact .nil
  | cons t ts ih =>
    rw [steps_cons] at h
    obtain ⟨m₁, hstep, hsteps⟩ := Option.bind_eq_some_iff.1 h
    refine List.isChain_cons.2 ⟨fun u hu => ?_, ih hsteps⟩
    intro hnumbers
    obtain ⟨n, rfl⟩ := Token.exists_numeral hnumbers.1
    obtain ⟨k, rfl⟩ := Token.exists_numeral hnumbers.2
    rw [List.eq_cons_of_mem_head? hu, steps_cons,
      step_number_of_done (done_of_step_number hstep)] at hsteps
    cases hsteps

-- =========================================== recognising what has tokens

theorem steps_of_step {m m' : Machine} {t : Token} (h : m.step t = some m') (ts : List Token) :
    m.steps (t :: ts) = m'.steps ts := by
  rw [steps_cons, h]
  rfl

/-- The first item of an array is recognised like any other. -/
theorem steps_firstItem (stack : List Frame) (v : Node) (vs : List Node) (ts : List Token) :
    steps ⟨stack, .firstItem⟩ (itemTokens (v :: vs) ++ ts)
      = steps ⟨.array [] :: stack, .value⟩ (itemTokens (v :: vs) ++ ts) := by
  obtain ⟨t, r, htokens, hne⟩ : ∃ t r, itemTokens (v :: vs) = t :: r ∧ t ≠ .closeBracket := by
    cases vs <;> cases v <;> exact ⟨_, _, rfl, nofun⟩
  rw [htokens, List.cons_append, steps_cons, steps_cons]
  congr 1
  unfold step
  cases t <;> first | rfl | exact absurd rfl hne

/-- So is the first key of an object. -/
theorem steps_firstKey (stack : List Frame) (k : Option String) (v : Node)
    (fs : List (Option String × Node)) (ts : List Token) :
    steps ⟨stack, .firstKey⟩ (fieldTokens ((k, v) :: fs) ++ ts)
      = steps ⟨stack, .key []⟩ (fieldTokens ((k, v) :: fs) ++ ts) := by
  cases fs <;> rfl

mutual

/-- The tokens of a tree leave it finished. -/
theorem steps_tokenList (stack : List Frame) (ts : List Token) :
    ∀ v : Node, steps ⟨stack, .value⟩ (v.tokenList ++ ts) = steps ⟨stack, .done v⟩ ts
  | .null | .bool _ | .number _ | .string _ => by
    rw [Node.tokenList]
    exact steps_of_step rfl ts
  | .array [] => by
    rw [Node.tokenList]
    exact (steps_of_step rfl _).trans (steps_of_step rfl ts)
  | .array (v :: vs) => by
    rw [Node.tokenList]
    simp only [List.cons_append, List.append_assoc, List.nil_append]
    rw [steps_of_step rfl, steps_firstItem, steps_itemTokens stack ts [] (v :: vs) (by simp)]
    rfl
  | .object [] => by
    rw [Node.tokenList]
    exact (steps_of_step rfl _).trans (steps_of_step rfl ts)
  | .object ((k, v) :: fs) => by
    rw [Node.tokenList]
    simp only [List.cons_append, List.append_assoc, List.nil_append]
    rw [steps_of_step rfl, steps_firstKey, steps_fieldTokens stack ts [] ((k, v) :: fs) (by simp)]
    rfl

/-- The tokens of items up to the end of an array leave it finished, the
items behind those that are there. -/
theorem steps_itemTokens (stack : List Frame) (ts : List Token) (items : List Node) :
    ∀ vs : List Node, vs ≠ [] →
      steps ⟨.array items :: stack, .value⟩ (itemTokens vs ++ .closeBracket :: ts)
        = steps ⟨stack, .done (.array (items.reverse ++ vs))⟩ ts
  | [], h => absurd rfl h
  | [v], _ => by
    rw [itemTokens, steps_tokenList _ _ v, steps_of_step rfl, List.reverse_cons]
  | v :: w :: vs, _ => by
    rw [itemTokens]
    simp only [List.cons_append, List.append_assoc]
    rw [steps_tokenList _ _ v, steps_of_step rfl,
      steps_itemTokens stack ts (v :: items) (w :: vs) (by simp), List.reverse_cons,
      List.append_assoc]
    rfl

/-- The tokens of fields up to the end of an object leave it finished, the
fields behind those that are there. -/
theorem steps_fieldTokens (stack : List Frame) (ts : List Token)
    (fields : List (Option String × Node)) :
    ∀ fs : List (Option String × Node), fs ≠ [] →
      steps ⟨stack, .key fields⟩ (fieldTokens fs ++ .closeBrace :: ts)
        = steps ⟨stack, .done (.object (fields.reverse ++ fs))⟩ ts
  | [], h => absurd rfl h
  | [(k, v)], _ => by
    rw [fieldTokens]
    simp only [List.cons_append]
    rw [steps_of_step rfl, steps_of_step rfl, steps_tokenList _ _ v, steps_of_step rfl,
      List.reverse_cons]
  | (k, v) :: f :: fs, _ => by
    rw [fieldTokens]
    simp only [List.cons_append, List.append_assoc]
    rw [steps_of_step rfl, steps_of_step rfl, steps_tokenList _ _ v, steps_of_step rfl,
      steps_fieldTokens stack ts ((k, v) :: fields) (f :: fs) (by simp), List.reverse_cons,
      List.append_assoc]
    rfl

end

end Machine

-- ============================================================= the law

/-- Tokens are recognised as a tree when they are the tokens of that tree. -/
theorem Node.ofTokens?_eq_some_iff {ts : List Token} {v : Node} :
    ofTokens? ts = some v ↔ ts = v.tokenList := by
  constructor
  · intro h
    obtain ⟨m, hsteps, hresult⟩ := Option.bind_eq_some_iff.1 h
    have hread : m.read = ts := Machine.read_steps hsteps
    obtain ⟨stack, mode⟩ := m
    unfold Machine.result? at hresult
    split at hresult
    · next heq =>
      cases heq
      cases hresult
      exact hread.symm
    · cases hresult
  · intro h
    subst h
    have hsteps := Machine.steps_tokenList [] [] v
    rw [List.append_nil] at hsteps
    show (Machine.steps ⟨[], .value⟩ v.tokenList).bind Machine.result? = some v
    rw [hsteps]
    rfl

/-- A text is recognised as a tree when it is made of the tokens of that
tree. -/
theorem Node.ofText?_eq_some_iff {s : String} {v : Node} :
    ofText? s = some v ↔ Lexes s.toList v.tokenList := by
  constructor
  · intro h
    obtain ⟨ts, hts, htree⟩ := Option.bind_eq_some_iff.1 h
    rw [← ofTokens?_eq_some_iff.1 htree]
    exact lexes_of_tokens hts
  · intro h
    have htree : ofTokens? v.tokenList = some v := ofTokens?_eq_some_iff.2 rfl
    obtain ⟨m, hsteps, -⟩ := Option.bind_eq_some_iff.1 htree
    unfold ofText?
    rw [tokens_of_lexes h (Machine.isChain_of_steps hsteps), Option.bind_some, htree]

end EventAnalytics.Json
