import RouteCache.Fault

/-!
Operations that keep their state when a fault stops them. Two of them in sequence
succeed exactly when the first succeeds and the second succeeds on what it left.
-/

namespace RouteCache

variable {ε σ α β : Type}

theorem bind_of_ok {first : EStateM ε σ α} {next : α → EStateM ε σ β} {start between : σ}
    {answer : α} (h : first start = .ok answer between) :
    (first >>= next) start = next answer between := by
  change (first >>= next).run start = _
  change first.run start = _ at h
  rw [EStateM.run_bind, h]
  rfl

theorem bind_eq_ok_iff {first : EStateM ε σ α} {next : α → EStateM ε σ β} {start finish : σ}
    {result : β} :
    (first >>= next) start = .ok result finish ↔
      ∃ answer between, first start = .ok answer between ∧
        next answer between = .ok result finish := by
  change (first >>= next).run start = _ ↔ _
  rw [EStateM.run_bind]
  change _ ↔ ∃ answer between, first.run start = .ok answer between ∧ _
  cases first.run start with
  | ok answer between =>
    constructor
    · intro h
      exact ⟨answer, between, rfl, h⟩
    · rintro ⟨_, _, same, h⟩
      cases same
      exact h
  | error fault between =>
    constructor
    · intro h
      cases h
    · rintro ⟨_, _, same, _⟩
      cases same

/-- An operation whose answer is only put in another form. -/
theorem bind_pure_eq_ok_iff {use : EStateM ε σ α} {form : α → β} {start finish : σ}
    {result : β} :
    (use >>= fun answer => pure (form answer)) start = .ok result finish ↔
      ∃ answer, use start = .ok answer finish ∧ result = form answer := by
  rw [bind_eq_ok_iff]
  constructor
  · rintro ⟨answer, _, used, same⟩
    cases same
    exact ⟨answer, used, rfl⟩
  · rintro ⟨answer, used, rfl⟩
    exact ⟨answer, finish, used, rfl⟩

theorem bind_eq_error_iff {first : EStateM ε σ α} {next : α → EStateM ε σ β} {start finish : σ}
    {fault : ε} :
    (first >>= next) start = .error fault finish ↔
      first start = .error fault finish ∨
        ∃ answer between, first start = .ok answer between ∧
          next answer between = .error fault finish := by
  change (first >>= next).run start = _ ↔ _
  rw [EStateM.run_bind]
  change _ ↔ first.run start = _ ∨ ∃ answer between, first.run start = .ok answer between ∧ _
  cases first.run start with
  | ok answer between =>
    constructor
    · intro h
      exact Or.inr ⟨answer, between, rfl, h⟩
    · rintro (same | ⟨_, _, same, h⟩)
      · cases same
      · cases same
        exact h
  | error cause between =>
    constructor
    · intro h
      cases h
      exact Or.inl rfl
    · rintro (same | ⟨_, _, same, _⟩)
      · cases same
        rfl
      · cases same

theorem except_bind_eq_ok_iff {first : Except ε α} {next : α → Except ε β} {result : β} :
    (first >>= next) = .ok result ↔ ∃ value, first = .ok value ∧ next value = .ok result := by
  cases first with
  | ok value =>
    constructor
    · intro h
      exact ⟨value, rfl, h⟩
    · rintro ⟨_, same, h⟩
      cases same
      exact h
  | error fault =>
    constructor
    · intro h
      cases h
    · rintro ⟨_, same, _⟩
      cases same

theorem except_bind_eq_error_iff {first : Except ε α} {next : α → Except ε β} {fault : ε} :
    (first >>= next) = .error fault ↔
      first = .error fault ∨ ∃ value, first = .ok value ∧ next value = .error fault := by
  cases first with
  | ok value =>
    constructor
    · intro h
      exact Or.inr ⟨value, rfl, h⟩
    · rintro (same | ⟨_, same, h⟩)
      · cases same
      · cases same
        exact h
  | error cause =>
    constructor
    · intro h
      cases h
      exact Or.inl rfl
    · rintro (same | ⟨_, same, _⟩)
      · cases same
        rfl
      · cases same

/-- The answer of an operation, if it ended without a fault. -/
def answer? : EStateM.Result ε σ α → Option α
  | .ok answer _ => some answer
  | .error _ _ => none

theorem answer?_eq_some_iff {result : EStateM.Result ε σ α} {answer : α} :
    answer? result = some answer ↔ ∃ finish, result = .ok answer finish := by
  cases result with
  | ok given finish => simp [answer?]
  | error fault finish => simp [answer?]

/-- The fault that stopped an operation, if one did. -/
def fault? : EStateM.Result ε σ α → Option ε
  | .ok _ _ => none
  | .error fault _ => some fault

theorem fault?_eq_some_iff {result : EStateM.Result ε σ α} {fault : ε} :
    fault? result = some fault ↔ ∃ finish, result = .error fault finish := by
  cases result with
  | ok answer finish => simp [fault?]
  | error cause finish => simp [fault?]

/-- The state that an operation left, whether or not a fault stopped it. -/
def final : EStateM.Result ε σ α → σ
  | .ok _ state => state
  | .error _ state => state

@[simp] theorem fault?_ok (answer : α) (state : σ) :
    fault? (.ok answer state : EStateM.Result ε σ α) = none := rfl

@[simp] theorem fault?_error (fault : ε) (state : σ) :
    fault? (.error fault state : EStateM.Result ε σ α) = some fault := rfl

@[simp] theorem final_ok (answer : α) (state : σ) :
    final (.ok answer state : EStateM.Result ε σ α) = state := rfl

/-- The form of the answer has no part in what an operation leaves. -/
theorem final_bind_pure (use : EStateM ε σ α) (form : α → β) (start : σ) :
    final ((use >>= fun answer => pure (form answer)) start) = final (use start) := by
  change final ((use >>= _).run start) = final (use.run start)
  rw [EStateM.run_bind]
  cases use.run start <;> rfl

/-- A property of the state that an operation keeps, also when a fault stops it. -/
def Preserves (P : σ → Prop) (use : EStateM ε σ α) : Prop :=
  ∀ start, P start → P (final (use start))

theorem preserves_pure (P : σ → Prop) (answer : α) :
    Preserves P (pure answer : EStateM ε σ α) :=
  fun _ holds => holds

theorem Preserves.bind {P : σ → Prop} {first : EStateM ε σ α} {next : α → EStateM ε σ β}
    (h : Preserves P first) (hnext : ∀ answer, Preserves P (next answer)) :
    Preserves P (first >>= next) := by
  intro start holds
  have kept := h start holds
  change P (final ((first >>= next).run start))
  change P (final (first.run start)) at kept
  rw [EStateM.run_bind]
  cases ended : first.run start with
  | ok answer between =>
    rw [ended] at kept
    exact hnext answer between kept
  | error fault between =>
    rw [ended] at kept
    exact kept

/-- Whether an operation ended without a fault, with an answer and a state as wanted. -/
def ends (wanted : α → σ → Bool) : EStateM.Result ε σ α → Bool
  | .ok answer finish => wanted answer finish
  | .error _ _ => false

theorem ends_iff {wanted : α → σ → Bool} {result : EStateM.Result ε σ α} :
    ends wanted result = true ↔
      ∃ answer finish, result = .ok answer finish ∧ wanted answer finish = true := by
  cases result with
  | ok given last =>
    constructor
    · intro h
      exact ⟨given, last, rfl, h⟩
    · rintro ⟨_, _, same, h⟩
      cases same
      exact h
  | error fault last => simp [ends]

end RouteCache
