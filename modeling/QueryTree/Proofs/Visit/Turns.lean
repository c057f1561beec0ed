/-!
Calls that are made one after the other, up to the first that fails, each of them from the state in
which the one before left it.
-/
namespace QueryTree

section
variable {α β σ τ ε : Type}

/-- Makes calls one after the other, up to the first that fails. -/
def inTurn (call : α → σ → Except ε Unit × σ) : List α → σ → Except ε Unit × σ
  | [], state => (.ok (), state)
  | argument :: rest, state =>
    match call argument state with
    | (.ok (), state) => inTurn call rest state
    | (.error fault, state) => (.error fault, state)

theorem inTurn_append (call : α → σ → Except ε Unit × σ) (first second : List α) (state : σ) :
    inTurn call (first ++ second) state =
      match inTurn call first state with
      | (.ok (), state) => inTurn call second state
      | (.error fault, state) => (.error fault, state) := by
  induction first generalizing state with
  | nil => rfl
  | cons argument rest ih =>
    rw [List.cons_append, inTurn, inTurn]
    obtain ⟨result, state'⟩ := call argument state
    cases result with
    | error fault => rfl
    | ok => exact ih state'

theorem inTurn_map (call : β → σ → Except ε Unit × σ) (f : α → β) (arguments : List α)
    (state : σ) :
    inTurn call (arguments.map f) state =
      inTurn (fun argument => call (f argument)) arguments state := by
  induction arguments generalizing state with
  | nil => rfl
  | cons argument rest ih => simp only [List.map_cons, inTurn, ih]

/-- Calls that do not fail add up. -/
theorem inTurn_ok {call : α → σ → Except ε Unit × σ} {next : σ → α → σ}
    (each : ∀ argument state, call argument state = (.ok (), next state argument))
    (arguments : List α) (state : σ) :
    inTurn call arguments state = (.ok (), arguments.foldl next state) := by
  induction arguments generalizing state with
  | nil => rfl
  | cons argument rest ih => rw [inTurn, each, List.foldl_cons, ← ih]

/-- If calls from related states fail alike and leave related states, then so do calls in turn. -/
theorem inTurn_related (relates : σ → τ → Prop) {call : α → σ → Except ε Unit × σ}
    (other : α → τ → Except ε Unit × τ)
    (each : ∀ argument state state', relates state state' →
      (call argument state).1 = (other argument state').1 ∧
        relates (call argument state).2 (other argument state').2)
    (arguments : List α) (state : σ) (state' : τ) (related : relates state state') :
    (inTurn call arguments state).1 = (inTurn other arguments state').1 ∧
      relates (inTurn call arguments state).2 (inTurn other arguments state').2 := by
  induction arguments generalizing state state' with
  | nil => exact ⟨rfl, related⟩
  | cons argument rest ih =>
    obtain ⟨alike, left⟩ := each argument state state' related
    rw [inTurn, inTurn]
    revert alike left
    generalize call argument state = ended, other argument state' = ended'
    obtain ⟨result, next⟩ := ended
    obtain ⟨result', next'⟩ := ended'
    rintro rfl left
    -- The calls that are left go on from related states, if there is no failure.
    cases result with
    | error fault => exact ⟨rfl, left⟩
    | ok => exact ih next next' left

/-- What each call keeps, calls in turn keep. -/
theorem inTurn_keeps (holds : σ → Prop) {call : α → σ → Except ε Unit × σ}
    (each : ∀ argument state, holds state → holds (call argument state).2) (arguments : List α)
    {state : σ} (start : holds state) : holds (inTurn call arguments state).2 := by
  -- Calls in turn are compared with themselves.
  have itself (argument : α) (state state' : σ) (kept : state = state' ∧ holds state) :
      (call argument state).1 = (call argument state').1 ∧
        (call argument state).2 = (call argument state').2 ∧ holds (call argument state).2 := by
    obtain ⟨rfl, kept⟩ := kept
    exact ⟨rfl, rfl, each argument state kept⟩
  obtain ⟨-, -, kept⟩ :=
    inTurn_related (fun state state' => state = state' ∧ holds state) call itself arguments state
      state ⟨rfl, start⟩
  exact kept

/-! ### Walks with a state -/

/-- What is left of a failure is the state in which it happened. -/
theorem bind_apply (action : ExceptT ε (StateM σ) α) (next : α → ExceptT ε (StateM σ) β)
    (state : σ) :
    (action >>= next).run.run state =
      match action.run.run state with
      | (.ok value, state) => (next value).run.run state
      | (.error fault, state) => (.error fault, state) := by
  rw [ExceptT.run_bind, StateT.run_bind]
  generalize action.run.run state = outcome
  obtain ⟨result, state⟩ := outcome
  cases result <;> rfl

theorem run_forM (act : α → ExceptT ε (StateM σ) Unit) (arguments : List α) (state : σ) :
    (forM arguments act).run.run state =
      inTurn (fun argument => (act argument).run.run) arguments state := by
  induction arguments generalizing state with
  | nil => rfl
  | cons argument rest ih =>
    rw [List.forM_cons, bind_apply, inTurn]
    obtain ⟨result, state'⟩ := (act argument).run.run state
    cases result with
    | error fault => rfl
    | ok => exact ih state'

/-- A call with a state of its own, beside another state that it does not know of. -/
def aside {ρ : Type} (call : σ → Except ε Unit × σ) : ExceptT ε (StateM (ρ × σ)) Unit :=
  ExceptT.mk fun (others, state) =>
    let (result, state) := call state
    (result, others, state)

/-- Such calls leave the other state as it is. -/
theorem run_forM_aside {ρ : Type} (call : α → σ → Except ε Unit × σ) (arguments : List α)
    (others : ρ) (state : σ) :
    (forM arguments fun argument => aside (call argument)).run.run (others, state) =
      ((inTurn call arguments state).1, others, (inTurn call arguments state).2) := by
  have each (argument : α) (both : ρ × σ) (state : σ) (same : both = (others, state)) :
      ((aside (call argument)).run.run both).1 = (call argument state).1 ∧
        ((aside (call argument)).run.run both).2 = (others, (call argument state).2) := by
    subst same
    exact ⟨rfl, rfl⟩
  obtain ⟨alike, left⟩ :=
    inTurn_related (fun both state => both = (others, state)) call each arguments _ state rfl
  rw [run_forM]
  exact Prod.ext alike left

end
end QueryTree
