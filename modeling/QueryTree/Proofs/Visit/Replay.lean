import QueryTree.Proofs.Visit.Script
import QueryTree.Proofs.Visit.Turns

/-!
How playing a script ends and what it leaves in the record. Playing goes line by line: one line
either stops the walk or adds to the trace.
-/
namespace QueryTree.Recorder

/-! ### One line of a script -/

/-- Whether a line is entered in the record. -/
def Order.shows (order : Order) : Event → Bool
  | .enter _ _ => order.showsEntry
  | .leave _ _ => order.showsExit
  | .notice _ => true

/-- Whether a line is a call of a hook. -/
def Event.calls (hook : Hook) : Event → Bool
  | .enter _ visited => visited.hook = hook
  | _ => false

/-- The tally after a line. -/
def Tally.after (tally : Tally) : Event → Tally
  | .enter _ visited => tally.add visited.hook
  | _ => tally

/-- The trace after a line. -/
def Trace.after (order : Order) (trace : Trace) (event : Event) : Trace :=
  ⟨trace.tally.after event, if order.shows event then trace.events.push event else trace.events⟩

/-- The failure that a line brings about. -/
def Options.stop? (options : Options) (tally : Tally) : Event → Option Stop
  | .enter level visited =>
    if options.fail = some (visited.hook, tally.count visited.hook) then
      some ⟨visited.hook, tally.count visited.hook, level⟩
    else none
  | _ => none

theorem play_apply (options : Options) (event : Event) (trace : Trace) :
    (play options event).run.run trace =
      (match options.stop? trace.tally event with
        | some stop => .error stop
        | none => .ok (), trace.after options.order event) := by
  cases event with
  | enter level visited =>
    have counted : (count visited.hook).run.run trace =
        (.ok (trace.tally.count visited.hook),
          { trace with tally := trace.tally.add visited.hook }) := rfl
    rw [play, bind_apply, counted]
    -- The failure depends on the count before the call, and the entry is made in any case.
    by_cases shown : options.order.showsEntry = true <;>
      by_cases failing : options.fail = some (visited.hook, trace.tally.count visited.hook)
    all_goals
      simp [shown, failing, Options.stop?, Trace.after, Tally.after, Order.shows]
      rfl
  | leave level visited =>
    rw [play, Trace.after, Order.shows]
    cases options.order.showsExit <;> rfl
  | notice notice => rfl

/-! ### Whole scripts -/

/-- How playing a script ends, and what is kept then. -/
def replay (options : Options) : List Event → Trace → Outcome
  | [], trace => ⟨.ok (), trace⟩
  | event :: rest, trace =>
    match options.stop? trace.tally event with
    | some stop => ⟨.error stop, trace.after options.order event⟩
    | none => replay options rest (trace.after options.order event)

theorem run_play (options : Options) (tally : Tally) (script : List Event) :
    run tally (forM script (play options)) = replay options script ⟨tally, #[]⟩ := by
  have played (trace : Trace) : (forM script (play options)).run.run trace =
      ((replay options script trace).result, (replay options script trace).trace) := by
    induction script generalizing trace with
    | nil => rfl
    | cons event rest ih =>
      rw [List.forM_cons, bind_apply, play_apply, replay]
      cases options.stop? trace.tally event with
      | none => exact ih _
      | some stop => rfl
  rw [run, played]

theorem Trace.events_after (order : Order) (trace : Trace) (event : Event) :
    (trace.after order event).events.toList =
      trace.events.toList ++ [event].filter order.shows := by
  unfold Trace.after
  cases shown : order.shows event <;> simp [shown]

/-- If a script is played to its end, the record is what is shown of it. -/
theorem replay_finished {options : Options} {script : List Event} {trace : Trace}
    (finished : (replay options script trace).result = .ok ()) :
    (replay options script trace).trace.events.toList =
      trace.events.toList ++ script.filter options.order.shows := by
  induction script generalizing trace with
  | nil => simp [replay]
  | cons event rest ih =>
    rw [replay] at finished ⊢
    cases goes_on : options.stop? trace.tally event with
    | some stop =>
      rw [goes_on] at finished
      cases finished
    | none =>
      rw [goes_on] at finished
      simp only
      rw [ih finished, trace.events_after, List.append_assoc, ← List.filter_append,
        List.singleton_append]

/-- Without a failure the record is what is shown of the script. -/
theorem replay_unfailing (options : Options) (unfailing : options.fail = none)
    (script : List Event) (trace : Trace) :
    (replay options script trace).result = .ok () ∧
      (replay options script trace).trace.events.toList =
        trace.events.toList ++ script.filter options.order.shows := by
  have finished : (replay options script trace).result = .ok () := by
    induction script generalizing trace with
    | nil => rfl
    | cons event rest ih =>
      have goes_on : options.stop? trace.tally event = none := by
        cases event <;> simp [Options.stop?, unfailing]
      rw [replay, goes_on]
      exact ih _
  exact ⟨finished, replay_finished finished⟩

/-- The entries of a record. -/
def Outcome.events (outcome : Outcome) : List Event :=
  outcome.trace.events.toList

/-- Recorders that are not to fail record what is shown of the script. -/
theorem run_play_unfailing (options : Options) (unfailing : options.fail = none)
    (script : List Event) :
    let outcome := run [] (forM script (play options))
    outcome.result = .ok () ∧ outcome.events = script.filter options.order.shows := by
  rw [run_play]
  exact replay_unfailing options unfailing script ⟨[], #[]⟩

theorem filter_shows_both (script : List Event) : script.filter Order.both.shows = script := by
  rw [List.filter_eq_self]
  intro event _
  cases event <;> rfl

/-- Recorders of entries and exits that are not to fail record the whole script. -/
theorem run_play_both (prune : List Hook) (bridges : List Bridge) (script : List Event) :
    let outcome := run [] (forM script (play ⟨.both, prune, none, bridges⟩))
    outcome.result = .ok () ∧ outcome.events = script := by
  have recorded := run_play_unfailing ⟨.both, prune, none, bridges⟩ rfl script
  rwa [filter_shows_both] at recorded

/-! ### Failing at a chosen call -/

private theorem Tally.count_cons (tally : Tally) (hook other : Hook) (times : Nat) :
    Tally.count hook ((other, times) :: tally) =
      if other = hook then times else tally.count hook := by
  unfold count
  rw [List.lookup_cons]
  by_cases same : other = hook
  · simp [same]
  · simp [same, beq_false_of_ne (Ne.symm same)]

theorem Tally.count_add (tally : Tally) (hook other : Hook) :
    (tally.add other).count hook = tally.count hook + if other = hook then 1 else 0 := by
  induction tally with
  | nil =>
    rw [add, count_cons]
    split <;> rfl
  | cons entry rest ih =>
    obtain ⟨first, times⟩ := entry
    rw [add]
    by_cases known : first = other
    · subst known
      rw [if_pos rfl, count_cons, count_cons]
      split <;> rfl
    · -- The call is counted further on; it matters only if the hook asked for is not the first.
      rw [if_neg known, count_cons, count_cons, ih]
      by_cases asked : first = hook
      · have different : other ≠ hook := fun same => known (asked.trans same.symm)
        rw [if_pos asked, if_pos asked, if_neg different, Nat.add_zero]
      · rw [if_neg asked, if_neg asked]

theorem Tally.count_after (tally : Tally) (hook : Hook) (event : Event) :
    (tally.after event).count hook = tally.count hook + if event.calls hook then 1 else 0 := by
  cases event with
  | enter level visited =>
    rw [after, count_add, Event.calls]
    simp
  | leave level visited => rfl
  | notice notice => rfl

section
variable (options : Options) {hook : Hook} {call : Nat}

/-- A line fails if it is the chosen call. -/
theorem stop?_eq_some_iff (chosen : options.fail = some (hook, call)) (tally : Tally)
    (event : Event) (stop : Stop) :
    options.stop? tally event = some stop ↔
      ∃ level visited, event = .enter level visited ∧ visited.hook = hook ∧
        tally.count hook = call ∧ stop = ⟨hook, call, level⟩ := by
  cases event with
  | enter level visited =>
    simp only [Options.stop?, chosen, Option.some.injEq, Prod.mk.injEq]
    constructor
    · intro stops
      split at stops
      next called =>
        obtain ⟨rfl, rfl⟩ := called
        exact ⟨level, visited, rfl, rfl, rfl, (Option.some.inj stops).symm⟩
      next => cases stops
    · rintro ⟨_, _, same, rfl, rfl, rfl⟩
      cases same
      rw [if_pos ⟨rfl, rfl⟩]
  | leave level visited => simp [Options.stop?]
  | notice notice => simp [Options.stop?]

private theorem count_after_le (chosen : options.fail = some (hook, call)) {tally : Tally}
    {event : Event} (before : tally.count hook ≤ call)
    (goes_on : options.stop? tally event = none) : (tally.after event).count hook ≤ call := by
  rw [Tally.count_after]
  split
  next calls =>
    cases event with
    | enter level visited =>
      have same : visited.hook = hook := by simpa [Event.calls] using calls
      have passed : tally.count hook ≠ call := by
        intro counted
        have stops := (stop?_eq_some_iff options chosen tally _ ⟨hook, call, level⟩).mpr
          ⟨level, visited, rfl, same, counted, rfl⟩
        rw [stops] at goes_on
        cases goes_on
      omega
    | leave level visited => cases calls
    | notice notice => cases calls
  next => omega

/-- A call that a script does not come to does not fail. -/
theorem replay_unreached (chosen : options.fail = some (hook, call)) (script : List Event)
    (trace : Trace) (few : trace.tally.count hook + script.countP (·.calls hook) ≤ call) :
    (replay options script trace).result = .ok () ∧
      (replay options script trace).trace.events.toList =
        trace.events.toList ++ script.filter options.order.shows := by
  have finished : (replay options script trace).result = .ok () := by
    induction script generalizing trace with
    | nil => rfl
    | cons event rest ih =>
      rw [List.countP_cons] at few
      have goes_on : options.stop? trace.tally event = none := by
        cases stops : options.stop? trace.tally event with
        | none => rfl
        | some stop =>
          -- The line would be one more call than there are.
          obtain ⟨level, visited, rfl, rfl, counted, -⟩ :=
            (stop?_eq_some_iff options chosen _ _ _).mp stops
          simp [Event.calls] at few
          omega
      have few' : (trace.after options.order event).tally.count hook +
          rest.countP (·.calls hook) ≤ call := by
        rw [Trace.after, Tally.count_after]
        omega
      rw [replay, goes_on]
      exact ih _ few'
  exact ⟨finished, replay_finished finished⟩

/-- A call that a script comes to fails, and nothing is kept of what would have come then. -/
theorem replay_reached (chosen : options.fail = some (hook, call)) (script : List Event)
    (trace : Trace) (before : trace.tally.count hook ≤ call)
    (reached : call < trace.tally.count hook + script.countP (·.calls hook)) :
    ∃ earlier level visited later,
      script = earlier ++ .enter level visited :: later ∧ visited.hook = hook ∧
      trace.tally.count hook + earlier.countP (·.calls hook) = call ∧
      (replay options script trace).result = .error ⟨hook, call, level⟩ ∧
      (replay options script trace).trace.events.toList =
        trace.events.toList ++ (earlier ++ [.enter level visited]).filter options.order.shows := by
  induction script generalizing trace with
  | nil =>
    rw [List.countP_nil] at reached
    omega
  | cons event rest ih =>
    rw [List.countP_cons] at reached
    cases stops : options.stop? trace.tally event with
    | some stop =>
      obtain ⟨level, visited, rfl, same, counted, rfl⟩ :=
        (stop?_eq_some_iff options chosen _ _ _).mp stops
      refine ⟨[], level, visited, rest, rfl, same, counted, ?_, ?_⟩
      · rw [replay, stops]
      · rw [replay, stops, trace.events_after, List.nil_append]
    | none =>
      -- The chosen call is still to come, also if this line calls the same hook.
      have before' := count_after_le options chosen before stops
      obtain ⟨earlier, level, visited, later, rfl, same, counted, stopped, kept⟩ :=
        ih (trace.after options.order event) before' (by
          rw [Trace.after, Tally.count_after]
          omega)
      refine ⟨event :: earlier, level, visited, later, rfl, same, ?_, ?_, ?_⟩
      · rw [Trace.after, Tally.count_after] at counted
        rw [List.countP_cons]
        omega
      · rw [replay, stops, stopped]
      · rw [replay, stops, kept, trace.events_after, List.append_assoc, ← List.filter_append,
          List.singleton_append, List.cons_append]

end

end QueryTree.Recorder
