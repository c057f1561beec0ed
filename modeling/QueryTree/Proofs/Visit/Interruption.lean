import QueryTree.Proofs.Visit.Replay

/-!
What a failure at one call of a hook does to a walk: everything before it has happened as without
it, and nothing after it happens, at whatever level and below whatever node the call is.
-/
namespace QueryTree.Recorder

/-- How a run that is to fail at a call of a hook compares with the run without a failure. -/
structure StopsAt (hook : Hook) (call : Nat) (full failing : Outcome) : Prop where
  finished : full.result = .ok ()
  unaffected : full.events.countP (·.calls hook) ≤ call →
    failing.result = .ok () ∧ failing.events = full.events
  stopped : call < full.events.countP (·.calls hook) →
    ∃ earlier level visited later,
      full.events = earlier ++ .enter level visited :: later ∧
      visited.hook = hook ∧ earlier.countP (·.calls hook) = call ∧
      failing.events = earlier ++ [.enter level visited] ∧
      failing.result = .error ⟨hook, call, level⟩

section
variable (prune : List Hook) (bridges : List Bridge) (hook : Hook) (call : Nat)

/-- A script, played with a failure and without. -/
private theorem replay_stopsAt (script : List Event) :
    StopsAt hook call (replay ⟨.both, prune, none, bridges⟩ script ⟨[], #[]⟩)
      (replay ⟨.both, prune, some (hook, call), bridges⟩ script ⟨[], #[]⟩) := by
  obtain ⟨finished, full⟩ := run_play_both prune bridges script
  rw [run_play] at finished full
  have untouched : Tally.count hook [] = 0 := rfl
  refine ⟨finished, ?_, ?_⟩
  · intro few
    rw [full] at few
    obtain ⟨finished', kept'⟩ := replay_unreached ⟨.both, prune, some (hook, call), bridges⟩ rfl
      script ⟨[], #[]⟩ (by rw [untouched]; omega)
    rw [filter_shows_both] at kept'
    exact ⟨finished', kept'.trans full.symm⟩
  · intro reached
    rw [full] at reached
    obtain ⟨earlier, level, visited, later, split, same, counted, stopped, kept'⟩ := replay_reached
      ⟨.both, prune, some (hook, call), bridges⟩ rfl script ⟨[], #[]⟩ (by rw [untouched]; omega)
      (by rw [untouched]; omega)
    rw [filter_shows_both] at kept'
    rw [untouched, Nat.zero_add] at counted
    exact ⟨earlier, level, visited, later, full.trans split, same, counted, kept', stopped⟩

/-- A script does not depend on whether a call is to fail. -/
private theorem script_fail (chosen : Hook → Bool) (outline : Outline) (level : Nat)
    (bridge : Bridge) :
    outline.script ⟨.both, prune, some (hook, call), bridges⟩ chosen level bridge =
      outline.script ⟨.both, prune, none, bridges⟩ chosen level bridge := by
  induction outline generalizing level bridge with
  | mk root below ih =>
    have all (level : Nat) (bridge : Bridge) :
        Outline.scriptAll ⟨.both, prune, some (hook, call), bridges⟩ chosen level bridge below =
          Outline.scriptAll ⟨.both, prune, none, bridges⟩ chosen level bridge below := by
      rw [Outline.scriptAll_eq, Outline.scriptAll_eq, List.flatMap_def, List.flatMap_def]
      exact congrArg List.flatten
        (List.map_congr_left fun inner member => ih inner member level bridge)
    cases root with
    | node visited =>
      rw [Outline.script, Outline.script]
      simp only [all]
      rfl
    | statement visited =>
      rw [Outline.script, Outline.script, all]
      rfl

end

/-- A failure at one call of a hook stops the whole walk there and comes back as it is: the record
is that of the walk without the failure, up to the entry of that call. A hook that is not called
that often changes nothing. -/
theorem accept_stopsAt (root : Root) (prune : List Hook) (bridges : List Bridge) (hook : Hook)
    (call : Nat) :
    let full := chain ⟨.both, prune, none, bridges⟩ fun _ => true
    let failing := chain ⟨.both, prune, some (hook, call), bridges⟩ fun _ => true
    StopsAt hook call (run [] (root.accept full)) (run [] (root.accept failing)) ∧
      StopsAt hook call (run [] (root.acceptBridged full))
        (run [] (root.acceptBridged failing)) := by
  intro full failing
  -- Both walks play the same script, so only the two ways of playing it are to be compared.
  have same (level : Nat) (bridge : Bridge) := script_fail prune bridges hook call (fun _ => true)
    root.visited.outline level bridge
  constructor
  · rw [Root.accept_eq_play, Root.accept_eq_play, Root.script, Root.script, same, run_play,
      run_play]
    exact replay_stopsAt prune bridges hook call _
  · have bridged : root.bridgedScript ⟨.both, prune, some (hook, call), bridges⟩ (fun _ => true) =
        root.bridgedScript ⟨.both, prune, none, bridges⟩ fun _ => true := by
      unfold Root.bridgedScript Root.script
      simp only [same]
      rfl
    rw [Root.acceptBridged_eq_play, Root.acceptBridged_eq_play, bridged, run_play, run_play]
    exact replay_stopsAt prune bridges hook call _

end QueryTree.Recorder
