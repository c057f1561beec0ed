import QueryTree.Visit.Report
import QueryTree.Proofs.Visit.Traversal

/-!
The notices of a walk: one for each subquery, right behind the call of the hook for it.
-/
namespace QueryTree

namespace Recorder

/-! ### Records with their notices -/

/-- The notice that is due about a subquery at a level. -/
def due (options : Options) (level : Nat) (subquery : Subquery) : Notice :=
  if (options.attached? level).isSome then .entering subquery.aliasName
  else .skipping subquery.aliasName

/-- An entry of a record, and behind it the notice that is due if a subquery is entered. -/
def Event.announced (notice : Nat → Subquery → Notice) : Event → List Event
  | .enter level (.node visited) =>
    .enter level (.node visited) :: visited.subquery?.toList.map (.notice <| notice level ·)
  | event => [event]

/-- What a record is if its notices stand where they are due, and nowhere else: its calls of hooks,
each of a subquery with the notice right behind it. -/
def Announced (notice : Nat → Subquery → Notice) (events : List Event) : Prop :=
  events = (events.filter Event.ofHook).flatMap (Event.announced notice)

section
variable {notice : Nat → Subquery → Notice}

theorem Announced.append {first second : List Event} (announced : Announced notice first)
    (announced' : Announced notice second) : Announced notice (first ++ second) := by
  unfold Announced at *
  rw [List.filter_append, List.flatMap_append, ← announced, ← announced']

/-- An entry of a hook and the notice that is due then. -/
theorem Announced.enter (level : Nat) (visited : Visited) :
    Announced notice ((Event.enter level visited).announced notice) := by
  have hooks : ((Event.enter level visited).announced notice).filter Event.ofHook =
      [.enter level visited] := by
    cases visited with
    | statement visited => rfl
    | node visited =>
      rw [Event.announced]
      cases visited.subquery? <;> rfl
  rw [Announced, hooks, List.flatMap_singleton]

private theorem filter_announced {order : Order} (entries : order.showsEntry = true)
    (event : Event) : (event.announced notice).filter order.shows =
      if order.shows event then event.announced notice else [] := by
  cases event with
  | enter level visited =>
    have shown : order.shows (.enter level visited) = true := entries
    rw [if_pos shown, List.filter_eq_self]
    cases visited with
    | node visited => simp [Event.announced, Order.shows, entries]
    | statement visited => simpa [Event.announced] using shown
  | leave level visited => exact List.filter_cons
  | notice given => rfl

/-- The notices stay where they are due if entries are shown. -/
theorem Announced.filter_shows {order : Order} (entries : order.showsEntry = true)
    {events : List Event} (announced : Announced notice events) :
    Announced notice (events.filter order.shows) := by
  have kept (events : List Event) :
      events.flatMap (fun event => if order.shows event then event.announced notice else []) =
        (events.filter order.shows).flatMap (Event.announced notice) := by
    induction events with
    | nil => rfl
    | cons event rest ih =>
      rw [List.flatMap_cons, ih]
      cases shown : order.shows event <;> simp [shown]
  -- Exits may be left out, but an entry and the notice behind it are both shown.
  unfold Announced
  rw [List.filter_comm, ← kept]
  conv_lhs => rw [announced, List.filter_flatMap]
  exact List.flatMap_congr fun event _ => filter_announced entries event

end
end Recorder

open Recorder

section
variable {options : Options}

private theorem bridged_due (level : Nat) (subquery : Subquery) (within : List Event) :
    options.bridged level subquery within =
      .notice (due options level subquery) ::
        if options.bridge level = .none then [] else within := by
  unfold Options.bridged due Options.attached?
  cases options.bridge level <;> rfl

/-- Recorders are told of each notice where it is due. -/
theorem Outline.script_announced (unpruned : options.prune = []) (outline : Outline) (level : Nat)
    (bridge : Bridge) :
    Announced (due options) (outline.script options (fun _ => true) level bridge) := by
  have framed (level : Nat) (visited : Visited) (within : List Event) :
      options.framed level visited within =
        [.enter level visited] ++ within ++ [.leave level visited] :=
    options.framed_unpruned unpruned level visited within
  have left (level : Nat) (visited : Visited) :
      Announced (due options) [.leave level visited] := rfl
  refine @script_closed options (Announced (due options)) rfl Announced.append ?_ ?_ outline level
    bridge
  · intro within level visited plain announced
    have entered : Announced (due options) _ := .enter level visited
    have alone : (Event.enter level visited).announced (due options) =
        [.enter level visited] := by
      cases visited with
      | node visited =>
        have none : visited.subquery? = none := plain
        rw [Event.announced, none]
        rfl
      | statement visited => rfl
    rw [alone] at entered
    rw [framed]
    exact (entered.append announced).append (left level visited)
  · intro within subquery level node found announced
    have entered : Announced (due options) _ := .enter level (.node node)
    rw [Event.announced, found] at entered
    have inside : Announced (due options)
        (if options.bridge level = .none then [] else within) := by
      split
      · rfl
      · exact announced
    rw [framed, bridged_due]
    exact (entered.append inside).append (left level _)

end

/-! ### An idle visitor of statements -/

/-- Behind an idle bridge there is nothing to record of a statement. -/
theorem StatementNode.script_idle (options : Options) (chosen : Hook → Bool) (level : Nat)
    (node : StatementNode) :
    (Visited.statement node).outline.script options chosen level .idle = [] := by
  suffices nothing : ∀ visited node, visited = Visited.statement node →
      visited.outline.script options chosen level .idle = [] from nothing _ node rfl
  intro visited
  induction visited using Visited.induct with
  | step visited ih =>
    rintro node rfl
    have below : Bridge.idle.entersNode node = true →
        Outline.scriptAll options chosen level .idle
          ((Visited.statement node).parts.map Visited.outline) = [] := by
      intro enters
      rw [Outline.scriptAll_eq, List.flatMap_map, List.flatMap_eq_nil_iff]
      intro part member
      -- Only a block has parts that are not nodes of statements.
      cases node with
      | block block => cases enters
      | statement statement => exact ih part member _ (List.mem_singleton.mp member)
      | setOperation operation =>
        obtain ⟨body, -, same⟩ := List.mem_map.mp member
        exact ih part member _ same.symm
    have silent : ¬ Bridge.idle.records = true := Bool.false_ne_true
    rw [Visited.outline_eq, Outline.script, if_neg silent]
    split
    · exact below ‹_›
    · rfl

/-- An entry with a notice of entering where there is one of not entering. -/
def Recorder.Event.entered : Event → Event
  | .notice (.skipping aliasName) => .notice (.entering aliasName)
  | event => event

/-- An idle visitor of statements changes nothing but the notices. -/
theorem Visited.script_entered {options idle : Options} (unpruned : options.prune = [])
    (unpruned' : idle.prune = []) (alone : options.bridge 0 = .none)
    (attached : idle.bridge 0 = .idle) (visited : Visited) :
    visited.outline.script idle (fun _ => true) 0 .walk =
      (visited.outline.script options (fun _ => true) 0 .walk).map Event.entered := by
  induction visited using Visited.induct with
  | step visited ih =>
    have below : Outline.scriptAll idle (fun _ => true) 0 .walk (visited.parts.map outline) =
        (Outline.scriptAll options (fun _ => true) 0 .walk (visited.parts.map outline)).map
          Event.entered := by
      rw [Outline.scriptAll_eq, Outline.scriptAll_eq, List.flatMap_map, List.flatMap_map,
        List.map_flatMap]
      exact List.flatMap_congr ih
    rw [outline_eq]
    cases visited with
    | statement visited => exact below
    | node visited =>
      rw [Outline.script_every, Outline.script_every, idle.framed_unpruned unpruned',
        options.framed_unpruned unpruned]
      cases found : visited.subquery? with
      | none =>
        simp only [below]
        simp [Event.entered]
      | some subquery =>
        -- The statement is gone through behind the idle bridge, and not gone through otherwise.
        have parts :
            (Visited.node visited).parts = [.statement (.statement subquery.statement)] := by
          rw [Visited.parts, found]
        simp [Options.bridged, alone, attached, parts, Outline.scriptAll, Event.entered,
          StatementNode.script_idle]

namespace Recorder

/-- What notices there are in a finished run. -/
structure Announces (options : Options) (outcome : Outcome) : Prop where
  finished : outcome.result = .ok ()
  announced : Announced (due options) outcome.events

private theorem announces_play {options : Options} (unpruned : options.prune = [])
    (unfailing : options.fail = none) (entries : options.order.showsEntry = true)
    (outline : Outline) (level : Nat) (bridge : Bridge) :
    Announces options
      (run [] (forM (outline.script options (fun _ => true) level bridge) (play options))) := by
  obtain ⟨finished, recorded⟩ := run_play_unfailing options unfailing
    (outline.script options (fun _ => true) level bridge)
  refine ⟨finished, ?_⟩
  rw [recorded]
  exact (outline.script_announced unpruned level bridge).filter_shows entries

theorem Order.shows_entered (order : Order) (event : Event) :
    order.shows event.entered = order.shows event := by
  unfold Event.entered
  split <;> rfl

private theorem bridge_eq_none_of_isNone {options : Options} {level : Nat}
    (alone : (options.attached? level).isNone) : options.bridge level = .none := by
  unfold Options.attached? at alone
  cases bridged : options.bridge level with
  | none => rfl
  | idle | walk | record | recordWalk =>
    rw [bridged] at alone
    cases alone

private theorem run_idle (order : Order) {bridges : List Bridge}
    (skips : (⟨order, [], none, bridges⟩ : Options).bridge 0 = .none) (further : List Bridge)
    (root : Root) :
    let alone := run [] (root.accept (chain ⟨order, [], none, bridges⟩ fun _ => true))
    let idle := run [] (root.accept (chain ⟨order, [], none, .idle :: further⟩ fun _ => true))
    idle.result = .ok () ∧ idle.events = alone.events.map Event.entered := by
  intro alone idle
  obtain ⟨-, recorded⟩ := run_play_unfailing ⟨order, [], none, bridges⟩ rfl
    (root.script ⟨order, [], none, bridges⟩ fun _ => true)
  obtain ⟨finished, recorded'⟩ := run_play_unfailing ⟨order, [], none, .idle :: further⟩ rfl
    (root.script ⟨order, [], none, .idle :: further⟩ fun _ => true)
  rw [← Root.accept_eq_play] at recorded finished recorded'
  have shown : order.shows ∘ Event.entered = order.shows := funext order.shows_entered
  refine ⟨finished, ?_⟩
  rw [recorded, recorded', Root.script, Visited.script_entered rfl rfl skips rfl root.visited,
    List.filter_map, shown]
  rfl

/-- If entries are recorded, each subquery that is come to is announced right behind the entry for
it, with its alias, and with the message for whether there is a visitor of statements at its level;
there are no other notices. So a visitor of statements that does nothing changes a record only in
what the notices say. -/
theorem accept_announced (order : Order) (entries : order.showsEntry = true)
    (bridges : List Bridge) (root : Root) :
    let options : Options := ⟨order, [], none, bridges⟩
    let recording := chain options fun _ => true
    Announces options (run [] (root.accept recording)) ∧
    Announces options (run [] (root.acceptBridged recording)) ∧
    (∀ level subquery, (Event.notice (due options level subquery)).report =
      .array
        [.string "log",
          .string (if (options.attached? level).isSome then "TRACE" else "DEBUG"),
          .object
            [("alias", .string (Text.quotedOption subquery.aliasName)),
              ("message", .string
                (if (options.attached? level).isSome then "entering sub-select"
                else "no select visitor configured, sub-select not entered"))]]) ∧
    ((options.attached? 0).isNone → ∀ further : List Bridge,
      let idle := run [] (root.accept (chain ⟨order, [], none, .idle :: further⟩ fun _ => true))
      idle.result = .ok () ∧
        idle.events = (run [] (root.accept recording)).events.map Event.entered) := by
  intro options recording
  refine ⟨?_, ?_, ?_, ?_⟩
  · rw [Root.accept_eq_play]
    exact announces_play rfl rfl entries root.visited.outline 0 .walk
  · rw [Root.acceptBridged_eq_play, Root.bridgedScript_eq]
    exact announces_play rfl rfl entries root.visited.outline _ _
  · intro level subquery
    unfold due
    split <;> rfl
  · intro alone further
    exact run_idle order (bridge_eq_none_of_isNone alone) further root

theorem accept_announced_bothSidesCase :
    let left : Items := .subquery ⟨⟨.block .empty⟩, some "s"⟩
    let right : Items := .subquery ⟨⟨.block .empty⟩, none⟩
    let root : Root := .expression (.membership ⟨.tuple left, false, right⟩)
    let options : Options := ⟨.pre, [], none, []⟩
    let recording := chain options fun _ => true
    let idle := chain ⟨.pre, [], none, [.idle]⟩ fun _ => true
    Order.pre.showsEntry = true ∧ (options.attached? 0).isNone = true ∧
      Announces options (run [] (root.accept recording)) ∧
      (run [] (root.accept recording)).events.filter (!·.ofHook) =
        [.notice (.skipping (some "s")), .notice (.skipping none)] ∧
      (run [] (root.accept idle)).events =
        (run [] (root.accept recording)).events.map Event.entered := by
  intro left right root options recording idle
  obtain ⟨announces, -, -, entered⟩ := accept_announced .pre rfl [] root
  exact ⟨rfl, rfl, announces, rfl, (entered rfl []).2⟩

end Recorder
end QueryTree
