import Mathlib.Data.List.Induction
import QueryTree.Log.Session
import QueryTree.Proofs.Log.Directive

/-!
Which directive of a filter decides about a line, and what follows from that for the lines about
subqueries.
-/
namespace QueryTree.Log

theorem Threshold.admits_of_graver {threshold : Threshold} {severity graver : Severity}
    (less : graver.rank ≤ severity.rank) (passes : threshold.admits severity = true) :
    threshold.admits graver = true := by
  cases threshold with
  | none => cases passes
  | some least => exact decide_eq_true (Nat.le_trans less (of_decide_eq_true passes))

namespace Directive

/-! ### Precedence -/

/-- Whether a directive takes precedence over one that stands in front of it. -/
def Overrules (directive other : Directive) : Prop :=
  other.reach < directive.reach ∨
    directive.reach = other.reach ∧ outweighs directive.field other.field = true

instance (directive other : Directive) : Decidable (Overrules directive other) :=
  inferInstanceAs (Decidable (_ ∨ _))

variable {first second third : Directive}

theorem outweighs_trans {first second third : Option String}
    (more : outweighs first second = true) (less : outweighs second third = true) :
    outweighs first third = true := by
  cases third with
  | none => cases first <;> rfl
  | some third =>
    cases second with
    | none => cases less
    | some second =>
      cases first with
      | none => cases more
      | some first =>
        exact decide_eq_true (String.le_trans (of_decide_eq_true less) (of_decide_eq_true more))

theorem outweighs_total (first second : Option String) :
    outweighs first second = true ∨ outweighs second first = true := by
  cases first with
  | none => exact .inr (by cases second <;> rfl)
  | some first =>
    cases second with
    | none => exact .inl rfl
    | some second =>
      rcases String.le_total second first with less | more
      · exact .inl (decide_eq_true less)
      · exact .inr (decide_eq_true more)

theorem Overrules.trans (overrules : Overrules first second) (overrules' : Overrules second third) :
    Overrules first third := by
  rcases overrules with longer | ⟨same, more⟩
  · rcases overrules' with longer' | ⟨same', -⟩
    · exact .inl (Nat.lt_trans longer' longer)
    · exact .inl (same' ▸ longer)
  · rcases overrules' with longer' | ⟨same', more'⟩
    · exact .inl (same ▸ longer')
    · exact .inr ⟨same.trans same', outweighs_trans more more'⟩

theorem overrules_total (first second : Directive) :
    Overrules first second ∨ Overrules second first := by
  rcases Nat.lt_trichotomy first.reach second.reach with less | same | more
  · exact .inr (.inl less)
  · rcases outweighs_total first.field second.field with heavier | lighter
    · exact .inl (.inr ⟨same, heavier⟩)
    · exact .inr (.inr ⟨same.symm, lighter⟩)
  · exact .inl (.inl more)

theorem stronger_some (other directive : Directive) :
    stronger (some other) directive =
      if Overrules directive other then some directive else some other := by
  rw [stronger]
  refine if_congr ?_ rfl rfl
  simp [Overrules]

/-! ### The directive that decides -/

/-- Whether a directive overrules all in front of it, and is overruled by none behind it. -/
def Prevails (decisive : Directive) (directives : List Directive) : Prop :=
  ∃ before after, directives = before ++ decisive :: after ∧
    (∀ other ∈ before, decisive.Overrules other) ∧ ∀ other ∈ after, ¬ other.Overrules decisive

variable {directives : List Directive} {decisive directive : Directive}

theorem Prevails.overrules (prevails : Prevails decisive directives)
    (member : directive ∈ directives) : decisive.Overrules directive := by
  obtain ⟨before, after, rfl, earlier, later⟩ := prevails
  rw [List.mem_append, List.mem_cons] at member
  rcases member with front | rfl | behind
  · exact earlier directive front
  · exact .inr ⟨rfl, (outweighs_total _ _).elim id id⟩
  · exact (overrules_total decisive directive).resolve_right (later directive behind)

theorem prevails_snoc :
    Prevails decisive (directives ++ [directive]) ↔
      decisive = directive ∧ (∀ other ∈ directives, directive.Overrules other) ∨
        Prevails decisive directives ∧ ¬ directive.Overrules decisive := by
  constructor
  · rintro ⟨before, after, same, earlier, later⟩
    -- The decisive directive is the last one, or the last one is behind it.
    obtain rfl | ⟨after, last, rfl⟩ := after.eq_nil_or_concat
    · obtain ⟨rfl, last⟩ := List.append_inj' same rfl
      obtain rfl := List.singleton_inj.mp last
      exact .inl ⟨rfl, earlier⟩
    · rw [List.concat_eq_append, ← List.cons_append, ← List.append_assoc] at same
      obtain ⟨rfl, last⟩ := List.append_inj' same rfl
      obtain rfl := List.singleton_inj.mp last
      refine .inr ⟨⟨before, after, rfl, earlier, fun other member => ?_⟩, later directive (by simp)⟩
      exact later other (by simp [member])
  · rintro (⟨rfl, earlier⟩ | ⟨⟨before, after, rfl, earlier, later⟩, weaker⟩)
    · exact ⟨directives, [], rfl, earlier, nofun⟩
    · refine ⟨before, after ++ [directive], by simp, earlier, fun other member => ?_⟩
      rcases List.mem_append.mp member with behind | last
      · exact later other behind
      · exact List.mem_singleton.mp last ▸ weaker

theorem foldl_stronger_eq_none_iff : directives.foldl stronger none = none ↔ directives = [] := by
  induction directives using List.reverseRecOn with
  | nil => simp
  | append_singleton directives directive ih =>
    rw [List.foldl_append, List.foldl_cons, List.foldl_nil]
    cases directives.foldl stronger none with
    | none => simp [stronger]
    | some other =>
      rw [stronger]
      split <;> simp

/-- The directive that is left when each is compared with the one that was left before. -/
theorem foldl_stronger_eq_some_iff :
    directives.foldl stronger none = some decisive ↔ Prevails decisive directives := by
  induction directives using List.reverseRecOn generalizing decisive with
  | nil => simp [Prevails]
  | append_singleton directives directive ih =>
    rw [List.foldl_append, List.foldl_cons, List.foldl_nil, prevails_snoc]
    cases found : directives.foldl stronger none with
    | none =>
      obtain rfl := foldl_stronger_eq_none_iff.mp found
      simp [stronger, Prevails, eq_comm]
    | some other =>
      have prevails := ih.mp found
      rw [stronger_some]
      by_cases overrules : directive.Overrules other
      · rw [if_pos overrules, Option.some.injEq]
        constructor
        · rintro rfl
          exact .inl ⟨rfl, fun _ member => overrules.trans (prevails.overrules member)⟩
        · rintro (⟨rfl, -⟩ | ⟨prevails', weaker⟩)
          · rfl
          · obtain rfl := Option.some.inj (found.symm.trans (ih.mpr prevails'))
            exact absurd overrules weaker
      · rw [if_neg overrules, Option.some.injEq]
        constructor
        · rintro rfl
          exact .inr ⟨prevails, overrules⟩
        · rintro (⟨-, earlier⟩ | ⟨prevails', -⟩)
          · obtain ⟨before, after, rfl, -⟩ := prevails
            exact absurd (earlier other (by simp)) overrules
          · exact Option.some.inj (found.symm.trans (ih.mpr prevails'))

end Directive

namespace Filter

variable {filter : Filter} {target : String} {fields : List String} {decisive : Directive}

/-- Of the directives that cover a line the one that decides overrules all that stand in front of
it, and is overruled by none behind it. -/
theorem decisive?_eq_some_iff :
    filter.decisive? target fields = some decisive ↔
      Directive.Prevails decisive (filter.filter (·.covers target.toList fields)) :=
  Directive.foldl_stronger_eq_some_iff

theorem decisive?_eq_none_iff :
    filter.decisive? target fields = none ↔
      ∀ directive ∈ filter, ¬ directive.covers target.toList fields := by
  unfold decisive?
  rw [Directive.foldl_stronger_eq_none_iff, List.filter_eq_nil_iff]

/-- A directive that is put behind others counts only for the lines that it covers. -/
theorem decisive?_snoc (filter : Filter) (directive : Directive) :
    decisive? (filter ++ [directive]) target fields =
      if directive.covers target.toList fields then
        Directive.stronger (filter.decisive? target fields) directive
      else filter.decisive? target fields := by
  unfold decisive?
  rw [List.filter_append, List.foldl_append]
  by_cases covers : directive.covers target.toList fields = true <;> simp [covers]

/-- If a line passes, then so do all that are graver. -/
theorem admits_of_graver {severity graver : Severity} (less : graver.rank ≤ severity.rank)
    (passes : filter.admits target fields severity = true) :
    filter.admits target fields graver = true := by
  unfold admits at *
  cases decides : filter.decisive? target fields with
  | none =>
    rw [decides] at passes
    cases passes
  | some directive =>
    rw [decides] at passes
    exact Threshold.admits_of_graver less passes

/-! ### Filters as texts -/

/-- The directives of a text, as they are written there. -/
def written (text : String) : List (List Char) :=
  (Text.pieces ',' text.toList).filter (!·.isEmpty)

theorem ofText?_of_written {text : String} (filled : written text ≠ []) :
    ofText? text = (written text).mapM Directive.ofText? := by
  unfold ofText? written at *
  split
  next nothing => exact absurd nothing filled
  next => rfl

theorem written_comma (first second : String) :
    written (first ++ "," ++ second) = written first ++ written second := by
  have joined : (first ++ "," ++ second).toList = first.toList ++ ',' :: second.toList := by simp
  simp only [written, Text.pieces_eq_splitOn, joined, List.splitOn_append_cons_self,
    List.filter_append]

end Filter

/-! ### Tracing walks -/

namespace Config

/-- The directive that tracing adds. -/
def walksDirective : Directive :=
  ⟨some walks.toList, none, false, some .trace⟩

theorem ofText?_walks : Directive.ofText? (walks ++ "=trace").toList = some walksDirective := by
  have bare : Text.Bare (walks ++ "=trace").toList := by
    have first : (walks ++ "=trace").toList.head?.all (!Text.isBlank ·) = true := by decide
    have last : (walks ++ "=trace").toList.getLast?.all (!Text.isBlank ·) = true := by decide
    rw [Option.all_eq_true] at first last
    constructor
    · simpa using first
    · simpa using last
  have said : Directive.threshold? "trace".toList = some (some .trace) := by decide +kernel
  refine (Directive.ofText?_eq_some_iff bare).mpr ⟨by decide, ?_⟩
  have target : Directive.IsTarget walks.toList := by
    have plain : walks.toList.all (· ∉ ['=', '[']) = true := by decide
    exact fun c member => of_decide_eq_true (List.all_eq_true.mp plain c member)
  exact .limited target said

theorem ofText?_directives {config : Config} (tracing : config.tracing = true) :
    Filter.ofText? config.directives =
      ((Filter.written config.level).mapM Directive.ofText?).map (· ++ [walksDirective]) := by
  have joined : config.directives = config.level ++ "," ++ (walks ++ "=trace") := by
    rw [directives, if_pos tracing, String.append_assoc]
  have own : Filter.written (walks ++ "=trace") = [(walks ++ "=trace").toList] := by decide
  have both : Filter.written config.directives =
      Filter.written config.level ++ [(walks ++ "=trace").toList] := by
    rw [joined, Filter.written_comma, own]
  rw [Filter.ofText?_of_written (by simp [both]), both, List.mapM_append,
    List.mapM_cons, List.mapM_nil, ofText?_walks]
  cases (Filter.written config.level).mapM Directive.ofText? <;> rfl

/-- The filter of a configuration that traces walks ends with the directive for them. -/
private theorem exists_of_tracing {config : Config} (tracing : config.tracing = true)
    {filter : Filter} (read : Filter.ofText? config.directives = some filter) :
    ∃ own, (Filter.written config.level).mapM Directive.ofText? = some own ∧
      filter = own ++ [walksDirective] := by
  rw [ofText?_directives tracing] at read
  obtain ⟨own, levels, rfl⟩ := Option.map_eq_some_iff.mp read
  exact ⟨own, levels, rfl⟩

/-- With tracing the lines about subqueries pass, whatever the level, unless there is a directive
for them that is even more special. -/
theorem admits_of_tracing {config : Config} (tracing : config.tracing = true) {filter : Filter}
    (read : Filter.ofText? config.directives = some filter)
    (weaker : ∀ directive ∈ filter, directive.covers subqueryTarget.toList subqueryFields →
      walksDirective.Overrules directive) (severity : Severity) :
    filter.admits subqueryTarget subqueryFields severity = true := by
  obtain ⟨own, -, rfl⟩ := exists_of_tracing tracing read
  have last : [walksDirective].filter (·.covers subqueryTarget.toList subqueryFields) =
      [walksDirective] := by decide
  have decides :
      Filter.decisive? (own ++ [walksDirective]) subqueryTarget subqueryFields =
        some walksDirective := by
    rw [Filter.decisive?_eq_some_iff, List.filter_append, last, Directive.prevails_snoc]
    refine .inl ⟨rfl, fun other member => ?_⟩
    obtain ⟨present, covered⟩ := List.mem_filter.mp member
    exact weaker other (List.mem_append_left _ present) covered
  rw [Filter.admits, decides]
  cases severity <;> rfl

/-- Tracing does not change what passes of all other lines. -/
theorem admits_elsewhere {config : Config} (tracing : config.tracing = true)
    {filter traced : Filter} (filled : Filter.written config.level ≠ [])
    (read : Filter.ofText? config.level = some filter)
    (read' : Filter.ofText? config.directives = some traced) {target : String}
    (elsewhere : ¬ walks.toList <+: target.toList) (fields : List String) (severity : Severity) :
    traced.admits target fields severity = filter.admits target fields severity := by
  obtain ⟨own, levels, rfl⟩ := exists_of_tracing tracing read'
  rw [Filter.ofText?_of_written filled, levels] at read
  obtain rfl := Option.some.inj read
  have silent : ¬ walksDirective.covers target.toList fields = true := by
    simpa [Directive.covers, walksDirective] using elsewhere
  rw [Filter.admits, Filter.decisive?_snoc, if_neg silent]
  rfl

end Config
end QueryTree.Log
