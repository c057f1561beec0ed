import QueryTree.Proofs.Bytes.Composition

/-!
How deep references nest. Whatever a reference stands for begins with the position of an
alternative, which takes four bytes, so that references nest no deeper than a quarter of the bytes.
A limit on them is never reached if it is above that: reading ends without one.
-/
namespace QueryTree.Bytes

/-! ### Inputs below a bound -/

/-- Whether two readers come to the same on all inputs that are shorter than a bound, and what they
leave is no longer than what they got. -/
def AgreeBelow (bound : Nat) (α : Type) (reader reader' : Reader α) : Prop :=
  ∀ input, input.length < bound → reader input = reader' input ∧
    ∀ value rest, reader input = .ok (value, rest) → rest.length ≤ input.length

namespace AgreeBelow

variable {bound : Nat}

theorem compositional (bound : Nat) : Compositional (AgreeBelow bound) where
  pure := by
    intro α value input short
    refine ⟨rfl, fun other rest read => ?_⟩
    obtain ⟨-, rfl⟩ := pure_eq_ok_iff.mp read
    exact Nat.le_refl _
  throw := by
    intro α fault input short
    exact ⟨rfl, nofun⟩
  take := by
    intro count input short
    refine ⟨rfl, fun front rest read => ?_⟩
    obtain ⟨-, rfl⟩ := take_eq_ok_iff.mp read
    exact List.length_append ▸ Nat.le_add_left _ _
  bind := by
    intro α β first first' next next' front back input short
    obtain ⟨same, less⟩ := front input short
    cases read : first input with
    | error fault =>
      rw [bind_of_error read, bind_of_error (same ▸ read)]
      exact ⟨rfl, nofun⟩
    | ok result =>
      -- What the first reader leaves is short enough for the next one.
      obtain ⟨value, middle⟩ := result
      rw [bind_of_ok read, bind_of_ok (same ▸ read)]
      have left := less value middle read
      obtain ⟨same', less'⟩ := back value middle (by omega)
      exact ⟨same', fun value' rest read' => Nat.le_trans (less' value' rest read') left⟩

/-- Behind a number there are fewer bytes than in front of it. -/
theorem behindNumber {α : Type} {width : Nat} {next next' : Nat → Reader α}
    (behind : ∀ n, AgreeBelow (bound - width) α (next n) (next' n)) :
    AgreeBelow bound α (number width >>= next) (number width >>= next') := by
  intro input short
  cases read : number width input with
  | error fault =>
    rw [bind_of_error read, bind_of_error read]
    exact ⟨rfl, nofun⟩
  | ok result =>
    obtain ⟨n, middle⟩ := result
    have length : input.length = width + middle.length := by
      rw [(number_eq_ok_iff.mp read).2, List.length_append, length_littleEndian]
    obtain ⟨same, less⟩ := behind n middle (by omega)
    rw [bind_of_ok read, bind_of_ok read]
    refine ⟨same, fun value rest read' => ?_⟩
    have left := less value rest read'
    omega

end AgreeBelow

/-! ### References to some depth -/

/-- Reads what a reference refers to, with references followed down to some depth. Those that nest
deeper are read in whatever way is given for them. -/
def readNested (deeper : Reference → Reader Datum) : Nat → Reference → Reader Datum
  | 0 => deeper
  | depth + 1 => fun target => readWith (readNested deeper depth) (.choice target.alternatives)

theorem readReference_eq (limit : Nat) :
    readReference limit = readNested (fun _ => throw .unexpectedEnd) limit := by
  induction limit with
  | zero => rfl
  | succ limit ih =>
    funext target
    rw [readReference, readNested, ih]

/-- On so few bytes it does not matter to which depth references are followed. -/
theorem readNested_agree {deeper deeper' : Reference → Reader Datum} {depth depth' bound : Nat}
    (enough : bound ≤ 4 * depth) (enough' : bound ≤ 4 * depth') (target : Reference) :
    AgreeBelow bound Datum (readNested deeper depth target) (readNested deeper' depth' target) := by
  induction depth generalizing depth' bound target with
  | zero =>
    -- Nothing is shorter than a bound of zero.
    intro input short
    omega
  | succ depth ih =>
    cases depth' with
    | zero =>
      intro input short
      omega
    | succ depth' =>
      -- One level is taken off both depths, and the position off the bound.
      refine AgreeBelow.behindNumber fun index => ?_
      have kept := AgreeBelow.compositional (bound - 4)
      have followed (target : Reference) : AgreeBelow (bound - 4) Datum
          (readNested deeper depth target) (readNested deeper' depth' target) :=
        ih (by omega) (by omega) target
      have each (alternative : String × Layout) := kept.layout followed alternative.2
      exact kept.bind (kept.alternative (fun alternative _ => each alternative) index)
        fun payload => kept.pure _

/-! ### References without a limit -/

/-- Reads what a reference refers to, with as many references followed in a row as there are. -/
def readTarget (target : Reference) : Reader Datum :=
  readDatum (.choice target.alternatives)

theorem readNested_agree_readTarget {deeper : Reference → Reader Datum} {depth bound : Nat}
    (enough : bound ≤ 4 * depth) (target : Reference) :
    AgreeBelow bound Datum (readNested deeper depth target) (readTarget target) := by
  intro input short
  -- What reads the alternatives has a limit of its own, which depends on the input.
  have unlimited : readTarget target input =
      readNested (fun _ => throw .unexpectedEnd) (input.length + 2) target input := by
    unfold readTarget readDatum
    rw [readReference_eq]
    rfl
  have agree : AgreeBelow (input.length + 1) Datum (readNested deeper depth target)
      (readNested (fun _ => throw .unexpectedEnd) (input.length + 2) target) :=
    readNested_agree (by omega) (by omega) target
  rw [unlimited]
  exact agree input (Nat.lt_succ_self _)

theorem readWith_readNested {deeper : Reference → Reader Datum} {depth : Nat} {input : List UInt8}
    (enough : input.length < 4 * depth) (layout : Layout) :
    readWith (readNested deeper depth) layout input = readWith readTarget layout input := by
  have followed (target : Reference) : AgreeBelow (input.length + 1) Datum
      (readNested deeper depth target) (readTarget target) :=
    readNested_agree_readTarget enough target
  have agree := (AgreeBelow.compositional (input.length + 1)).layout followed layout
  exact (agree input (Nat.lt_succ_self _)).1

/-- Data are read with no limit on references. -/
theorem readDatum_eq (layout : Layout) : readDatum layout = readWith readTarget layout := by
  funext input
  unfold readDatum
  rw [readReference_eq]
  exact readWith_readNested (by omega) layout

/-- Reading ends: no reference nests so deep that it would matter how deeper ones are read. -/
theorem readWith_readNested_eq_readDatum {deeper : Reference → Reader Datum} {depth : Nat}
    {input : List UInt8} (enough : input.length / 4 < depth) (layout : Layout) :
    readWith (readNested deeper depth) layout input = readDatum layout input := by
  rw [readDatum_eq, readWith_readNested (by omega)]

end QueryTree.Bytes
