import QueryTree.Proofs.Bytes.Composition
import QueryTree.Proofs.Bytes.Node

/-!
Bytes that are cut off. As long as a reader does not run into the end of the bytes, what it comes to
does not depend on what follows; so of a beginning of what has been written it can only report that
it ends too early.
-/
namespace QueryTree.Bytes

/-! ### Readers that have not come to the end -/

/-- Whether a reader, if it does not run into the end of the bytes, comes to what another reader
comes to when more bytes follow. -/
def Anticipates {α : Type} (short long : Reader α) : Prop :=
  ∀ input more, short input = .error .unexpectedEnd ∨
    long (input ++ more) = (short input).map fun (value, rest) => (value, rest ++ more)

namespace Anticipates

theorem compositional : Compositional fun _ => Anticipates where
  pure := fun _ _ _ => .inr rfl
  throw := fun _ _ _ => .inr rfl
  take := by
    intro count input more
    unfold Bytes.take
    rw [List.splitAt_eq, List.splitAt_eq]
    dsimp only
    by_cases enough : count ≤ input.length
    · right
      have full : (input.take count).length = count := List.length_take_of_le enough
      rw [List.take_append_of_le_length enough, List.drop_append_of_le_length enough, if_pos full,
        if_pos full]
      rfl
    · left
      have short : (input.take count).length ≠ count := by
        rw [List.length_take]
        omega
      rw [if_neg short]
  bind := by
    intro α β first first' next next' front back input more
    rcases front input more with ended | same
    · exact .inl (bind_of_error ended)
    · cases read : first input with
      | error fault =>
        rw [read] at same
        refine .inr ?_
        rw [bind_of_error read, bind_of_error same]
        rfl
      | ok result =>
        obtain ⟨value, rest⟩ := result
        rw [read] at same
        rw [bind_of_ok read, bind_of_ok same]
        exact back value rest more

theorem layout {follow follow' : Reference → Reader Datum}
    (followed : ∀ target, Anticipates (follow target) (follow' target)) (layout : Layout) :
    Anticipates (readWith follow layout) (readWith follow' layout) :=
  compositional.layout followed layout

/-- A limit of references that has been reached is reported like the end of the bytes, so that the
greater limit can be the one of the longer bytes. -/
theorem reference {limit limit' : Nat} (le : limit ≤ limit') (target : Reference) :
    Anticipates (readReference limit target) (readReference limit' target) := by
  induction limit generalizing limit' target with
  | zero => exact fun _ _ => .inl rfl
  | succ limit ih =>
    obtain _ | limit' := limit'
    · omega
    · exact layout (ih (Nat.le_of_succ_le_succ le)) _

end Anticipates

/-- A beginning of the bytes of a datum is refused as ending too early, unless it is all of them. -/
theorem readDatum_of_isPrefix {layout : Layout} {d : Datum} (fits : d.Fits layout)
    {cut : List UInt8} (beginning : cut <+: d.toBytes) (strict : cut ≠ d.toBytes) :
    readDatum layout cut = .error .unexpectedEnd := by
  obtain ⟨more, whole⟩ := beginning
  have missing : more ≠ [] := by
    rintro rfl
    exact strict (by rw [← whole, List.append_nil])
  have limits : cut.length + 1 ≤ (cut ++ more).length + 1 := by
    rw [List.length_append]
    omega
  have read : readDatum layout (cut ++ more) = .ok (d, []) :=
    readDatum_eq_ok_iff.mpr ⟨by rw [whole, List.append_nil], fits⟩
  have anticipated := Anticipates.layout (Anticipates.reference limits) layout cut more
  rcases anticipated with ended | same
  · exact ended
  · -- Otherwise nothing would have been left over of the bytes that are missing.
    have same : readDatum layout (cut ++ more) =
        (readDatum layout cut).map fun (value, rest) => (value, rest ++ more) := same
    rw [read] at same
    cases short : readDatum layout cut with
    | error fault =>
      rw [short] at same
      cases same
    | ok result =>
      rw [short] at same
      have nothing : [] = result.2 ++ more := congrArg Prod.snd (Except.ok.inj same)
      exact absurd (List.append_eq_nil_iff.mp nothing.symm).2 missing

/-- What has been written of a well-formed node and then cut off, at whatever byte, is refused as
ending too early, and for nothing else. -/
theorem decode_truncated (type : NodeType) (value : type.Value)
    (wellFormed : AnyNode.WellFormed ⟨type, value⟩) (bounded : AnyNode.Bounded ⟨type, value⟩)
    (cut : List UInt8) (beginning : cut <+: encode value) (strict : cut ≠ encode value) :
    decode type.Value cut = .error .unexpectedEnd := by
  have fits := (AnyNode.fits_toDatum_iff ⟨type, value⟩).mpr ⟨wellFormed, bounded⟩
  have ended : readDatum (Laid.layout type.Value) cut = .error .unexpectedEnd :=
    readDatum_of_isPrefix fits beginning strict
  have refused : (read type.Value).run cut = .error .unexpectedEnd := bind_of_error ended
  unfold decode
  rw [refused]
  rfl

/-- `CASE WHEN TRUE THEN 'é' AT TIME ZONE 'UTC' END`. -/
private def accentedCase : Expr :=
  .case ⟨none, [⟨.literal (.boolean true), .zoned ⟨.literal (.string "é"), "UTC"⟩⟩], none⟩

/-- The cut is between the two bytes of the letter. -/
theorem decode_truncated_accentedCase :
    AnyNode.WellFormed ⟨.expression, accentedCase⟩ ∧ AnyNode.Bounded ⟨.expression, accentedCase⟩ ∧
      (encode accentedCase)[42]? = some 0xC3 ∧ (encode accentedCase)[43]? = some 0xA9 ∧
      decode Expr ((encode accentedCase).take 43) = .error .unexpectedEnd := by
  have wellFormed : AnyNode.WellFormed ⟨.expression, accentedCase⟩ := by
    rw [AnyNode.wellFormed_iff]
    simp [accentedCase, AnyNode.inside_eq, AnyNode.parts, AnyNode.fault?]
    decide
  have bounded : AnyNode.Bounded ⟨.expression, accentedCase⟩ := by
    constructor
    · simp [accentedCase, AnyNode.inside_eq, AnyNode.parts, AnyNode.texts, AnyNode.lengthLimit]
      decide
    · simp [accentedCase, AnyNode.inside_eq, AnyNode.parts, AnyNode.lengths, AnyNode.lengthLimit]
  have later : (encode accentedCase)[43]? = some 0xA9 := by decide
  have strict : (encode accentedCase).take 43 ≠ encode accentedCase := by
    intro same
    have absent : ((encode accentedCase).take 43)[43]? = none := by simp
    rw [same, later] at absent
    cases absent
  have ended := decode_truncated .expression accentedCase wellFormed bounded _
    (List.take_prefix 43 _) strict
  exact ⟨wellFormed, bounded, by decide, later, ended⟩

end QueryTree.Bytes
