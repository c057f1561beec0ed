import QueryTree.Proofs.Layout.Shape

/-!
Data in bytes and back. What has been written of a datum is read back as far as the rules of its
records allow, whatever follows it; and whatever is read is what would have been written.
-/
namespace QueryTree.Bytes

/-! ### Reading until a rule is violated -/

/-- The end of reading a value, unless a record in it has been refused. -/
def judged {α : Type} (violation : Option NodeError) (value : α) (rest : List UInt8) :
    Except ReadError (α × List UInt8) :=
  match violation with
  | none => .ok (value, rest)
  | some cause => .error (.rejected cause)

private theorem bind_of_judged {α β : Type} {first : Reader α} {next : α → Reader β}
    {input middle rest : List UInt8} {v w : Option NodeError} {a : α} {b : β}
    (left : first input = judged v a middle) (right : next a middle = judged w b rest) :
    (first >>= next) input = judged (v.or w) b rest := by
  cases v with
  | none => rw [bind_of_ok left, right, Option.none_or]
  | some cause => exact bind_of_error left

private theorem pure_judged {α : Type} (value : α) (rest : List UInt8) :
    (pure value : Reader α) rest = judged none value rest :=
  rfl

private theorem checked_judged (rule : Rule) (fields : List Datum) (rest : List UInt8) :
    checked rule fields rest = judged (rule.violation fields) (.record fields) rest := by
  unfold checked
  cases rule.violation fields <;> rfl

section
variable (follow : Reference → Reader Datum)

theorem readAlternative_eq (alternatives : List (String × Layout)) (index : Nat) :
    readAlternative follow alternatives index =
      match alternatives[index]? with
      | some alternative => readWith follow alternative.2
      | none => throw .invalidVariant := by
  induction alternatives generalizing index with
  | nil => rfl
  | cons alternative alternatives ih =>
    cases index with
    | zero => rfl
    | succ index => exact ih index

/-- A list is read like a record whose fields all have the layout of its items. -/
theorem repeated_eq_readFields (item : Layout) (count : Nat) :
    repeated (readWith follow item) count =
      readFields follow (List.replicate count ("", item)) := by
  induction count with
  | zero => rfl
  | succ count ih => rw [repeated, List.replicate_succ, readFields, ih]

/-- A pair is read like a record of its two parts. -/
theorem readWith_pair (left right : Layout) :
    readWith follow (.pair left right) =
      Datum.record <$> readFields follow [("", left), ("", right)] := by
  simp [readWith, readFields]

end

/-- Whatever layout a datum has, it is read back from its bytes, or refused for the first record
that violates its rule. A limit above the number of bytes suffices for the references. -/
def ReadsBack (d : Datum) : Prop :=
  ∀ layout limit rest, d.Shaped layout → d.Bounded → d.toBytes.length < limit →
    readWith (readReference limit) layout (d.toBytes ++ rest) =
      judged (d.violation? layout) d rest

private theorem readFields_toBytes (limit : Nat) (fields : List Datum)
    (named : List (String × Layout)) (rest : List UInt8)
    (each : ∀ field ∈ fields, ReadsBack field)
    (shaped : Datum.AllShaped fields (named.map Prod.snd)) (bounded : Datum.AllBounded fields)
    (enough : (Datum.allToBytes fields).length < limit) :
    readFields (readReference limit) named (Datum.allToBytes fields ++ rest) =
      judged (Datum.firstViolation? fields (named.map Prod.snd)) fields rest := by
  induction named generalizing fields with
  | nil =>
    rw [List.map_nil, Datum.allShaped_nil_iff] at shaped
    subst shaped
    rfl
  | cons entry named ih =>
    obtain ⟨name, layout⟩ := entry
    obtain ⟨field, fields, rfl, head, tail⟩ := (Datum.allShaped_cons_iff _ _ _).mp shaped
    rw [Datum.allToBytes, List.length_append] at enough
    have first := each field List.mem_cons_self layout limit (Datum.allToBytes fields ++ rest)
      head bounded.1 (by omega)
    have others := ih fields (fun field member => each field (List.mem_cons_of_mem _ member))
      tail bounded.2 (by omega)
    rw [Datum.allToBytes, List.append_assoc, readFields]
    refine bind_of_judged first ?_
    rw [← Option.or_none (o := Datum.firstViolation? _ _)]
    exact bind_of_judged others (pure_judged _ _)

private theorem readChoice_toBytes (alternatives : List (String × Layout)) (limit index : Nat)
    (payload : Datum) (rest : List UInt8) (back : ReadsBack payload)
    (shaped : ∃ alternative, alternatives[index]? = some alternative ∧
      payload.Shaped alternative.2)
    (bounded : (Datum.choice index payload).Bounded) (enough : payload.toBytes.length < limit) :
    readWith (readReference limit) (.choice alternatives)
        ((Datum.choice index payload).toBytes ++ rest) =
      judged (alternatives[index]?.bind fun alternative => payload.violation? alternative.2)
        (.choice index payload) rest := by
  obtain ⟨alternative, found, shaped⟩ := shaped
  have counted := number_littleEndian 4 index bounded.1 (payload.toBytes ++ rest)
  have inner := back alternative.2 limit rest shaped bounded.2 enough
  rw [readWith, Datum.toBytes, List.append_assoc, bind_of_ok counted, readAlternative_eq, found,
    Option.bind_some, ← Option.or_none (o := payload.violation? _)]
  exact bind_of_judged inner (pure_judged _ _)

theorem readsBack (d : Datum) : ReadsBack d := by
  -- The datum decides what the layout can be, so the induction is on the datum: a layout may refer
  -- to one that is larger than itself.
  induction d with
  | text value =>
    intro layout limit rest shaped bounded enough
    cases layout <;> simp only [Datum.Shaped] at shaped
    have read : text (ofText value ++ rest) = .ok (value, rest) :=
      text_eq_ok_iff.mpr ⟨bounded, rfl⟩
    exact bind_of_ok read
  | flag value =>
    intro layout limit rest shaped bounded enough
    cases layout <;> simp only [Datum.Shaped] at shaped
    have read : bit .invalidFlag ((Datum.flag value).toBytes ++ rest) = .ok (value, rest) :=
      bit_eq_ok_iff.mpr rfl
    exact bind_of_ok read
  | long value =>
    intro layout limit rest shaped bounded enough
    cases layout <;> simp only [Datum.Shaped] at shaped
    have read := number_littleEndian 8 value.toUInt64.toNat value.toUInt64.toNat_lt rest
    refine (bind_of_ok read).trans ?_
    have same : value.toUInt64.toNat.toUInt64 = value.toUInt64 := UInt64.ofNat_toNat
    rw [same, Int64.toInt64_toUInt64]
    rfl
  | ordinal value =>
    intro layout limit rest shaped bounded enough
    cases layout <;> simp only [Datum.Shaped] at shaped
    have read := number_littleEndian 4 value.toNat value.toNat_lt rest
    refine (bind_of_ok read).trans ?_
    have same : value.toNat.toUInt32 = value := UInt32.ofNat_toNat
    rw [same]
    rfl
  | double value =>
    intro layout limit rest shaped bounded enough
    cases layout <;> simp only [Datum.Shaped] at shaped
    have read := number_littleEndian 8 value.bits.toNat value.bits.toNat_lt rest
    refine (bind_of_ok read).trans ?_
    have same : value.bits.toNat.toUInt64 = value.bits := UInt64.ofNat_toNat
    rw [same]
    rfl
  | unit =>
    intro layout limit rest shaped bounded enough
    cases layout <;> simp only [Datum.Shaped] at shaped
    rfl
  | absent =>
    intro layout limit rest shaped bounded enough
    cases layout <;> simp only [Datum.Shaped] at shaped
    have read : bit .invalidTag (Datum.absent.toBytes ++ rest) = .ok (false, rest) :=
      bit_eq_ok_iff.mpr rfl
    exact bind_of_ok read
  | present item ih =>
    intro layout limit rest shaped bounded enough
    cases layout <;> simp only [Datum.Shaped] at shaped
    rename_i layout
    have read : bit .invalidTag ((Datum.present item).toBytes ++ rest) =
        .ok (true, item.toBytes ++ rest) :=
      bit_eq_ok_iff.mpr rfl
    have inner := ih layout limit rest shaped bounded (Nat.lt_of_succ_lt enough)
    rw [readWith, bind_of_ok read, Datum.violation?, ← Option.or_none (o := item.violation? layout)]
    exact bind_of_judged inner (pure_judged _ _)
  | list items ih =>
    -- The items are read as fields that all have the same layout.
    intro layout limit rest shaped bounded enough
    cases layout <;> simp only [Datum.Shaped] at shaped
    rename_i layout
    rw [Datum.toBytes, List.length_append] at enough
    have counted := number_littleEndian 8 items.length bounded.1 (Datum.allToBytes items ++ rest)
    have named : (List.replicate items.length ("", layout)).map Prod.snd =
        List.replicate items.length layout := List.map_replicate
    have inner := readFields_toBytes limit items (List.replicate items.length ("", layout)) rest ih
      (named ▸ shaped) bounded.2 (by omega)
    rw [readWith, Datum.toBytes, List.append_assoc, bind_of_ok counted, repeated_eq_readFields,
      Datum.violation?, ← named, ← Option.or_none (o := Datum.firstViolation? _ _)]
    exact bind_of_judged inner (pure_judged _ _)
  | record fields ih =>
    intro layout limit rest shaped bounded enough
    cases layout <;> simp only [Datum.Shaped] at shaped
    case pair left right =>
      have inner := readFields_toBytes limit fields [("", left), ("", right)] rest ih shaped bounded
        enough
      rw [readWith_pair, Datum.violation?, ← Option.or_none (o := Datum.firstViolation? _ _),
        map_eq_pure_bind]
      exact bind_of_judged inner (pure_judged _ _)
    case record listed rule named =>
      have inner := readFields_toBytes limit fields named rest ih shaped bounded enough
      exact bind_of_judged inner (checked_judged _ _ _)
  | choice index payload ih =>
    intro layout limit rest shaped bounded enough
    have enough' : 4 + payload.toBytes.length < limit := by
      rwa [Datum.toBytes, List.length_append, length_littleEndian] at enough
    cases layout <;> simp only [Datum.Shaped, Layout.alternatives] at shaped
    case choice alternatives =>
      exact readChoice_toBytes alternatives limit index payload rest ih shaped bounded (by omega)
    case reference target =>
      -- Following the reference takes one off the limit, and the position four bytes.
      cases limit with
      | zero => omega
      | succ limit =>
        exact readChoice_toBytes target.alternatives limit index payload rest ih shaped bounded
          (by omega)
    all_goals simp at shaped

/-! ### What is read is what would have been written -/

/-- A reader that takes nothing but what is written of data that fit a layout. -/
def Exact (reader : Reader Datum) (layout : Layout) : Prop :=
  ∀ input d rest, reader input = .ok (d, rest) → input = d.toBytes ++ rest ∧ d.Fits layout

section
variable (follow : Reference → Reader Datum)

private theorem readFields_exact (named : List (String × Layout))
    (each : ∀ entry ∈ named, Exact (readWith follow entry.2) entry.2)
    (input rest : List UInt8) (fields : List Datum)
    (read : readFields follow named input = .ok (fields, rest)) :
    input = Datum.allToBytes fields ++ rest ∧ Datum.AllShaped fields (named.map Prod.snd) ∧
      Datum.firstViolation? fields (named.map Prod.snd) = none ∧ Datum.AllBounded fields := by
  induction named generalizing input fields with
  | nil =>
    obtain ⟨rfl, rfl⟩ := pure_eq_ok_iff.mp read
    exact ⟨rfl, trivial, rfl, trivial⟩
  | cons entry named ih =>
    obtain ⟨name, layout⟩ := entry
    rw [readFields] at read
    obtain ⟨field, middle, first, result⟩ := bind_eq_ok_iff.mp read
    obtain ⟨others, rest', tail, last⟩ := bind_eq_ok_iff.mp result
    obtain ⟨rfl, rfl⟩ := pure_eq_ok_iff.mp last
    obtain ⟨rfl, fits⟩ := each _ List.mem_cons_self input field middle first
    obtain ⟨rfl, shaped, lawful, bounded⟩ :=
      ih (fun entry member => each entry (List.mem_cons_of_mem _ member)) middle others tail
    refine ⟨by rw [Datum.allToBytes, List.append_assoc], ⟨fits.shaped, shaped⟩, ?_,
      ⟨fits.bounded, bounded⟩⟩
    rw [List.map_cons, Datum.firstViolation?, fits.lawful, lawful, Option.or_none]

private theorem checked_eq_ok_iff {rule : Rule} {fields : List Datum} {input rest : List UInt8}
    {d : Datum} :
    checked rule fields input = .ok (d, rest) ↔
      rule.violation fields = none ∧ d = .record fields ∧ input = rest := by
  unfold checked
  cases rule.violation fields with
  | none => simp [pure_apply, eq_comm]
  | some cause => simp [throw_apply]

private theorem readWith_choice_exact (alternatives : List (String × Layout))
    (each : ∀ alternative ∈ alternatives, Exact (readWith follow alternative.2) alternative.2) :
    Exact (readWith follow (.choice alternatives)) (.choice alternatives) := by
  intro input d rest accepted
  rw [readWith] at accepted
  obtain ⟨index, middle, counted, result⟩ := bind_eq_ok_iff.mp accepted
  obtain ⟨small, rfl⟩ := number_eq_ok_iff.mp counted
  obtain ⟨payload, rest', inner, last⟩ := bind_eq_ok_iff.mp result
  obtain ⟨rfl, rfl⟩ := pure_eq_ok_iff.mp last
  rw [readAlternative_eq] at inner
  cases found : alternatives[index]? with
  | none =>
    rw [found] at inner
    cases inner
  | some alternative =>
    rw [found] at inner
    obtain ⟨rfl, fits⟩ := each alternative (List.mem_of_getElem? found) middle payload rest' inner
    refine ⟨by rw [Datum.toBytes, List.append_assoc], ⟨alternative, found, fits.shaped⟩, ?_,
      ⟨small, fits.bounded⟩⟩
    rw [Datum.violation?, Layout.alternatives, found, Option.bind_some, fits.lawful]

private theorem number_exact {width : Nat} {make : Nat → Datum} {layout : Layout}
    (written : ∀ n < capacity width, (make n).toBytes = littleEndian width n)
    (fits : ∀ n, (make n).Fits layout) : Exact (return make (← number width)) layout := by
  intro input d rest accepted
  obtain ⟨n, rest', read, result⟩ := bind_eq_ok_iff.mp accepted
  obtain ⟨rfl, rfl⟩ := pure_eq_ok_iff.mp result
  obtain ⟨small, rfl⟩ := number_eq_ok_iff.mp read
  exact ⟨by rw [written n small], fits n⟩

/-- If references are read exactly, everything is. -/
theorem readWith_exact (exact : ∀ target, Exact (follow target) (.reference target))
    (layout : Layout) : Exact (readWith follow layout) layout := by
  induction layout with
  | text =>
    intro input d rest accepted
    obtain ⟨value, rest', read, result⟩ := bind_eq_ok_iff.mp accepted
    obtain ⟨rfl, rfl⟩ := pure_eq_ok_iff.mp result
    obtain ⟨small, rfl⟩ := text_eq_ok_iff.mp read
    exact ⟨rfl, trivial, rfl, small⟩
  | flag =>
    intro input d rest accepted
    obtain ⟨value, rest', read, result⟩ := bind_eq_ok_iff.mp accepted
    obtain ⟨rfl, rfl⟩ := pure_eq_ok_iff.mp result
    obtain rfl := bit_eq_ok_iff.mp read
    exact ⟨rfl, trivial, rfl, trivial⟩
  | long =>
    exact number_exact (fun n small => congrArg (littleEndian 8) (UInt64.toNat_ofNat_of_lt' small))
      fun _ => ⟨trivial, rfl, trivial⟩
  | ordinal =>
    exact number_exact (fun n small => congrArg (littleEndian 4) (UInt32.toNat_ofNat_of_lt' small))
      fun _ => ⟨trivial, rfl, trivial⟩
  | double =>
    exact number_exact (fun n small => congrArg (littleEndian 8) (UInt64.toNat_ofNat_of_lt' small))
      fun _ => ⟨trivial, rfl, trivial⟩
  | unit =>
    intro input d rest accepted
    obtain ⟨rfl, rfl⟩ := pure_eq_ok_iff.mp accepted
    exact ⟨rfl, trivial, rfl, trivial⟩
  | option item ih =>
    intro input d rest accepted
    obtain ⟨present, middle, marked, result⟩ := bind_eq_ok_iff.mp accepted
    obtain rfl := bit_eq_ok_iff.mp marked
    cases present with
    | false =>
      obtain ⟨rfl, rfl⟩ := pure_eq_ok_iff.mp result
      exact ⟨rfl, trivial, rfl, trivial⟩
    | true =>
      obtain ⟨value, rest', read, last⟩ := bind_eq_ok_iff.mp result
      obtain ⟨rfl, rfl⟩ := pure_eq_ok_iff.mp last
      obtain ⟨rfl, fits⟩ := ih middle value rest' read
      exact ⟨rfl, fits.shaped, fits.lawful, fits.bounded⟩
  | list item ih =>
    intro input d rest accepted
    obtain ⟨count, middle, counted, result⟩ := bind_eq_ok_iff.mp accepted
    obtain ⟨small, rfl⟩ := number_eq_ok_iff.mp counted
    obtain ⟨items, rest', read, last⟩ := bind_eq_ok_iff.mp result
    obtain ⟨rfl, rfl⟩ := pure_eq_ok_iff.mp last
    rw [repeated_eq_readFields] at read
    have each : ∀ entry ∈ List.replicate count ("", item),
        Exact (readWith follow entry.2) entry.2 := by
      intro entry member
      rw [(List.mem_replicate.mp member).2]
      exact ih
    obtain ⟨rfl, shaped, lawful, bounded⟩ := readFields_exact follow _ each _ _ _ read
    rw [List.map_replicate] at shaped lawful
    obtain ⟨rfl, _⟩ := (Datum.allShaped_replicate_iff _ _ _).mp shaped
    exact ⟨by rw [Datum.toBytes, List.append_assoc], shaped, lawful, small, bounded⟩
  | pair first second left right =>
    intro input d rest accepted
    rw [readWith_pair, map_eq_pure_bind] at accepted
    obtain ⟨fields, rest', read, result⟩ := bind_eq_ok_iff.mp accepted
    obtain ⟨rfl, rfl⟩ := pure_eq_ok_iff.mp result
    have each : ∀ entry ∈ [("", first), ("", second)],
        Exact (readWith follow entry.2) entry.2 := by
      simp [left, right]
    obtain ⟨rfl, shaped, lawful, bounded⟩ := readFields_exact follow _ each _ _ _ read
    exact ⟨rfl, shaped, lawful, bounded⟩
  | record listed rule fields ih =>
    intro input d rest accepted
    obtain ⟨data, middle, read, result⟩ := bind_eq_ok_iff.mp accepted
    obtain ⟨allowed, rfl, rfl⟩ := checked_eq_ok_iff.mp result
    obtain ⟨rfl, shaped, lawful, bounded⟩ := readFields_exact follow fields ih _ _ _ read
    refine ⟨rfl, shaped, ?_, bounded⟩
    rw [Datum.violation?, lawful, Option.none_or, allowed]
  | choice alternatives ih => exact readWith_choice_exact follow alternatives ih
  | reference target => exact exact target

end

theorem readReference_exact (limit : Nat) (target : Reference) :
    Exact (readReference limit target) (.reference target) := by
  induction limit generalizing target with
  | zero =>
    intro input d rest accepted
    cases accepted
  | succ limit ih =>
    intro input d rest accepted
    obtain ⟨rfl, fits⟩ := readWith_exact (readReference limit) ih _ input d rest accepted
    exact ⟨rfl, fits.reference⟩

/-- Reading a datum of a layout: the bytes that are accepted are those written of data that fit the
layout, followed by anything. -/
theorem readDatum_eq_ok_iff {layout : Layout} {input rest : List UInt8} {d : Datum} :
    readDatum layout input = .ok (d, rest) ↔ input = d.toBytes ++ rest ∧ d.Fits layout := by
  constructor
  · exact readWith_exact _ (readReference_exact _) layout input d rest
  · rintro ⟨rfl, fits⟩
    have read := readsBack d layout ((d.toBytes ++ rest).length + 1) rest fits.shaped fits.bounded
      (by rw [List.length_append]; omega)
    rw [fits.lawful] at read
    exact read

end QueryTree.Bytes
