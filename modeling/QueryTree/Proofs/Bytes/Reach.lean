import QueryTree.Proofs.Bytes.Injective
import QueryTree.Proofs.Bytes.Nesting
import QueryTree.Proofs.Bytes.Node
import QueryTree.Proofs.Bytes.Weight

/-!
How far reading goes. A datum is read part by part, and the fault of a part is the fault of the
whole. What is said in front of a list about its length can be anything; but a list that could not
fit into the bytes behind that is a fault wherever reading comes to it, and what is read without a
fault is bounded by the bytes that have been read.
-/
namespace QueryTree.Bytes

/-! ### Parts of what is read -/

/-- How reading a datum of a layout begins. Behind a mark, a length or a position the parts of the
datum are read, one after the other; these and the bytes in which they are looked for come last. -/
inductive Opens : Layout → List UInt8 → List (String × Layout) → List UInt8 → Prop where
  | present {item : Layout} {body : List UInt8} : Opens (.option item) (1 :: body) [("", item)] body
  | items {item : Layout} {length : Nat} {body : List UInt8} (small : length < capacity 8) :
    Opens (.list item) (littleEndian 8 length ++ body) (List.replicate length ("", item)) body
  | pair {left right : Layout} {body : List UInt8} :
    Opens (.pair left right) body [("", left), ("", right)] body
  | fields {listed : Bool} {rule : Rule} {named : List (String × Layout)} {body : List UInt8} :
    Opens (.record listed rule named) body named body
  | payload {layout : Layout} {index : Nat} {alternative : String × Layout} {body : List UInt8}
    (small : index < capacity 4) (found : layout.alternatives[index]? = some alternative) :
    Opens layout (littleEndian 4 index ++ body) [alternative] body

/-- Whether reading a datum of one layout from an input comes to reading a datum of another one,
with so much left of the input. All parts in front of it have been read by then. -/
inductive Reaches : Layout → List UInt8 → Layout → List UInt8 → Prop where
  | here {layout : Layout} {input : List UInt8} : Reaches layout input layout input
  | part {layout place : Layout} {input body middle left : List UInt8}
    {before after : List (String × Layout)} {part : String × Layout} {data : List Datum}
    (opens : Opens layout input (before ++ part :: after) body)
    (passed : readFields readTarget before body = .ok (data, middle))
    (inner : Reaches part.2 middle place left) : Reaches layout input place left

section
variable {follow : Reference → Reader Datum} {input middle : List UInt8} {fault : ReadError}

private theorem readFields_refused {before after : List (String × Layout)} {part : String × Layout}
    {data : List Datum} (passed : readFields follow before input = .ok (data, middle))
    (refused : readWith follow part.2 middle = .error fault) :
    readFields follow (before ++ part :: after) input = .error fault := by
  induction before generalizing input data with
  | nil =>
    obtain ⟨rfl, rfl⟩ := pure_eq_ok_iff.mp passed
    exact bind_of_error refused
  | cons field before ih =>
    obtain ⟨first, later, read, result⟩ := bind_eq_ok_iff.mp passed
    obtain ⟨others, last, passed', result⟩ := bind_eq_ok_iff.mp result
    obtain ⟨rfl, rfl⟩ := pure_eq_ok_iff.mp result
    rw [List.cons_append, readFields, bind_of_ok read]
    exact bind_of_error (ih passed')

private theorem readWith_refused {part : String × Layout}
    (refused : readFields follow [part] input = .error fault) :
    readWith follow part.2 input = .error fault := by
  obtain ⟨name, layout⟩ := part
  rw [readFields] at refused
  cases read : readWith follow layout input with
  | error other =>
    rw [bind_of_error read] at refused
    cases refused
    rfl
  | ok result =>
    rw [bind_of_ok read] at refused
    cases refused

end

private theorem readDatum_alternatives {layout : Layout} {index : Nat}
    {alternative : String × Layout} (found : layout.alternatives[index]? = some alternative) :
    readDatum layout = readWith readTarget (.choice layout.alternatives) := by
  rw [readDatum_eq]
  cases layout with
  | choice => rfl
  | reference target => exact readDatum_eq _
  | _ => cases found

/-- The first fault among the parts of a datum is the fault of the datum. -/
theorem Opens.refused {layout : Layout} {input body : List UInt8} {parts : List (String × Layout)}
    {fault : ReadError} (opens : Opens layout input parts body)
    (refused : readFields readTarget parts body = .error fault) :
    readDatum layout input = .error fault := by
  cases opens with
  | present =>
    have marked : bit .invalidTag (1 :: body) = .ok (true, body) := bit_eq_ok_iff.mpr rfl
    rw [readDatum_eq, readWith, bind_of_ok marked]
    exact bind_of_error (readWith_refused refused)
  | items small =>
    rw [readDatum_eq, readWith, bind_of_ok (number_littleEndian 8 _ small body),
      repeated_eq_readFields]
    exact bind_of_error refused
  | pair =>
    rw [readDatum_eq, readWith_pair, map_eq_pure_bind]
    exact bind_of_error refused
  | fields =>
    rw [readDatum_eq, readWith]
    exact bind_of_error refused
  | payload small found =>
    rw [readDatum_alternatives found, readWith, bind_of_ok (number_littleEndian 4 _ small body),
      readAlternative_eq, found]
    exact bind_of_error (readWith_refused refused)

/-- What is a fault where reading comes to it is the fault of all that is read. -/
theorem Reaches.refused {layout place : Layout} {input left : List UInt8} {fault : ReadError}
    (reaches : Reaches layout input place left) (refused : readDatum place left = .error fault) :
    readDatum layout input = .error fault := by
  induction reaches with
  | here => exact refused
  | part opens passed inner ih =>
    have within := ih refused
    rw [readDatum_eq] at within
    exact opens.refused (readFields_refused passed within)

/-! ### Lists that cannot fit -/

theorem Opens.listsWeigh {layout : Layout} {input body : List UInt8}
    {parts : List (String × Layout)} (opens : Opens layout input parts body)
    (weigh : layout.listsWeigh = true) : ∀ part ∈ parts, part.2.listsWeigh = true := by
  cases opens with
  | present => exact List.forall_mem_singleton.mpr weigh
  | items =>
    intro part member
    rw [(List.mem_replicate.mp member).2]
    exact (Bool.and_eq_true_iff.mp weigh).2
  | pair =>
    obtain ⟨left, right⟩ := Bool.and_eq_true_iff.mp weigh
    simp [left, right]
  | fields => exact (Layout.allListsWeigh_iff parts).mp weigh
  | payload small found =>
    have each := Layout.alternatives_listsWeigh weigh
    exact List.forall_mem_singleton.mpr (each _ (List.mem_of_getElem? found))

theorem Reaches.listsWeigh {layout place : Layout} {input left : List UInt8}
    (reaches : Reaches layout input place left) (weigh : layout.listsWeigh = true) :
    place.listsWeigh = true := by
  induction reaches with
  | here => exact weigh
  | part opens _ _ ih =>
    apply ih
    exact opens.listsWeigh weigh _ (List.mem_append_right _ (.head _))

/-- A list whose items take four bytes each does not fit into fewer. -/
theorem readDatum_list_refused {item : Layout} {length : Nat} {behind : List UInt8}
    (heavy : 4 ≤ item.least) (small : length < capacity 8) (short : behind.length < 4 * length) :
    ∃ fault, readDatum (.list item) (littleEndian 8 length ++ behind) = .error fault := by
  cases read : readDatum (.list item) (littleEndian 8 length ++ behind) with
  | error fault => exact ⟨fault, rfl⟩
  | ok result =>
    obtain ⟨d, rest⟩ := result
    obtain ⟨same, fits⟩ := readDatum_eq_ok_iff.mp read
    obtain ⟨items, rfl, each⟩ := Datum.shaped_list_iff.mp fits.shaped
    rw [Datum.toBytes, List.append_assoc] at same
    obtain ⟨rfl, rfl⟩ := littleEndian_append_inj small fits.bounded.1 same
    -- All items have been found behind the length, though there is no room for them.
    have least := Datum.least_mul_length_le each
    have room := Nat.mul_le_mul_right items.length heavy
    rw [List.length_append, Datum.length_allToBytes] at short
    omega

/-! ### Nodes -/

private theorem decode_of_error {α : Type} [Laid α] {input : List UInt8} {fault : ReadError}
    (refused : readDatum (Laid.layout α) input = .error fault) :
    decode α input = .error fault := by
  have refused : (read α).run input = .error fault := bind_of_error refused
  unfold decode
  rw [refused]
  rfl

/-- Reading a node ends, and is bounded by the bytes. References nest no deeper than a quarter of
the bytes, so that nothing depends on how deeper ones would be read. A node that is read has no more
expressions inside, and no longer lists, than a quarter of the bytes that have been read. And where
reading comes to a list with fewer bytes behind its length than four for each item, it fails. -/
theorem read_bounded (type : NodeType) :
    (∀ input deeper depth, input.length / 4 < depth →
      readWith (readNested deeper depth) (Laid.layout type.Value) input =
        readDatum (Laid.layout type.Value) input) ∧
    (∀ input value rest, read type.Value input = .ok (value, rest) →
      ∃ front, input = front ++ rest ∧ AnyNode.expressions ⟨type, value⟩ ≤ front.length / 4 ∧
        ∀ inner ∈ AnyNode.inside ⟨type, value⟩, ∀ length ∈ inner.lengths,
          length ≤ front.length / 4) ∧
    ∀ input item length behind, length < capacity 8 → behind.length < 4 * length →
      Reaches (Laid.layout type.Value) input (.list item) (littleEndian 8 length ++ behind) →
      ∃ fault, decode type.Value input = .error fault := by
  refine ⟨fun input deeper depth enough => ?_, fun input value rest accepted => ?_,
    fun input item length behind small short reaches => ?_⟩
  · exact readWith_readNested_eq_readDatum enough _
  · obtain ⟨split, -⟩ := (read_eq_ok_iff_fits type input rest value).mp accepted
    have weight : AnyNode.weight ⟨type, value⟩ = (encode value).length := rfl
    refine ⟨encode value, split, ?_, fun inner member length listed => ?_⟩
    · have expressions := AnyNode.four_mul_expressions_le ⟨type, value⟩
      omega
    · have own := inner.four_mul_length_le length listed
      have whole := AnyNode.weight_le_of_mem_inside member
      omega
  · have weigh := reaches.listsWeigh type.listsWeigh
    have heavy : 4 ≤ item.least := of_decide_eq_true (Bool.and_eq_true_iff.mp weigh).1
    obtain ⟨fault, refused⟩ := readDatum_list_refused heavy small short
    exact ⟨fault, decode_of_error (reaches.refused refused)⟩

/-- `CASE WHEN NULL THEN NULL END`. -/
private def nullCase : Expr :=
  .case ⟨none, [⟨.literal .null, .literal .null⟩], none⟩

/-- Its one clause and what follows it, behind the announcement of so many clauses. -/
private def announced (clauses : Nat) : List UInt8 :=
  littleEndian 8 clauses ++ [1, 0, 0, 0, 4, 0, 0, 0, 1, 0, 0, 0, 4, 0, 0, 0, 0]

/-- The whole expression, with so many clauses announced. -/
private def announcing (clauses : Nat) : List UInt8 :=
  littleEndian 4 15 ++ 0 :: announced clauses

/-- The clause is read if it is announced alone, and not if as many are as can be. -/
theorem read_bounded_nullCase :
    readWith (readNested (fun _ => pure .unit) 8) Expr.layout (announcing 1) =
        readDatum Expr.layout (announcing 1) ∧
      read Expr (announcing 1 ++ [7]) = .ok (nullCase, [7]) ∧
      AnyNode.expressions ⟨.expression, nullCase⟩ ≤ (announcing 1).length / 4 ∧
      Reaches Expr.layout (announcing 0xFFFFFFFFFFFFFFFF) (.list Branch.layout)
        (announced 0xFFFFFFFFFFFFFFFF) ∧
      ∃ fault, decode Expr (announcing 0xFFFFFFFFFFFFFFFF) = .error fault := by
  obtain ⟨ends, bounded, refused⟩ := read_bounded .expression
  have accepted : read Expr (announcing 1 ++ [7]) = .ok (nullCase, [7]) := by rfl
  obtain ⟨front, split, expressions, -⟩ := bounded _ _ _ accepted
  obtain rfl : announcing 1 = front := List.append_cancel_right split
  -- The clauses are come to behind the switch, which is absent.
  have payload : Opens Expr.layout (announcing 0xFFFFFFFFFFFFFFFF) ([] ++ [("Case", Case.layout)])
      (0 :: announced 0xFFFFFFFFFFFFFFFF) := .payload (by decide) rfl
  have fields : Opens Case.layout (0 :: announced 0xFFFFFFFFFFFFFFFF)
      ([("switch_expression", .option Expr.layout)] ++ ("when_clauses", .list Branch.layout) ::
        [("else_expression", .option Expr.layout)]) (0 :: announced 0xFFFFFFFFFFFFFFFF) := .fields
  have reaches : Reaches Expr.layout (announcing 0xFFFFFFFFFFFFFFFF) (.list Branch.layout)
      (announced 0xFFFFFFFFFFFFFFFF) :=
    .part payload rfl (.part fields rfl .here)
  exact ⟨ends _ _ 8 (by decide), accepted, expressions, reaches,
    refused _ _ _ _ (by decide) (by decide) reaches⟩

end QueryTree.Bytes
