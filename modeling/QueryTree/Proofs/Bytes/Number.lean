import QueryTree.Bytes.Read
import QueryTree.Bytes.Write

/-!
Numbers, texts and flags in their byte form. Each reader is characterised by what it accepts: it
gives a value and a rest exactly if the bytes are those that the value is written in, followed by
that rest.
-/
namespace QueryTree.Bytes

/-- How many numbers can be told apart by so many bytes. -/
def capacity : Nat → Nat
  | 0 => 1
  | width + 1 => 256 * capacity width

/-! ### Numbers, the least byte first -/

@[simp]
theorem length_littleEndian (width n : Nat) : (littleEndian width n).length = width := by
  induction width generalizing n with
  | zero => rfl
  | succ width ih => rw [littleEndian, List.length_cons, ih]

theorem ofLittleEndian_littleEndian (width n : Nat) (small : n < capacity width) :
    ofLittleEndian (littleEndian width n) = n := by
  induction width generalizing n with
  | zero =>
    have zero : n = 0 := by simpa [capacity] using small
    rw [zero]
    rfl
  | succ width ih =>
    have smaller : n / 256 < capacity width := by
      rw [capacity] at small
      omega
    have byte : n.toUInt8.toNat = n % 256 := UInt8.toNat_ofNat'
    rw [littleEndian, ofLittleEndian, ih (n / 256) smaller, byte]
    omega

theorem ofLittleEndian_lt (bytes : List UInt8) : ofLittleEndian bytes < capacity bytes.length := by
  induction bytes with
  | nil => decide
  | cons byte bytes ih =>
    have small := byte.toNat_lt
    rw [ofLittleEndian, List.length_cons, capacity]
    omega

theorem littleEndian_ofLittleEndian (bytes : List UInt8) :
    littleEndian bytes.length (ofLittleEndian bytes) = bytes := by
  induction bytes with
  | nil => rfl
  | cons byte bytes ih =>
    have small := byte.toNat_lt
    have least : (byte.toNat + 256 * ofLittleEndian bytes).toUInt8 = byte := by
      apply UInt8.toNat_inj.mp
      -- Stated with `256`, since `omega` does not reduce the power in the library's statement.
      have mod := UInt8.toNat_ofNat' (n := byte.toNat + 256 * ofLittleEndian bytes)
      change _ = (byte.toNat + 256 * ofLittleEndian bytes) % 256 at mod
      exact mod.trans (by omega)
    have others : (byte.toNat + 256 * ofLittleEndian bytes) / 256 = ofLittleEndian bytes := by
      omega
    rw [ofLittleEndian, List.length_cons, littleEndian, least, others, ih]

/-! ### Readers in sequence -/

section
variable {α β : Type} {first : Reader α} {next : α → Reader β} {input rest : List UInt8}

theorem pure_apply (value : α) : (pure value : Reader α) input = .ok (value, input) :=
  rfl

theorem throw_apply (fault : ReadError) : (throw fault : Reader α) input = .error fault :=
  rfl

theorem bind_of_ok {value : α} (h : first input = .ok (value, rest)) :
    (first >>= next) input = next value rest := by
  simp only [bind, StateT.bind, Except.bind, h]

theorem bind_of_error {fault : ReadError} (h : first input = .error fault) :
    (first >>= next) input = .error fault := by
  simp only [bind, StateT.bind, Except.bind, h]

theorem bind_eq_ok_iff {value : β} :
    (first >>= next) input = .ok (value, rest) ↔
      ∃ a middle, first input = .ok (a, middle) ∧ next a middle = .ok (value, rest) := by
  cases h : first input with
  | error fault => simp [bind_of_error h]
  | ok read =>
    obtain ⟨a, middle⟩ := read
    rw [bind_of_ok h]
    constructor
    · exact fun result => ⟨a, middle, rfl, result⟩
    · rintro ⟨_, _, same, result⟩
      cases same
      exact result

theorem pure_eq_ok_iff {value other : α} :
    (pure value : Reader α) input = .ok (other, rest) ↔ value = other ∧ input = rest := by
  simp [pure_apply]

end

/-! ### Primitive readers -/

theorem take_eq_ok_iff {count : Nat} {input front rest : List UInt8} :
    take count input = .ok (front, rest) ↔ front.length = count ∧ input = front ++ rest := by
  unfold take
  rw [List.splitAt_eq]
  dsimp only
  constructor
  · intro h
    split at h
    next enough =>
      cases h
      exact ⟨enough, (List.take_append_drop count input).symm⟩
    next => cases h
  · rintro ⟨rfl, rfl⟩
    simp

theorem number_eq_ok_iff {width n : Nat} {input rest : List UInt8} :
    number width input = .ok (n, rest) ↔
      n < capacity width ∧ input = littleEndian width n ++ rest := by
  unfold number
  rw [bind_eq_ok_iff]
  constructor
  · rintro ⟨front, middle, taken, result⟩
    obtain ⟨rfl, rfl⟩ := take_eq_ok_iff.mp taken
    obtain ⟨rfl, rfl⟩ := pure_eq_ok_iff.mp result
    exact ⟨ofLittleEndian_lt front, by rw [littleEndian_ofLittleEndian]⟩
  · rintro ⟨small, rfl⟩
    refine ⟨littleEndian width n, rest, take_eq_ok_iff.mpr ⟨by simp, rfl⟩, ?_⟩
    rw [ofLittleEndian_littleEndian width n small]
    rfl

theorem number_littleEndian (width n : Nat) (small : n < capacity width) (rest : List UInt8) :
    number width (littleEndian width n ++ rest) = .ok (n, rest) :=
  number_eq_ok_iff.mpr ⟨small, rfl⟩

private theorem fromUTF8?_eq_some_iff {bytes : ByteArray} {value : String} :
    String.fromUTF8? bytes = some value ↔ bytes = value.toUTF8 := by
  unfold String.fromUTF8?
  constructor
  · intro h
    split at h
    · cases h
      rfl
    · cases h
  · rintro rfl
    exact dif_pos value.isValidUTF8

theorem text_eq_ok_iff {value : String} {input rest : List UInt8} :
    text input = .ok (value, rest) ↔
      value.utf8ByteSize < capacity 8 ∧ input = ofText value ++ rest := by
  unfold text
  rw [bind_eq_ok_iff]
  constructor
  · rintro ⟨length, middle, counted, result⟩
    obtain ⟨small, rfl⟩ := number_eq_ok_iff.mp counted
    obtain ⟨bytes, rest', taken, decoded⟩ := bind_eq_ok_iff.mp result
    obtain ⟨rfl, rfl⟩ := take_eq_ok_iff.mp taken
    cases valid : String.fromUTF8? ⟨bytes.toArray⟩ with
    | none =>
      rw [valid] at decoded
      cases decoded
    | some text =>
      rw [valid] at decoded
      obtain ⟨rfl, rfl⟩ := pure_eq_ok_iff.mp decoded
      -- The bytes of a text are the only ones that are decoded as that text.
      have same : text.toUTF8.data.toList = bytes := by rw [← fromUTF8?_eq_some_iff.mp valid]
      have size : text.utf8ByteSize = bytes.length := by rw [← same]; rfl
      rw [size, ofText, same, List.append_assoc]
      exact ⟨small, rfl⟩
  · rintro ⟨small, rfl⟩
    have size : value.toUTF8.data.toList.length = value.utf8ByteSize := rfl
    have counted : number 8 (ofText value ++ rest) =
        .ok (value.utf8ByteSize, value.toUTF8.data.toList ++ rest) :=
      number_eq_ok_iff.mpr ⟨small, by rw [ofText, size, List.append_assoc]⟩
    have taken : take value.utf8ByteSize (value.toUTF8.data.toList ++ rest) =
        .ok (value.toUTF8.data.toList, rest) :=
      take_eq_ok_iff.mpr ⟨size, rfl⟩
    refine ⟨_, _, counted, ?_⟩
    rw [bind_of_ok taken]
    have decoded : String.fromUTF8? ⟨value.toUTF8.data.toList.toArray⟩ = some value :=
      fromUTF8?_eq_some_iff.mpr rfl
    rw [decoded]
    rfl

theorem bit_eq_ok_iff {fault : ReadError} {value : Bool} {input rest : List UInt8} :
    bit fault input = .ok (value, rest) ↔ input = (if value then 1 else 0) :: rest := by
  unfold bit
  rw [bind_eq_ok_iff]
  constructor
  · rintro ⟨n, middle, read, result⟩
    obtain ⟨_, rfl⟩ := number_eq_ok_iff.mp read
    -- Of all bytes only zero and one are accepted.
    split at result
    · obtain ⟨rfl, rfl⟩ := pure_eq_ok_iff.mp result
      rfl
    · obtain ⟨rfl, rfl⟩ := pure_eq_ok_iff.mp result
      rfl
    · cases result
  · rintro rfl
    cases value
    · exact ⟨0, rest, number_eq_ok_iff.mpr ⟨by decide, rfl⟩, rfl⟩
    · exact ⟨1, rest, number_eq_ok_iff.mpr ⟨by decide, rfl⟩, rfl⟩

end QueryTree.Bytes
