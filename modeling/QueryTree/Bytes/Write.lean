import QueryTree.NodeType

/-!
The byte form of nodes. Numbers have a fixed width, the least byte first; a text or list comes
behind its length in eight bytes, a present option behind the byte 1, an alternative behind its
position in four bytes; the fields of a record follow each other with nothing in between. An absent
option is the byte 0.
-/
namespace QueryTree

namespace Bytes

/-- A natural number in so many bytes, the least one first. -/
def littleEndian : Nat → Nat → List UInt8
  | 0, _ => []
  | width + 1, n => n.toUInt8 :: littleEndian width (n / 256)

/-- A text behind its length. -/
def ofText (s : String) : List UInt8 :=
  let bytes := s.toUTF8.data.toList
  littleEndian 8 bytes.length ++ bytes

end Bytes

open Bytes

mutual

/-- A datum in bytes. -/
def Datum.toBytes : Datum → List UInt8
  | .text value => ofText value
  | .flag value => [if value then 1 else 0]
  | .long value => littleEndian 8 value.toUInt64.toNat
  | .ordinal value => littleEndian 4 value.toNat
  | .double value => littleEndian 8 value.bits.toNat
  | .unit => []
  | .absent => [0]
  | .present item => 1 :: item.toBytes
  | .list items => littleEndian 8 items.length ++ Datum.allToBytes items
  | .record fields => Datum.allToBytes fields
  | .choice index payload => littleEndian 4 index ++ payload.toBytes

/-- Data one after the other. -/
def Datum.allToBytes : List Datum → List UInt8
  | [] => []
  | item :: rest => item.toBytes ++ Datum.allToBytes rest

end

/-- A value in bytes. -/
def Bytes.encode {α : Type} [Laid α] (value : α) : List UInt8 :=
  (Laid.toDatum value).toBytes

end QueryTree
