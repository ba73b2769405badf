/-
File names as the file system keeps them: bytes that are UTF-8 as a rule. A byte that is not is
shown as a code point from U+DC80 to U+DCFF; no other surrogate is in a file name.
-/
import Routewright.Text.Basic

namespace Routewright

namespace CodePoint

/-- The byte that a code point of a file name stands for by itself. -/
def rawByte? (c : CodePoint) : Option UInt8 :=
  if 0xdc80 ≤ c.val ∧ c.val ≤ 0xdcff then some (UInt8.ofNat (c.val - 0xdc00)) else none

/-- The code point that stands for a byte of a file name by itself. -/
def ofRawByte (b : UInt8) : CodePoint := ofNat (0xdc00 + b.toNat)

/-- The bytes of a code point in a file name. -/
def nameBytes? (c : CodePoint) : Option (List UInt8) :=
  match c.rawByte?, c.toChar? with
  | some b, _ => some [b]
  | none, some char => some (String.singleton char).toUTF8.toList
  | none, none => none

end CodePoint

namespace Text

/-- The bytes of a file name or a path. -/
def nameBytes? (t : Text) : Option (List UInt8) := (t.mapM CodePoint.nameBytes?).map List.flatten

/-- The number of bytes of the UTF-8 sequence that a byte starts. -/
def sequenceLength (b : UInt8) : Nat :=
  if b < 0xc0 then 1 else if b < 0xe0 then 2 else if b < 0xf0 then 3 else 4

/-- The file name of some bytes. -/
def ofNameBytes : List UInt8 → Text
  | [] => []
  | b :: rest =>
    let length := sequenceLength b
    match String.fromUTF8? (ByteArray.mk ((b :: rest).take length).toArray) with
    | some s => ofString s ++ ofNameBytes (rest.drop (length - 1))
    | none => CodePoint.ofRawByte b :: ofNameBytes rest
termination_by bytes => bytes.length
decreasing_by
  · simp only [List.length_drop, List.length_cons]
    omega
  · simp

/-- A file name as the file system shows it when it is listed. -/
def listedName (t : Text) : Text :=
  if t.any CodePoint.isSurrogate then ((nameBytes? t).map ofNameBytes).getD t else t

end Text

end Routewright
