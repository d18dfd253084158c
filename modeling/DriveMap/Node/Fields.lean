import DriveMap.DevicePath.Raw
import DriveMap.Node.Media
/-!
# Fields in bytes

A node of a path is a slice of the path's bytes, and it is not copied to be taken for a hard drive node or a CD-ROM
node: its type and its length are looked at, and each field is read off its own place.  All that says that the bytes
reach that far is the length that the node states.
-/
namespace DriveMap
namespace Node

/-- The `w` bytes from `offset` on. -/
def window (piece : Bytes) (offset w : Nat) : Attempt { bs : Bytes // bs.length = w } :=
  if h : offset + w ≤ piece.length then
    .ok ⟨(piece.drop offset).take w, by rw [List.length_take, List.length_drop]; omega⟩
  else .error .outOfRange

def wordAt (piece : Bytes) (offset w : Nat) : Attempt Nat :=
  (window piece offset w).map fun bs => LittleEndian.decode bs.val

/-- Whether a node that is given by its bytes has the type and the length asked for.  The length is looked at only if
the type is right. -/
def hasShape (t : NodeType) (length : Nat) (piece : Bytes) : Attempt Bool := do
  let stated ← .inRange (RawPath.typeOf? piece)
  if stated ≠ t then return false
  else return (← .inRange (RawPath.lengthOf? piece)).toNat == length

/-- A hard drive node that is given by its bytes, each field as it is read there. -/
def HardDrive.ofPiece (piece : Bytes) : Attempt HardDrive := do
  if ← hasShape .hardDrive length piece then
    let number ← wordAt piece 4 4
    let start ← wordAt piece 8 8
    let size ← wordAt piece 16 8
    let signature ← window piece 24 16
    let format ← .inRange piece[40]?
    let signatureType ← .inRange piece[41]?
    return ⟨UInt32.ofNat number, UInt64.ofNat start, UInt64.ofNat size, signature, format, signatureType⟩
  else .error .absent

/-- A CD-ROM node that is given by its bytes. -/
def CdRom.ofPiece (piece : Bytes) : Attempt CdRom := do
  if ← hasShape .cdRom length piece then
    let bootEntry ← wordAt piece 4 4
    let start ← wordAt piece 8 8
    let size ← wordAt piece 16 8
    return ⟨UInt32.ofNat bootEntry, UInt64.ofNat start, UInt64.ofNat size⟩
  else .error .absent

end Node
end DriveMap
