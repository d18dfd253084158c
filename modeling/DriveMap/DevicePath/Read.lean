import DriveMap.DevicePath.Basic
import DriveMap.DevicePath.Error
/-!
# Reading a device path

Nodes are read one after another until the end-entire node.  Each has to have room for its header, to be at least as
long as its header and no longer than what is left; the end-entire node has to be a bare header.  Whatever follows it is
not part of the path.

The first fault found is the answer: within a node in the order just given.
-/
namespace DriveMap
namespace Node

/-- A payload cut out by a header's own length fits under that header. -/
theorem fits_of_header (h : Header) (rest : Bytes) :
    Header.size + ((rest.take h.length.toNat).drop Header.size).length < UInt16.size := by
  have h16 : h.length.toNat < UInt16.size := h.length.toNat_lt_size
  have h4 : Header.size = 4 := rfl
  have hsize : UInt16.size = 65536 := rfl
  rw [List.length_drop, List.length_take]
  omega

/-- To tell whether there are `k` bytes, no more than `k` have to be counted. -/
theorem length_take_lt_iff {rest : Bytes} {k : Nat} : (rest.take k).length < k ↔ rest.length < k := by
  rw [List.length_take]
  omega

/-- The node at the start of `rest`, which begins at byte `offset`, and what follows it. -/
def read (offset : Nat) (rest : Bytes) : Except PathError (Node × Bytes) :=
  match Header.read? rest with
  | none => .error (.truncatedHeader offset)
  | some h =>
    if h.length.toNat < Header.size then .error (.lengthTooSmall offset h.length)
    else if (rest.take h.length.toNat).length < h.length.toNat then .error (.nodeOutOfBounds offset h.length)
    else .ok (⟨h.nodeType, _, fits_of_header h rest⟩, rest.drop h.length.toNat)

/-- Reading a node uses up some of the bytes. -/
theorem length_lt_of_read {offset : Nat} {rest after : Bytes} {n : Node} (h : read offset rest = .ok (n, after)) :
    after.length < rest.length := by
  have h4 : Header.size = 4 := rfl
  rw [read] at h
  split at h
  · cases h
  · split at h
    · cases h
    · split at h
      · cases h
      · rename_i hin
        rw [length_take_lt_iff] at hin
        cases h
        rw [List.length_drop]
        omega

end Node

namespace DevicePath

/-- The path whose first node is at the start of `rest`, which begins at byte `offset`. -/
def readFrom (offset : Nat) (rest : Bytes) : Except PathError DevicePath :=
  match found : Node.read offset rest with
  | .error fault => .error fault
  | .ok (n, after) =>
    have : after.length < rest.length := Node.length_lt_of_read found
    if closing : n.isEndEntire then
      if n.payload.isEmpty then .ok empty else .error (.endNodeLength offset n.length)
    else
      match readFrom (offset + n.size) after with
      | .error fault => .error fault
      | .ok p => .ok (cons n p (Bool.eq_false_iff.2 closing))
termination_by rest.length

/-- The path at the start of `bs`. -/
def ofBytes (bs : Bytes) : Except PathError DevicePath := readFrom 0 bs

end DevicePath
end DriveMap
