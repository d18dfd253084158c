import DriveMap.Node
import DriveMap.Status
/-!
# What can be wrong with a device path

Four faults of raw bytes, each naming the node it was found at; two of a node that cannot be added to a path; and
memory that runs out.
-/
namespace DriveMap

inductive PathError where
  /-- Fewer bytes are left than a header takes. -/
  | truncatedHeader (offset : Nat)
  /-- A node is said to be shorter than its own header. -/
  | lengthTooSmall (offset : Nat) (length : UInt16)
  /-- A node is said to be longer than the bytes that are left. -/
  | nodeOutOfBounds (offset : Nat) (length : UInt16)
  /-- The end-entire node has a payload. -/
  | endNodeLength (offset : Nat) (length : UInt16)
  /-- A payload is too large for the 16-bit length. -/
  | nodeTooLarge
  /-- An end-entire node was to be added inside a path. -/
  | unexpectedEnd
  /-- The room asked for cannot exist. -/
  | outOfResources
deriving DecidableEq

namespace PathError

def message : PathError → String
  | truncatedHeader o => "device path ends inside the node header at offset " ++ toString o
  | lengthTooSmall o l => "device path node at offset " ++ toString o ++ " has length " ++ toString l.toNat
  | nodeOutOfBounds o l =>
    "device path node at offset " ++ toString o ++ " with length " ++ toString l.toNat ++ " exceeds the buffer"
  | endNodeLength o l =>
    "end-entire node at offset " ++ toString o ++ " has length " ++ toString l.toNat ++ " instead of " ++
      toString Header.size
  | nodeTooLarge => "device path node is too large"
  | unexpectedEnd => "end-entire node pushed to a device path builder"
  | outOfResources => "out of memory copying a device path"

/-- A bad path is an invalid parameter to whoever was handed it. -/
def failure : PathError → Failure Unit
  | outOfResources => .outOfResources
  | _ => .invalidParameter

end PathError
end DriveMap
