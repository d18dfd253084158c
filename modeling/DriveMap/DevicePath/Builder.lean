import DriveMap.DevicePath.Basic
import DriveMap.DevicePath.Error
/-!
# Building a device path

A builder holds the nodes pushed so far.  What is pushed is a `Node.Spec`, a type and any payload: the end-entire node
is refused whatever its payload, since finishing the path adds it, and then a payload too large for a node is.
-/
namespace DriveMap

/-- A node as it is asked for: its payload may be too large. -/
structure Node.Spec where
  nodeType : NodeType
  payload : Bytes
deriving DecidableEq

namespace Node

/-- What to ask for to get a copy of a node. -/
def spec (n : Node) : Spec := ⟨n.nodeType, n.payload⟩

end Node

/-- A path under construction. -/
structure Builder where
  pushed : DevicePath

namespace Builder

def empty : Builder := ⟨.empty⟩

/-- The largest number of bytes that one allocation may ask for. -/
def capacityLimit : Nat := 0x7fffffffffffffff

/-- A builder with room for `capacity` bytes. -/
def withCapacity (capacity : Nat) : Except PathError Builder :=
  if capacity ≤ capacityLimit then .ok empty else .error .outOfResources

/-- A builder that already holds the nodes of `p`. -/
def ofPath (p : DevicePath) : Builder := ⟨p⟩

def push (b : Builder) (s : Node.Spec) : Except PathError Builder :=
  if closing : s.nodeType = .endEntire then .error .unexpectedEnd
  else if fits : Header.size + s.payload.length < UInt16.size then
    .ok ⟨b.pushed.snoc ⟨s.nodeType, s.payload, fits⟩ (beq_eq_false_iff_ne.2 closing)⟩
  else .error .nodeTooLarge

/-- Pushes specs in order up to the first that is refused, which is told by its place. -/
def pushAll (b : Builder) : List Node.Spec → Except (Nat × PathError) Builder
  | [] => .ok b
  | s :: rest =>
    match b.push s with
    | .error fault => .error (0, fault)
    | .ok b' => (pushAll b' rest).mapError fun e => (e.1 + 1, e.2)

def finalize (b : Builder) : DevicePath := b.pushed

end Builder
end DriveMap
